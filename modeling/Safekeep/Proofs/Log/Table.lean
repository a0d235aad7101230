import Safekeep.Log.Table
import Safekeep.Proofs.Time.Stamp
import Mathlib

/-!
# The log table reads back what it stored

Once its table is created, a log database keeps every entry added to it as a row, in the order
they came, and reading the rows of one job gives that job's entries newest first: all of them for
a negative limit, otherwise at most `limit`. Each entry reads back as it was added, with one
exception: its size goes through a signed 64-bit column, so a size of 2^63 or more wraps below
zero and reads back as zero (`file_sizes_from_two_pow_63_read_back_as_zero`).

The table of a run is fixed by the entries added (`LogStore.Open.records`), and what one entry reads
back as depends on that entry alone (`entryAt_ofEntry`). Main statement:
`log_table_reads_back_each_job_newest_first`.
-/

namespace Safekeep

open Safekeep.Time

/-! ## 1. One entry through one row -/

/-- An entry as it reads back from its row: the same entry, except that a size of 2^63 or more
reads back as zero. -/
def LogEntry.readBack (e : LogEntry) : LogEntry :=
  { e with fileSize := if e.fileSize < Nat.pow 2 63 then e.fileSize else 0 }

namespace Row

/-- A size below 2^63 is stored as it is. -/
theorem signed_of_lt {n : Nat} (h : n < Nat.pow 2 63) : signed n = n := by
  have h63 : Nat.pow 2 63 = 9223372036854775808 := by norm_num
  have h64 : Nat.pow 2 64 = 18446744073709551616 := by norm_num
  unfold signed
  -- `rewrite`, not `rw`: the closing `rfl` of `rw` would unfold `Int.bmod` at a 64-bit literal.
  rewrite [h64]
  rw [h63] at h
  exact Int.bmod_eq_of_le (by omega) (by omega)

/-- A size from 2^63 to 2^64 - 1 wraps below zero. -/
theorem signed_neg {n : Nat} (hlo : Nat.pow 2 63 ≤ n) (hhi : n < Nat.pow 2 64) : signed n < 0 := by
  have h63 : Nat.pow 2 63 = 9223372036854775808 := by norm_num
  have h64 : Nat.pow 2 64 = 18446744073709551616 := by norm_num
  unfold signed
  rewrite [h64, Int.bmod_def]
  rw [h63] at hlo
  rw [h64] at hhi
  have hmod : (n : Int) % ((18446744073709551616 : Nat) : Int) = n :=
    Int.emod_eq_of_lt (by omega) (by omega)
  rewrite [hmod]
  split_ifs <;> omega

/-- The size a stored size reads back as. -/
theorem readSize_ofEntry {e : LogEntry} (h : e.fileSize < Nat.pow 2 64) :
    (max (ofEntry e).size 0).toNat = if e.fileSize < Nat.pow 2 63 then e.fileSize else 0 := by
  simp only [ofEntry]
  split_ifs with hsmall
  · rw [signed_of_lt hsmall]
    simp
  · have := signed_neg (Nat.le_of_not_lt hsmall) h
    omega

theorem readStamp?_ofEntry {e : LogEntry} (hy : 0 ≤ e.timestamp.date.year ∧ e.timestamp.date.year ≤ 9999) :
    (ofEntry e).readStamp? = some e.timestamp :=
  parseStrictStamp_textWith e.timestamp hy

/-- An entry with a four-digit year and a 64-bit size reads back from its row as `readBack`
says, whatever the current time. -/
theorem entryAt_ofEntry {e : LogEntry}
    (hy : 0 ≤ e.timestamp.date.year ∧ e.timestamp.date.year ≤ 9999) (hs : e.fileSize < Nat.pow 2 64)
    (now : Instant) : (ofEntry e).entryAt now = e.readBack := by
  have hstamp := readStamp?_ofEntry hy
  have hsize := readSize_ofEntry hs
  simp only [entryAt, hstamp, hsize, Option.getD_some, LogEntry.readBack]
  rfl

end Row

/-! ## 2. The table along a run of additions -/

namespace LogStore

/-- A store that may change and whose table exists. -/
structure Open (s : LogStore) (rows : List Row) : Prop where
  valid : s.valid = true
  writable : s.readOnly = false
  rows_eq : s.rows = some rows

/-- Creating the table of a store that has none leaves an open, empty table. -/
theorem Open.of_migrate {s s' : LogStore} (hnew : s.rows = none) (h : s.migrate = .ok s') :
    s'.Open [] := by
  unfold migrate at h
  rw [hnew] at h
  split_ifs at h with hv hro
  cases h
  exact ⟨by simpa using hv, by simpa using hro, rfl⟩

theorem Open.record {s : LogStore} {rows : List Row} (h : s.Open rows) (e : LogEntry) :
    (s.record e).Open (rows ++ [Row.ofEntry e]) := by
  have happ : s.append e = .ok { s with rows := some (rows ++ [Row.ofEntry e]) } := by
    simp [append, h.valid, h.writable, h.rows_eq]
  rw [LogStore.record, happ]
  exact ⟨h.valid, h.writable, rfl⟩

/-- Adding entries one by one to an open table appends their rows in order. -/
theorem Open.records {s : LogStore} {rows : List Row} (h : s.Open rows) (added : List LogEntry) :
    (added.foldl LogStore.record s).Open (rows ++ added.map Row.ofEntry) := by
  induction added generalizing s rows with
  | nil => simpa using h
  | cons e rest ih =>
    have := ih (h.record e)
    simpa using this

theorem Open.recent {s : LogStore} {rows : List Row} (h : s.Open rows) (name : String)
    (limit : Int) :
    s.recent name limit =
      .ok (if limit < 0 then rows.reverse.filter (·.backupName == name)
        else (rows.reverse.filter (·.backupName == name)).take limit.toNat) := by
  simp [LogStore.recent, h.valid, h.rows_eq]

end LogStore

theorem filter_rows_ofEntry (added : List LogEntry) (name : String) :
    (added.map Row.ofEntry).reverse.filter (·.backupName == name) =
      ((added.filter (·.backupName == name)).reverse).map Row.ofEntry := by
  rw [List.filter_reverse, List.filter_map, List.map_reverse]
  rfl

/-- After the table of a fresh store is created and entries are added to it, each with a year of
four digits and a size that fits 64 bits, reading the entries of one job gives back those added
for it, newest first, each as it was added except that a size of 2^63 or more reads back as zero:
all of them for a negative limit, the newest `limit` of them otherwise. -/
theorem log_table_reads_back_each_job_newest_first {s s' : LogStore} (hnew : s.rows = none)
    (hmig : s.migrate = .ok s') (added : List LogEntry)
    (hadded : ∀ e ∈ added, (0 ≤ e.timestamp.date.year ∧ e.timestamp.date.year ≤ 9999) ∧
      e.fileSize < Nat.pow 2 64)
    (name : String) (limit : Int) (now : Instant) :
    ∃ rows, (added.foldl LogStore.record s').recent name limit = .ok rows ∧
      rows.map (·.entryAt now) =
        if limit < 0 then ((added.filter (·.backupName == name)).reverse).map LogEntry.readBack
        else (((added.filter (·.backupName == name)).reverse).map LogEntry.readBack).take limit.toNat := by
  have hopen := (LogStore.Open.of_migrate hnew hmig).records added
  rw [List.nil_append] at hopen
  have hread : ∀ e ∈ (added.filter (·.backupName == name)).reverse,
      (Row.ofEntry e).entryAt now = e.readBack := by
    intro e he
    have hmem : e ∈ added := (List.mem_filter.mp (List.mem_reverse.mp he)).1
    exact Row.entryAt_ofEntry (hadded e hmem).1 (hadded e hmem).2 now
  refine ⟨_, hopen.recent name limit, ?_⟩
  rw [filter_rows_ofEntry]
  split_ifs
  · rw [List.map_map]
    exact List.map_congr_left hread
  · rw [← List.map_take, List.map_map, ← List.map_take]
    exact List.map_congr_left fun e he => hread e (List.mem_of_mem_take he)

/-- The fresh store in memory, its table created, with two entries of job `d` and one of job
`p` added: reading one entry of `d` gives the newer one. -/
theorem log_table_reads_back_each_job_newest_first_of_two_jobs :
    (LogStore.fresh false).rows = none ∧
    (LogStore.fresh false).migrate = .ok ⟨false, true, some []⟩ ∧
    (∀ e ∈ [(⟨.ofSeconds 0, "d", "a", "b", 1, 0, 0, none⟩ : LogEntry), ⟨.ofSeconds 0, "p", "a", "b", 2, 0, 0, none⟩,
        ⟨.ofParts 86400 5, "d", "a", "b", 3, 0, -1, some "x"⟩],
      (0 ≤ e.timestamp.date.year ∧ e.timestamp.date.year ≤ 9999) ∧ e.fileSize < Nat.pow 2 64) ∧
    ∃ rows, ([(⟨.ofSeconds 0, "d", "a", "b", 1, 0, 0, none⟩ : LogEntry), ⟨.ofSeconds 0, "p", "a", "b", 2, 0, 0, none⟩,
        ⟨.ofParts 86400 5, "d", "a", "b", 3, 0, -1, some "x"⟩].foldl LogStore.record
        ⟨false, true, some []⟩).recent "d" 1 = .ok rows ∧
      rows.map (·.entryAt (.ofSeconds 0)) = [⟨.ofParts 86400 5, "d", "a", "b", 3, 0, -1, some "x"⟩] := by
  have hmig : (LogStore.fresh false).migrate = .ok ⟨false, true, some []⟩ := rfl
  have hadded : ∀ e ∈ [(⟨.ofSeconds 0, "d", "a", "b", 1, 0, 0, none⟩ : LogEntry),
      ⟨.ofSeconds 0, "p", "a", "b", 2, 0, 0, none⟩, ⟨.ofParts 86400 5, "d", "a", "b", 3, 0, -1, some "x"⟩],
      (0 ≤ e.timestamp.date.year ∧ e.timestamp.date.year ≤ 9999) ∧ e.fileSize < Nat.pow 2 64 := by
    decide
  obtain ⟨rows, hrecent, hrows⟩ :=
    log_table_reads_back_each_job_newest_first rfl hmig _ hadded "d" 1 (.ofSeconds 0)
  refine ⟨rfl, hmig, hadded, rows, hrecent, ?_⟩
  rw [hrows]
  decide

/-- A size of 2^63 is stored below zero and reads back as zero, so the entry read back is not the
one added. -/
theorem file_sizes_from_two_pow_63_read_back_as_zero :
    (LogStore.fresh false).migrate = .ok ⟨false, true, some []⟩ ∧
    ((LogStore.record ⟨false, true, some []⟩
        ⟨.ofSeconds 0, "d", "/a/x", "/b/x", Nat.pow 2 63, 4, 0, none⟩).recent "d" (-1)).map
        (·.map (·.entryAt (.ofSeconds 0))) = .ok [⟨.ofSeconds 0, "d", "/a/x", "/b/x", 0, 4, 0, none⟩] ∧
    (⟨.ofSeconds 0, "d", "/a/x", "/b/x", 0, 4, 0, none⟩ : LogEntry) ≠
      ⟨.ofSeconds 0, "d", "/a/x", "/b/x", Nat.pow 2 63, 4, 0, none⟩ := by
  refine ⟨rfl, ?_, ?_⟩
  · decide
  · decide

end Safekeep
