import Safekeep.Log.Daily
import Safekeep.Proofs.Disk.Append
import Safekeep.Proofs.Log.Entry
import Mathlib

/-!
# A daily log file holds one line per entry

Entries of one UTC date go to one daily file, and appending them one after another to a log
directory where that file does not exist yet leaves it holding their texts, one line each, in
the order they came (`fileBytes_appendDaily`). Each text reads back as its entry
(`LogEntry.ofText_toText`).

The first append makes the file; every later one finds the directory in place, so creating it
changes nothing, and adds a line at the end of the file. Between two appends only the file has
changed, at a place where nothing stood, so the directory's path names what it named before.
-/

namespace Safekeep

open Safekeep.Time

/-! ## 1. Lines and paths -/

theorem dailyPath_of_date {e x : LogEntry} (h : x.timestamp.date = e.timestamp.date)
    (dir : String) : dailyPath dir x = dailyPath dir e := by
  simp [dailyPath, h]

theorem dailyLine_isEmpty (e : LogEntry) : (dailyLine e).isEmpty = false := by
  simp [dailyLine, ByteArray.isEmpty]

def dailyText (es : List LogEntry) : String := String.join (es.map fun e => e.toText ++ "\n")

theorem toUTF8_dailyText_cons (e : LogEntry) (es : List LogEntry) :
    (dailyText (e :: es)).toUTF8 = dailyLine e ++ (dailyText es).toUTF8 := by
  simp [dailyText, dailyLine, String.join_cons, String.toUTF8_eq_toByteArray,
    String.toByteArray_append]

/-! ## 2. Appending one entry after another -/

section Run

variable {d₀ : Disk} {cwd : Loc} {dir p : String} {L : Loc}

/-- Appending entries to a daily file that holds `c`, where each append finds the directory in
place and the file at `L`, adds their lines after `c`. The induction is on the entries; the disk
between two appends differs from `d₀` by the file alone. -/
theorem foldl_appendDaily
    (hcreate : ∀ c, (d₀.set L (.file c 0o644 d₀.now)).createDirAll cwd dir =
      .ok (d₀.set L (.file c 0o644 d₀.now)))
    (hres : ∀ c, (d₀.set L (.file c 0o644 d₀.now)).resolve cwd p true =
      .ok (.found L (.file c 0o644 d₀.now)))
    (hnull : L ≠ nullDevice) :
    ∀ (es : List LogEntry) (c : ByteArray), (∀ x ∈ es, dailyPath dir x = p) →
      es.foldl (fun d x => d.appendDaily cwd dir x) (d₀.set L (.file c 0o644 d₀.now)) =
        d₀.set L (.file (c ++ (dailyText es).toUTF8) 0o644 d₀.now)
  | [], c, _ => by simp [dailyText]
  | x :: es, c, hp => by
    have hstep : (d₀.set L (.file c 0o644 d₀.now)).appendDaily cwd dir x =
        d₀.set L (.file (c ++ dailyLine x) 0o644 d₀.now) := by
      rw [Disk.appendDaily, hcreate c]
      dsimp only
      rw [hp x List.mem_cons_self, Disk.appendFile_found (hres c) hnull (dailyLine_isEmpty x)]
      simp only [Disk.set_set, Disk.set_now]
    rw [List.foldl_cons, hstep, foldl_appendDaily hcreate hres hnull es _
      (fun y hy => hp y (List.mem_cons_of_mem _ hy)), toUTF8_dailyText_cons,
      ByteArray.append_assoc]

end Run

variable {d : Disk} {cwd : Loc} {dir : String}

/-- Entries of one date appended in order to a log directory where their daily file does not
exist yet leave that file holding their texts, one line each. The directory is created by the
first append if needed and must then be a directory of the disk; the daily file must not be the
null device. -/
theorem fileBytes_appendDaily (hnd : (d.nodes.map (·.1)).Nodup) {e : LogEntry} {es : List LogEntry}
    (hdate : ∀ x ∈ es, x.timestamp.date = e.timestamp.date) {d₀ : Disk}
    (hmk : d.createDirAll cwd dir = .ok d₀) {ldir : Loc} (hdir : d₀.locate cwd dir = .ok ldir)
    (hisdir : d₀.isDirAt ldir = true) {pdir : Loc} {name : String}
    (hfresh : d₀.resolve cwd (dailyPath dir e) true = .ok (.absent pdir name false))
    (hnull : pdir ++ [name] ≠ nullDevice) :
    ((e :: es).foldl (fun d x => d.appendDaily cwd dir x) d).fileBytes cwd (dailyPath dir e) =
      .ok (dailyText (e :: es)).toUTF8 := by
  have hnd₀ := Disk.nodup_createDirAll hnd hmk
  -- the file goes where nothing stands, which is not the log directory
  have hfree : d₀.get? (pdir ++ [name]) = none :=
    Disk.get?_of_walk_absent _ _ _ _ _ _ (Disk.resolve_eq_walk hfresh).2.2
  obtain ⟨m, hdirT⟩ := Disk.resolve_of_locate hdir hisdir
  have hldir : ldir ≠ pdir ++ [name] := by
    rintro rfl
    simp [Disk.isDirAt, hfree] at hisdir
  obtain ⟨l', n', hdirF, hl'⟩ := Disk.resolve_nofollow hdirT
  have hl'ne : l' ≠ pdir ++ [name] := by
    rintro rfl
    rcases hl' with rfl | hsome
    · exact hldir rfl
    · exact hsome hfree
  -- with the file in place, holding anything, the directory is still there
  have hcreate : ∀ c, (d₀.set (pdir ++ [name]) (.file c 0o644 d₀.now)).createDirAll cwd dir =
      .ok (d₀.set (pdir ++ [name]) (.file c 0o644 d₀.now)) := fun c =>
    Disk.createDirAll_of_found (Disk.resolve_set_of_ne hnd₀ hfree hl'ne hdirF _ _ _)
      (Disk.isDir_of_resolve (Disk.resolve_set_of_ne hnd₀ hfree hldir hdirT _ _ _))
  have hres : ∀ c, (d₀.set (pdir ++ [name]) (.file c 0o644 d₀.now)).resolve cwd (dailyPath dir e)
      true = .ok (.found (pdir ++ [name]) (.file c 0o644 d₀.now)) := fun c =>
    Disk.resolve_set_file hnd₀ hfresh .absent c 0o644 d₀.now
  -- the first append makes the file with the first line
  have hfirst : d.appendDaily cwd dir e =
      d₀.set (pdir ++ [name]) (.file (dailyLine e) 0o644 d₀.now) := by
    rw [Disk.appendDaily, hmk]
    dsimp only
    rw [Disk.appendFile_absent hfresh hnull (dailyLine_isEmpty e)]
  rw [List.foldl_cons, hfirst, foldl_appendDaily hcreate hres hnull es _
    (fun x hx => dailyPath_of_date (hdate x hx) dir), ← toUTF8_dailyText_cons]
  exact Disk.resolve_found_fileBytes (hres _)

/-! ## 3. Entries and their daily file -/

/-- A log entry's text reads back as the entry, for every entry whose timestamp has a four-digit
year and whose numbers fit their words; it names `errorMessage` exactly when the entry has an
error message; and entries of one date appended in order to a log directory where their daily
file does not exist yet leave that file holding their texts, one line each. -/
theorem log_entries_read_back_and_fill_their_daily_file (hnd : (d.nodes.map (·.1)).Nodup)
    {e : LogEntry} {es : List LogEntry} (hdate : ∀ x ∈ es, x.timestamp.date = e.timestamp.date)
    {d₀ : Disk} (hmk : d.createDirAll cwd dir = .ok d₀) {ldir : Loc}
    (hdir : d₀.locate cwd dir = .ok ldir) (hisdir : d₀.isDirAt ldir = true) {pdir : Loc}
    {name : String} (hfresh : d₀.resolve cwd (dailyPath dir e) true = .ok (.absent pdir name false))
    (hnull : pdir ++ [name] ≠ nullDevice) :
    (∀ x : LogEntry, x.Faithful → LogEntry.ofText x.toText = .ok x) ∧
      (∀ x : LogEntry, "errorMessage" ∈ x.members.map Prod.fst ↔ x.errorMessage.isSome) ∧
      ((e :: es).foldl (fun d x => d.appendDaily cwd dir x) d).fileBytes cwd (dailyPath dir e) =
        .ok (dailyText (e :: es)).toUTF8 :=
  ⟨fun _ hx => LogEntry.ofText_toText hx, LogEntry.errorMessage_mem_keys_iff,
    fileBytes_appendDaily hnd hdate hmk hdir hisdir hfresh hnull⟩

/-- One entry appended twice to a log directory that does not exist yet: the directory is made,
and the daily file holds the entry's line twice. -/
theorem one_entry_appended_twice_to_a_new_log_directory :
    ([(⟨.ofSeconds 1715940000, "docs", "/a/x.txt", "/b/x.txt", 10, 4, -10, none⟩ : LogEntry),
        ⟨.ofSeconds 1715940000, "docs", "/a/x.txt", "/b/x.txt", 10, 4, -10, none⟩].foldl
        (fun (d : Disk) x => d.appendDaily [] "/l" x) ⟨[], ⟨0, 0⟩⟩).fileBytes []
        (dailyPath "/l" ⟨.ofSeconds 1715940000, "docs", "/a/x.txt", "/b/x.txt", 10, 4, -10, none⟩) =
      .ok (dailyText [⟨.ofSeconds 1715940000, "docs", "/a/x.txt", "/b/x.txt", 10, 4, -10, none⟩,
        ⟨.ofSeconds 1715940000, "docs", "/a/x.txt", "/b/x.txt", 10, 4, -10, none⟩]).toUTF8 :=
  (log_entries_read_back_and_fill_their_daily_file (by decide) (by simp)
    (show Disk.createDirAll ⟨[], ⟨0, 0⟩⟩ [] "/l" = .ok ⟨[(["l"], .dir 0o755)], ⟨0, 0⟩⟩ by
      decide +kernel)
    (show Disk.locate ⟨[(["l"], .dir 0o755)], ⟨0, 0⟩⟩ [] "/l" = .ok ["l"] by decide +kernel)
    (by decide +kernel)
    (show Disk.resolve ⟨[(["l"], .dir 0o755)], ⟨0, 0⟩⟩ []
        (dailyPath "/l" ⟨.ofSeconds 1715940000, "docs", "/a/x.txt", "/b/x.txt", 10, 4, -10, none⟩) true =
      .ok (.absent ["l"] "2024-05-17.jsonl" false) by decide +kernel)
    (by decide)).2.2

end Safekeep
