import Safekeep.Log.Entry
import Safekeep.Proofs.Json.Compact
import Safekeep.Proofs.Time.Stamp
import Mathlib

/-!
# A log entry reads back from its text

An entry is written as the compact object of its members: the seven fields that every entry has,
in the order of the entry's shape, then `errorMessage` when the entry has an error message. Read
back against the entry's shape, that text gives the entry itself, provided the timestamp has a
four-digit year and the numbers fit the words the shape gives them (`LogEntry.Faithful`).

The reading goes through the compact read-back of records: every member names a field of its
own and holds a value that field's shape reads (`LogEntry.fits_members`), the only field that
may be left out is the optional `errorMessage`, and the members already stand in field order.
Main statement: `LogEntry.ofText_toText`.
-/

namespace Safekeep

open Safekeep.Json Safekeep.Time

/-! ## 1. Whole numbers in words -/

/-- A whole number up to the largest unsigned word of 64 bits is read by the shape of such
words. -/
theorem scalar_u64 {n : Nat} (h : n ≤ Number.u64Max) : Scalar Shape.u64 (Value.nat n) := by
  have hmax : Number.u64Max = 18446744073709551615 := rfl
  have hhi : Int.pow 2 64 - 1 = 18446744073709551615 := rfl
  refine .word (by omega) ?_ h
  rw [hhi]
  omega

/-- A whole number within a signed word of 64 bits is read by the shape of such words, whichever
its sign. -/
theorem scalar_i64 {t : Int} (h : Number.i64Min ≤ t ∧ t ≤ Number.i64Max) :
    Scalar Shape.i64 (Value.int t) := by
  have hmin : Number.i64Min = -9223372036854775808 := rfl
  have hmax : Number.i64Max = 9223372036854775807 := rfl
  have hpow : Int.pow 2 63 = 9223372036854775808 := rfl
  unfold Value.int Shape.i64
  rw [hpow]
  split_ifs with hnn
  · refine .word (by omega) (by omega) ?_
    rw [show Number.u64Max = 18446744073709551615 from rfl]
    omega
  · exact .neg (by omega) (by omega) (by omega) h.1

theorem scalar_string (s : String) : Scalar Shape.string (.str s) := .text rfl

theorem scalar_path (s : String) : Scalar Shape.path (.str s) := .text rfl

@[simp] theorem asInt?_int (t : Int) : (Value.int t).asInt? = some t := by
  unfold Value.int
  split_ifs with hnn
  · simp [Value.asInt?, Int.toNat_of_nonneg hnn]
  · simp [Value.asInt?]

namespace LogEntry

/-! ## 2. The entry's fields and members -/

theorem nodup_fields : (fields.map Prod.fst).Nodup := by
  simp [fields]

/-- A member whose key names one of the entry's fields, holding a value that field's shape
reads, fits the entry's shape. -/
theorem fitsCompact_of_mem {k : String} {sh : Shape} {v : Value} (hf : (k, sh) ∈ fields)
    (hv : Filled sh v) : FitsCompact fields (k, v) :=
  ⟨(k, sh), find?_key_of_nodup nodup_fields hf, hv⟩

/-- The keys an entry writes, in order: the seven that every entry has, then `errorMessage` when
the entry has an error message. -/
theorem keys_members (e : LogEntry) :
    e.members.map Prod.fst = ["timestamp", "backupName", "sourcePath", "targetPath",
      "fileSizeBytes", "transferTimeMs", "cryptingTimeMs"] ++
      (if e.errorMessage.isSome then ["errorMessage"] else []) := by
  cases h : e.errorMessage <;> simp [members, h]

theorem errorMessage_mem_keys_iff (e : LogEntry) :
    "errorMessage" ∈ e.members.map Prod.fst ↔ e.errorMessage.isSome := by
  rw [keys_members]
  cases e.errorMessage <;> simp

theorem nodup_members (e : LogEntry) : (e.members.map Prod.fst).Nodup := by
  rw [keys_members]
  split <;> simp

/-- No field that must be there is missing: only `errorMessage` may be left out, and it is
optional. -/
theorem firstMissing_members (e : LogEntry) : firstMissing false fields e.members = none := by
  cases h : e.errorMessage <;>
    simp [firstMissing, fields, members, h, Shape.optional, stampShape, Shape.string, Shape.path,
      Shape.u64, Shape.i64]

theorem inFieldOrder_members (e : LogEntry) : inFieldOrder fields e.members = e.members := by
  cases h : e.errorMessage <;> simp [inFieldOrder, fields, members, h]

/-! ## 3. Reading the text back -/

/-- What an entry needs for its text to read back as itself: a timestamp with a four-digit year,
a size that fits an unsigned word of 64 bits and two times that fit signed ones. -/
structure Faithful (e : LogEntry) : Prop where
  year : 0 ≤ e.timestamp.date.year ∧ e.timestamp.date.year ≤ 9999
  size : e.fileSize ≤ Number.u64Max
  transfer : Number.i64Min ≤ e.transferMs ∧ e.transferMs ≤ Number.i64Max
  crypting : Number.i64Min ≤ e.cryptingMs ∧ e.cryptingMs ≤ Number.i64Max

instance (e : LogEntry) : Decidable e.Faithful :=
  decidable_of_iff ((0 ≤ e.timestamp.date.year ∧ e.timestamp.date.year ≤ 9999) ∧
      e.fileSize ≤ Number.u64Max ∧
      (Number.i64Min ≤ e.transferMs ∧ e.transferMs ≤ Number.i64Max) ∧
      (Number.i64Min ≤ e.cryptingMs ∧ e.cryptingMs ≤ Number.i64Max))
    ⟨fun ⟨hy, hn, ht, hc⟩ => ⟨hy, hn, ht, hc⟩, fun ⟨hy, hn, ht, hc⟩ => ⟨hy, hn, ht, hc⟩⟩

variable {e : LogEntry}

theorem scalar_stamp (he : e.Faithful) : Scalar stampShape (.str e.timestamp.text) :=
  .text (by simp [parseStamp_text e.timestamp he.year])

/-- Every member names a field of its own and holds a value that field's shape reads. -/
theorem fits_members (he : e.Faithful) : ∀ m ∈ e.members, FitsCompact fields m := by
  intro m hm
  simp only [members, List.mem_append, List.mem_cons, List.not_mem_nil, or_false] at hm
  rcases hm with (rfl | rfl | rfl | rfl | rfl | rfl | rfl) | hm
  · exact fitsCompact_of_mem (by simp [fields]) (.scalar (scalar_stamp he))
  · exact fitsCompact_of_mem (by simp [fields]) (.scalar (scalar_string _))
  · exact fitsCompact_of_mem (by simp [fields]) (.scalar (scalar_path _))
  · exact fitsCompact_of_mem (by simp [fields]) (.scalar (scalar_path _))
  · exact fitsCompact_of_mem (by simp [fields]) (.scalar (scalar_u64 he.size))
  · exact fitsCompact_of_mem (by simp [fields]) (.scalar (scalar_i64 he.transfer))
  · exact fitsCompact_of_mem (by simp [fields]) (.scalar (scalar_i64 he.crypting))
  · cases h : e.errorMessage with
    | none => simp [h] at hm
    | some msg =>
      simp only [h, List.mem_singleton] at hm
      subst hm
      exact fitsCompact_of_mem (by simp [fields]) (.some (scalar_string msg))

/-- The entry rebuilt from its own members is the entry. -/
theorem ofChecked_members (hyear : 0 ≤ e.timestamp.date.year ∧ e.timestamp.date.year ≤ 9999) :
    ofChecked (.obj e.members) = e := by
  have hparse := parseStamp_text e.timestamp hyear
  cases e with
  | mk t b s g n x y em =>
    cases em <;> simp_all [ofChecked, members, Value.get, Value.field?, Value.asStr?,
      Value.asNat?, Value.nat]

theorem ofText_toText (he : e.Faithful) : ofText e.toText = .ok e := by
  rw [ofText, toText, shape,
    readBytes_compact_record (fits_members he) (nodup_members e) (firstMissing_members e),
    inFieldOrder_members]
  simp [Except.map, ofChecked_members he.year]

end LogEntry

end Safekeep
