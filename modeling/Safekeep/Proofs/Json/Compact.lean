import Safekeep.Proofs.Json.ReadBack
import Mathlib

/-!
# Reading compact records back

The compact printer writes an object as `{`, its members `"key":value` separated by commas and
`}`, with no blank anywhere. This module shows that the record reader takes such a text back to
the members it was printed from, when each member names a field of its own and holds a scalar
that the field's shape reads, on its own or as the present value of an optional field.

The layout-independent steps (a key, its colon, a scalar, the closing brace) come from the
read-back of indented documents; what is new here is the layout with no blanks and the optional
fields.
-/

namespace Safekeep.Json

/-- The text of an object's members after its `{` as the compact printer writes it: each member
as its quoted key, a colon and its value, after a comma unless it is the first. -/
def compactText (first : Bool) : List (String × Value) → List Char
  | [] => []
  | (k, v) :: ms =>
    lead first ++ (quoteString k).toList ++ ':' :: v.compact.toList ++ compactText false ms

theorem compactText_compactMembers :
    ∀ (first : Bool) (ms : List (String × Value)), ms ≠ [] →
      lead first ++ (compactMembers ms).toList = compactText first ms
  | _, [], h => absurd rfl h
  | first, [(k, v)], _ => by simp [compactMembers, compactText]
  | first, (k, v) :: m :: ms, _ => by
    rw [compactText, ← compactText_compactMembers false (m :: ms) (List.cons_ne_nil _ _)]
    simp [compactMembers, lead]

theorem compact_obj (ms : List (String × Value)) :
    (Value.obj ms).compact.toList = '{' :: compactText true ms ++ ['}'] := by
  cases ms with
  | nil => simp [Value.compact, compactMembers, compactText]
  | cons m ms =>
    rw [← compactText_compactMembers true _ (List.cons_ne_nil _ _)]
    simp [Value.compact, lead]

theorem bytesOf_compact_obj (ms : List (String × Value)) :
    bytesOf (Value.obj ms).compact.toList = 123 :: (bytesOf (compactText true ms) ++ [125]) := by
  simp [compact_obj]

theorem length_le_compactText :
    ∀ (first : Bool) (ms : List (String × Value)), ms.length ≤ (compactText first ms).length
  | _, [] => Nat.zero_le _
  | first, (k, v) :: ms => by
    have := length_le_compactText false ms
    simp [compactText]
    omega

/-- After a member's value comes a comma when more members follow, else the closing brace. -/
theorem compactText_false_head (ms : List (String × Value)) (rest : List UInt8) :
    ∃ b rest', bytesOf (compactText false ms) ++ 125 :: rest = b :: rest' ∧ ScalarEnd b := by
  cases ms with
  | nil => exact ⟨125, rest, rfl, Or.inr (Or.inr rfl)⟩
  | cons m ms =>
    obtain ⟨k, v⟩ := m
    refine ⟨44, bytesOf ((quoteString k).toList ++ ':' :: v.compact.toList ++ compactText false ms) ++
      125 :: rest, ?_, Or.inl rfl⟩
    simp [compactText, lead]

/-- A scalar's compact text starts with a quote, a minus sign or a digit: not a blank, and not
the `n` of `null`. -/
theorem Scalar.head_byte {sh : Shape} {v : Value} (hv : Scalar sh v) :
    ∃ c rest, bytesOf v.compact.toList = c :: rest ∧ (c ≠ 32 ∧ c ≠ 10 ∧ c ≠ 9 ∧ c ≠ 13) ∧
      c ≠ 110 := by
  cases hv with
  | word hlo hhi hfit =>
    rename_i lo hi name n
    obtain ⟨d, ds, hds⟩ := List.exists_cons_of_ne_nil (@Nat.toDigits_ne_nil n 10)
    have hd := toNat_of_isDigit (Nat.isDigit_of_mem_toDigits (by omega) (by omega)
      (show d ∈ Nat.toDigits 10 n by rw [hds]; exact List.mem_cons_self))
    refine ⟨UInt8.ofNat d.toNat, bytesOf ds, ?_, ?_⟩
    · simp [Value.compact, Number.text, hds, bytesOf_cons_ascii (show d.toNat < 128 by omega)]
    · simp only [ne_eq, ← UInt8.toNat_inj, UInt8.toNat_ofNat', UInt8.toNat_ofNat, Nat.reducePow,
        Nat.reduceMod]
      omega
  | neg hneg =>
    exact ⟨45, _, by rw [compact_neg hneg, bytesOf_cons_ascii (by decide)]; rfl, by decide⟩
  | text hr =>
    rename_i expecting refuse s
    exact ⟨34, bytesOf (s.toList.flatMap escapeChar ++ ['"']),
      by simp [Value.compact, toList_quoteString], by decide⟩
  | variant hs =>
    rename_i names s
    exact ⟨34, bytesOf (s.toList.flatMap escapeChar ++ ['"']),
      by simp [Value.compact, toList_quoteString], by decide⟩

/-- What a field's shape reads from a member's compact text: a scalar, on its own or as the
present value of an optional field. -/
inductive Filled : Shape → Value → Prop
  | scalar {sh : Shape} {v : Value} : Scalar sh v → Filled sh v
  | some {inner : Shape} {v : Value} : Scalar inner v → Filled (.opt inner) v

namespace Source

variable {src : Source} {i : Nat}

/-- A filled value, followed by a byte that ends a scalar, reads back as itself. An optional field
takes one more step, to see that the value is not `null`. -/
theorem readAs_filled {sh : Shape} {v : Value} (hv : Filled sh v) {b : UInt8} (hb : ScalarEnd b)
    (h : src.Sees i (bytesOf v.compact.toList ++ [b])) (fuel depth : Nat) :
    src.readAs (fuel + 2) depth sh i = .ok (v, i + (bytesOf v.compact.toList).length) := by
  cases hv with
  | scalar hv => exact readAs_scalar hv [] (by simp) hb h (fuel + 1) depth
  | some hv =>
    obtain ⟨c, rest, hc, hnb, hn⟩ := hv.head_byte
    have hfirst : src.byte? i = some c := by
      rw [hc] at h
      exact h.byte?
    have hskip : src.skipBlank i = i := skipBlank_stop hfirst hnb
    simp [readAs, hskip, hfirst]
    exact readAs_scalar hv [] (by simp) hb h fuel depth

end Source

def FitsCompact (fields : List (String × Shape)) (m : String × Value) : Prop :=
  ∃ f, fields.find? (·.1 == m.1) = some f ∧ Filled f.2 m.2

namespace Source

variable {src : Source} {i : Nat}

/-- The members of a compact object, each naming a field of its own and none named before, read
back in order up to the closing brace. The induction is on the members; the ones read so far are
kept, newest first, in `present`, and each member spends one step of fuel on itself and leaves two
for its value. -/
theorem readFields_compact {fields : List (String × Shape)} (depth : Nat) :
    ∀ (ms : List (String × Value)) (first : Bool) (present : List (String × Value)) (fuel i : Nat)
      {rest : List UInt8}, (∀ m ∈ ms, FitsCompact fields m) →
      (∀ m ∈ ms, present.any (·.1 == m.1) = false) → (ms.map Prod.fst).Nodup →
      src.Sees i (bytesOf (compactText first ms) ++ 125 :: rest) →
      src.readFields (fuel + ms.length + 2) depth fields i first present =
        .ok (present.reverse ++ ms, i + (bytesOf (compactText first ms)).length)
  | [], first, present, fuel, i, rest, _, _, _, h => by
    rw [readFields, nextKey_close first [] (by simp) h]
    simp [compactText]
  | (k, v) :: ms, first, present, fuel, i, rest, hfit, hnew, hnd, h => by
    obtain ⟨f, hf, hv⟩ := hfit (k, v) List.mem_cons_self
    set P := lead first ++ [] ++ (quoteString k).toList ++ [':'] with hP
    have htext : compactText first ((k, v) :: ms) =
        P ++ (v.compact.toList ++ compactText false ms) := by
      simp [hP, compactText]
    rw [htext, bytesOf_append P, bytesOf_append v.compact.toList] at h ⊢
    rw [List.append_assoc, List.append_assoc] at h
    have hV := (sees_append.1 h).2
    have hrest := (sees_append.1 hV).2
    obtain ⟨b, rest', hb', hb⟩ := compactText_false_head ms rest
    rw [hb'] at hV
    have hV' : src.Sees (i + (bytesOf P).length)
        ((bytesOf v.compact.toList ++ [b]) ++ rest') := by
      simpa using hV
    have hval := readAs_filled hv hb (sees_append.1 hV').1 (fuel + ms.length) depth
    have hstep := readFields_member_at hf (hnew (k, v) List.mem_cons_self) first [] (by simp)
      (fuel + ms.length + 2) depth h hval
    rw [List.length_cons, show fuel + (ms.length + 1) + 2 = fuel + ms.length + 2 + 1 by omega,
      hstep, readFields_compact depth ms false ((k, v) :: present) fuel _
        (fun m hm => hfit m (List.mem_cons_of_mem _ hm)) (fresh_cons hnd hnew)
        (List.nodup_cons.1 hnd).2 hrest]
    simp only [List.reverse_cons, List.append_assoc, List.singleton_append, List.length_append,
      Nat.add_assoc]

/-- A compact object reads back against a record shape as its members put in field order, when
the reader stands at its opening brace and no field that must be there is missing. -/
theorem readAs_compact_record {name : String} {defaulted : Bool} {fields : List (String × Shape)}
    {ms : List (String × Value)} (hfit : ∀ m ∈ ms, FitsCompact fields m)
    (hnd : (ms.map Prod.fst).Nodup) (hmiss : firstMissing defaulted fields ms = none)
    (fuel depth : Nat) {rest : List UInt8}
    (h : src.Sees i (bytesOf (Value.obj ms).compact.toList ++ rest)) :
    src.readAs (fuel + ms.length + 3) (depth + 2) (.record name defaulted fields) i =
      .ok (.obj (inFieldOrder fields ms), i + (bytesOf (Value.obj ms).compact.toList).length) := by
  rw [bytesOf_compact_obj] at h ⊢
  have h' : src.Sees i (123 :: (bytesOf (compactText true ms) ++ 125 :: rest)) := by
    simpa using h
  have hskip : src.skipBlank i = i := skipBlank_stop h'.byte? (by decide)
  have hfields := readFields_compact (depth + 1) ms true [] fuel (i + 1) hfit (by simp) hnd h'.tail
  simp [readAs, hskip, h'.byte?, hfields, hmiss]
  omega

end Source

/-- A compact object read from its own text against a record shape gives back its members in
field order, when each member names a field of its own, holds a value the field's shape reads,
and no field that must be there is missing. -/
theorem readBytes_compact_record {name : String} {defaulted : Bool}
    {fields : List (String × Shape)} {ms : List (String × Value)}
    (hfit : ∀ m ∈ ms, FitsCompact fields m) (hnd : (ms.map Prod.fst).Nodup)
    (hmiss : firstMissing defaulted fields ms = none) :
    readBytes (.record name defaulted fields) (Value.obj ms).compact.toUTF8 =
      .ok (.obj (inFieldOrder fields ms)) := by
  set src : Source := ⟨(Value.obj ms).compact.toUTF8⟩ with hsrc
  have hbytes : src.bytes.data.toList = bytesOf (Value.obj ms).compact.toList := by
    rw [hsrc, toList_toUTF8]
  have hsize : src.bytes.size = (bytesOf (Value.obj ms).compact.toList).length := by
    rw [← hbytes, ← ByteArray.size_data, Array.length_toList]
  have hall : src.Sees 0 (bytesOf (Value.obj ms).compact.toList ++ []) := by
    rw [Source.Sees, List.drop_zero, hbytes, List.append_nil]
  -- the reader has sixteen steps of fuel per byte, and the text is longer than its members
  have hlen : ms.length ≤ src.bytes.size := by
    have h1 := length_le_compactText true ms
    have h2 := length_le_length_bytesOf (compactText true ms)
    rw [hsize, bytesOf_compact_obj]
    simp only [List.length_cons, List.length_append]
    omega
  obtain ⟨fuel, hfuel⟩ : ∃ fuel, 16 * (src.bytes.size + 2) = fuel + ms.length + 3 :=
    ⟨16 * (src.bytes.size + 2) - (ms.length + 3), by omega⟩
  have hread : src.readAs (16 * (src.bytes.size + 2)) 128 (.record name defaulted fields) 0 =
      .ok (.obj (inFieldOrder fields ms), src.bytes.size) := by
    rw [hfuel, hsize]
    simpa using Source.readAs_compact_record hfit hnd hmiss fuel 126 hall
  have hend : src.skipBlank src.bytes.size = src.bytes.size := Source.skipBlank_end le_rfl
  change src.read (.record name defaulted fields) = _
  simp [Source.read, hread, hend]

end Safekeep.Json
