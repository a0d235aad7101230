import Safekeep.Selection
import Mathlib

/-!
# Reading a job selection

A selection text asks for every job when, blanks trimmed, it is `*` or `all` in any ASCII case
(`AsksAll`). Otherwise the trimmed text is cut at every `;` and `,`, each piece is trimmed and the
empty pieces are dropped (`textParts`); each part left must be an id numeral or two of them around
the part's first `-`, the first no larger than the second (`PartMeans`). An id numeral is an
optional `+` and a run of ASCII digits whose value fits 32 bits, blanks around it ignored
(`IdNumeral`). The ids asked for are the parts' ids in order, each kept at its first occurrence
only; a text with no part, or with a part that is neither, is refused.

The grammar is stated with the library's own list functions (`List.splitOnP`,
`Nat.ofDigitChars`, `List.eraseDups`), and each stage of the reader is shown to follow it: the
split (`splitParts_eq_splitOnP`), an id (`readUnsigned_eq_some_iff`), a part
(`partIds_eq_ok_iff`), the parts in turn (`mapM_eq_ok_iff`) and the first occurrences
(`firstOccurrences_eq_eraseDups`). Main statement: `selections_read_as_their_grammar_says`, with
the lists and ranges written in decimal read back as themselves.
-/

namespace Safekeep.Selection

open Safekeep.Text Safekeep.Number

/-! ## 1. The grammar -/

def SpellsAll (cs : List Char) : Prop :=
  ∃ a l l', cs = [a, l, l'] ∧ (a = 'a' ∨ a = 'A') ∧ (l = 'l' ∨ l = 'L') ∧ (l' = 'l' ∨ l' = 'L')

def AsksAll (s : String) : Prop :=
  trimList s.toList = ['*'] ∨ SpellsAll (trimList s.toList)

/-- `cs` is the numeral of the id `n`: an optional `+`, then ASCII digits whose value is `n`, no
larger than the largest 32-bit word. -/
def IdNumeral (cs : List Char) (n : Nat) : Prop :=
  ∃ digits, (cs = digits ∨ cs = '+' :: digits) ∧ digits ≠ [] ∧ (∀ c ∈ digits, c.isDigit = true) ∧
    Nat.ofDigitChars 10 digits 0 = n ∧ n ≤ u32Max

/-- What a part stands for: an id, blanks around it ignored, or, around the part's first `-`, the
ids from the first bound to the second, blanks around each bound ignored. -/
def PartMeans (p : List Char) (ids : List Nat) : Prop :=
  ('-' ∉ p ∧ ∃ n, IdNumeral (trimList p) n ∧ ids = [n]) ∨
  (∃ a b lo hi, p = a ++ '-' :: b ∧ '-' ∉ a ∧ IdNumeral (trimList a) lo ∧
    IdNumeral (trimList b) hi ∧ lo ≤ hi ∧ ids = List.range' lo (hi + 1 - lo))

def isSeparator (c : Char) : Bool := c == ';' || c == ','

/-- The parts of a selection text: the trimmed text cut at every separator, each piece trimmed,
the empty pieces dropped. -/
def textParts (s : String) : List (List Char) :=
  (((trimList s.toList).splitOnP isSeparator).map trimList).filter (· ≠ [])

/-! ## 2. Words and ids -/

/-- ASCII lowercasing gives a lowercase letter only from that letter and its uppercase. -/
theorem toLower_eq_iff {c d u : Char} (hd : d.isLower = true) (hu : u.isUpper = true)
    (hud : u.toLower = d) : c.toLower = d ↔ c = d ∨ c = u := by
  simp only [Char.isLower, Char.isUpper, Bool.and_eq_true, decide_eq_true_eq] at hd hu
  constructor
  · intro h
    unfold Char.toLower at h hud
    rw [dif_pos hu] at hud
    split_ifs at h with hc
    · -- Both `c` and `u` are uppercase and land on `d`, so their codes agree.
      right
      apply Char.ext
      have hv := congrArg Char.val h
      have huv := congrArg Char.val hud
      simp only at hv huv
      grind
    · left
      exact h
  · rintro (rfl | rfl)
    · unfold Char.toLower
      rw [dif_neg (by grind)]
    · exact hud

theorem isAllWord_iff (s : String) : isAllWord s = true ↔ SpellsAll s.toList := by
  have ha (c : Char) : c.toLower = 'a' ↔ c = 'a' ∨ c = 'A' :=
    toLower_eq_iff (by decide) (by decide) (by decide)
  have hl (c : Char) : c.toLower = 'l' ↔ c = 'l' ∨ c = 'L' :=
    toLower_eq_iff (by decide) (by decide) (by decide)
  simp only [isAllWord, beq_iff_eq, SpellsAll]
  constructor
  · intro h
    obtain ⟨a, t, hs, h1, ht⟩ := List.map_eq_cons_iff.1 h
    obtain ⟨l, t', rfl, h2, ht'⟩ := List.map_eq_cons_iff.1 ht
    obtain ⟨l', t'', rfl, h3, ht''⟩ := List.map_eq_cons_iff.1 ht'
    rw [List.map_eq_nil_iff] at ht''
    subst ht''
    exact ⟨a, l, l', hs, (ha a).1 h1, (hl l).1 h2, (hl l').1 h3⟩
  · rintro ⟨a, l, l', hs, h1, h2, h3⟩
    rw [hs]
    simp [(ha a).2 h1, (hl l).2 h2, (hl l').2 h3]

theorem trim_toList (s : String) : (trim s).toList = trimList s.toList := by
  simp [trim, String.toList_ofList]

theorem asksAll_iff (s : String) : (trim s = "*" ∨ isAllWord (trim s) = true) ↔ AsksAll s := by
  rw [isAllWord_iff, trim_toList, AsksAll, ← String.toList_inj, trim_toList]
  rfl

theorem isDigit_eq (c : Char) : Number.isDigit c = c.isDigit := by
  simp only [Number.isDigit, Char.isDigit, Char.le_def]

theorem readDigits_eq_some_iff (ds : List Char) (n : Nat) :
    readDigits ds = some n ↔ ds ≠ [] ∧ (∀ c ∈ ds, c.isDigit = true) ∧ Nat.ofDigitChars 10 ds 0 = n := by
  cases ds with
  | nil => simp [readDigits]
  | cons c rest =>
    simp only [readDigits]
    split_ifs with hall
    · have hd : ∀ x ∈ c :: rest, x.isDigit = true := by simpa [isDigit_eq] using hall
      -- The fold that reads the digits is `Nat.ofDigitChars` itself.
      simp only [Option.some.injEq]
      exact ⟨fun h => ⟨List.cons_ne_nil c rest, hd, h⟩, fun h => h.2.2⟩
    · simp only [List.all_eq_true, isDigit_eq, not_forall] at hall
      obtain ⟨x, hx, hnot⟩ := hall
      simp only [false_iff, not_and]
      exact fun _ hd => absurd (hd x hx) hnot

/-- Digits bounded by the largest 32-bit word. -/
theorem bounded_eq_some_iff (ds : List Char) (n : Nat) :
    ((readDigits ds).bind fun m => if m ≤ u32Max then some m else none) = some n ↔
      ds ≠ [] ∧ (∀ c ∈ ds, c.isDigit = true) ∧ Nat.ofDigitChars 10 ds 0 = n ∧ n ≤ u32Max := by
  simp only [Option.bind_eq_some_iff, readDigits_eq_some_iff]
  constructor
  · rintro ⟨m, ⟨hne, hd, hv⟩, hm⟩
    split_ifs at hm with hle
    cases hm
    exact ⟨hne, hd, hv, hle⟩
  · rintro ⟨hne, hd, hv, hle⟩
    exact ⟨n, ⟨hne, hd, hv⟩, by simp [hle]⟩

theorem readUnsigned_of_sign {s : String} {rest : List Char} (h : s.toList = '+' :: rest) :
    readUnsigned u32Max s = (readDigits rest).bind fun m => if m ≤ u32Max then some m else none := by
  simp only [readUnsigned, h]
  cases readDigits rest <;> rfl

theorem readUnsigned_of_no_sign {s : String} (h : ∀ rest, s.toList ≠ '+' :: rest) :
    readUnsigned u32Max s = (readDigits s.toList).bind fun m => if m ≤ u32Max then some m else none := by
  rcases hcs : s.toList with _ | ⟨c, rest⟩
  · simp [readUnsigned, hcs, readDigits]
  · have hc : c ≠ '+' := by
      rintro rfl
      exact h rest hcs
    simp [readUnsigned, hcs, hc]
    cases readDigits (c :: rest) <;> rfl

/-- An id is read exactly from its numeral. -/
theorem readUnsigned_eq_some_iff (s : String) (n : Nat) :
    readUnsigned u32Max s = some n ↔ IdNumeral s.toList n := by
  have hplus : ('+' : Char).isDigit = false := by decide
  unfold IdNumeral
  by_cases hs : ∃ rest, s.toList = '+' :: rest
  · -- A leading `+` is the sign, and the digits are what follows it.
    obtain ⟨rest, hcs⟩ := hs
    rw [readUnsigned_of_sign hcs, bounded_eq_some_iff, hcs]
    constructor
    · rintro ⟨hne, hd, hv, hle⟩
      exact ⟨rest, .inr rfl, hne, hd, hv, hle⟩
    · rintro ⟨digits, hd' | hd', hne, hd, hv, hle⟩
      · have := hd '+' (by simp [← hd'])
        simp [hplus] at this
      · cases hd'
        exact ⟨hne, hd, hv, hle⟩
  · simp only [not_exists] at hs
    rw [readUnsigned_of_no_sign hs, bounded_eq_some_iff]
    constructor
    · rintro ⟨hne, hd, hv, hle⟩
      exact ⟨_, .inl rfl, hne, hd, hv, hle⟩
    · rintro ⟨digits, hd' | hd', hne, hd, hv, hle⟩
      · subst hd'
        exact ⟨hne, hd, hv, hle⟩
      · exact absurd hd' (hs digits)

theorem readId_eq_ok_iff (s : String) (n : Nat) :
    readId s = .ok n ↔ IdNumeral (trimList s.toList) n := by
  rw [← trim_toList, ← readUnsigned_eq_some_iff]
  simp only [readId]
  split <;> simp_all

theorem readId_ofList_eq_ok_iff (cs : List Char) (n : Nat) :
    readId (String.ofList cs) = .ok n ↔ IdNumeral (trimList cs) n := by
  rw [readId_eq_ok_iff, String.toList_ofList]

/-! ## 3. Parts -/

theorem bind_eq_ok_iff {ε α β : Type} {x : Except ε α} {f : α → Except ε β} {b : β} :
    x >>= f = .ok b ↔ ∃ a, x = .ok a ∧ f a = .ok b := by
  cases x <;> simp [bind, Except.bind]

/-- A part cut around its first `-`: the bound before it has no `-`. -/
theorem split_at_first_dash {cs a b : List Char} (h : cs = a ++ '-' :: b) (ha : '-' ∉ a) :
    cs.takeWhile (· ≠ '-') = a ∧ cs.dropWhile (· ≠ '-') = '-' :: b := by
  have hall : ∀ c ∈ a, decide (c ≠ '-') = true := fun c hc => by
    simp only [decide_eq_true_eq]
    rintro rfl
    exact ha hc
  subst h
  rw [List.takeWhile_append_of_pos hall, List.dropWhile_append_of_pos hall]
  simp

theorem partIds_eq_ok_iff (part : String) (ids : List Nat) :
    partIds part = .ok ids ↔ PartMeans part.toList ids := by
  simp only [partIds]
  split
  · -- No `-`: the part is one id.
    rename_i hnone
    have hno : '-' ∉ part.toList := by
      intro hm
      have := List.dropWhile_eq_nil_iff.1 hnone '-' hm
      simp at this
    constructor
    · intro h
      cases hr : readId part with
      | error e => rw [hr] at h; cases h
      | ok n =>
        rw [hr] at h
        cases h
        exact .inl ⟨hno, n, (readId_eq_ok_iff part n).1 hr, rfl⟩
    · rintro (⟨-, n, hn, rfl⟩ | ⟨a, b, lo, hi, hp, -, -⟩)
      · rw [(readId_eq_ok_iff part n).2 hn]
        rfl
      · exact absurd (hp ▸ List.mem_append_right a List.mem_cons_self) hno
  · -- A `-`: the part is a range around the first one.
    rename_i d after hsome
    have hsplit : part.toList.takeWhile (· ≠ '-') ++ part.toList.dropWhile (· ≠ '-') =
        part.toList := List.takeWhile_append_dropWhile
    rw [hsome] at hsplit
    have hd : d = '-' := by
      have := List.head?_dropWhile_not (fun c => decide (c ≠ '-')) part.toList
      rw [hsome] at this
      simpa using this
    subst hd
    have hnot : '-' ∉ part.toList.takeWhile (· ≠ '-') := by
      intro hm
      have := List.mem_takeWhile_imp hm
      simp at this
    constructor
    · intro h
      obtain ⟨lo, hlo, h⟩ := bind_eq_ok_iff.1 h
      obtain ⟨hi, hhi, h⟩ := bind_eq_ok_iff.1 h
      split_ifs at h with hgt
      cases h
      rw [readId_eq_ok_iff, String.toList_ofList] at hlo hhi
      exact .inr ⟨_, after, lo, hi, hsplit.symm, hnot, hlo, hhi, by omega, rfl⟩
    · rintro (⟨hno, -⟩ | ⟨a, b, lo, hi, hp, ha, hlo, hhi, hle, rfl⟩)
      · exact absurd (hsplit ▸ List.mem_append_right _ List.mem_cons_self) hno
      · obtain ⟨htake, hdrop⟩ := split_at_first_dash hp ha
        rw [hsome] at hdrop
        cases hdrop
        rw [htake]
        rw [← readId_ofList_eq_ok_iff] at hlo hhi
        rw [bind_eq_ok_iff]
        refine ⟨lo, hlo, bind_eq_ok_iff.2 ⟨hi, hhi, ?_⟩⟩
        rw [if_neg (by omega)]

theorem partIds_ofList_eq_ok_iff (p : List Char) (ids : List Nat) :
    partIds (String.ofList p) = .ok ids ↔ PartMeans p ids := by
  rw [partIds_eq_ok_iff, String.toList_ofList]

theorem PartMeans.ne_nil {p : List Char} {ids : List Nat} (h : PartMeans p ids) : ids ≠ [] := by
  rcases h with ⟨-, n, -, rfl⟩ | ⟨-, -, lo, hi, -, -, -, -, hle, rfl⟩
  · simp
  · simp only [ne_eq, List.range'_eq_nil_iff]
    omega

theorem PartMeans.unique {p : List Char} {ids ids' : List Nat} (h : PartMeans p ids)
    (h' : PartMeans p ids') : ids = ids' := by
  rw [← partIds_ofList_eq_ok_iff] at h h'
  rw [h] at h'
  cases h'
  rfl

/-! ## 4. The split, the parts in turn, first occurrences -/

theorem splitParts_eq_splitOnP (cs : List Char) : splitParts cs = cs.splitOnP isSeparator := by
  induction cs with
  | nil => rfl
  | cons c rest ih =>
    rw [splitParts, List.splitOnP_cons_eq_if_modifyHead, ← ih]
    by_cases hc : c = ';' ∨ c = ','
    · have hsep : isSeparator c = true := by
        rcases hc with rfl | rfl <;> rfl
      rw [if_pos hc, if_pos hsep]
    · have hsep : isSeparator c = false := by
        simpa [isSeparator] using hc
      rw [if_neg hc, if_neg (by simp [hsep])]
      -- The split of the rest is never empty, so `c` joins its first piece.
      obtain ⟨p, ps, hps⟩ := List.exists_cons_of_ne_nil (ih ▸ List.splitOnP_ne_nil isSeparator rest)
      rw [hps]
      rfl

/-- Trimming pieces as texts is trimming them as lists, and a text is empty when its list is. -/
theorem map_toList_trimmed (pieces : List (List Char)) :
    (((pieces.map fun p => trim (String.ofList p)).filter (· ≠ "")).map String.toList) =
      (pieces.map trimList).filter (· ≠ []) := by
  have htrim : pieces.map trimList =
      (pieces.map fun p => trim (String.ofList p)).map String.toList := by
    rw [List.map_map]
    exact List.map_congr_left fun p _ => by simp [trim_toList, String.toList_ofList]
  rw [htrim, @List.filter_map String (List Char) String.toList]
  refine congrArg (List.map String.toList) (List.filter_congr fun t _ => ?_)
  simp [String.toList_eq_nil_iff]

theorem parts_toList (s : String) : (parts (trim s)).map String.toList = textParts s := by
  rw [parts, map_toList_trimmed, textParts, trim_toList, splitParts_eq_splitOnP]

/-- Reading parts in turn succeeds exactly when every part is read. -/
theorem mapM_eq_ok_iff {α β ε : Type} (f : α → Except ε β) (xs : List α) (ys : List β) :
    xs.mapM f = .ok ys ↔ List.Forall₂ (fun x y => f x = .ok y) xs ys := by
  induction xs generalizing ys with
  | nil => cases ys <;> simp [pure, Except.pure]
  | cons x xs ih =>
    rw [List.mapM_cons]
    cases hx : f x with
    | error e => cases ys <;> simp [bind, Except.bind, hx]
    | ok y =>
      cases hxs : xs.mapM f with
      | error e => cases ys <;> simp [bind, Except.bind, ← ih, hxs, hx]
      | ok rest => cases ys <;> simp [bind, Except.bind, pure, Except.pure, ← ih, hxs, hx]

theorem mapM_partIds_eq_ok_iff (s : String) (idss : List (List Nat)) :
    (parts (trim s)).mapM partIds = .ok idss ↔ List.Forall₂ PartMeans (textParts s) idss := by
  rw [mapM_eq_ok_iff, ← parts_toList, List.forall₂_map_left_iff]
  simp only [partIds_eq_ok_iff]

/-- Keeping first occurrences with an array of the ids kept and a set of the ids seen: the array
grows by the first occurrences among the ids not seen yet. -/
theorem foldl_firstOccurrences (xs : List Nat) (kept : Array Nat) (seen : Std.HashSet Nat)
    (hseen : ∀ x, seen.contains x = true ↔ x ∈ kept.toList) :
    (xs.foldl (fun (acc : Array Nat × Std.HashSet Nat) x =>
      if acc.2.contains x then acc else (acc.1.push x, acc.2.insert x)) (kept, seen)).1.toList =
      kept.toList ++ (xs.filter (· ∉ kept.toList)).eraseDups := by
  induction xs generalizing kept seen with
  | nil => simp
  | cons x rest ih =>
    rw [List.foldl_cons]
    by_cases hx : seen.contains x = true
    · -- A repeat: nothing changes.
      have hmem : x ∈ kept.toList := (hseen x).1 hx
      rw [if_pos hx, ih kept seen hseen, List.filter_cons_of_neg (by simpa using hmem)]
    · -- A first occurrence: kept, and filtered out of the rest.
      have hmem : x ∉ kept.toList := fun h => hx ((hseen x).2 h)
      have hseen' : ∀ y, (seen.insert x).contains y = true ↔ y ∈ (kept.push x).toList := by
        intro y
        rw [Std.HashSet.contains_insert, Array.toList_push, Bool.or_eq_true, beq_iff_eq, hseen y,
          List.mem_append, List.mem_singleton]
        exact ⟨fun h => h.elim (fun h => .inr h.symm) .inl, fun h => h.elim .inr (fun h => .inl h.symm)⟩
      rw [if_neg hx, ih _ _ hseen', Array.toList_push, List.filter_cons_of_pos (by simpa using hmem),
        List.eraseDups_cons, List.append_assoc, List.singleton_append, List.filter_filter]
      congr 3
      refine List.filter_congr fun y _ => ?_
      simp [and_comm, beq_eq_decide]

theorem firstOccurrences_eq_eraseDups (xs : List Nat) : firstOccurrences xs = xs.eraseDups := by
  have h := foldl_firstOccurrences xs #[] ∅ (by simp)
  simpa [firstOccurrences] using h

theorem nodup_eraseDups {α : Type} [BEq α] [LawfulBEq α] : ∀ xs : List α, xs.eraseDups.Nodup
  | [] => by simp
  | a :: as => by
    rw [List.eraseDups_cons, List.nodup_cons]
    refine ⟨?_, nodup_eraseDups _⟩
    simp [List.mem_eraseDups]
termination_by xs => xs.length
decreasing_by
  simp only [List.length_cons]
  exact Nat.lt_succ_of_le (List.length_filter_le _ _)

theorem eraseDups_eq_self {α : Type} [BEq α] [LawfulBEq α] {xs : List α} (h : xs.Nodup) :
    xs.eraseDups = xs := by
  induction xs with
  | nil => rfl
  | cons a as ih =>
    rw [List.nodup_cons] at h
    have hkeep : as.filter (fun b => !b == a) = as :=
      List.filter_eq_self.2 fun b hb => by
        have : b ≠ a := fun hba => h.1 (hba ▸ hb)
        simpa using this
    rw [List.eraseDups_cons, hkeep, ih h.2]

/-! ## 5. Reading a selection -/

theorem flatten_eq_nil_iff {ps : List (List Char)} {idss : List (List Nat)}
    (h : List.Forall₂ PartMeans ps idss) : idss.flatten = [] ↔ ps = [] := by
  induction h with
  | nil => simp
  | cons hp _ _ => simp [hp.ne_nil]

/-- What reading a selection text gives: every job for a text that asks for all; the first
occurrences of the parts' ids when there are parts and each of them means something; a refusal
otherwise. -/
theorem parse_cases (s : String) :
    (AsksAll s ∧ parse s = .ok .all) ∨
    (¬AsksAll s ∧ textParts s ≠ [] ∧ ∃ idss, List.Forall₂ PartMeans (textParts s) idss ∧
      parse s = .ok (.ids idss.flatten.eraseDups)) ∨
    (¬AsksAll s ∧ ¬(textParts s ≠ [] ∧ ∃ idss, List.Forall₂ PartMeans (textParts s) idss) ∧
      ∃ e, parse s = .error e) := by
  by_cases hall : trim s = "*" ∨ isAllWord (trim s) = true
  · left
    refine ⟨(asksAll_iff s).1 hall, ?_⟩
    simp only [parse, if_pos hall]
    rfl
  right
  have hnot : ¬AsksAll s := fun h => hall ((asksAll_iff s).2 h)
  cases hm : (parts (trim s)).mapM partIds with
  | error e =>
    -- A part that is read as nothing: no list of ids fits the parts.
    right
    refine ⟨hnot, fun ⟨_, idss, hidss⟩ => ?_, e, ?_⟩
    · rw [← mapM_partIds_eq_ok_iff, hm] at hidss
      cases hidss
    · simp [parse, if_neg hall, hm, bind, Except.bind]
  | ok idss =>
    have hidss := (mapM_partIds_eq_ok_iff s idss).1 hm
    cases hf : idss.flatten with
    | nil =>
      -- No part at all: nothing is asked for.
      right
      have hno : textParts s = [] := (flatten_eq_nil_iff hidss).1 hf
      refine ⟨hnot, fun h => h.1 hno, .noJob, ?_⟩
      simp [parse, if_neg hall, hm, bind, Except.bind, hf]
    | cons x xs =>
      left
      have hsome : textParts s ≠ [] := fun h => by
        have := (flatten_eq_nil_iff hidss).2 h
        rw [hf] at this
        cases this
      refine ⟨hnot, hsome, idss, hidss, ?_⟩
      simp [parse, if_neg hall, hm, bind, Except.bind, hf, firstOccurrences_eq_eraseDups]

theorem parse_eq_all_iff (s : String) : parse s = .ok .all ↔ AsksAll s := by
  rcases parse_cases s with ⟨hall, hp⟩ | ⟨hnot, -, idss, -, hp⟩ | ⟨hnot, -, e, hp⟩
  · exact ⟨fun _ => hall, fun _ => hp⟩
  · rw [hp]
    simp [hnot]
  · rw [hp]
    simp [hnot]

theorem parse_eq_ids_iff (s : String) (ids : List Nat) :
    parse s = .ok (.ids ids) ↔ ¬AsksAll s ∧ textParts s ≠ [] ∧
      ∃ idss, List.Forall₂ PartMeans (textParts s) idss ∧ ids = idss.flatten.eraseDups := by
  have hunique : Relator.RightUnique (List.Forall₂ PartMeans) :=
    Relator.RightUnique.forall₂ fun _ _ _ => PartMeans.unique
  rcases parse_cases s with ⟨hall, hp⟩ | ⟨hnot, hsome, idss, hidss, hp⟩ | ⟨hnot, hnone, e, hp⟩
  · rw [hp]
    simp [hall]
  · rw [hp]
    constructor
    · intro h
      cases h
      exact ⟨hnot, hsome, idss, hidss, rfl⟩
    · rintro ⟨-, -, idss', hidss', rfl⟩
      rw [hunique hidss hidss']
  · rw [hp]
    simp only [reduceCtorEq, false_iff, not_and]
    exact fun _ hsome ⟨idss, hidss, _⟩ => hnone ⟨hsome, idss, hidss⟩

theorem parse_eq_error_iff (s : String) :
    (∃ e, parse s = .error e) ↔
      ¬AsksAll s ∧ ¬(textParts s ≠ [] ∧ ∃ idss, List.Forall₂ PartMeans (textParts s) idss) := by
  rcases parse_cases s with ⟨hall, hp⟩ | ⟨hnot, hsome, idss, hidss, hp⟩ | ⟨hnot, hnone, e, hp⟩
  · simp [hp, hall]
  · simp only [hp, reduceCtorEq, exists_false, false_iff, not_and]
    exact fun _ h => h hsome ⟨idss, hidss⟩
  · exact ⟨fun _ => ⟨hnot, hnone⟩, fun _ => ⟨e, hp⟩⟩

/-- The ids of a selection are never empty and never repeat. -/
theorem ids_ne_nil_nodup {s : String} {ids : List Nat} (h : parse s = .ok (.ids ids)) :
    ids ≠ [] ∧ ids.Nodup := by
  obtain ⟨-, hsome, idss, hidss, rfl⟩ := (parse_eq_ids_iff s ids).1 h
  refine ⟨?_, nodup_eraseDups _⟩
  obtain ⟨x, xs, hf⟩ := List.exists_cons_of_ne_nil (mt (flatten_eq_nil_iff hidss).1 hsome)
  rw [hf, List.eraseDups_cons]
  exact List.cons_ne_nil _ _

/-! ## 6. Ids and ranges written in decimal -/

theorem isBlank_of_isDigit {c : Char} (h : c.isDigit = true) : isBlank c = false := by
  simp only [Char.isDigit, Bool.and_eq_true, decide_eq_true_eq] at h
  have h1 : 48 ≤ c.toNat ∧ c.toNat ≤ 57 := by
    simp only [Char.toNat, UInt32.le_iff_toNat_le] at h ⊢
    exact ⟨h.1, h.2⟩
  simp only [isBlank]
  grind

theorem dropWhile_of_forall_not {p : Char → Bool} {cs : List Char}
    (h : ∀ c ∈ cs, p c = false) : cs.dropWhile p = cs := by
  cases cs with
  | nil => rfl
  | cons c rest => exact List.dropWhile_cons_of_neg (by simp [h c List.mem_cons_self])

theorem trimList_eq_self {cs : List Char} (h : ∀ c ∈ cs, isBlank c = false) : trimList cs = cs := by
  rw [trimList, dropWhile_of_forall_not h,
    dropWhile_of_forall_not (fun c hc => h c (List.mem_reverse.mp hc)), List.reverse_reverse]

theorem toList_toString (n : Nat) : (toString n).toList = Nat.toDigits 10 n := by
  simp [Nat.toString_eq_repr, Nat.toList_repr]

theorem isDigit_of_mem_toDigits {n : Nat} {c : Char} (h : c ∈ Nat.toDigits 10 n) :
    c.isDigit = true :=
  Nat.isDigit_of_mem_toDigits (by decide) (by decide) h

theorem idNumeral_toDigits {n : Nat} (h : n ≤ u32Max) : IdNumeral (Nat.toDigits 10 n) n := by
  refine ⟨_, .inl rfl, Nat.toDigits_ne_nil, fun c hc => isDigit_of_mem_toDigits hc,
    Nat.ofDigitChars_ten_toDigits, h⟩

theorem dash_not_mem_toDigits (n : Nat) : '-' ∉ Nat.toDigits 10 n := fun h => by
  have := isDigit_of_mem_toDigits h
  simp at this

/-- A text made of digits, separators and dashes asks for no job in particular. -/
theorem not_asksAll_of_forall {s : String}
    (h : ∀ c ∈ trimList s.toList, c.isDigit = true ∨ c = ';' ∨ c = '-') : ¬AsksAll s := by
  rintro (hstar | ⟨a, l, l', hs, ha, -, -⟩)
  · have hc := h '*' (by simp [hstar])
    revert hc
    decide
  · have hc := h a (by simp [hs])
    revert hc
    rcases ha with rfl | rfl <;> decide

theorem isSeparator_of_isDigit {c : Char} (h : c.isDigit = true) : isSeparator c = false := by
  simp only [isSeparator, Bool.or_eq_false_iff, beq_eq_false_iff_ne]
  constructor <;> rintro rfl <;> simp at h

theorem partMeans_toDigits {n : Nat} (h : n ≤ u32Max) : PartMeans (Nat.toDigits 10 n) [n] := by
  refine .inl ⟨dash_not_mem_toDigits n, n, ?_, rfl⟩
  rw [trimList_eq_self fun c hc => isBlank_of_isDigit (isDigit_of_mem_toDigits hc)]
  exact idNumeral_toDigits h

/-- Every character of pieces joined by a separator is the separator or a character of a piece. -/
theorem forall_mem_intercalate {P : Char → Prop} {sep : Char} (hsep : P sep) :
    ∀ {ls : List (List Char)}, (∀ l ∈ ls, ∀ c ∈ l, P c) → ∀ c ∈ [sep].intercalate ls, P c
  | [], _ => by simp
  | [l], hls => by
    rw [List.intercalate_singleton]
    exact hls l List.mem_cons_self
  | l :: l' :: rest, hls => by
    rw [List.intercalate_cons_cons]
    intro c hc
    rcases List.mem_append.mp hc with hc | hc
    · rcases List.mem_append.mp hc with hc | hc
      · exact hls l List.mem_cons_self c hc
      · rw [List.mem_singleton.mp hc]
        exact hsep
    · exact forall_mem_intercalate hsep (fun l hl => hls l (List.mem_cons_of_mem _ hl)) c hc

/-- Cutting pieces joined by a separator that none of them holds gives the pieces back. -/
theorem splitOnP_intercalate {p : Char → Bool} {sep : Char} (hsep : p sep = true) :
    ∀ {ls : List (List Char)}, ls ≠ [] → (∀ l ∈ ls, ∀ c ∈ l, p c = false) →
      ([sep].intercalate ls).splitOnP p = ls
  | [], hne, _ => absurd rfl hne
  | [l], _, hls => by
    rw [List.intercalate_singleton]
    exact List.splitOnP_eq_singleton (hls l List.mem_cons_self)
  | l :: l' :: rest, _, hls => by
    rw [List.intercalate_cons_cons, List.append_assoc, List.singleton_append,
      List.splitOnP_append_cons_of_forall_mem (hls l List.mem_cons_self) sep hsep,
      splitOnP_intercalate hsep (List.cons_ne_nil _ _) fun l hl => hls l (List.mem_cons_of_mem _ hl)]

/-- Distinct ids written in decimal and joined by `;` read back as themselves, in order. -/
theorem parse_joined_decimals (L : List Nat) (hne : L ≠ []) (hnd : L.Nodup)
    (hmax : ∀ n ∈ L, n ≤ u32Max) :
    parse (String.intercalate ";" (L.map toString)) = .ok (.ids L) := by
  have hdigits : ∀ l ∈ L.map (Nat.toDigits 10), ∀ c ∈ l, c.isDigit = true := by
    simp only [List.mem_map]
    rintro l ⟨n, -, rfl⟩ c hc
    exact isDigit_of_mem_toDigits hc
  have htext : (String.intercalate ";" (L.map toString)).toList =
      [';'].intercalate (L.map (Nat.toDigits 10)) := by
    rw [String.toList_intercalate, List.map_map]
    exact congrArg _ (List.map_congr_left fun n _ => toList_toString n)
  have hchars : ∀ c ∈ [';'].intercalate (L.map (Nat.toDigits 10)), c.isDigit = true ∨ c = ';' :=
    forall_mem_intercalate (.inr rfl) fun l hl c hc => .inl (hdigits l hl c hc)
  have htrim : trimList (String.intercalate ";" (L.map toString)).toList =
      [';'].intercalate (L.map (Nat.toDigits 10)) := by
    rw [htext]
    exact trimList_eq_self fun c hc => (hchars c hc).elim isBlank_of_isDigit (by rintro rfl; decide)
  have hparts : textParts (String.intercalate ";" (L.map toString)) = L.map (Nat.toDigits 10) := by
    rw [textParts, htrim, splitOnP_intercalate (by decide) (by simpa using hne)
      fun l hl c hc => isSeparator_of_isDigit (hdigits l hl c hc)]
    rw [List.map_congr_left fun l hl => trimList_eq_self fun c hc =>
      isBlank_of_isDigit (hdigits l hl c hc)]
    rw [List.map_id', List.filter_eq_self]
    simp only [List.mem_map]
    rintro l ⟨n, -, rfl⟩
    simp [Nat.toDigits_ne_nil]
  rw [parse_eq_ids_iff]
  refine ⟨not_asksAll_of_forall fun c hc => ?_, ?_, L.map fun n => [n], ?_, ?_⟩
  · rw [htrim] at hc
    rcases hchars c hc with h | h
    · exact .inl h
    · exact .inr (.inl h)
  · rw [hparts]
    simpa using hne
  · rw [hparts, List.forall₂_map_left_iff, List.forall₂_map_right_iff, List.forall₂_same]
    exact fun n hn => partMeans_toDigits (hmax n hn)
  · rw [← List.flatMap_def, List.flatMap_singleton', eraseDups_eq_self hnd]

/-- A range `a-b` written in decimal, with `a ≤ b`, reads back as the ids from `a` to `b`. -/
theorem parse_decimal_range (a b : Nat) (hab : a ≤ b) (hb : b ≤ u32Max) :
    parse (toString a ++ "-" ++ toString b) = .ok (.ids (List.range' a (b + 1 - a))) := by
  have htext : (toString a ++ "-" ++ toString b).toList =
      Nat.toDigits 10 a ++ '-' :: Nat.toDigits 10 b := by
    simp only [String.toList_append, toList_toString, List.append_assoc]
    rfl
  have hchars : ∀ c ∈ Nat.toDigits 10 a ++ '-' :: Nat.toDigits 10 b, c.isDigit = true ∨ c = '-' := by
    intro c hc
    rcases List.mem_append.mp hc with hc | hc
    · exact .inl (isDigit_of_mem_toDigits hc)
    · rcases List.mem_cons.mp hc with rfl | hc
      · exact .inr rfl
      · exact .inl (isDigit_of_mem_toDigits hc)
  have hblank : ∀ c ∈ Nat.toDigits 10 a ++ '-' :: Nat.toDigits 10 b, isBlank c = false :=
    fun c hc => (hchars c hc).elim isBlank_of_isDigit (by rintro rfl; decide)
  have htrim : trimList (toString a ++ "-" ++ toString b).toList =
      Nat.toDigits 10 a ++ '-' :: Nat.toDigits 10 b := by
    rw [htext, trimList_eq_self hblank]
  have hparts : textParts (toString a ++ "-" ++ toString b) =
      [Nat.toDigits 10 a ++ '-' :: Nat.toDigits 10 b] := by
    rw [textParts, htrim, List.splitOnP_eq_singleton fun c hc =>
      (hchars c hc).elim isSeparator_of_isDigit (by rintro rfl; decide)]
    simp [trimList_eq_self hblank]
  have hbound (n : Nat) (hn : n ≤ u32Max) : IdNumeral (trimList (Nat.toDigits 10 n)) n := by
    rw [trimList_eq_self fun c hc => isBlank_of_isDigit (isDigit_of_mem_toDigits hc)]
    exact idNumeral_toDigits hn
  rw [parse_eq_ids_iff]
  refine ⟨not_asksAll_of_forall fun c hc => ?_, by rw [hparts]; exact List.cons_ne_nil _ _,
    [List.range' a (b + 1 - a)], ?_, ?_⟩
  · rw [htrim] at hc
    rcases hchars c hc with h | h
    · exact .inl h
    · exact .inr (.inr h)
  · rw [hparts]
    exact .cons (.inr ⟨_, _, a, b, rfl, dash_not_mem_toDigits a, hbound a (by omega), hbound b hb,
      hab, rfl⟩) .nil
  · simp [eraseDups_eq_self List.nodup_range']

/-! ## 7. The selection grammar -/

/-- Reading a selection text follows its grammar: it asks for every job exactly when the trimmed
text is `*` or `all` in any ASCII case; otherwise it gives ids exactly when there are parts and
each of them means something, the parts' ids in order with each id kept at its first occurrence
only, so never none and never twice; and it refuses every other text. So distinct ids written in
decimal and joined by `;` read back as themselves, and a range `a-b` with `a ≤ b` as the ids from
`a` to `b`. -/
theorem selections_read_as_their_grammar_says :
    (∀ s, parse s = .ok .all ↔ AsksAll s) ∧
    (∀ s ids, parse s = .ok (.ids ids) ↔ ¬AsksAll s ∧ textParts s ≠ [] ∧
      ∃ idss, List.Forall₂ PartMeans (textParts s) idss ∧ ids = idss.flatten.eraseDups) ∧
    (∀ s ids, parse s = .ok (.ids ids) → ids ≠ [] ∧ ids.Nodup) ∧
    (∀ s, (∃ e, parse s = .error e) ↔
      ¬AsksAll s ∧ ¬(textParts s ≠ [] ∧ ∃ idss, List.Forall₂ PartMeans (textParts s) idss)) ∧
    (∀ L : List Nat, L ≠ [] → L.Nodup → (∀ n ∈ L, n ≤ u32Max) →
      parse (String.intercalate ";" (L.map toString)) = .ok (.ids L)) ∧
    (∀ a b, a ≤ b → b ≤ u32Max →
      parse (toString a ++ "-" ++ toString b) = .ok (.ids (List.range' a (b + 1 - a)))) :=
  ⟨parse_eq_all_iff, parse_eq_ids_iff, fun _ _ => ids_ne_nil_nodup, parse_eq_error_iff,
    parse_joined_decimals, parse_decimal_range⟩

end Safekeep.Selection
