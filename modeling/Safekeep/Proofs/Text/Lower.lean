import Safekeep.Text.Lower
import Safekeep.Text.Blank
import Mathlib

/-!
# Lower case is a normal form

Lower-casing a text twice gives what lower-casing it once gives (`Text.lower_lower`): every
character it writes is one that it leaves as it is, wherever it stands (`Text.Settled`). Nor does
it write a blank or a dot for a character that was neither (`Text.mem_lowerAt`), so a text whose
first or last character is neither keeps that property once lower-cased.

Both rest on one fact about the case table, checked run against run (`Text.table_settled`): no
lower-case form that a run gives is covered by any run, and none is a blank, a dot, the capital
I with dot above or the capital sigma.
-/

namespace Safekeep.Text

/-! ## 1. The case table -/

namespace CaseRun

def covers (r : CaseRun) (n : Nat) : Bool :=
  r.lo ≤ n && n ≤ r.hi && (n - r.lo) % r.step == 0

def count (r : CaseRun) : Nat := (r.hi - r.lo) / r.step + 1

def image (r : CaseRun) (k : Nat) : Nat := Int.toNat (((r.lo + k * r.step : Nat) : Int) + r.shift)

/-- Whether run `r'` covers none of the lower-case forms that run `r` gives: they all lie below it
or above it, or it covers none of them, taken one by one. -/
def missesImages (r r' : CaseRun) : Bool :=
  Int.toNat (r.hi + r.shift) < r'.lo || r'.hi < Int.toNat (r.lo + r.shift) ||
    (List.range r.count).all fun k => !r'.covers (r.image k)

/-- A code point of a character that is neither blank nor a dot, nor one of the two capitals with
a rule of their own. -/
def plainCode (m : Nat) : Bool :=
  decide m.isValidChar && m != 0x130 && m != 0x3A3 && !isBlank (Char.ofNat m) && m != 0x2E

theorem covers_iff {r : CaseRun} {n : Nat} :
    r.covers n = true ↔ r.lo ≤ n ∧ n ≤ r.hi ∧ (n - r.lo) % r.step = 0 := by
  simp [covers, and_assoc]

theorem eq_image_of_covers {r : CaseRun} {n : Nat} (h : r.covers n = true) :
    ∃ k < r.count, Int.toNat ((n : Int) + r.shift) = r.image k := by
  obtain ⟨hlo, hhi, hmod⟩ := covers_iff.mp h
  refine ⟨(n - r.lo) / r.step, Nat.lt_succ_of_le (Nat.div_le_div_right (by omega)), ?_⟩
  have hn : r.lo + (n - r.lo) / r.step * r.step = n := by
    have := Nat.div_add_mod (n - r.lo) r.step
    rw [hmod, Nat.add_zero, Nat.mul_comm] at this
    omega
  rw [image, hn]

end CaseRun

/-- The lower-case forms of the table, checked run against run: each run's forms are plain code
points that no run covers. The check takes the bounds of the forms first, so that only runs whose
range meets them are looked at point by point. -/
theorem table_settled : (lowerRuns.all fun r => lowerRuns.all r.missesImages &&
    (List.range r.count).all fun k => CaseRun.plainCode (r.image k)) = true := by
  decide +kernel

/-- The table gives a code point its lower case by the first run that covers it. -/
theorem lowerCode?_eq_some {n m : Nat} (h : lowerCode? n = some m) :
    ∃ r ∈ lowerRuns, r.covers n = true ∧ m = Int.toNat ((n : Int) + r.shift) := by
  unfold lowerCode? at h
  split at h
  · rename_i r hr
    cases h
    have hc := List.find?_some hr
    exact ⟨r, List.mem_of_find?_eq_some hr, hc, rfl⟩
  · cases h

theorem lowerCode?_eq_none {m : Nat} :
    lowerCode? m = none ↔ ∀ r ∈ lowerRuns, r.covers m = false := by
  unfold lowerCode?
  split
  · rename_i r hr
    simp only [reduceCtorEq, false_iff, not_forall]
    have hc := List.find?_some hr
    have hcov : r.covers m = true := hc
    exact ⟨r, List.mem_of_find?_eq_some hr, by simp [hcov]⟩
  · rename_i hr
    simp only [true_iff]
    intro r hmem
    exact Bool.eq_false_iff.mpr (List.find?_eq_none.mp hr r hmem)

/-- A lower-case form that the table gives is covered by no run and is a plain code point. -/
theorem lowerCode?_lowerCode? {n m : Nat} (h : lowerCode? n = some m) :
    lowerCode? m = none ∧ CaseRun.plainCode m = true := by
  obtain ⟨r, hr, hc, rfl⟩ := lowerCode?_eq_some h
  obtain ⟨k, hk, hm⟩ := CaseRun.eq_image_of_covers hc
  have htable := List.all_eq_true.mp table_settled r hr
  simp only [Bool.and_eq_true, List.all_eq_true, List.mem_range] at htable
  obtain ⟨hmiss, hplain⟩ := htable
  refine ⟨lowerCode?_eq_none.mpr fun r' hr' => ?_, hm ▸ hplain k hk⟩
  obtain ⟨hlo, hhi, -⟩ := CaseRun.covers_iff.mp hc
  -- the form lies between the forms of the run's two ends
  have hbelow : Int.toNat ((n : Int) + r.shift) ≤ Int.toNat (r.hi + r.shift) :=
    Int.toNat_le_toNat (by omega)
  have habove : Int.toNat (r.lo + r.shift) ≤ Int.toNat ((n : Int) + r.shift) :=
    Int.toNat_le_toNat (by omega)
  have hmr := hmiss r' hr'
  simp only [CaseRun.missesImages, Bool.or_eq_true, decide_eq_true_eq, List.all_eq_true,
    List.mem_range, Bool.not_eq_true'] at hmr
  rcases hmr with (hlt | hgt) | hpts
  · simp [CaseRun.covers]
    omega
  · simp [CaseRun.covers]
    omega
  · rw [hm]
    exact hpts k hk

/-! ## 2. Characters that lower-casing leaves alone -/

/-- A character that lower-casing leaves as it is, wherever it stands: no run covers it, and it is
neither the capital I with dot above nor the capital sigma. -/
def Settled (c : Char) : Prop :=
  lowerCode? c.toNat = none ∧ c.toNat ≠ 0x130 ∧ c.toNat ≠ 0x3A3

instance (c : Char) : Decidable (Settled c) := inferInstanceAs (Decidable (_ ∧ _ ∧ _))

def Plain (c : Char) : Prop := isBlank c = false ∧ c ≠ '.'

instance (c : Char) : Decidable (Plain c) := inferInstanceAs (Decidable (_ ∧ _))

theorem settled_plain_of_plainCode {m : Nat} (hm : lowerCode? m = none)
    (hp : CaseRun.plainCode m = true) : Settled (Char.ofNat m) ∧ Plain (Char.ofNat m) := by
  simp only [CaseRun.plainCode, Bool.and_eq_true, decide_eq_true_eq, bne_iff_ne, ne_eq,
    Bool.not_eq_true'] at hp
  obtain ⟨⟨⟨⟨hvalid, h130⟩, h3A3⟩, hblank⟩, hdot⟩ := hp
  have hto : (Char.ofNat m).toNat = m := by simp [Char.toNat_ofNat, hvalid]
  refine ⟨⟨by rw [hto]; exact hm, by rw [hto]; exact h130, by rw [hto]; exact h3A3⟩, hblank,
    ?_⟩
  intro hc
  apply hdot
  rw [← hto, hc]
  rfl

/-- What lower-casing writes for `c`, with `before` the characters before it, nearest first, and
`rest` those after it. -/
def lowerAt (before : List Char) (c : Char) (rest : List Char) : List Char :=
  if c.toNat = 0x3A3 then
    if casedAfterIgnorable before && !casedAfterIgnorable rest then [Char.ofNat 0x3C2]
    else [Char.ofNat 0x3C3]
  else lowerChar c

theorem lowerList_cons (before : List Char) (c : Char) (rest : List Char) :
    lowerList before (c :: rest) = lowerAt before c rest ++ lowerList (c :: before) rest := rfl

theorem lowerAt_of_settled {c : Char} (hc : Settled c) (before rest : List Char) :
    lowerAt before c rest = [c] := by
  obtain ⟨hnone, h130, h3A3⟩ := hc
  simp [lowerAt, lowerChar, h3A3, h130, hnone]

/-- Lower-casing writes settled characters only, and each is the character it lower-cases or is
neither blank nor a dot. -/
theorem mem_lowerAt {before rest : List Char} {c x : Char} (hx : x ∈ lowerAt before c rest) :
    Settled x ∧ (x = c ∨ Plain x) := by
  unfold lowerAt at hx
  split_ifs at hx with h3A3 hfinal
  · -- the final sigma
    rw [List.mem_singleton.mp hx]
    exact ⟨by decide, Or.inr (by decide)⟩
  · rw [List.mem_singleton.mp hx]
    exact ⟨by decide, Or.inr (by decide)⟩
  · unfold lowerChar at hx
    split_ifs at hx with h130
    · -- the capital I with dot above becomes an `i` and a combining dot
      rcases List.mem_pair.mp hx with rfl | rfl
      · exact ⟨by decide, Or.inr (by decide)⟩
      · exact ⟨by decide, Or.inr (by decide)⟩
    · split at hx
      · rename_i m hm
        rw [List.mem_singleton.mp hx]
        obtain ⟨hnone, hplain⟩ := lowerCode?_lowerCode? hm
        have := settled_plain_of_plainCode hnone hplain
        exact ⟨this.1, Or.inr this.2⟩
      · rename_i hnone
        rw [List.mem_singleton.mp hx]
        exact ⟨⟨hnone, h130, h3A3⟩, Or.inl rfl⟩

theorem lowerAt_ne_nil (before : List Char) (c : Char) (rest : List Char) :
    lowerAt before c rest ≠ [] := by
  unfold lowerAt lowerChar
  split_ifs <;> try simp
  split <;> simp

/-! ## 3. Lower-casing a text -/

/-- A text of settled characters is its own lower case. -/
theorem lowerList_of_settled {cs : List Char} (h : ∀ c ∈ cs, Settled c) (before : List Char) :
    lowerList before cs = cs := by
  induction cs generalizing before with
  | nil => rfl
  | cons c rest ih =>
    rw [lowerList_cons, lowerAt_of_settled (h c List.mem_cons_self),
      ih (fun x hx => h x (List.mem_cons_of_mem c hx))]
    rfl

theorem settled_of_mem_lowerList {before cs : List Char} {x : Char}
    (hx : x ∈ lowerList before cs) : Settled x := by
  induction cs generalizing before with
  | nil => cases hx
  | cons c rest ih =>
    rw [lowerList_cons] at hx
    rcases List.mem_append.mp hx with hx | hx
    · exact (mem_lowerAt hx).1
    · exact ih hx

theorem lower_lower (s : String) : lower (lower s) = lower s := by
  rw [lower, lower, String.toList_ofList,
    lowerList_of_settled (fun x hx => settled_of_mem_lowerList hx)]

example : lower "ΣΑΣ" = "σας" ∧ lower "σας" = "σας" := by decide +kernel

theorem lowerList_ne_nil {before cs : List Char} (h : cs ≠ []) : lowerList before cs ≠ [] := by
  cases cs with
  | nil => exact absurd rfl h
  | cons c rest =>
    rw [lowerList_cons]
    exact List.append_ne_nil_of_left_ne_nil (lowerAt_ne_nil before c rest) _

/-- The first character written is the first one read or is neither blank nor a dot. -/
theorem head_lowerList {before cs : List Char} {x : Char}
    (hx : x ∈ (lowerList before cs).head?) : ∃ c ∈ cs.head?, x = c ∨ Plain x := by
  cases cs with
  | nil => cases hx
  | cons c rest =>
    rw [lowerList_cons, List.head?_append, List.head?_eq_some_head (lowerAt_ne_nil before c rest),
      Option.some_or, Option.mem_some_iff] at hx
    subst hx
    exact ⟨c, rfl, (mem_lowerAt (List.head_mem _)).2⟩

/-- The last character written is the last one read or is neither blank nor a dot. -/
theorem getLast_lowerList {before cs : List Char} {x : Char}
    (hx : x ∈ (lowerList before cs).getLast?) : ∃ c ∈ cs.getLast?, x = c ∨ Plain x := by
  induction cs generalizing before with
  | nil => cases hx
  | cons c rest ih =>
    rw [lowerList_cons, List.getLast?_append] at hx
    cases rest with
    | nil =>
      -- the last character read: what it is lower-cased to ends the text
      simp only [lowerList, List.getLast?_nil, Option.none_or] at hx
      exact ⟨c, rfl, (mem_lowerAt (List.mem_of_getLast? hx)).2⟩
    | cons c' rest' =>
      have hne := @lowerList_ne_nil (c :: before) _ (List.cons_ne_nil c' rest')
      rw [List.getLast?_eq_some_getLast hne, Option.some_or] at hx
      obtain ⟨d, hd, hxd⟩ := ih (by rw [List.getLast?_eq_some_getLast hne]; exact hx)
      exact ⟨d, by simpa [List.getLast?_cons_cons] using hd, hxd⟩

end Safekeep.Text
