import Safekeep.Seal
import Mathlib

/-!
# The encryption tool's arguments

The tool gets its arguments from the template: the template is cut at blanks, and in each piece
every `\x7bfile\x7d` is replaced by the file's path; a template with no piece gives the path alone.

Two facts carry the statement. The words of a text are the non-empty pieces of the text cut at
every blank (`Text.wordList_eq`), so the pieces are fixed by the template alone and a blank in the
path cannot cut an argument. And replacing a pattern joins the pieces of the text between its
occurrences, found left to right, with the replacement (`Text.replace_eq_intercalate`): the
replacement goes in whole and is never searched again. A cut of a text at a pattern is given by
its pieces (`Text.IsCut`); for a pattern whose occurrences cannot overlap, such as the
placeholder, a text has only one cut (`Text.IsCut.unique`), so the argument is fixed.

Main statement: `tool_arguments_follow_the_template`.
-/

namespace Safekeep.Text

/-! ## 1. Words are the text cut at blanks -/

theorem wordsFrom_eq (cur cs : List Char) (hc : ∀ c ∈ cur, isBlank c = false) :
    wordsFrom cur cs = ((cur.reverse ++ cs).splitOnP isBlank).filter (· ≠ []) := by
  -- `cur` is the word read so far, reversed: it joins the pieces at the front of the rest
  induction cs generalizing cur with
  | nil =>
    have hrev : ∀ c ∈ cur.reverse, isBlank c = false := fun c h => hc c (List.mem_reverse.1 h)
    rw [wordsFrom, List.append_nil, List.splitOnP_eq_singleton hrev]
    by_cases he : cur = [] <;> simp [he]
  | cons d rest ih =>
    rw [wordsFrom]
    by_cases hd : isBlank d = true
    · have hrev : ∀ c ∈ cur.reverse, isBlank c = false := fun c h => hc c (List.mem_reverse.1 h)
      rw [if_pos hd, List.splitOnP_append_cons _ _ hd, List.splitOnP_eq_singleton hrev,
        List.filter_append, ih [] (by simp)]
      by_cases he : cur = [] <;> simp [he]
    · rw [if_neg hd, ih (d :: cur) ?_]
      · simp
      · intro c hc'
        rcases List.mem_cons.1 hc' with rfl | hc'
        · simpa using hd
        · exact hc c hc'

theorem wordList_eq (cs : List Char) : wordList cs = (cs.splitOnP isBlank).filter (· ≠ []) := by
  simpa [wordList] using wordsFrom_eq [] cs (by simp)

theorem wordsFrom_eq_nil_iff (cur cs : List Char) :
    wordsFrom cur cs = [] ↔ cur = [] ∧ ∀ c ∈ cs, isBlank c = true := by
  induction cs generalizing cur with
  | nil => by_cases he : cur = [] <;> simp [wordsFrom, he]
  | cons d rest ih =>
    by_cases hd : isBlank d = true <;> by_cases he : cur = [] <;> simp [wordsFrom, hd, he, ih]

theorem wordList_eq_nil_iff (cs : List Char) :
    wordList cs = [] ↔ ∀ c ∈ cs, isBlank c = true := by
  simpa [wordList] using wordsFrom_eq_nil_iff [] cs

/-! ## 2. Cutting a text at a pattern -/

/-- The list `pieces` cuts `w` at the occurrences of `pat`: there is at least one piece, joined by
`pat` the pieces give `w` back, and no piece holds `pat`. -/
def IsCut (pat w : String) (pieces : List String) : Prop :=
  pieces ≠ [] ∧ pat.intercalate pieces = w ∧ ∀ a ∈ pieces, ¬ pat.toList <:+: a.toList

def Unbordered (pat : List Char) : Prop := ∀ k < pat.length, 0 < k → ¬ pat.drop k <+: pat

instance (pat : List Char) : Decidable (Unbordered pat) :=
  inferInstanceAs (Decidable (∀ k < pat.length, 0 < k → ¬ pat.drop k <+: pat))

theorem unbordered_placeholder : Unbordered "{file}".toList := by decide

section Unique

variable {pat : List Char}

/-- With an unbordered pattern, an occurrence that starts `x` characters later than another, inside
the piece before it, would put the pattern inside that piece. -/
theorem false_of_overlap (hb : Unbordered pat) {a x X Y : List Char} (hx : x ≠ [])
    (hax : ¬ pat <:+: a ++ x) (h : pat ++ X = x ++ (pat ++ Y)) : False := by
  by_cases hlen : pat.length ≤ x.length
  · -- the pattern lies inside `x`
    have hpx : pat <+: x := List.prefix_of_prefix_length_le ⟨X, h⟩ ⟨pat ++ Y, rfl⟩ hlen
    exact hax (hpx.isInfix.trans (List.suffix_append a x).isInfix)
  · -- `x` starts the pattern, and the rest `y` of the pattern starts it again: a border
    have hxp : x <+: pat := List.prefix_of_prefix_length_le ⟨pat ++ Y, rfl⟩ ⟨X, h⟩ (by omega)
    obtain ⟨y, rfl⟩ := hxp
    have hy : y ++ X = x ++ y ++ Y := by
      simpa [List.append_assoc] using h
    have hyp : y <+: x ++ y := List.prefix_of_prefix_length_le ⟨X, hy⟩ ⟨Y, rfl⟩ (by simp)
    have hk : x.length < (x ++ y).length := by
      simp only [List.length_append] at hlen ⊢
      omega
    exact hb x.length hk (List.length_pos_iff.2 hx) (by simpa using hyp)

theorem eq_of_heads (hb : Unbordered pat) {a b X Y : List Char} (ha : ¬ pat <:+: a)
    (hb' : ¬ pat <:+: b) (h : a ++ pat ++ X = b ++ pat ++ Y) : a = b ∧ X = Y := by
  simp only [List.append_assoc] at h
  rcases List.append_eq_append_iff.1 h with ⟨x, rfl, hx⟩ | ⟨x, rfl, hx⟩
  · by_cases hne : x = []
    · subst hne
      simpa using hx
    · exact (false_of_overlap hb hne hb' hx).elim
  · by_cases hne : x = []
    · subst hne
      simpa [eq_comm] using hx
    · exact (false_of_overlap hb hne ha hx).elim

/-- Over an unbordered pattern, the pieces of a cut are fixed by what they join to. -/
theorem intercalate_inj (hb : Unbordered pat) :
    ∀ {P Q : List (List Char)}, P ≠ [] → Q ≠ [] → (∀ a ∈ P, ¬ pat <:+: a) →
      (∀ b ∈ Q, ¬ pat <:+: b) → pat.intercalate P = pat.intercalate Q → P = Q
  | [a], [b], _, _, _, _, h => by simpa using h
  | [a], b :: b' :: Q, _, _, hP, _, h => by
    rw [List.intercalate_singleton, List.intercalate_cons_cons] at h
    exact absurd ⟨b, pat.intercalate (b' :: Q), h.symm⟩ (hP a (by simp))
  | a :: a' :: P, [b], _, _, _, hQ, h => by
    rw [List.intercalate_singleton, List.intercalate_cons_cons] at h
    exact absurd ⟨a, pat.intercalate (a' :: P), h⟩ (hQ b (by simp))
  | a :: a' :: P, b :: b' :: Q, _, _, hP, hQ, h => by
    rw [List.intercalate_cons_cons, List.intercalate_cons_cons] at h
    obtain ⟨rfl, hrest⟩ := eq_of_heads hb (hP a (by simp)) (hQ b (by simp)) h
    rw [intercalate_inj hb (by simp) (by simp) (fun x hx => hP x (List.mem_cons_of_mem _ hx))
      (fun x hx => hQ x (List.mem_cons_of_mem _ hx)) hrest]
  | [], _, hP, _, _, _, _ => absurd rfl hP
  | _ :: _, [], _, hQ, _, _, _ => absurd rfl hQ

end Unique

/-- A text has one cut at an unbordered pattern. -/
theorem IsCut.unique {pat w : String} {P Q : List String} (hb : Unbordered pat.toList)
    (hP : IsCut pat w P) (hQ : IsCut pat w Q) : P = Q := by
  have hjoin : pat.toList.intercalate (P.map String.toList) =
      pat.toList.intercalate (Q.map String.toList) := by
    rw [← String.toList_intercalate, ← String.toList_intercalate, hP.2.1, hQ.2.1]
  have hmap := intercalate_inj hb (by simpa using hP.1) (by simpa using hQ.1)
    (by simpa using hP.2.2) (by simpa using hQ.2.2) hjoin
  exact List.map_injective_iff.2 (fun _ _ h => String.toList_inj.1 h) hmap

/-! ## 3. Replacing a pattern

The library's `String.replace` folds over the steps of a left-to-right search for the pattern: a
match adds the replacement, a stretch without a match adds itself. The search is valid
(`IsValidSearchFrom`): it takes the first position where the pattern matches, and no match starts
inside a stretch it passes over. The fold is followed through `Splits`, which says where a
position cuts the text. -/

section Replace

open String.Slice.Pattern String.Slice.Pattern.Model

variable {t : String.Slice} {pat r : String}

/-- An occurrence of the pattern inside the stretch from `p` to `q` is a match starting there. -/
theorem matchesAt_of_infix (hpat : pat ≠ "") {p q : t.Pos} {u v w a b : String}
    (hp : p.Splits u (v ++ w)) (hq : q.Splits (u ++ v) w) (hv : v = a ++ pat ++ b) :
    ∃ x : t.Pos, p ≤ x ∧ x < q ∧ MatchesAt pat x := by
  have heq : t.copy = (u ++ a) ++ (pat ++ (b ++ w)) := by
    rw [hp.eq_append, hv]
    simp [String.append_assoc]
  have hx := String.Slice.Pos.splits_ofEqAppend heq
  refine ⟨String.Slice.Pos.ofEqAppend heq, ?_, ?_, ?_⟩
  · exact (hp.le_iff_exists_eq_append hx).2 ⟨a, rfl, by rw [hv]; simp [String.append_assoc]⟩
  · refine (hx.lt_iff_exists_eq_append hq).2 ⟨pat ++ b, ?_, ?_, (String.append_assoc ..).symm⟩
    · exact fun h => hpat (String.append_eq_empty_iff.1 h).1
    · rw [hv]
      simp [String.append_assoc]
  · rw [ForwardStringSearcher.matchesAt_iff_toSlice, ForwardSliceSearcher.matchesAt_iff_splits]
    exact ⟨u ++ a, b ++ w, by simpa using hx⟩

theorem not_infix_of_no_match (hpat : pat ≠ "") {p q : t.Pos} {u v w : String}
    (hp : p.Splits u (v ++ w)) (hq : q.Splits (u ++ v) w)
    (hno : ∀ x, p ≤ x → x < q → ¬ MatchesAt pat x) : ¬ pat.toList <:+: v.toList := by
  rintro ⟨a, b, hab⟩
  have hv : v = String.ofList a ++ pat ++ String.ofList b := by
    rw [← String.toList_inj]
    simpa using hab.symm
  obtain ⟨x, hpx, hxq, hx⟩ := matchesAt_of_infix hpat hp hq hv
  exact hno x hpx hxq hx

/-- The fold of a valid search from `q`. The piece under way started at `p` and holds `v`, with no
match starting in it; the fold of the remaining steps appends the replacement-joined pieces of a
cut of `v` and the text after `q`. -/
theorem foldl_searchSteps (hpat : pat ≠ "") (f : String → SearchStep t → String)
    (hm : ∀ acc a b, f acc (.matched a b) = acc ++ r)
    (hr : ∀ acc a b, f acc (.rejected a b) = acc ++ (t.slice! a b).copy)
    {q : t.Pos} {l : List (SearchStep t)} (hl : IsValidSearchFrom pat q l) :
    ∀ {p : t.Pos} {u v w : String}, p.Splits u (v ++ w) → q.Splits (u ++ v) w →
      (∀ x, p ≤ x → x < q → ¬ MatchesAt pat x) →
      ∃ P, (∀ acc, l.foldl f (acc ++ v) = acc ++ r.intercalate P) ∧ IsCut pat (v ++ w) P := by
  induction hl with
  | endPos =>
    -- the search is over: the piece under way is the last one
    intro p u v w hp hq hno
    have hw : w = "" := hq.eq_right (String.Slice.splits_endPos t)
    subst hw
    refine ⟨[v], fun acc => by simp [String.intercalate_singleton], by simp,
      by simp [String.intercalate_singleton], ?_⟩
    intro a ha
    rw [List.mem_singleton] at ha
    subst ha
    exact not_infix_of_no_match hpat hp hq hno
  | matched hmatch hrest ih =>
    -- a match closes the piece under way and starts an empty one after it
    rename_i l start stop
    intro p u v w hp hq hno
    obtain ⟨t₁, t₂, h1, h2⟩ := ForwardStringSearcher.isLongestMatchAt_iff_splits.1 hmatch
    obtain ⟨rfl, rfl⟩ := h1.eq hq
    obtain ⟨P, hfold, hne, hjoin, hpieces⟩ := ih (p := stop) (u := u ++ v ++ pat) (v := "")
      (w := t₂) (by simpa using h2) (by simpa using h2) (fun x h h' => absurd h' (Std.not_lt.2 h))
    refine ⟨v :: P, fun acc => ?_, by simp, ?_, ?_⟩
    · have hacc := hfold (acc ++ v ++ r)
      simp only [String.append_empty] at hacc
      rw [List.foldl_cons, hm, hacc, String.intercalate_cons_of_ne_nil hne]
      simp only [String.append_assoc]
    · rw [String.intercalate_cons_of_ne_nil hne, hjoin, String.empty_append, String.append_assoc]
    · intro a ha
      rcases List.mem_cons.1 ha with rfl | ha
      · exact not_infix_of_no_match hpat hp hq hno
      · exact hpieces a ha
  | mismatched hlt hnone hrest ih =>
    -- a stretch without a match joins the piece under way
    rename_i l start stop
    intro p u v w hp hq hno
    obtain ⟨y, -, hto, rfl⟩ := (hq.lt_iff_exists_eq_append stop.splits).1 hlt
    have hstop : stop.Splits (u ++ (v ++ y)) (t.sliceFrom stop).copy := by
      have h := stop.splits
      rw [hto] at h
      simpa [String.append_assoc] using h
    have hslice : (t.slice! start stop).copy = y := by
      obtain ⟨h, hcopy⟩ := String.Slice.copy_slice_eq_iff_splits.2
        ⟨u ++ v, (t.sliceFrom stop).copy, hq, by simpa [String.append_assoc] using hstop⟩
      rw [← String.Slice.slice_eq_slice! (h := h), hcopy]
    obtain ⟨P, hfold, hcut⟩ := ih (p := p) (u := u) (v := v ++ y) (w := (t.sliceFrom stop).copy)
      (by simpa [String.append_assoc] using hp) hstop
      (fun x hpx hxs => if h : x < start then hno x hpx h else hnone x (Std.not_lt.1 h) hxs)
    refine ⟨P, fun acc => ?_, by simpa [String.append_assoc] using hcut⟩
    rw [List.foldl_cons, hr, hslice, String.append_assoc, hfold]

theorem exists_cut_foldl (hpat : pat ≠ "") {f : String → SearchStep t → String}
    (hm : ∀ acc a b, f acc (.matched a b) = acc ++ r)
    (hr : ∀ acc a b, f acc (.rejected a b) = acc ++ (t.slice! a b).copy)
    {l : List (SearchStep t)} (hl : IsValidSearchFrom pat t.startPos l) {w : String}
    (hw : t.copy = w) : ∃ P, IsCut pat w P ∧ l.foldl f "" = r.intercalate P := by
  obtain ⟨P, hfold, hcut⟩ := foldl_searchSteps hpat f hm hr hl (p := t.startPos) (u := "")
    (v := "") (w := w) (by simp [← hw]) (by simp [← hw]) (fun x h h' => absurd h' (Std.not_lt.2 h))
  exact ⟨P, by simpa using hcut, by simpa using hfold ""⟩

/-- Replacing a non-empty pattern joins the pieces of a cut of the text with the replacement. -/
theorem replace_eq_intercalate (s : String) (hpat : pat ≠ "") :
    ∃ P, IsCut pat s P ∧ s.replace pat r = r.intercalate P := by
  have hv := (ForwardStringSearcher.lawfulToForwardSearcherModel hpat).isValidSearchFrom_toList
    s.toSlice
  unfold String.replace String.Slice.replace
  rw [← Std.Iter.foldl_toList]
  refine exists_cut_foldl hpat ?_ ?_ hv String.copy_toSlice
  · intro acc a b
    exact congrArg (acc ++ ·) String.copy_toSlice
  · intro acc a b
    rfl

end Replace

end Safekeep.Text

namespace Safekeep

open Safekeep.Text

/-- The tool's arguments. A blank template gives the path alone. Otherwise the template is cut at
blanks into its non-empty pieces, and each argument is its piece with the placeholder replaced by
the path: the piece has one cut at the placeholder, and the argument joins that cut's pieces with
the path. So there are as many arguments as pieces, at least one, whatever the path holds. -/
theorem tool_arguments_follow_the_template (t p : String) :
    ((∀ c ∈ t.toList, isBlank c = true) → renderArgs t p = [p]) ∧
    ((∃ c ∈ t.toList, isBlank c = false) →
      List.Forall₂ (fun w arg => (∃ P, IsCut "{file}" w P) ∧
          ∀ P, IsCut "{file}" w P → arg = p.intercalate P)
        (((t.toList.splitOnP isBlank).filter (· ≠ [])).map String.ofList) (renderArgs t p)) ∧
    (renderArgs t p).length = max 1 ((t.toList.splitOnP isBlank).filter (· ≠ [])).length := by
  have hwords : words t = ((t.toList.splitOnP isBlank).filter (· ≠ [])).map String.ofList := by
    rw [words, wordList_eq]
  have hlen : ((t.toList.splitOnP isBlank).filter (· ≠ [])).length = (words t).length := by
    rw [hwords, List.length_map]
  -- each word becomes the argument that joins its one cut with the path
  have hword : ∀ w, (∃ P, IsCut "{file}" w P) ∧
      ∀ P, IsCut "{file}" w P → w.replace "{file}" p = p.intercalate P := by
    intro w
    obtain ⟨P, hP, hrep⟩ := replace_eq_intercalate (r := p) w (show "{file}" ≠ "" by decide)
    exact ⟨⟨P, hP⟩, fun Q hQ => by rw [hrep, hP.unique unbordered_placeholder hQ]⟩
  rw [← hwords, hlen]
  by_cases hblank : ∀ c ∈ t.toList, isBlank c = true
  · have hnil : words t = [] := by
      rw [words, (wordList_eq_nil_iff _).2 hblank, List.map_nil]
    refine ⟨fun _ => by rw [renderArgs, hnil]; rfl, fun ⟨c, hc, hc'⟩ => ?_, ?_⟩
    · simp [hblank c hc] at hc'
    · rw [renderArgs, hnil]
      rfl
  · have hne : words t ≠ [] := by
      rw [words, ne_eq, List.map_eq_nil_iff, wordList_eq_nil_iff]
      exact hblank
    have hargs : renderArgs t p = (words t).map (·.replace "{file}" p) := by
      unfold renderArgs
      split
      · rename_i h
        exact absurd (List.map_eq_nil_iff.1 h) hne
      · rfl
    refine ⟨fun h => absurd h hblank, fun _ => ?_, ?_⟩
    · rw [hargs, List.forall₂_map_right_iff]
      exact List.forall₂_same.2 fun w _ => ⟨(hword w).1, (hword w).2⟩
    · rw [hargs, List.length_map]
      have := List.length_pos_iff.2 hne
      omega

end Safekeep
