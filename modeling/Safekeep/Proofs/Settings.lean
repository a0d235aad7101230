import Safekeep.Settings
import Safekeep.Proofs.Text.Lower
import Mathlib

/-!
# Normalized settings

Normalizing an extension trims it, strips its leading dots and lower-cases what is left. The
result is lower-case, does not start with a dot and does not end with a blank; it starts with a
blank only when one stood right behind the leading dots of the trimmed extension, where the trim
has already passed (`Settings.blankBehindDots`). Without such a blank the normalized extension is
its own normal form (`Settings.normalizeExtension_normalizeExtension`), and so are the normalized
settings. With one, a second normalization drops the blank, and settings normalized once and
twice answer differently for the same path (`Settings.a_blank_behind_a_dot_is_dropped_later`).

An extension set is kept as a sorted list without repeats (`textSet`); building it again from such
a list gives the list back (`textSet_of_pairwise`).
-/

namespace Safekeep

namespace Text

/-! ## 1. Trimmed texts -/

theorem dropWhile_eq_self_of_head? {p : Char → Bool} {cs : List Char}
    (h : ∀ c ∈ cs.head?, p c = false) : cs.dropWhile p = cs := by
  cases cs with
  | nil => rfl
  | cons c rest => exact List.dropWhile_cons_of_neg (by simp [h c rfl])

/-- The first character left by a `dropWhile` fails its test. -/
theorem not_of_mem_head?_dropWhile {p : Char → Bool} {cs : List Char} {c : Char}
    (hc : c ∈ (cs.dropWhile p).head?) : p c = false := by
  have hne : cs.dropWhile p ≠ [] := by
    rintro h
    rw [h] at hc
    cases hc
  rw [List.head?_eq_some_head hne, Option.mem_some_iff] at hc
  subst hc
  exact List.head_dropWhile_not p hne

theorem trimList_eq_rdropWhile (cs : List Char) :
    trimList cs = (cs.dropWhile isBlank).rdropWhile isBlank := rfl

/-- A trimmed text does not start with a blank. -/
theorem head_trimList {cs : List Char} {c : Char} (hc : c ∈ (trimList cs).head?) :
    isBlank c = false := by
  obtain ⟨t, ht⟩ := List.rdropWhile_prefix isBlank (cs.dropWhile isBlank)
  have hhead : (cs.dropWhile isBlank).head? = some c := by
    rw [← ht, List.head?_append, ← trimList_eq_rdropWhile, Option.mem_def.mp hc]
    rfl
  exact not_of_mem_head?_dropWhile hhead

/-- A trimmed text does not end with a blank. -/
theorem getLast_trimList {cs : List Char} {c : Char} (hc : c ∈ (trimList cs).getLast?) :
    isBlank c = false := by
  rw [trimList_eq_rdropWhile] at hc
  have hne : (cs.dropWhile isBlank).rdropWhile isBlank ≠ [] := by
    rintro h
    rw [h] at hc
    cases hc
  rw [List.getLast?_eq_some_getLast hne, Option.mem_some_iff] at hc
  subst hc
  exact Bool.eq_false_iff.mpr (List.rdropWhile_last_not isBlank _ hne)

theorem trimList_eq_self_of_ends {cs : List Char} (hhead : ∀ c ∈ cs.head?, isBlank c = false)
    (hlast : ∀ c ∈ cs.getLast?, isBlank c = false) : trimList cs = cs := by
  rw [trimList_eq_rdropWhile, dropWhile_eq_self_of_head? hhead, List.rdropWhile_eq_self_iff]
  intro hne
  simp [hlast _ (List.getLast?_eq_some_getLast hne)]

theorem trim_trim (s : String) : trim (trim s) = trim s := by
  rw [trim, trim, String.toList_ofList,
    trimList_eq_self_of_ends (fun _ => head_trimList) (fun _ => getLast_trimList)]

end Text

/-! ## 2. Sets of texts -/

theorem mem_insertSorted {s x : String} {l : List String} :
    x ∈ insertSorted s l ↔ x = s ∨ x ∈ l := by
  induction l with
  | nil => simp [insertSorted]
  | cons t rest ih =>
    unfold insertSorted
    split_ifs with hlt heq
    · simp
    · subst heq
      simp
    · simp only [List.mem_cons, ih]
      tauto

/-- Inserting into a sorted list without repeats keeps it so. -/
theorem pairwise_insertSorted {s : String} {l : List String} (h : l.Pairwise (· < ·)) :
    (insertSorted s l).Pairwise (· < ·) := by
  induction l with
  | nil => exact List.pairwise_singleton _ s
  | cons t rest ih =>
    obtain ⟨ht, hrest⟩ := List.pairwise_cons.mp h
    unfold insertSorted
    split_ifs with hlt heq
    · -- the new text goes first: it is below `t`, so below all that follows `t`
      refine List.Pairwise.cons (fun u hu => ?_) h
      rcases List.mem_cons.mp hu with rfl | hu
      · exact hlt
      · exact lt_trans hlt (ht u hu)
    · exact h
    · -- the new text goes further in, above `t`
      have hgt : t < s := (lt_trichotomy s t).resolve_left hlt |>.resolve_left heq
      refine List.Pairwise.cons (fun u hu => ?_) (ih hrest)
      rcases mem_insertSorted.mp hu with rfl | hu
      · exact hgt
      · exact ht u hu

theorem mem_foldl_insertSorted {x : String} :
    ∀ (xs acc : List String),
      x ∈ xs.foldl (fun acc y => insertSorted y acc) acc ↔ x ∈ acc ∨ x ∈ xs
  | [], acc => by simp
  | y :: ys, acc => by
    rw [List.foldl_cons, mem_foldl_insertSorted ys, mem_insertSorted, List.mem_cons]
    tauto

theorem mem_textSet {x : String} {xs : List String} : x ∈ textSet xs ↔ x ∈ xs := by
  simp [textSet, mem_foldl_insertSorted]

theorem pairwise_textSet (xs : List String) : (textSet xs).Pairwise (· < ·) := by
  suffices ∀ acc : List String, acc.Pairwise (· < ·) →
      (xs.foldl (fun acc y => insertSorted y acc) acc).Pairwise (· < ·) from
    this [] List.Pairwise.nil
  induction xs with
  | nil => exact fun _ h => h
  | cons y ys ih => exact fun acc h => ih _ (pairwise_insertSorted h)

/-- A text above all of a list is inserted at its end. -/
theorem insertSorted_of_lt {s : String} {l : List String} (h : ∀ t ∈ l, t < s) :
    insertSorted s l = l ++ [s] := by
  induction l with
  | nil => rfl
  | cons t rest ih =>
    have hts := h t List.mem_cons_self
    rw [insertSorted, if_neg (lt_asymm hts), if_neg (ne_of_gt hts),
      ih fun u hu => h u (List.mem_cons_of_mem t hu)]
    rfl

/-- Inserting the texts of a list one by one after texts all below them, each above all inserted
before it, puts each at the end. -/
theorem foldl_insertSorted_of_pairwise :
    ∀ (xs acc : List String), (acc ++ xs).Pairwise (· < ·) →
      xs.foldl (fun acc y => insertSorted y acc) acc = acc ++ xs
  | [], acc, _ => by simp
  | y :: ys, acc, h => by
    have hy : ∀ t ∈ acc, t < y :=
      fun t ht => (List.pairwise_append.mp h).2.2 t ht y List.mem_cons_self
    have hrest : (acc ++ [y] ++ ys).Pairwise (· < ·) := by
      rw [List.append_assoc]
      exact h
    rw [List.foldl_cons, insertSorted_of_lt hy, foldl_insertSorted_of_pairwise ys _ hrest,
      List.append_assoc]
    rfl

theorem textSet_of_pairwise {xs : List String} (h : xs.Pairwise (· < ·)) : textSet xs = xs :=
  foldl_insertSorted_of_pairwise xs [] h

namespace Settings

/-! ## 3. One extension -/

def bareExtension (e : String) : List Char := (Text.trim e).toList.dropWhile (· = '.')

theorem normalizeExtension_eq (e : String) :
    normalizeExtension e = String.ofList (Text.lowerList [] (bareExtension e)) := by
  rw [normalizeExtension, Text.lower, String.toList_ofList]
  rfl

/-- Whether a blank stands right behind an extension's leading dots once it is trimmed: the trim
has passed over it, and stripping the dots lays it bare. -/
def blankBehindDots (e : String) : Bool :=
  match bareExtension e with
  | c :: _ => Text.isBlank c
  | [] => false

theorem head_bareExtension {e : String} {c : Char} (hc : c ∈ (bareExtension e).head?) :
    c ≠ '.' := by
  simpa using Text.not_of_mem_head?_dropWhile hc

theorem head_bareExtension_of_blankBehindDots {e : String} (h : blankBehindDots e = false)
    {c : Char} (hc : c ∈ (bareExtension e).head?) : Text.isBlank c = false := by
  unfold blankBehindDots at h
  cases hb : bareExtension e with
  | nil => rw [hb] at hc; cases hc
  | cons d rest =>
    rw [hb] at h hc
    rw [← Option.mem_some_iff.mp hc]
    exact h

/-- What is left of a trimmed extension after its leading dots does not end with a blank. -/
theorem getLast_bareExtension {e : String} {c : Char} (hc : c ∈ (bareExtension e).getLast?) :
    Text.isBlank c = false := by
  obtain ⟨t, ht⟩ := List.dropWhile_suffix (l := (Text.trim e).toList) (· = '.')
  have hlast : c ∈ (Text.trim e).toList.getLast? := by
    rw [← ht, List.getLast?_append, ← bareExtension, Option.mem_def.mp hc]
    rfl
  rw [Text.trim, String.toList_ofList] at hlast
  exact Text.getLast_trimList hlast

theorem head_normalizeExtension {e : String} {c : Char}
    (hc : c ∈ (normalizeExtension e).toList.head?) : c ≠ '.' := by
  rw [normalizeExtension_eq, String.toList_ofList] at hc
  obtain ⟨d, hd, rfl | hplain⟩ := Text.head_lowerList hc
  · exact head_bareExtension hd
  · exact hplain.2

theorem getLast_normalizeExtension {e : String} {c : Char}
    (hc : c ∈ (normalizeExtension e).toList.getLast?) : Text.isBlank c = false := by
  rw [normalizeExtension_eq, String.toList_ofList] at hc
  obtain ⟨d, hd, rfl | hplain⟩ := Text.getLast_lowerList hc
  · exact getLast_bareExtension hd
  · exact hplain.1

/-- Without a blank behind its dots, a normalized extension does not start with a blank either,
so it is its own trim. -/
theorem trim_normalizeExtension {e : String} (h : blankBehindDots e = false) :
    Text.trim (normalizeExtension e) = normalizeExtension e := by
  have hhead : ∀ c ∈ (normalizeExtension e).toList.head?, Text.isBlank c = false := by
    intro c hc
    rw [normalizeExtension_eq, String.toList_ofList] at hc
    obtain ⟨d, hd, rfl | hplain⟩ := Text.head_lowerList hc
    · exact head_bareExtension_of_blankBehindDots h hd
    · exact hplain.1
  rw [Text.trim, Text.trimList_eq_self_of_ends hhead (fun _ => getLast_normalizeExtension),
    String.ofList_toList]

/-- Without a blank behind its dots, a normalized extension is its own normal form: it is trimmed,
has no leading dot left to strip, and is lower-case already. -/
theorem normalizeExtension_normalizeExtension {e : String} (h : blankBehindDots e = false) :
    normalizeExtension (normalizeExtension e) = normalizeExtension e := by
  have hbare : bareExtension (normalizeExtension e) = (normalizeExtension e).toList := by
    rw [bareExtension, trim_normalizeExtension h]
    exact Text.dropWhile_eq_self_of_head? fun c hc => by simpa using head_normalizeExtension hc
  rw [normalizeExtension_eq (normalizeExtension e), hbare, Text.lowerList_of_settled,
    String.ofList_toList]
  intro c hc
  rw [normalizeExtension_eq, String.toList_ofList] at hc
  exact Text.settled_of_mem_lowerList hc

/-! ## 4. Extension sets and settings -/

theorem mem_normalizeSet {xs : List String} {x : String} :
    x ∈ normalizeSet xs ↔ ∃ e ∈ xs, normalizeExtension e = x ∧ x ≠ "" := by
  simp only [normalizeSet, mem_textSet, List.mem_filter, List.mem_map, ne_eq, decide_not,
    Bool.not_eq_eq_eq_not, Bool.not_true, decide_eq_false_iff_not]
  constructor
  · rintro ⟨⟨e, he, rfl⟩, hne⟩
    exact ⟨e, he, rfl, hne⟩
  · rintro ⟨e, he, rfl, hne⟩
    exact ⟨⟨e, he, rfl⟩, hne⟩

/-- Every extension of a normalized set is non-empty and lower-case, does not start with a dot and
does not end with a blank. -/
theorem normal_of_mem_normalizeSet {xs : List String} {x : String} (hx : x ∈ normalizeSet xs) :
    x ≠ "" ∧ Text.lower x = x ∧ x.toList.head? ≠ some '.' ∧
      ∀ c ∈ x.toList.getLast?, Text.isBlank c = false := by
  obtain ⟨e, -, rfl, hne⟩ := mem_normalizeSet.mp hx
  refine ⟨hne, ?_, fun hdot => head_normalizeExtension hdot rfl,
    fun _ => getLast_normalizeExtension⟩
  rw [normalizeExtension, Text.lower_lower]

/-- Without a blank behind the dots of any extension, normalizing a set a second time changes
nothing: each of its extensions is its own normal form, and the set of a sorted list without
repeats is the list. -/
theorem normalizeSet_normalizeSet {xs : List String} (h : ∀ e ∈ xs, blankBehindDots e = false) :
    normalizeSet (normalizeSet xs) = normalizeSet xs := by
  have hfix : ∀ x ∈ normalizeSet xs, normalizeExtension x = x ∧ x ≠ "" := by
    intro x hx
    obtain ⟨e, he, rfl, hne⟩ := mem_normalizeSet.mp hx
    exact ⟨normalizeExtension_normalizeExtension (h e he), hne⟩
  have hmap : (normalizeSet xs).map normalizeExtension = normalizeSet xs := by
    conv_rhs => rw [← List.map_id (normalizeSet xs)]
    exact List.map_congr_left fun x hx => (hfix x hx).1
  have hfilter : (normalizeSet xs).filter (· ≠ "") = normalizeSet xs :=
    List.filter_eq_self.mpr fun x hx => by simpa using (hfix x hx).2
  show textSet (((normalizeSet xs).map normalizeExtension).filter (· ≠ "")) = normalizeSet xs
  rw [hmap, hfilter]
  exact textSet_of_pairwise (pairwise_textSet _)

/-- Normalizing settings a second time changes nothing, as long as no extension has a blank right
behind its leading dots once trimmed. Every extension of the normalized sets is then non-empty,
trimmed and lower-case, and does not start with a dot; the business process name is trimmed. -/
theorem normalizing_settings_twice_changes_nothing (s : Settings)
    (h : ∀ e ∈ s.priorityExtensions ++ s.cryptoExtensions, blankBehindDots e = false) :
    s.normalized.normalized = s.normalized ∧
      (∀ x ∈ s.normalized.priorityExtensions ++ s.normalized.cryptoExtensions,
        x ≠ "" ∧ Text.trim x = x ∧ Text.lower x = x ∧ x.toList.head? ≠ some '.') ∧
      Text.trim s.normalized.businessProcessName = s.normalized.businessProcessName := by
  have hp : ∀ e ∈ s.priorityExtensions, blankBehindDots e = false :=
    fun e he => h e (List.mem_append_left _ he)
  have hc : ∀ e ∈ s.cryptoExtensions, blankBehindDots e = false :=
    fun e he => h e (List.mem_append_right _ he)
  refine ⟨?_, fun x hx => ?_, Text.trim_trim _⟩
  · simp only [normalized, normalizeSet_normalizeSet hp, normalizeSet_normalizeSet hc,
      Text.trim_trim]
  · -- each extension is the normal form of one of the settings' own
    have hfrom : ∃ xs, (∀ e ∈ xs, blankBehindDots e = false) ∧ x ∈ normalizeSet xs := by
      rcases List.mem_append.mp hx with hx | hx
      · exact ⟨_, hp, hx⟩
      · exact ⟨_, hc, hx⟩
    obtain ⟨xs, hxs, hx⟩ := hfrom
    obtain ⟨hne, hlow, hdot, -⟩ := normal_of_mem_normalizeSet hx
    obtain ⟨e, he, rfl, -⟩ := mem_normalizeSet.mp hx
    exact ⟨hne, trim_normalizeExtension (hxs e he), hlow, hdot⟩

/-- Extensions written with dots, blanks around them and capitals, none with a blank behind its
dots: the settings normalized twice are the settings normalized once. -/
theorem dotted_capital_extensions_normalize_once :
    ∃ s : Settings, s = { Settings.default with
        priorityExtensions := [" .ZIP", "Doc"], cryptoExtensions := ["..Tar.GZ ", "İMG"],
        businessProcessName := " sap " } ∧
      (∀ e ∈ s.priorityExtensions ++ s.cryptoExtensions, blankBehindDots e = false) ∧
      (s.normalized.normalized = s.normalized ∧
        (∀ x ∈ s.normalized.priorityExtensions ++ s.normalized.cryptoExtensions,
          x ≠ "" ∧ Text.trim x = x ∧ Text.lower x = x ∧ x.toList.head? ≠ some '.') ∧
        Text.trim s.normalized.businessProcessName = s.normalized.businessProcessName) :=
  ⟨_, rfl, by decide +kernel, normalizing_settings_twice_changes_nothing _ (by decide +kernel)⟩

/-- A blank behind an extension's dot outlives one normalization and not the next: settings that
give `. zip` as a priority extension hold ` zip` once normalized and `zip` twice, so a file
`x.zip` goes first only after the second normalization and a file `x. zip` only after the
first. -/
theorem a_blank_behind_a_dot_is_dropped_later :
    normalizeExtension ". zip" = " zip" ∧ normalizeExtension " zip" = "zip" ∧
      ({ Settings.default with priorityExtensions := [". zip"] } :
        Settings).normalized.isPriority "x.zip" = false ∧
      ({ Settings.default with priorityExtensions := [". zip"] } :
        Settings).normalized.normalized.isPriority "x.zip" = true ∧
      ({ Settings.default with priorityExtensions := [". zip"] } :
        Settings).normalized.isPriority "x. zip" = true ∧
      ({ Settings.default with priorityExtensions := [". zip"] } :
        Settings).normalized.normalized.isPriority "x. zip" = false := by
  decide +kernel

end Settings

end Safekeep
