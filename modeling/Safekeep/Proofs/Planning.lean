import Safekeep.Plan
import Mathlib

/-!
# What a plan lists

A plan walks the source directory depth first, the entries of each directory by name, and keeps
its regular files. On a disk laid out as a file system has it (`Disk.Wf`: each location holds one
entry, and every entry sits in a directory) the walk lists every regular file below the source
exactly once, in the order of the files' names below the source compared name by name
(`Disk.Wf.walkFiles_spec`): the files of a directory come right after each other, so `a/x` comes
before `a-b` although `a-b` is the smaller text.

The host may refuse the walk: a directory it may not list, an entry in a directory it may not
search (`Disk.refuses`). The walk meets a refusal exactly when some entry below the source
refuses (`Disk.Wf.walkFault?_eq_none_iff`), and the one it meets is such an entry
(`Disk.Wf.refuses_of_walkFault?`).

A plan fails when the source is not a directory or the walk meets a refusal. Otherwise it makes
each listed file a unit (`Disk.unitFor`), leaves out the files a differential job finds in
place, and puts the priority units first, each class in the walk's order.
-/

namespace Safekeep

namespace Disk

variable {d : Disk}

/-! ## 1. Disks laid out as a file system -/

/-- A disk as a file system has it: each location holds one entry, and every entry sits in a
directory, the root or one of the disk's. -/
structure Wf (d : Disk) : Prop where
  nodup : (d.nodes.map (·.1)).Nodup
  inDir : ∀ e ∈ d.nodes, e.1 ≠ [] ∧ d.isDirAt e.1.dropLast = true

def FileBelow (d : Disk) (loc : Loc) (rel : List String) (st : Stat) : Prop :=
  rel ≠ [] ∧ ∃ data mode mtime, (loc ++ rel, Node.file data mode mtime) ∈ d.nodes ∧
    st = (Node.file data mode mtime).stat

theorem mem_of_isDirAt {l : Loc} (h : d.isDirAt l = true) (hl : l ≠ []) :
    ∃ m, (l, Node.dir m) ∈ d.nodes := by
  unfold isDirAt get? at h
  rw [if_neg hl] at h
  cases hf : d.nodes.find? (·.1 == l) with
  | none => simp [hf] at h
  | some e =>
    obtain ⟨l', n⟩ := e
    have hl' : l' = l := by simpa using List.find?_some hf
    subst hl'
    rw [hf] at h
    cases n with
    | dir m => exact ⟨m, List.mem_of_find?_eq_some hf⟩
    | file => simp at h
    | link => simp at h

/-- Every location strictly between the root and an entry of a laid-out disk is one of its
directories. -/
theorem Wf.dir_of_prefix (hwf : d.Wf) {p q : Loc} {n : Node} (h : (p ++ q, n) ∈ d.nodes)
    (hp : p ≠ []) (hq : q ≠ []) : ∃ m, (p, Node.dir m) ∈ d.nodes := by
  -- up from the entry, one directory at a time
  induction q using List.reverseRecOn generalizing n with
  | nil => exact absurd rfl hq
  | append_singleton q c ih =>
    have hdir := (hwf.inDir _ h).2
    rw [← List.append_assoc, List.dropLast_concat] at hdir
    obtain ⟨m, hm⟩ := mem_of_isDirAt hdir (by simp [hp])
    by_cases hq' : q = []
    · subst hq'
      exact ⟨m, by simpa using hm⟩
    · exact ih hm hq'

/-! ## 2. Listing a directory -/

/-- An entry that the listing of `loc` keeps sits right in `loc`, under the name it is listed
by. -/
theorem eq_of_listed {loc : Loc} {e : Loc × Node} {c : String × Node}
    (h : (if loc.isPrefixOf e.1 = true ∧ e.1.length = loc.length + 1 then
      e.1.getLast?.map fun n => (n, e.2) else none) = some c) :
    e = (loc ++ [c.1], c.2) := by
  split at h
  · rename_i hc
    obtain ⟨t, ht⟩ := List.isPrefixOf_iff_prefix.1 hc.1
    have hlen : t.length = 1 := by
      have := congrArg List.length ht
      rw [List.length_append] at this
      omega
    obtain ⟨x, rfl⟩ := List.length_eq_one_iff.1 hlen
    obtain ⟨l, n⟩ := e
    dsimp only at ht h
    subst ht
    rw [List.getLast?_concat, Option.map_some, Option.some.injEq] at h
    subst h
    rfl
  · cases h

theorem mem_children {loc : Loc} {name : String} {n : Node} :
    (name, n) ∈ d.children loc ↔ (loc ++ [name], n) ∈ d.nodes := by
  unfold children
  rw [List.mem_mergeSort, List.mem_filterMap]
  constructor
  · rintro ⟨e, hmem, h⟩
    rw [eq_of_listed h] at hmem
    exact hmem
  · intro h
    refine ⟨_, h, ?_⟩
    simp

/-- A directory's listing names each entry once, in increasing order of names. -/
theorem Wf.children_sorted (hwf : d.Wf) (loc : Loc) :
    (d.children loc).Pairwise (fun a b => a.1 < b.1) := by
  have hle : (d.children loc).Pairwise (fun a b => decide (a.1 ≤ b.1) = true) :=
    List.pairwise_mergeSort (fun _ _ _ hab hbc => by simp at hab hbc ⊢; exact le_trans hab hbc)
      (fun a b => by simpa using le_total a.1 b.1) _
  -- two entries of one name would be two entries at one location
  have hne : (d.children loc).Pairwise (fun a b => a.1 ≠ b.1) := by
    unfold children
    refine List.Pairwise.perm ?_ (List.mergeSort_perm _ _).symm fun h => Ne.symm h
    rw [List.pairwise_filterMap]
    refine (List.pairwise_map.1 hwf.nodup).imp fun hlt a ha b hb hab => hlt ?_
    rw [eq_of_listed ha, eq_of_listed hb, hab]
  exact (hle.and hne).imp fun h => lt_of_le_of_ne (by simpa using h.1) h.2

/-! ## 3. The walk -/

/-- What a walk with `fuel` lists for one entry of the directory `loc`: the files below a
directory, a regular file itself, nothing for a link. -/
def walkEntry (d : Disk) (fuel : Nat) (loc : Loc) (text : String) (rel : List String) :
    String × Node → List (String × List String × Stat)
  | (name, .dir _) => d.walkFiles fuel (loc ++ [name]) (Path.join text name) (rel ++ [name])
  | (name, n@(.file ..)) => [(Path.join text name, rel ++ [name], n.stat)]
  | (_, .link _) => []

theorem walkFiles_succ (fuel : Nat) (loc : Loc) (text : String) (rel : List String) :
    d.walkFiles (fuel + 1) loc text rel =
      (d.children loc).flatMap (d.walkEntry fuel loc text rel) := by
  rw [walkFiles]
  congr 1
  funext ⟨name, n⟩
  cases n <;> rfl

/-- Every file a walk lists is a regular file below the directory walked, listed with its
names below it and its path. -/
theorem walkFiles_sound {fuel : Nat} {loc : Loc} {text : String} {rel : List String}
    {x : String × List String × Stat} (h : x ∈ d.walkFiles fuel loc text rel) :
    ∃ r, x.1 = r.foldl Path.join text ∧ x.2.1 = rel ++ r ∧ d.FileBelow loc r x.2.2 := by
  induction fuel generalizing loc text rel with
  | zero => simp [walkFiles] at h
  | succ fuel ih =>
    rw [walkFiles_succ, List.mem_flatMap] at h
    obtain ⟨⟨name, n⟩, hc, hx⟩ := h
    cases n with
    | dir m =>
      obtain ⟨r, hp, hr, -, data, mode, mtime, hmem, hst⟩ := ih hx
      refine ⟨name :: r, hp, by simp [hr], List.cons_ne_nil _ _, data, mode, mtime, ?_, hst⟩
      simpa using hmem
    | file data mode mtime =>
      simp only [walkEntry, List.mem_singleton] at hx
      subst hx
      exact ⟨[name], rfl, rfl, List.cons_ne_nil _ _, data, mode, mtime, mem_children.1 hc, rfl⟩
    | link t => simp [walkEntry] at hx

/-- The files an entry's walk lists lie below its name. -/
theorem walkEntry_rel {fuel : Nat} {loc : Loc} {text : String} {rel : List String}
    {c : String × Node} {y : List String}
    (h : y ∈ (d.walkEntry fuel loc text rel c).map (·.2.1)) : ∃ t, y = rel ++ c.1 :: t := by
  obtain ⟨x, hx, rfl⟩ := List.mem_map.1 h
  obtain ⟨name, n⟩ := c
  cases n with
  | dir m =>
    obtain ⟨r, -, hr, -⟩ := walkFiles_sound hx
    exact ⟨r, by simp [hr]⟩
  | file =>
    simp only [walkEntry, List.mem_singleton] at hx
    exact ⟨[], by simp [hx]⟩
  | link => simp [walkEntry] at hx

/-- A walk with enough fuel lists every regular file below the directory walked. -/
theorem Wf.mem_walkFiles (hwf : d.Wf) {r : List String} {st : Stat} :
    ∀ {fuel : Nat} {loc : Loc} {text : String} {rel : List String},
      d.FileBelow loc r st → r.length ≤ fuel →
      (r.foldl Path.join text, rel ++ r, st) ∈ d.walkFiles fuel loc text rel := by
  induction r with
  | nil => exact fun hf _ => absurd rfl hf.1
  | cons c r ih =>
    intro fuel loc text rel hf hlen
    obtain ⟨-, data, mode, mtime, hmem, rfl⟩ := hf
    obtain ⟨fuel, rfl⟩ : ∃ f, fuel = f + 1 := ⟨fuel - 1, by simp at hlen; omega⟩
    rw [walkFiles_succ, List.mem_flatMap]
    by_cases hr : r = []
    · subst hr
      exact ⟨(c, .file data mode mtime), mem_children.2 hmem, by simp [walkEntry]⟩
    · -- the file's first name below `loc` is a directory of the disk, walked in turn
      have hmem' : ((loc ++ [c]) ++ r, Node.file data mode mtime) ∈ d.nodes := by simpa using hmem
      obtain ⟨m, hm⟩ := hwf.dir_of_prefix hmem' (by simp) hr
      refine ⟨(c, .dir m), mem_children.2 hm, ?_⟩
      rw [show rel ++ c :: r = (rel ++ [c]) ++ r by simp]
      exact ih ⟨hr, data, mode, mtime, hmem', rfl⟩ (by simp at hlen; omega)

/-- An entry below a location of a laid-out disk is at most as many names below it as the disk
has entries: each name on the way is an entry of its own. -/
theorem Wf.length_le (hwf : d.Wf) {loc : Loc} {r : List String} {n : Node}
    (hmem : (loc ++ r, n) ∈ d.nodes) (hr : r ≠ []) : r.length ≤ d.nodes.length := by
  let steps := (List.range r.length).map fun i => loc ++ r.take (i + 1)
  have hnodup : steps.Nodup := by
    refine List.Nodup.map_on (fun i hi j hj hij => ?_) List.nodup_range
    have := congrArg List.length hij
    simp only [List.length_append, List.length_take] at this
    simp only [List.mem_range] at hi hj
    omega
  have hsub : steps ⊆ d.nodes.map (·.1) := by
    intro l hl
    obtain ⟨i, hi, rfl⟩ := List.mem_map.1 hl
    rw [List.mem_range] at hi
    rw [List.mem_map]
    by_cases hlast : i + 1 = r.length
    · exact ⟨_, hmem, by simp [← hlast]⟩
    · -- a name short of the file is a directory on its way
      have hsplit : ((loc ++ r.take (i + 1)) ++ r.drop (i + 1), n) ∈ d.nodes := by
        simpa using hmem
      obtain ⟨m, hm⟩ := hwf.dir_of_prefix hsplit (by simp [hr]) (by simp; omega)
      exact ⟨_, hm, rfl⟩
  have := hnodup.length_le_of_subset hsub
  simpa [steps] using this

/-- A walk lists the files below a directory in increasing order of their names below it,
compared name by name. -/
theorem Wf.walkFiles_sorted (hwf : d.Wf) (fuel : Nat) :
    ∀ (loc : Loc) (text : String) (rel : List String),
      ((d.walkFiles fuel loc text rel).map (·.2.1)).Pairwise (· < ·) := by
  induction fuel with
  | zero => intro loc text rel; simp [walkFiles]
  | succ fuel ih =>
    intro loc text rel
    rw [walkFiles_succ, List.map_flatMap, List.pairwise_flatMap]
    refine ⟨fun c _ => ?_, (hwf.children_sorted loc).imp fun hlt x hx y hy => ?_⟩
    · obtain ⟨name, n⟩ := c
      cases n with
      | dir m => exact ih _ _ _
      | file => simp [walkEntry]
      | link => simp [walkEntry]
    · -- the files of two entries lie below their names, and the names are in order
      obtain ⟨t, rfl⟩ := walkEntry_rel hx
      obtain ⟨t', rfl⟩ := walkEntry_rel hy
      exact List.append_left_lt (List.cons_lt_cons_iff.2 (.inl hlt))

/-- The walk of a plan, with fuel one more than the disk's entries, lists exactly the regular
files below the directory walked, each with its path and its names below the directory, in
increasing order of those names compared name by name, so each file once. -/
theorem Wf.walkFiles_spec (hwf : d.Wf) (loc : Loc) (text : String) :
    (∀ p rel st, (p, rel, st) ∈ d.walkFiles (d.nodes.length + 1) loc text [] ↔
      d.FileBelow loc rel st ∧ p = rel.foldl Path.join text) ∧
    ((d.walkFiles (d.nodes.length + 1) loc text []).map (·.2.1)).Pairwise (· < ·) := by
  refine ⟨fun p rel st => ⟨fun h => ?_, fun ⟨hf, hp⟩ => ?_⟩,
    hwf.walkFiles_sorted _ _ _ _⟩
  · obtain ⟨r, hp, hr, hf⟩ := walkFiles_sound h
    dsimp only at hp hr hf
    rw [List.nil_append] at hr
    subst hr
    exact ⟨hf, hp⟩
  · subst hp
    show (rel.foldl Path.join text, [] ++ rel, st) ∈ _
    have hlen : rel.length ≤ d.nodes.length := by
      obtain ⟨hr, _, _, _, hmem, -⟩ := hf
      exact hwf.length_le hmem hr
    exact hwf.mem_walkFiles hf (by omega)

/-! ## 4. What the host refuses -/

theorem mem_of_get? {l : Loc} {n : Node} (hl : l ≠ []) (h : d.get? l = some n) :
    (l, n) ∈ d.nodes := by
  unfold get? at h
  rw [if_neg hl] at h
  obtain ⟨e, he, rfl⟩ := Option.map_eq_some_iff.1 h
  have hkey : e.1 = l := by simpa using List.find?_some he
  rw [← hkey]
  exact List.mem_of_find?_eq_some he

/-- On a laid-out disk the entry at a location is the one the disk holds there. -/
theorem Wf.get?_of_mem (hwf : d.Wf) {l : Loc} {n : Node} (hmem : (l, n) ∈ d.nodes) :
    d.get? l = some n := by
  unfold get?
  rw [if_neg (hwf.inDir _ hmem).1]
  cases hf : d.nodes.find? (·.1 == l) with
  | none => simpa using List.find?_eq_none.1 hf _ hmem
  | some e =>
    -- the entry found has the location `l`, which only one entry has
    have hkey : e.1 = l := by simpa using List.find?_some hf
    have he := List.inj_on_of_nodup_map hwf.nodup (List.mem_of_find?_eq_some hf) hmem hkey
    simp [he]

/-- The permission bits of the directory `pre` below the directory `loc` of bits `mode` (`0`
when there is none). -/
def bitsBelow (d : Disk) (loc : Loc) (mode : Nat) (pre : List String) : Nat :=
  if pre = [] then mode
  else match d.get? (loc ++ pre) with
    | some (.dir m) => m
    | _ => 0

/-- Whether a walk below the directory `loc` of bits `mode` is refused at the entry `rel` below
it: the directory itself may not be listed; or the entry is a directory or regular file whose
directory may not be searched, or a directory that may not be listed. -/
def refuses (d : Disk) (h : Host) (loc : Loc) (mode : Nat) : List String → Bool
  | [] => !h.mayList mode
  | rel@(_ :: _) =>
    match d.get? (loc ++ rel) with
    | some (.dir m) => !h.maySearch (d.bitsBelow loc mode rel.dropLast) || !h.mayList m
    | some (.file ..) => !h.maySearch (d.bitsBelow loc mode rel.dropLast)
    | _ => false

variable {h : Host}

theorem Wf.bitsBelow_cons (hwf : d.Wf) {loc : Loc} {name : String} {mode m : Nat}
    (hm : (loc ++ [name], Node.dir m) ∈ d.nodes) (t : List String) :
    d.bitsBelow loc mode (name :: t) = d.bitsBelow (loc ++ [name]) m t := by
  by_cases ht : t = []
  · subst ht
    simp [bitsBelow, hwf.get?_of_mem hm]
  · simp [bitsBelow, ht]

theorem Wf.refuses_cons (hwf : d.Wf) {loc : Loc} {name : String} {mode m : Nat}
    (hm : (loc ++ [name], Node.dir m) ∈ d.nodes) {rest : List String} (hr : rest ≠ []) :
    d.refuses h loc mode (name :: rest) = d.refuses h (loc ++ [name]) m rest := by
  obtain ⟨x, xs, rfl⟩ := List.exists_cons_of_ne_nil hr
  have hdrop : (name :: x :: xs).dropLast = name :: (x :: xs).dropLast := by simp
  simp only [refuses, hdrop, hwf.bitsBelow_cons hm, List.append_assoc, List.singleton_append]

/-- What a walk meets first at one entry of the directory `loc` of bits `mode`. -/
def faultEntry (d : Disk) (h : Host) (fuel : Nat) (loc : Loc) (mode : Nat) (text : String) :
    String × Node → Option WalkFault
  | (name, .dir m) =>
    if !h.maySearch mode then some (.listing (Path.join text name) .access)
    else d.walkFault? h fuel (loc ++ [name]) m (Path.join text name)
  | (name, .file ..) =>
    if !h.maySearch mode then some (.metadata (Path.join text name) .access) else none
  | (_, .link _) => none

theorem walkFault?_succ (fuel : Nat) (loc : Loc) (mode : Nat) (text : String) :
    d.walkFault? h (fuel + 1) loc mode text =
      if !h.mayList mode then some (.listing text .access)
      else (d.children loc).findSome? (d.faultEntry h fuel loc mode text) := by
  rw [walkFault?]
  congr 2
  funext ⟨name, n⟩
  cases n <;> rfl

/-- A refusal a walk meets comes from an entry below the directory walked that refuses, and
names its path. -/
theorem Wf.refuses_of_walkFault? (hwf : d.Wf) {fuel : Nat} {loc : Loc} {mode : Nat}
    {text : String} {f : WalkFault} (hf : d.walkFault? h fuel loc mode text = some f) :
    ∃ rel, d.refuses h loc mode rel = true ∧
      (f = .listing (rel.foldl Path.join text) .access ∨
        f = .metadata (rel.foldl Path.join text) .access) := by
  induction fuel generalizing loc mode text with
  | zero => simp [walkFault?] at hf
  | succ fuel ih =>
    rw [walkFault?_succ] at hf
    by_cases hl : h.mayList mode = true
    · rw [if_neg (by simp [hl])] at hf
      obtain ⟨⟨name, n⟩, hc, hfe⟩ := List.exists_of_findSome?_eq_some hf
      have hget := hwf.get?_of_mem (mem_children.1 hc)
      cases n with
      | dir m =>
        by_cases hs : h.maySearch mode = true
        · -- the refusal comes from below the directory `name`
          rw [faultEntry, if_neg (by simp [hs])] at hfe
          obtain ⟨rel, hrel, hp⟩ := ih hfe
          refine ⟨name :: rel, ?_, by simpa using hp⟩
          cases rel with
          | nil => simpa [refuses, bitsBelow, hget, hs] using hrel
          | cons x xs => rwa [hwf.refuses_cons (mem_children.1 hc) (List.cons_ne_nil _ _)]
        · rw [faultEntry, if_pos (by simpa using hs)] at hfe
          cases hfe
          exact ⟨[name], by simp [refuses, bitsBelow, hget, hs], .inl rfl⟩
      | file data fm mtime =>
        by_cases hs : h.maySearch mode = true
        · simp [faultEntry, hs] at hfe
        · rw [faultEntry, if_pos (by simpa using hs)] at hfe
          cases hfe
          exact ⟨[name], by simp [refuses, bitsBelow, hget, hs], .inr rfl⟩
      | link t => simp [faultEntry] at hfe
    · rw [if_pos (by simpa using hl)] at hf
      cases hf
      exact ⟨[], by simpa [refuses] using hl, .inl rfl⟩

/-- A walk whose fuel reaches below an entry that refuses meets a refusal. -/
theorem Wf.walkFault?_of_refuses (hwf : d.Wf) {rel : List String} :
    ∀ {fuel : Nat} {loc : Loc} {mode : Nat} {text : String}, d.refuses h loc mode rel = true →
      rel.length < fuel → d.walkFault? h fuel loc mode text ≠ none := by
  induction rel with
  | nil =>
    intro fuel loc mode text hr hlen
    obtain ⟨fuel, rfl⟩ : ∃ f, fuel = f + 1 := ⟨fuel - 1, by simp at hlen; omega⟩
    simp [walkFault?_succ, show h.mayList mode = false by simpa [refuses] using hr]
  | cons name rest ih =>
    intro fuel loc mode text hr hlen
    obtain ⟨fuel, rfl⟩ : ∃ f, fuel = f + 1 := ⟨fuel - 1, by simp at hlen; omega⟩
    rw [walkFault?_succ]
    by_cases hl : h.mayList mode = true
    · rw [if_neg (by simp [hl]), Ne, List.findSome?_eq_none_iff, not_forall]
      suffices ∃ c ∈ d.children loc, d.faultEntry h fuel loc mode text c ≠ none by
        obtain ⟨c, hc, hne⟩ := this
        exact ⟨c, fun hall => hne (hall hc)⟩
      -- a directory `name` of `loc` that cannot be searched from `loc`, or below which the
      -- walk meets a refusal, is where the walk of `loc` meets one
      have hdir : ∀ m, (loc ++ [name], Node.dir m) ∈ d.nodes →
          (h.maySearch mode = true → d.refuses h (loc ++ [name]) m rest = true) →
          ∃ c ∈ d.children loc, d.faultEntry h fuel loc mode text c ≠ none := by
        intro m hm href
        refine ⟨(name, .dir m), mem_children.2 hm, ?_⟩
        by_cases hs : h.maySearch mode = true
        · rw [faultEntry, if_neg (by simp [hs])]
          exact ih (href hs) (by simp at hlen; omega)
        · simp [faultEntry, hs]
      by_cases hrest : rest = []
      · subst hrest
        cases hget : d.get? (loc ++ [name]) with
        | none => simp [refuses, hget] at hr
        | some n =>
          have hmem := mem_of_get? (by simp) hget
          cases n with
          | dir m => exact hdir m hmem fun hs => by simpa [refuses, bitsBelow, hget, hs] using hr
          | file data fm mtime =>
            have hs : h.maySearch mode = false := by simpa [refuses, bitsBelow, hget] using hr
            exact ⟨(name, .file data fm mtime), mem_children.2 hmem, by simp [faultEntry, hs]⟩
          | link t => simp [refuses, hget] at hr
      · cases hget : d.get? (loc ++ name :: rest) with
        | none => simp [refuses, hget] at hr
        | some n =>
          have hmem : ((loc ++ [name]) ++ rest, n) ∈ d.nodes := by
            simpa using mem_of_get? (by simp) hget
          obtain ⟨m, hm⟩ := hwf.dir_of_prefix hmem (by simp) hrest
          exact hdir m hm fun _ => by rwa [← hwf.refuses_cons hm hrest]
    · simp [hl]

/-! ## 5. The plan -/

/-- What a plan makes of a file below the source, with its path `p`, its names `rel` below the
source and its metadata `st`: a unit to the same names below the target, of the file's size,
its priority and sealing read off its extension and its largeness off its size; none when a
differential job finds the file's copy in place. -/
def unitFor (d : Disk) (cwd : Loc) (s : Settings) (job : Job) :
    String × List String × Stat → Option Transfer
  | (p, rel, st) =>
    let target := Path.join job.target ("/".intercalate rel)
    if job.kind = .differential ∧ d.isUnchanged cwd st target (s.needsEncryption p) then none
    else some
      { source := p
        target
        size := st.size
        priority := s.isPriority p
        large := s.isLarge st.size
        encrypt := s.needsEncryption p }

variable {cwd : Loc} {s : Settings} {job : Job}

theorem isDir_iff_resolve {p : String} :
    d.isDir cwd p = true ↔ ∃ loc m, d.resolve cwd p true = .ok (.found loc (.dir m)) := by
  unfold isDir stat
  cases hres : d.resolve cwd p true with
  | error e => simp [bind, Except.bind]
  | ok place =>
    cases place with
    | absent dir name => simp [bind, Except.bind]
    | found loc n => cases n <;> simp [bind, Except.bind, Node.stat]

theorem plan_of_isDir_false (hdir : d.isDir cwd job.source = false) :
    d.plan cwd h s job = .error (.sourceNotFound job.source) := by
  unfold plan
  split
  · rename_i loc m hres
    have := isDir_iff_resolve.2 ⟨loc, m, hres⟩
    rw [hdir] at this
    cases this
  · rfl

theorem plan_of_resolve {loc : Loc} {mode : Nat}
    (hres : d.resolve cwd job.source true = .ok (.found loc (.dir mode)))
    (hf : d.walkFault? h (d.nodes.length + 1) loc mode job.source = none) :
    d.plan cwd h s job = .ok
      (((d.walkFiles (d.nodes.length + 1) loc job.source []).filterMap
          (d.unitFor cwd s job)).filter (·.priority) ++
        ((d.walkFiles (d.nodes.length + 1) loc job.source []).filterMap
          (d.unitFor cwd s job)).filter (!·.priority)) := by
  unfold plan
  simp only [hres, hf]
  rfl

/-- On a laid-out disk, the walk of a plan meets no refusal exactly when no entry below the
directory walked refuses. -/
theorem Wf.walkFault?_eq_none_iff (hwf : d.Wf) (loc : Loc) (mode : Nat) (text : String) :
    d.walkFault? h (d.nodes.length + 1) loc mode text = none ↔
      ∀ rel, d.refuses h loc mode rel = false := by
  constructor
  · intro hnone rel
    by_contra hr
    have hr : d.refuses h loc mode rel = true := by simpa using hr
    refine hwf.walkFault?_of_refuses hr ?_ hnone
    -- an entry that refuses is at most as deep as the disk has entries
    cases rel with
    | nil => simp
    | cons name rest =>
      cases hget : d.get? (loc ++ name :: rest) with
      | none => simp [refuses, hget] at hr
      | some n =>
        have := hwf.length_le (mem_of_get? (by simp) hget) (List.cons_ne_nil _ _)
        omega
  · intro hall
    cases hf : d.walkFault? h (d.nodes.length + 1) loc mode text with
    | none => rfl
    | some f =>
      obtain ⟨rel, hrel, -⟩ := hwf.refuses_of_walkFault? hf
      simp [hall rel] at hrel

/-- What planning a job gives on a laid-out disk. When the source is not a directory, the plan
fails with the source not found. Otherwise the source is a directory `loc` of bits `mode`. When
the host refuses the walk below it somewhere, the plan fails with nothing planned, naming an
entry that refuses: against the source when a directory cannot be listed, against the file when
its metadata cannot be read. Otherwise the plan is made from the list of the regular files below
`loc`, each listed once with its path and its names below `loc`, in increasing order of those
names compared name by name: each file a unit (`unitFor`), the files a differential job finds in
place left out, the priority units first and the others after them, each class in the order of
the list. -/
theorem plans_list_selected_files_once_in_order (hwf : d.Wf) (cwd : Loc) (h : Host)
    (s : Settings) (job : Job) :
    (d.isDir cwd job.source = false ∧ d.plan cwd h s job = .error (.sourceNotFound job.source)) ∨
    (d.isDir cwd job.source = true ∧
      ∃ (loc : Loc) (mode : Nat), d.resolve cwd job.source true = .ok (.found loc (.dir mode)) ∧
        ((∃ rel, d.refuses h loc mode rel = true ∧
            (d.plan cwd h s job =
                .error (.enumeration job.source (rel.foldl Path.join job.source) .access) ∨
              d.plan cwd h s job = .error (.enumeration (rel.foldl Path.join job.source)
                (rel.foldl Path.join job.source) .access))) ∨
          ((∀ rel, d.refuses h loc mode rel = false) ∧
            ∃ files : List (String × List String × Stat),
              (∀ p rel st, (p, rel, st) ∈ files ↔
                d.FileBelow loc rel st ∧ p = rel.foldl Path.join job.source) ∧
              (files.map (·.2.1)).Pairwise (· < ·) ∧
              d.plan cwd h s job = .ok ((files.filterMap (d.unitFor cwd s job)).filter (·.priority) ++
                (files.filterMap (d.unitFor cwd s job)).filter (!·.priority))))) := by
  cases hdir : d.isDir cwd job.source with
  | false => exact .inl ⟨rfl, plan_of_isDir_false hdir⟩
  | true =>
    obtain ⟨loc, mode, hres⟩ := isDir_iff_resolve.1 hdir
    refine .inr ⟨rfl, loc, mode, hres, ?_⟩
    cases hf : d.walkFault? h (d.nodes.length + 1) loc mode job.source with
    | some f =>
      obtain ⟨rel, hrel, hfault⟩ := hwf.refuses_of_walkFault? hf
      refine .inl ⟨rel, hrel, ?_⟩
      unfold plan
      simp only [hres, hf]
      rcases hfault with rfl | rfl
      · exact .inl rfl
      · exact .inr rfl
    | none =>
      have hfiles := hwf.walkFiles_spec loc job.source
      exact .inr ⟨(hwf.walkFault?_eq_none_iff loc mode job.source).1 hf, _, hfiles.1, hfiles.2,
        plan_of_resolve hres hf⟩

/-- A source `/s` holding a file `a` and a directory `b` that may be searched but not listed,
which holds a file `c`; and a target `/d`. -/
def lockedTree : Disk :=
  ⟨[(["s"], .dir 0o755), (["s", "a"], .file ⟨#[7]⟩ 0o644 ⟨1, 0⟩), (["s", "b"], .dir 0o311),
    (["s", "b", "c"], .file ⟨#[8]⟩ 0o644 ⟨1, 0⟩), (["d"], .dir 0o755)], ⟨5, 0⟩⟩

def plainUser : Host := ⟨[], false, fun d _ _ _ _ => (d, .error .noExec), fun _ _ => none⟩

theorem lockedTree_plan :
    lockedTree.plan [] plainUser .default ⟨1, "j", "/s", "/d", .full⟩ =
      .error (.enumeration "/s" "/s/b" .access) := by
  cbv

theorem plans_list_selected_files_once_in_order_of_locked_directory :
    lockedTree.Wf ∧
      ((lockedTree.isDir [] "/s" = false ∧
          lockedTree.plan [] plainUser .default ⟨1, "j", "/s", "/d", .full⟩ =
            .error (.sourceNotFound "/s")) ∨
        (lockedTree.isDir [] "/s" = true ∧
          ∃ (loc : Loc) (mode : Nat),
            lockedTree.resolve [] "/s" true = .ok (.found loc (.dir mode)) ∧
            ((∃ rel, lockedTree.refuses plainUser loc mode rel = true ∧
                (lockedTree.plan [] plainUser .default ⟨1, "j", "/s", "/d", .full⟩ =
                    .error (.enumeration "/s" (rel.foldl Path.join "/s") .access) ∨
                  lockedTree.plan [] plainUser .default ⟨1, "j", "/s", "/d", .full⟩ =
                    .error (.enumeration (rel.foldl Path.join "/s") (rel.foldl Path.join "/s")
                      .access))) ∨
              ((∀ rel, lockedTree.refuses plainUser loc mode rel = false) ∧
                ∃ files : List (String × List String × Stat),
                  (∀ p rel st, (p, rel, st) ∈ files ↔
                    lockedTree.FileBelow loc rel st ∧ p = rel.foldl Path.join "/s") ∧
                  (files.map (·.2.1)).Pairwise (· < ·) ∧
                  lockedTree.plan [] plainUser .default ⟨1, "j", "/s", "/d", .full⟩ =
                    .ok ((files.filterMap
                        (lockedTree.unitFor [] .default ⟨1, "j", "/s", "/d", .full⟩)).filter
                          (·.priority) ++
                      (files.filterMap
                        (lockedTree.unitFor [] .default ⟨1, "j", "/s", "/d", .full⟩)).filter
                          (!·.priority)))))) := by
  have hwf : lockedTree.Wf := ⟨by decide, by decide⟩
  exact ⟨hwf, plans_list_selected_files_once_in_order hwf [] plainUser .default
    ⟨1, "j", "/s", "/d", .full⟩⟩

end Disk

end Safekeep
