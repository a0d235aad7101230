import Safekeep.Disk.Ops
import Mathlib

/-!
# What a write leaves on disk

Writing a whole file and reading the same path back gives the bytes written
(`Disk.fileBytes_writeFile`), unless the path leads to the null device, which discards them. The
disk needs one entry per location, as a file system has it; writing files and creating
directories keep that so (`Disk.nodup_writeFile`, `Disk.nodup_createDirAll`).

A write changes one location, where the path led: a file, or a name not taken yet in a directory
(`Place.FileSlot`). Putting a file there changes no directory and no link, so a walk over the new
disk takes the steps it took over the old one and stops at the new file
(`Disk.walk_set_file`). The walk is followed one component at a time (`Disk.walk_dir` and its
siblings), by induction on its fuel.
-/

namespace Safekeep

/-- What a path may name for a file to be written there: a file, or a name not taken yet in a
directory, the path not asking for a directory. -/
inductive Place.FileSlot : Place → Loc → Prop
  | file {loc : Loc} {data : ByteArray} {mode : Nat} {mtime : FileTime} :
      FileSlot (.found loc (.file data mode mtime)) loc
  | absent {dir : Loc} {name : String} : FileSlot (.absent dir name false) (dir ++ [name])

namespace Disk

variable {d : Disk}

/-! ## 1. Entries -/

def FileOrFree (d : Disk) (loc : Loc) : Prop :=
  ∀ n, d.get? loc = some n → ∃ data mode mtime, n = .file data mode mtime

theorem FileOrFree.ne_nil {loc : Loc} (h : d.FileOrFree loc) : loc ≠ [] := by
  rintro rfl
  obtain ⟨_, _, _, h⟩ := h (.dir 0o755) (by simp [get?])
  cases h

@[simp] theorem set_now (loc : Loc) (n : Node) : (d.set loc n).now = d.now := by
  unfold set
  split <;> rfl

/-- Looking a location up after the entries at `loc` are replaced finds the replacement of what
it found before. -/
theorem find?_replace (loc l : Loc) (n : Node) (nodes : List (Loc × Node)) :
    (nodes.map fun e => if e.1 == loc then (loc, n) else e).find? (·.1 == l) =
      (nodes.find? (·.1 == l)).map fun e => if e.1 == loc then (loc, n) else e := by
  rw [List.find?_map]
  congr 2
  funext e
  by_cases h : e.1 = loc <;> simp [h]

theorem find?_of_not_any {loc : Loc} (h : ¬d.nodes.any (·.1 == loc) = true) :
    d.nodes.find? (·.1 == loc) = none :=
  List.find?_eq_none.2 fun e he hek => h (List.any_eq_true.2 ⟨e, he, hek⟩)

theorem get?_set_self {loc : Loc} (hloc : loc ≠ []) (n : Node) : (d.set loc n).get? loc = some n := by
  unfold set
  split
  · rename_i hany
    obtain ⟨e, he, hek⟩ := List.any_eq_true.1 hany
    obtain ⟨x, hx⟩ : ∃ x, d.nodes.find? (·.1 == loc) = some x :=
      Option.isSome_iff_exists.1 (List.find?_isSome.2 ⟨e, he, hek⟩)
    have hxk : x.1 = loc := by simpa using List.find?_some hx
    rw [get?, if_neg hloc, find?_replace, hx]
    simp [hxk]
  · rename_i hany
    simp [get?, hloc, List.find?_append, find?_of_not_any hany]

theorem get?_set_of_ne {loc l : Loc} (hl : l ≠ loc) (n : Node) : (d.set loc n).get? l = d.get? l := by
  unfold set
  split
  · rw [get?, get?, find?_replace]
    cases hf : d.nodes.find? (·.1 == l) with
    | none => rfl
    | some e =>
      have hel : e.1 = l := by simpa using List.find?_some hf
      simp [hel, hl]
  · simp [get?, List.find?_append, Ne.symm hl]

/-- In a disk with one entry per location, each entry is what its location holds. -/
theorem get?_of_mem (hnd : (d.nodes.map (·.1)).Nodup) {e : Loc × Node} (he : e ∈ d.nodes)
    (hne : e.1 ≠ []) : d.get? e.1 = some e.2 := by
  obtain ⟨x, hx⟩ : ∃ x, d.nodes.find? (fun x => x.1 == e.1) = some x :=
    Option.isSome_iff_exists.1 (List.find?_isSome.2 ⟨e, he, by simp⟩)
  have hxk : x.1 = e.1 := by simpa using List.find?_some hx
  rw [get?, if_neg hne, hx, List.inj_on_of_nodup_map hnd (List.mem_of_find?_eq_some hx) he hxk]
  rfl

theorem set_set (loc : Loc) (n n' : Node) : (d.set loc n).set loc n' = d.set loc n' := by
  unfold set
  by_cases hany : d.nodes.any (·.1 == loc) = true
  · have hany' : (d.nodes.map fun e => if e.1 == loc then (loc, n) else e).any (·.1 == loc) = true := by
      obtain ⟨e, he, hek⟩ := List.any_eq_true.1 hany
      exact List.any_eq_true.2 ⟨(loc, n), List.mem_map.2 ⟨e, he, by simp [hek]⟩, by simp⟩
    simp only [hany, hany', if_true, List.map_map]
    congr 2
    funext e
    by_cases h : e.1 = loc <;> simp [h]
  · have hnone : ∀ e ∈ d.nodes, e.1 ≠ loc := fun e he hek =>
      hany (List.any_eq_true.2 ⟨e, he, by simp [hek]⟩)
    have hmap : (d.nodes.map fun e => if e.1 = loc then (loc, n') else e) = d.nodes := by
      conv_rhs => rw [← List.map_id d.nodes]
      exact List.map_congr_left fun e he => by simp [hnone e he]
    simp [hany, hmap]

theorem nodup_set {loc : Loc} (hnd : (d.nodes.map (·.1)).Nodup) (n : Node) :
    ((d.set loc n).nodes.map (·.1)).Nodup := by
  unfold set
  split
  · have hkey : ∀ e : Loc × Node, (if e.1 = loc then (loc, n) else e).1 = e.1 := fun e => by
      by_cases h : e.1 = loc <;> simp [h]
    simpa [Function.comp_def, hkey] using hnd
  · rename_i hany
    simp only [List.map_append, List.map_cons, List.map_nil]
    refine List.Nodup.append hnd (List.nodup_singleton _) ?_
    simp only [List.disjoint_singleton, List.mem_map, not_exists, not_and]
    exact fun e he hek => hany (List.any_eq_true.2 ⟨e, he, by simp [hek]⟩)

theorem FileOrFree.isDirAt_set {loc : Loc} (h : d.FileOrFree loc) (data : ByteArray) (mode : Nat)
    (mtime : FileTime) (l : Loc) : (d.set loc (.file data mode mtime)).isDirAt l = d.isDirAt l := by
  by_cases hl : l = loc
  · subst hl
    rw [isDirAt, get?_set_self h.ne_nil, isDirAt]
    cases hg : d.get? l with
    | none => rfl
    | some n =>
      obtain ⟨_, _, _, rfl⟩ := h n hg
      rfl
  · simp only [isDirAt, get?_set_of_ne hl]

/-- Putting a file where no link stood leaves the bound on a walk's steps as it was. -/
theorem FileOrFree.walkBudget_set {loc : Loc} (hnd : (d.nodes.map (·.1)).Nodup) (h : d.FileOrFree loc)
    (data : ByteArray) (mode : Nat) (mtime : FileTime) (p : String) :
    (d.set loc (.file data mode mtime)).walkBudget p = d.walkBudget p := by
  unfold walkBudget set
  split
  · -- the entry at `loc` was a file, and counts no link parts, as the new one does not
    dsimp only
    rw [List.map_map]
    refine congrArg (fun x => (pieces p).length + 41 * (List.foldr (· + ·) 0 x + 1) + 2) ?_
    refine List.map_congr_left fun e he => ?_
    by_cases hloc : e.1 = loc
    · obtain ⟨_, _, _, he2⟩ := h e.2 (hloc ▸ get?_of_mem hnd he (hloc ▸ h.ne_nil))
      simp [hloc, he2]
    · simp [hloc]
  · simp

/-! ## 2. Walking a path, one component at a time -/

variable {fuel links : Nat} {cur : Loc} {rest : List String} {fl md : Bool}

theorem walk_zero (parts : List String) : d.walk 0 links cur parts fl md = .error .loop := by
  rw [walk]

theorem walk_nil :
    d.walk (fuel + 1) links cur [] fl md = .ok (.found cur ((d.get? cur).getD (.dir 0o755))) := by
  rw [walk]

theorem walk_dot : d.walk (fuel + 1) links cur ("." :: rest) fl md = d.walk fuel links cur rest fl md := by
  rw [walk]

theorem walk_dotdot :
    d.walk (fuel + 1) links cur (".." :: rest) fl md = d.walk fuel links cur.dropLast rest fl md := by
  rw [walk]

section Name

variable {name : String} (h1 : name ≠ ".") (h2 : name ≠ "..")
include h1 h2

theorem walk_none (h : d.get? (cur ++ [name]) = none) :
    d.walk (fuel + 1) links cur (name :: rest) fl md =
      if rest.isEmpty then .ok (.absent cur name md) else .error .noEntry := by
  rw [walk]
  · simp [h]
  · exact h1
  · exact h2

theorem walk_dir {m : Nat} (h : d.get? (cur ++ [name]) = some (.dir m)) :
    d.walk (fuel + 1) links cur (name :: rest) fl md = d.walk fuel links (cur ++ [name]) rest fl md := by
  rw [walk]
  · simp [h]
  · exact h1
  · exact h2

theorem walk_file {data : ByteArray} {mode : Nat} {mtime : FileTime}
    (h : d.get? (cur ++ [name]) = some (.file data mode mtime)) :
    d.walk (fuel + 1) links cur (name :: rest) fl md =
      if rest.isEmpty then
        if md then .error .notDir else .ok (.found (cur ++ [name]) (.file data mode mtime))
      else .error .notDir := by
  rw [walk]
  · simp [h]
  · exact h1
  · exact h2

theorem walk_link {t : String} (h : d.get? (cur ++ [name]) = some (.link t)) :
    d.walk (fuel + 1) links cur (name :: rest) fl md =
      if rest.isEmpty ∧ ¬fl then .ok (.found (cur ++ [name]) (.link t))
      else if links = 0 then .error .loop
      else if t = "" then .error .noEntry
      else d.walk fuel (links - 1) (if Path.isAbsolute t then [] else cur) (pieces t ++ rest) fl
        (md || rest.isEmpty && t.endsWith "/") := by
  rw [walk]
  · simp [h]
  · exact h1
  · exact h2

end Name

/-! ## 3. Where a walk ends -/

/-- What the end of a walk says about the disk: a place found is what the disk holds there, or a
location with no entry, read as a directory; a name not taken has no entry. -/
def Agrees (d : Disk) : Place → Prop
  | .found l n => d.get? l = some n ∨ (d.get? l = none ∧ n = .dir 0o755)
  | .absent dir name _ => d.get? (dir ++ [name]) = none

/-- A walk ends at a place the disk agrees with. The induction is on the walk's fuel; the cases
follow what the walk finds at each component. -/
theorem agrees_of_walk {pl : Place} :
    ∀ fuel links cur parts fl md, d.walk fuel links cur parts fl md = .ok pl → d.Agrees pl := by
  intro fuel
  induction fuel with
  | zero => intro links cur parts fl md h; simp [walk_zero] at h
  | succ fuel ih =>
    intro links cur parts fl md h
    cases parts with
    | nil =>
      -- the walk stops where it stands, with what the disk holds there or the default
      rw [walk_nil] at h
      cases h
      cases hg : d.get? cur with
      | none => exact .inr ⟨hg, rfl⟩
      | some n => exact .inl hg
    | cons name rest =>
      by_cases h1 : name = "."
      · subst h1; rw [walk_dot] at h; exact ih _ _ _ _ _ h
      by_cases h2 : name = ".."
      · subst h2; rw [walk_dotdot] at h; exact ih _ _ _ _ _ h
      cases hg : d.get? (cur ++ [name]) with
      | none =>
        rw [walk_none h1 h2 hg] at h
        split_ifs at h
        cases h
        exact hg
      | some n =>
        cases n with
        | dir m => rw [walk_dir h1 h2 hg] at h; exact ih _ _ _ _ _ h
        | file data mode mtime =>
          rw [walk_file h1 h2 hg] at h
          split_ifs at h
          cases h
          exact .inl hg
        | link t =>
          rw [walk_link h1 h2 hg] at h
          generalize (if Path.isAbsolute t then [] else cur) = base at h
          split_ifs at h
          · cases h
            exact .inl hg
          · exact ih _ _ _ _ _ h

/-- A walk that finds something finds what the disk holds there, or stops at a directory the
disk has no entry for. -/
theorem get?_of_walk_found {l : Loc} {n : Node} (fuel links cur parts fl md)
    (h : d.walk fuel links cur parts fl md = .ok (.found l n)) :
    d.get? l = some n ∨ (d.get? l = none ∧ n = .dir 0o755) :=
  agrees_of_walk fuel links cur parts fl md h

theorem get?_of_walk_absent {dir : Loc} {name : String} {wd : Bool} (fuel links cur parts fl md)
    (h : d.walk fuel links cur parts fl md = .ok (.absent dir name wd)) :
    d.get? (dir ++ [name]) = none :=
  agrees_of_walk fuel links cur parts fl md h

/-- A walk that ends where a file may be written ends at a file or at a name not taken. -/
theorem fileOrFree_of_walk {pl : Place} {loc : Loc} (hslot : pl.FileSlot loc) :
    ∀ fuel links cur parts fl md, d.walk fuel links cur parts fl md = .ok pl → d.FileOrFree loc := by
  intro fuel links cur parts fl md h n hn
  cases hslot with
  | file =>
    rcases get?_of_walk_found fuel links cur parts fl md h with hget | ⟨hnone, -⟩
    · rw [hget] at hn
      cases hn
      exact ⟨_, _, _, rfl⟩
    · rw [hnone] at hn
      cases hn
  | absent =>
    rw [get?_of_walk_absent fuel links cur parts fl md h] at hn
    cases hn

/-- Putting a file where a walk ended changes none of its steps: over the new disk the walk ends
at the new file. The induction is on the walk's fuel; the cases follow what the walk finds at
each component, and split on whether it is the file's location. -/
theorem walk_set_file {pl : Place} {loc : Loc} (hslot : pl.FileSlot loc) (hfree : d.FileOrFree loc)
    (data : ByteArray) (mode : Nat) (mtime : FileTime) :
    ∀ fuel links cur parts fl md, d.walk fuel links cur parts fl md = .ok pl →
      (d.set loc (.file data mode mtime)).walk fuel links cur parts fl md =
        .ok (.found loc (.file data mode mtime)) := by
  intro fuel
  induction fuel with
  | zero => intro links cur parts fl md h; simp [walk_zero] at h
  | succ fuel ih =>
    intro links cur parts fl md h
    cases parts with
    | nil =>
      rw [walk_nil] at h
      cases h
      generalize (d.get? cur).getD (.dir 0o755) = n at hslot
      cases hslot
      rw [walk_nil, get?_set_self hfree.ne_nil, Option.getD_some]
    | cons name rest =>
      by_cases h1 : name = "."
      · subst h1; rw [walk_dot] at h ⊢; exact ih _ _ _ _ _ h
      by_cases h2 : name = ".."
      · subst h2; rw [walk_dotdot] at h ⊢; exact ih _ _ _ _ _ h
      by_cases hloc : cur ++ [name] = loc
      · -- the walk reaches the file's location: nothing or a file stood there, in last place
        subst hloc
        rw [walk_file h1 h2 (get?_set_self hfree.ne_nil _)]
        cases hg : d.get? (cur ++ [name]) with
        | none =>
          rw [walk_none h1 h2 hg] at h
          split_ifs at h with hrest
          cases h
          cases hslot
          simp [hrest]
        | some n =>
          obtain ⟨data', mode', mtime', rfl⟩ := hfree n hg
          rw [walk_file h1 h2 hg] at h
          split_ifs at h with hrest hmd
          simp [hrest, hmd]
      · -- elsewhere the new disk holds what the old one held
        have hget : (d.set loc (.file data mode mtime)).get? (cur ++ [name]) = d.get? (cur ++ [name]) :=
          get?_set_of_ne hloc _
        cases hg : d.get? (cur ++ [name]) with
        | none =>
          rw [walk_none h1 h2 hg] at h
          split_ifs at h
          cases h
          cases hslot
          exact absurd rfl hloc
        | some n =>
          rw [hg] at hget
          cases n with
          | dir m =>
            rw [walk_dir h1 h2 hg] at h
            rw [walk_dir h1 h2 hget]
            exact ih _ _ _ _ _ h
          | file data' mode' mtime' =>
            rw [walk_file h1 h2 hg] at h
            split_ifs at h
            cases h
            cases hslot
            exact absurd rfl hloc
          | link t =>
            rw [walk_link h1 h2 hg] at h
            rw [walk_link h1 h2 hget]
            generalize (if Path.isAbsolute t then [] else cur) = base at h ⊢
            split_ifs at h ⊢
            · cases h
              cases hslot
            · exact ih _ _ _ _ _ h

/-- A path that resolves is not empty, is absolute or read from a working directory that is one,
and names what the walk of its components finds. -/
theorem resolve_eq_walk {cwd : Loc} {p : String} {fl : Bool} {pl : Place}
    (h : d.resolve cwd p fl = .ok pl) :
    p ≠ "" ∧ (Path.isAbsolute p = true ∨ d.isDirAt cwd = true) ∧
      d.walk (d.walkBudget p) 40 (if Path.isAbsolute p then [] else cwd) (pieces p)
        (fl || p.endsWith "/") (p.endsWith "/") = .ok pl := by
  unfold resolve at h
  by_cases hp : p = ""
  · simp [hp] at h
  by_cases hcwd : ¬Path.isAbsolute p = true ∧ ¬d.isDirAt cwd = true
  · simp [hp, hcwd] at h
  rw [if_neg hp, if_neg hcwd] at h
  exact ⟨hp, by tauto, h⟩

theorem fileOrFree_of_resolve {cwd : Loc} {p : String} {fl : Bool} {pl : Place} {loc : Loc}
    (hslot : pl.FileSlot loc) (h : d.resolve cwd p fl = .ok pl) : d.FileOrFree loc :=
  fileOrFree_of_walk hslot _ _ _ _ _ _ (resolve_eq_walk h).2.2

/-- Putting a file where a path led: over the new disk the path names the new file. -/
theorem resolve_set_file (hnd : (d.nodes.map (·.1)).Nodup) {cwd : Loc} {p : String} {fl : Bool}
    {pl : Place} {loc : Loc} (h : d.resolve cwd p fl = .ok pl) (hslot : pl.FileSlot loc)
    (data : ByteArray) (mode : Nat) (mtime : FileTime) :
    (d.set loc (.file data mode mtime)).resolve cwd p fl = .ok (.found loc (.file data mode mtime)) := by
  obtain ⟨hp, hcwd, hwalk⟩ := resolve_eq_walk h
  have hfree := fileOrFree_of_walk hslot _ _ _ _ _ _ hwalk
  have hcwd' : ¬(¬Path.isAbsolute p = true ∧ ¬(d.set loc (.file data mode mtime)).isDirAt cwd = true) := by
    rw [hfree.isDirAt_set]
    tauto
  unfold resolve
  rw [if_neg hp, if_neg hcwd', hfree.walkBudget_set hnd]
  exact walk_set_file hslot hfree data mode mtime _ _ _ _ _ _ hwalk

/-! ## 4. Writing a file -/

variable {cwd : Loc} {p : String}

/-- Opening a file to write it anew: the path leads where a file may go, and an empty file stands
there. -/
theorem openWrite_eq_ok {d' : Disk} {loc : Loc} (h : d.openWrite cwd p true = .ok (d', loc)) :
    ∃ pl mode, d.resolve cwd p true = .ok pl ∧ pl.FileSlot loc ∧
      d' = d.set loc (.file ByteArray.empty mode d.now) := by
  unfold openWrite at h
  cases hres : d.resolve cwd p true with
  | error e => simp [hres, bind, Except.bind] at h
  | ok pl =>
    rw [hres] at h
    cases pl with
    | found loc' n =>
      cases n with
      | file data mode mtime =>
        simp only [bind, Except.bind, if_true, Except.ok.injEq, Prod.mk.injEq] at h
        obtain ⟨rfl, rfl⟩ := h
        exact ⟨_, mode, rfl, .file, rfl⟩
      | dir m => simp [bind, Except.bind] at h
      | link t => simp [bind, Except.bind] at h
    | absent dir name wantsDir =>
      cases wantsDir with
      | true => simp [bind, Except.bind] at h
      | false =>
        simp only [bind, Except.bind, Bool.false_eq_true, if_false, Except.ok.injEq,
          Prod.mk.injEq] at h
        obtain ⟨rfl, rfl⟩ := h
        exact ⟨_, 0o644, rfl, .absent, rfl⟩

/-- Writing a whole file: the path leads where a file may go, and a file with the bytes stands
there, none of them at the null device. -/
theorem writeFile_eq_ok {d' : Disk} {bytes : ByteArray} (h : d.writeFile cwd p bytes = .ok d') :
    ∃ pl loc mode, d.resolve cwd p true = .ok pl ∧ pl.FileSlot loc ∧
      d' = d.set loc (.file (if loc = nullDevice then .empty else bytes) mode d.now) := by
  unfold writeFile at h
  cases hopen : d.openWrite cwd p true with
  | error e => simp [hopen, bind, Except.bind] at h
  | ok r =>
    obtain ⟨d2, loc⟩ := r
    simp only [hopen, bind, Except.bind, Except.ok.injEq] at h
    obtain ⟨pl, mode, hres, hslot, rfl⟩ := openWrite_eq_ok hopen
    have hfree := fileOrFree_of_resolve hslot hres
    refine ⟨pl, loc, mode, hres, hslot, ?_⟩
    rw [← h, appendAt]
    by_cases hnull : loc = nullDevice
    · simp [hnull]
    by_cases hemp : bytes.isEmpty = true
    · -- nothing to add: the empty file stays, and it holds the bytes
      have hbytes : bytes = .empty := by simpa [ByteArray.isEmpty] using hemp
      rw [if_pos (Or.inl hemp), if_neg hnull, hbytes]
    · rw [if_neg (by simp [hemp, hnull]), if_neg hnull, get?_set_self hfree.ne_nil]
      simp only [set_now, set_set, ByteArray.empty_append]

theorem resolve_found_locate {loc : Loc} {n : Node} (h : d.resolve cwd p true = .ok (.found loc n)) :
    d.locate cwd p = .ok loc := by
  simp [locate, h, bind, Except.bind]

theorem resolve_found_fileBytes {loc : Loc} {data : ByteArray} {mode : Nat} {mtime : FileTime}
    (h : d.resolve cwd p true = .ok (.found loc (.file data mode mtime))) :
    d.fileBytes cwd p = .ok data := by
  simp [fileBytes, h, bind, Except.bind]

/-- Reading a file just written gives the bytes written, unless the path led to the null
device. -/
theorem fileBytes_writeFile (hnd : (d.nodes.map (·.1)).Nodup) {d' : Disk} {bytes : ByteArray}
    (h : d.writeFile cwd p bytes = .ok d') (hnull : d'.locate cwd p ≠ .ok nullDevice) :
    d'.fileBytes cwd p = .ok bytes := by
  obtain ⟨pl, loc, mode, hres, hslot, rfl⟩ := writeFile_eq_ok h
  have hres' := resolve_set_file hnd hres hslot (if loc = nullDevice then .empty else bytes) mode d.now
  have hloc : loc ≠ nullDevice := fun hl => hnull (by rw [resolve_found_locate hres', hl])
  rw [resolve_found_fileBytes hres', if_neg hloc]

/-! ## 5. One entry per location -/

/-- Creating one directory puts it at a name not taken yet in a directory. -/
theorem mkdir_eq_ok {d' : Disk} (h : d.mkdir cwd p = .ok d') :
    ∃ dir name wd, d.resolve cwd p false = .ok (.absent dir name wd) ∧
      d' = d.set (dir ++ [name]) (.dir 0o755) := by
  unfold mkdir at h
  cases hres : d.resolve cwd p false with
  | error e => simp [hres, bind, Except.bind] at h
  | ok pl =>
    cases pl with
    | found loc n => simp [hres, bind, Except.bind] at h
    | absent dir name wantsDir =>
      simp only [hres, bind, Except.bind, Except.ok.injEq] at h
      exact ⟨dir, name, wantsDir, rfl, h.symm⟩

theorem nodup_mkdir (hnd : (d.nodes.map (·.1)).Nodup) {d' : Disk} (h : d.mkdir cwd p = .ok d') :
    (d'.nodes.map (·.1)).Nodup := by
  obtain ⟨_, _, _, _, rfl⟩ := mkdir_eq_ok h
  exact nodup_set hnd _

/-- What every `mkdir` keeps, creating a directory with its parents keeps: every directory is
made by `mkdir`, and the other ways out leave the disk as it was. The induction is on the depth
bound, as the recursion of `createDirAllWith` goes. -/
theorem createDirAllWith_induction {P : Disk → Prop}
    (hmk : ∀ {d d' : Disk} {p : String}, P d → d.mkdir cwd p = .ok d' → P d') :
    ∀ (fuel : Nat) (p : String) (d d' : Disk), P d →
      d.createDirAllWith cwd fuel p = .ok d' → P d' := by
  intro fuel
  induction fuel with
  | zero => intro p d d' _ h; simp [createDirAllWith] at h
  | succ fuel ih =>
    intro p d d' hP h
    rw [createDirAllWith] at h
    by_cases hp : p = ""
    · rw [if_pos hp] at h
      cases h
      exact hP
    rw [if_neg hp] at h
    split at h
    · cases h
      exact hmk hP ‹_›
    · split at h
      · simp at h
      · rename_i q _
        cases hrec : d.createDirAllWith cwd fuel q with
        | error e => simp [hrec, bind, Except.bind] at h
        | ok d1 =>
          have hP1 := ih q d d1 hP hrec
          simp only [hrec, bind, Except.bind] at h
          split at h
          · cases h
            exact hmk hP1 ‹_›
          · split_ifs at h
            cases h
            exact hP1
    · split_ifs at h
      cases h
      exact hP

theorem nodup_createDirAll (hnd : (d.nodes.map (·.1)).Nodup) {d' : Disk}
    (h : d.createDirAll cwd p = .ok d') : (d'.nodes.map (·.1)).Nodup :=
  createDirAllWith_induction (P := fun d => (d.nodes.map (·.1)).Nodup)
    (fun hnd h => nodup_mkdir hnd h) _ p d d' hnd h

end Disk

end Safekeep
