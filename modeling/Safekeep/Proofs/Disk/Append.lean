import Safekeep.Proofs.Disk.Copy
import Mathlib

/-!
# Appending to a file in a directory already in place

Appending bytes to a file adds them at its end, and where nothing stood it makes a file that
holds them (`Disk.appendFile_found`, `Disk.appendFile_absent`). Creating a directory that a path
already names changes nothing (`Disk.createDirAll_of_found`).

Between two appends only the file changes, at a place where nothing stood before the first. So
every path that named something else names it still (`Disk.resolve_set_of_ne`); a directory
named without following a link in last place is found either way, as the same entry or as the
link (`Disk.resolve_nofollow`).
-/

namespace Safekeep

namespace Disk

variable {d : Disk}

/-! ## 1. Paths whose last link is not followed -/

/-- Without following a link in last place, a walk that found something finds the same, or stops
at the link. The induction is on the walk's fuel; the two walks part only at a link with no
component after it. -/
theorem walk_nofollow {l : Loc} {n : Node} :
    ∀ fuel links cur parts md, d.walk fuel links cur parts true md = .ok (.found l n) →
      d.walk fuel links cur parts false md = .ok (.found l n) ∨
        ∃ l' t, d.walk fuel links cur parts false md = .ok (.found l' (.link t)) ∧
          d.get? l' = some (.link t) := by
  intro fuel
  induction fuel with
  | zero => intro links cur parts md h; simp [walk_zero] at h
  | succ fuel ih =>
    intro links cur parts md h
    cases parts with
    | nil => rw [walk_nil] at h ⊢; exact Or.inl h
    | cons name rest =>
      by_cases h1 : name = "."
      · subst h1; rw [walk_dot] at h ⊢; exact ih _ _ _ _ h
      by_cases h2 : name = ".."
      · subst h2; rw [walk_dotdot] at h ⊢; exact ih _ _ _ _ h
      cases hg : d.get? (cur ++ [name]) with
      | none =>
        rw [walk_none h1 h2 hg] at h
        split_ifs at h
        cases h
      | some n' =>
        cases n' with
        | dir m => rw [walk_dir h1 h2 hg] at h ⊢; exact ih _ _ _ _ h
        | file data mode mtime => rw [walk_file h1 h2 hg] at h ⊢; exact Or.inl h
        | link t =>
          rw [walk_link h1 h2 hg] at h ⊢
          by_cases hrest : rest.isEmpty = true
          · -- a link in last place: the walk that does not follow it stops there
            exact Or.inr ⟨cur ++ [name], t, by simp [hrest], hg⟩
          · -- a link on the way is followed either way
            simp only [hrest, Bool.false_eq_true, false_and, ↓reduceIte] at h ⊢
            generalize (if Path.isAbsolute t then [] else cur) = base at h ⊢
            split_ifs at h ⊢
            exact ih _ _ _ _ h

variable {cwd : Loc} {p : String}

/-- A path that names something, read without following a link in last place, still names
something: the same place, or an entry of the disk. -/
theorem resolve_nofollow {l : Loc} {n : Node} (h : d.resolve cwd p true = .ok (.found l n)) :
    ∃ l' n', d.resolve cwd p false = .ok (.found l' n') ∧ (l' = l ∨ d.get? l' ≠ none) := by
  obtain ⟨hp, hcwd, hwalk⟩ := resolve_eq_walk h
  have hcwd' : ¬(¬Path.isAbsolute p = true ∧ ¬d.isDirAt cwd = true) := by tauto
  unfold resolve
  rw [if_neg hp, if_neg hcwd']
  cases hdir : p.endsWith "/"
  · -- no trailing slash: the last link, if any, is left alone
    rw [hdir] at hwalk
    rcases walk_nofollow _ _ _ _ _ hwalk with hsame | ⟨l', t, hlink, hget⟩
    · exact ⟨l, n, hsame, Or.inl rfl⟩
    · exact ⟨l', .link t, hlink, Or.inr (by simp [hget])⟩
  · -- a trailing slash follows the last link all the same
    rw [hdir] at hwalk
    exact ⟨l, n, hwalk, Or.inl rfl⟩

/-- A path located at a directory of the disk names that directory. -/
theorem resolve_of_locate {l : Loc} (hloc : d.locate cwd p = .ok l) (hdir : d.isDirAt l = true) :
    ∃ m, d.resolve cwd p true = .ok (.found l (.dir m)) := by
  have hget : ∃ m, d.get? l = some (.dir m) := by
    unfold isDirAt at hdir
    split at hdir
    · rename_i m hm
      exact ⟨m, hm⟩
    · cases hdir
  obtain ⟨m, hm⟩ := hget
  cases hres : d.resolve cwd p true with
  | error e => simp [locate, hres, bind, Except.bind] at hloc
  | ok pl =>
    cases pl with
    | found l' n =>
      obtain rfl : l' = l := by simpa [locate, hres, bind, Except.bind] using hloc
      rcases get?_of_walk_found _ _ _ _ _ _ (resolve_eq_walk hres).2.2 with hn | ⟨hnone, -⟩
      · rw [hm] at hn
        cases hn
        exact ⟨m, rfl⟩
      · rw [hm] at hnone
        cases hnone
    | absent dir name wd =>
      -- a name not taken is no directory
      obtain rfl : dir ++ [name] = l := by simpa [locate, hres, bind, Except.bind] using hloc
      have hnone := get?_of_walk_absent _ _ _ _ _ _ (resolve_eq_walk hres).2.2
      rw [hm] at hnone
      cases hnone

theorem isDir_of_resolve {l : Loc} {m : Nat} (h : d.resolve cwd p true = .ok (.found l (.dir m))) :
    d.isDir cwd p = true := by
  simp [isDir, stat, h, bind, Except.bind, Node.stat]

/-! ## 2. A file put where nothing stood -/

/-- Putting a file where nothing stood changes no path that names something elsewhere. -/
theorem resolve_set_of_ne (hnd : (d.nodes.map (·.1)).Nodup) {loc : Loc} (hloc : d.get? loc = none)
    {fl : Bool} {l : Loc} {node : Node} (hl : l ≠ loc) (h : d.resolve cwd p fl = .ok (.found l node))
    (data : ByteArray) (mode : Nat) (mtime : FileTime) :
    (d.set loc (.file data mode mtime)).resolve cwd p fl = .ok (.found l node) := by
  have hfree : d.FileOrFree loc := fun n hn => by
    rw [hloc] at hn
    cases hn
  obtain ⟨hp, hcwd, hwalk⟩ := resolve_eq_walk h
  have hcwd' : ¬(¬Path.isAbsolute p = true ∧
      ¬(d.set loc (.file data mode mtime)).isDirAt cwd = true) := by
    rw [hfree.isDirAt_set]
    tauto
  unfold resolve
  rw [if_neg hp, if_neg hcwd', hfree.walkBudget_set hnd]
  exact walk_set_of_ne hloc _ hl _ _ _ _ _ _ hwalk

/-! ## 3. Creating a directory in place, appending to a file -/

/-- Where a path already names a directory, creating it with its parents changes nothing: making
it fails as it exists, and the path names a directory. -/
theorem createDirAll_of_found {l : Loc} {n : Node} (hfound : d.resolve cwd p false = .ok (.found l n))
    (hdir : d.isDir cwd p = true) : d.createDirAll cwd p = .ok d := by
  have hp : p ≠ "" := (resolve_eq_walk hfound).1
  have hmk : d.mkdir cwd p = .error .exists := by simp [mkdir, hfound, bind, Except.bind]
  unfold createDirAll
  rw [createDirAllWith, if_neg hp, hmk]
  simp [hdir]

variable {bytes : ByteArray}

/-- Appending to a path where nothing stands yet makes a file that holds the bytes. -/
theorem appendFile_absent {dir : Loc} {name : String}
    (h : d.resolve cwd p true = .ok (.absent dir name false)) (hnull : dir ++ [name] ≠ nullDevice)
    (hb : bytes.isEmpty = false) :
    d.appendFile cwd p bytes = .ok (d.set (dir ++ [name]) (.file bytes 0o644 d.now)) := by
  have hne : dir ++ [name] ≠ [] := by simp
  simp only [appendFile, openWrite, h, bind, Except.bind, Bool.false_eq_true, ↓reduceIte]
  rw [appendAt, if_neg (by simp [hb, hnull]), get?_set_self hne]
  simp only [set_now, set_set, ByteArray.empty_append]

/-- Appending to a file adds the bytes at its end. -/
theorem appendFile_found {l : Loc} {data : ByteArray} {mode : Nat} {mtime : FileTime}
    (h : d.resolve cwd p true = .ok (.found l (.file data mode mtime))) (hnull : l ≠ nullDevice)
    (hb : bytes.isEmpty = false) :
    d.appendFile cwd p bytes = .ok (d.set l (.file (data ++ bytes) mode d.now)) := by
  have hne : l ≠ [] := (fileOrFree_of_resolve .file h).ne_nil
  simp only [appendFile, openWrite, h, bind, Except.bind, Bool.false_eq_true, ↓reduceIte]
  rw [appendAt, if_neg (by simp [hb, hnull]), get?_set_self hne]
  simp only [set_now, set_set]

end Disk

end Safekeep
