import Safekeep.Copy
import Safekeep.Proofs.Disk.Write
import Mathlib

/-!
# What a copy leaves on disk

A copy that returns a count has created the target's parents and then changed one location of
the disk, where the target's path led: a file stands there with the source's bytes, all of them,
and the time the source had when it was opened (`Disk.copyFile_eq_ok`). So reading the target
back gives the source's bytes, whatever the target held before, and the count is their number.
This holds for every course of short reads: the chunk loop keeps the target holding the first
`done` bytes of the source (`Disk.copyChunks_eq_ok`), and each read moves `done` on by at least
one byte, which is also why the loop ends. A copy stops cancelled only at a pause wait where the
run is found cancelled.

The source is read once the parents are made and the target is opened, so its bytes are the ones
it held before the copy when the target is another file. Creating directories never changes what
a path to a file names (`Disk.resolve_createParents_file`): a walk to a file never looks at the
places where directories are made, for nothing stood there.
-/

namespace Safekeep

namespace Disk

variable {d : Disk}

/-! ## 1. Walks to files, and places left free -/

/-- A walk that finds a file finds what the disk holds there. -/
theorem get?_of_walk_file {l : Loc} {data : ByteArray} {mode : Nat} {mtime : FileTime}
    (fuel links cur parts fl md)
    (h : d.walk fuel links cur parts fl md = .ok (.found l (.file data mode mtime))) :
    d.get? l = some (.file data mode mtime) := by
  rcases get?_of_walk_found fuel links cur parts fl md h with hget | ⟨-, hdir⟩
  · exact hget
  · cases hdir

/-- Filling a place where nothing stood changes no walk that ends elsewhere: such a walk never
looks there. The induction is on the walk's fuel, the cases on what it finds at each component. -/
theorem walk_set_of_ne {loc : Loc} (hloc : d.get? loc = none) (n : Node) {l : Loc} {node : Node}
    (hl : l ≠ loc) :
    ∀ fuel links cur parts fl md, d.walk fuel links cur parts fl md = .ok (.found l node) →
      (d.set loc n).walk fuel links cur parts fl md = .ok (.found l node) := by
  intro fuel
  induction fuel with
  | zero => intro links cur parts fl md h; simp [walk_zero] at h
  | succ fuel ih =>
    intro links cur parts fl md h
    cases parts with
    | nil =>
      rw [walk_nil] at h
      obtain ⟨rfl, -⟩ : cur = l ∧ _ := by simpa using h
      rw [walk_nil, get?_set_of_ne hl]
      exact h
    | cons name rest =>
      by_cases h1 : name = "."
      · subst h1; rw [walk_dot] at h ⊢; exact ih _ _ _ _ _ h
      by_cases h2 : name = ".."
      · subst h2; rw [walk_dotdot] at h ⊢; exact ih _ _ _ _ _ h
      cases hg : d.get? (cur ++ [name]) with
      | none =>
        rw [walk_none h1 h2 hg] at h
        split_ifs at h
        cases h
      | some n' =>
        -- the walk looked at a place that held something, so not at `loc`
        have hne : cur ++ [name] ≠ loc := fun he => by rw [he, hloc] at hg; cases hg
        have hget := get?_set_of_ne (d := d) hne n
        rw [hg] at hget
        cases n' with
        | dir m =>
          rw [walk_dir h1 h2 hg] at h
          rw [walk_dir h1 h2 hget]
          exact ih _ _ _ _ _ h
        | file data' mode' mtime' =>
          rw [walk_file h1 h2 hg] at h
          rw [walk_file h1 h2 hget]
          exact h
        | link t =>
          rw [walk_link h1 h2 hg] at h
          rw [walk_link h1 h2 hget]
          generalize (if Path.isAbsolute t then [] else cur) = base at h ⊢
          split_ifs at h ⊢
          · exact h
          · exact ih _ _ _ _ _ h

/-- Filling a place where nothing stood changes no walk to a file. -/
theorem walk_set_of_none {loc : Loc} (hloc : d.get? loc = none) (n : Node) {l : Loc}
    {data : ByteArray} {mode : Nat} {mtime : FileTime} (fuel links cur parts fl md)
    (h : d.walk fuel links cur parts fl md = .ok (.found l (.file data mode mtime))) :
    (d.set loc n).walk fuel links cur parts fl md = .ok (.found l (.file data mode mtime)) := by
  have hl : l ≠ loc := fun he => by
    rw [← he, get?_of_walk_file _ _ _ _ _ _ h] at hloc
    cases hloc
  exact walk_set_of_ne hloc n hl _ _ _ _ _ _ h

/-! ## 2. Creating directories keeps every path to a file -/

theorem any_eq_false_of_get?_none {loc : Loc} (hloc : d.get? loc = none) :
    d.nodes.any (·.1 == loc) = false := by
  have hfind : d.nodes.find? (·.1 == loc) = none := by
    unfold get? at hloc
    split_ifs at hloc
    simpa using hloc
  exact List.any_eq_false.2 fun e he => List.find?_eq_none.1 hfind e he

/-- Putting a directory at a name not taken leaves the bound on a walk's steps as it was: it
adds no link. -/
theorem walkBudget_set_dir_of_none {loc : Loc} (hloc : d.get? loc = none) (m : Nat) (p : String) :
    (d.set loc (.dir m)).walkBudget p = d.walkBudget p := by
  unfold walkBudget set
  rw [any_eq_false_of_get?_none hloc]
  simp [List.foldr_append]

theorem isDirAt_set_of_none {loc l : Loc} (hloc : d.get? loc = none) (n : Node)
    (hl : d.isDirAt l = true) : (d.set loc n).isDirAt l = true := by
  have hne : l ≠ loc := by
    rintro rfl
    simp [isDirAt, hloc] at hl
  rwa [isDirAt, get?_set_of_ne hne]

variable {cwd : Loc} {p : String} {fl : Bool} {l : Loc} {data : ByteArray} {mode : Nat}
  {mtime : FileTime}

/-- Putting a directory at a name not taken changes no path that names a file. -/
theorem resolve_set_dir_of_none {loc : Loc} (hloc : d.get? loc = none) (m : Nat)
    (h : d.resolve cwd p fl = .ok (.found l (.file data mode mtime))) :
    (d.set loc (.dir m)).resolve cwd p fl = .ok (.found l (.file data mode mtime)) := by
  obtain ⟨hp, hcwd, hwalk⟩ := resolve_eq_walk h
  have hcwd' : ¬(¬Path.isAbsolute p = true ∧ ¬(d.set loc (.dir m)).isDirAt cwd = true) := by
    rcases hcwd with habs | hdir
    · simp [habs]
    · simp [isDirAt_set_of_none hloc _ hdir]
  unfold resolve
  rw [if_neg hp, if_neg hcwd', walkBudget_set_dir_of_none hloc]
  exact walk_set_of_none hloc _ _ _ _ _ _ _ hwalk

theorem resolve_mkdir_file {d' : Disk} {q : String} (hmk : d.mkdir cwd q = .ok d')
    (h : d.resolve cwd p fl = .ok (.found l (.file data mode mtime))) :
    d'.resolve cwd p fl = .ok (.found l (.file data mode mtime)) := by
  obtain ⟨dir, name, wd, hres, rfl⟩ := mkdir_eq_ok hmk
  exact resolve_set_dir_of_none (get?_of_walk_absent _ _ _ _ _ _ (resolve_eq_walk hres).2.2) _ h

/-- Creating a target's parents changes no path that names a file. -/
theorem resolve_createParents_file {d' : Disk} {target : String}
    (hc : d.createParents cwd target = .ok d')
    (h : d.resolve cwd p fl = .ok (.found l (.file data mode mtime))) :
    d'.resolve cwd p fl = .ok (.found l (.file data mode mtime)) := by
  unfold createParents at hc
  split at hc
  · exact createDirAllWith_induction (P := fun d => d.resolve cwd p fl = .ok (.found l (.file data mode mtime)))
      (fun h hmk => resolve_mkdir_file hmk h) _ _ d d' h hc
  · cases hc
    exact h

theorem nodup_createParents (hnd : (d.nodes.map (·.1)).Nodup) {d' : Disk} {target : String}
    (hc : d.createParents cwd target = .ok d') : (d'.nodes.map (·.1)).Nodup := by
  unfold createParents at hc
  split at hc
  · exact nodup_createDirAll hnd hc
  · cases hc
    exact hnd

end Disk

/-! ## 3. One read -/

namespace Copying

variable {c c' : Copying} {limit : Nat}

/-- A read that hands back a chunk gives the next bytes of the source, no further than its end,
and moves the copy on over them. -/
theorem readChunk_eq_some {chunk : ByteArray} (h : c.readChunk limit = .ok (some (chunk, c'))) :
    ∃ bytes n, c.data = some bytes ∧ c.done + n ≤ bytes.size ∧
      chunk = bytes.extract c.done (c.done + n) ∧ c' = { c with done := c.done + n } := by
  unfold readChunk at h
  split at h
  · cases h
  · rename_i bytes hdata
    split at h
    · cases h
    · cases h
      exact ⟨bytes, _, hdata, by omega, rfl, rfl⟩

/-- A read that hands back nothing: the copy has reached the source's end. -/
theorem readChunk_eq_none (h : c.readChunk limit = .ok none) :
    ∃ bytes, c.data = some bytes ∧ bytes.size ≤ c.done := by
  unfold readChunk at h
  split at h
  · cases h
  · rename_i bytes hdata
    split at h
    · exact ⟨bytes, hdata, by omega⟩
    · cases h

end Copying

namespace Disk

variable {d : Disk}

/-! ## 4. The chunk loop -/

/-- Appending to a file just put in place: the file grows by the chunk, unless it is the null
device. -/
theorem appendAt_set_file {loc : Loc} (hloc : loc ≠ []) (x chunk : ByteArray) (mode : Nat) :
    (d.set loc (.file x mode d.now)).appendAt loc chunk =
      d.set loc (.file (if loc = nullDevice then x else x ++ chunk) mode d.now) := by
  unfold appendAt
  by_cases hnull : loc = nullDevice
  · simp [hnull]
  by_cases hemp : chunk.isEmpty = true
  · have hchunk : chunk = .empty := by simpa [ByteArray.isEmpty] using hemp
    rw [if_pos (Or.inl hemp), if_neg hnull, hchunk, ByteArray.append_empty]
  · rw [if_neg (by simp [hemp, hnull]), get?_set_self hloc]
    simp [hnull, set_set]

/-- What a target holds once the first `k` bytes of `bytes` went to it: nothing at the null
device. -/
def held (loc : Loc) (bytes : ByteArray) (k : Nat) : ByteArray :=
  if loc = nullDevice then .empty else bytes.extract 0 k

@[simp] theorem held_zero (loc : Loc) (bytes : ByteArray) : held loc bytes 0 = .empty := by
  simp [held, ByteArray.extract_same]

theorem held_size (loc : Loc) (bytes : ByteArray) :
    held loc bytes bytes.size = if loc = nullDevice then .empty else bytes := by
  simp [held, ByteArray.extract_zero_size]

/-- One chunk of the loop: writing the bytes from `k` to `k + n` after the first `k` leaves the
first `k + n`. -/
theorem appendAt_held {loc : Loc} (hloc : loc ≠ []) (bytes : ByteArray) (k n mode : Nat) :
    (d.set loc (.file (held loc bytes k) mode d.now)).appendAt loc (bytes.extract k (k + n)) =
      d.set loc (.file (held loc bytes (k + n)) mode d.now) := by
  rw [appendAt_set_file hloc]
  by_cases hnull : loc = nullDevice
  · simp [held, hnull]
  · have hsplit : bytes.extract 0 k ++ bytes.extract k (k + n) = bytes.extract 0 (k + n) := by
      rw [ByteArray.extract_append_extract, Nat.zero_min, Nat.max_eq_right (Nat.le_add_right k n)]
    simp [held, hnull, hsplit]

variable {w : CopyWorld} {d₀ d' : Disk} {bytes : ByteArray} {mode : Nat}

/-- Writing the source's next chunk to a target that holds its first `done` bytes extends what
the target holds by that chunk. -/
theorem writeChunk_held {c : Copying} (hlt : c.target ≠ []) (n : Nat) :
    (d₀.set c.target (.file (held c.target bytes c.done) mode d₀.now)).writeChunk c
        (bytes.extract c.done (c.done + n)) =
      d₀.set c.target (.file (held c.target bytes (c.done + n)) mode d₀.now) := by
  rw [writeChunk, appendAt_held hlt]

/-- The chunk loop, over every course of short reads: while the target holds the first `done`
bytes of the source, a loop that ends well has moved all of them. The induction follows the
loop's own recursion; each read hands back the next bytes, so the invariant passes from one chunk
to the next. -/
theorem copyChunks_eq_ok (d : Disk) (c : Copying) {c' : Copying} (hc : c.data = some bytes)
    (hlt : c.target ≠ []) (hle : c.done ≤ bytes.size)
    (hd : d = d₀.set c.target (.file (held c.target bytes c.done) mode d₀.now))
    (h : d.copyChunks w c = (d', .ok c')) :
    c' = { c with done := bytes.size } ∧
      d' = d₀.set c.target (.file (held c.target bytes bytes.size) mode d₀.now) := by
  fun_induction Disk.copyChunks d w c with
  | case1 d c hw => simp at h
  | case2 d c e hread => simp at h
  | case3 d c hw hread =>
    obtain ⟨bytes', hc', hend⟩ := Copying.readChunk_eq_none hread
    rw [hc] at hc'
    cases hc'
    simp only [Prod.mk.injEq, Except.ok.injEq] at h
    obtain ⟨rfl, rfl⟩ := h
    have hdone : c.done = bytes.size := by omega
    rw [← hdone]
    exact ⟨rfl, hd⟩
  | case4 d c hw chunk c₁ hread e hf => simp at h
  | case5 d c hw chunk c₁ hread hf ih =>
    obtain ⟨bytes', n, hc', hn, rfl, rfl⟩ := Copying.readChunk_eq_some hread
    rw [hc] at hc'
    cases hc'
    have hd₁ : d.writeChunk c (bytes.extract c.done (c.done + n)) =
        d₀.set c.target (.file (held c.target bytes (c.done + n)) mode d₀.now) := by
      rw [hd, writeChunk_held hlt]
    exact ih hc hlt hn hd₁ h

/-- A loop that ends in an error (a failed read or write, or a cancellation) leaves at the target
a prefix of the source, no shorter than the one it started from: nothing but the source's own
bytes, in order, is ever written. -/
theorem copyChunks_eq_error (d : Disk) (c : Copying) {e : CopyError} (hc : c.data = some bytes)
    (hlt : c.target ≠ []) (hle : c.done ≤ bytes.size)
    (hd : d = d₀.set c.target (.file (held c.target bytes c.done) mode d₀.now))
    (h : d.copyChunks w c = (d', .error e)) :
    ∃ k, c.done ≤ k ∧ k ≤ bytes.size ∧
      d' = d₀.set c.target (.file (held c.target bytes k) mode d₀.now) := by
  fun_induction Disk.copyChunks d w c with
  -- the loop stops at the chunk it reached: the target holds what it held on entering
  | case1 d c hw | case2 d c _ hread | case4 d c hw _ _ hread _ hf =>
    obtain ⟨rfl, -⟩ := Prod.mk.inj h
    exact ⟨c.done, le_rfl, hle, hd⟩
  | case3 d c hw hread => simp at h
  | case5 d c hw chunk c₁ hread hf ih =>
    obtain ⟨bytes', n, hc', hn, rfl, rfl⟩ := Copying.readChunk_eq_some hread
    rw [hc] at hc'
    cases hc'
    have hd₁ : d.writeChunk c (bytes.extract c.done (c.done + n)) =
        d₀.set c.target (.file (held c.target bytes (c.done + n)) mode d₀.now) := by
      rw [hd, writeChunk_held hlt]
    obtain ⟨k, hk, hks, hd'⟩ := ih hc hlt hn hd₁ h
    exact ⟨k, by simp only at hk; omega, hks, hd'⟩

/-- The loop stops cancelled only at a wait where the run is found cancelled. -/
theorem copyChunks_cancelled (d : Disk) (c : Copying) (h : d.copyChunks w c = (d', .error .cancelled)) :
    ∃ k, w.cancelledAt (some k) = true := by
  fun_induction Disk.copyChunks d w c with
  | case1 d c hw => exact ⟨c.done, hw⟩
  | case2 d c e hread => simp at h
  | case3 d c hw hread => simp at h
  | case4 d c hw chunk c₁ hread e hf => simp at h
  | case5 d c hw chunk c₁ hread hf ih => exact ih h

/-! ## 5. Opening and finishing a copy -/

variable {cwd : Loc} {source target : String}

theorem FileSlot.locate {p : String} {pl : Place} {loc : Loc} (h : d.resolve cwd p true = .ok pl)
    (hslot : pl.FileSlot loc) : d.locate cwd p = .ok loc := by
  cases hslot <;> simp [Disk.locate, h, bind, Except.bind]

/-- Opening a copy: the parents made, the source found, the target opened anew where its path
led, and the copy set to read, from its start, what the source's location holds then. -/
theorem openCopy_eq_ok {c : Copying} (h : d.openCopy cwd source target = (d', .ok c)) :
    ∃ d₁ src n pl tmode, d.createParents cwd target = .ok d₁ ∧
      d₁.resolve cwd source true = .ok (.found src n) ∧
      d₁.resolve cwd target true = .ok pl ∧ pl.FileSlot c.target ∧
      d' = d₁.set c.target (.file .empty tmode d₁.now) ∧
      (∀ bytes fmode ftime, d'.get? src = some (.file bytes fmode ftime) → c.data = some bytes) ∧
      c.targetPath = target ∧ c.done = 0 ∧ c.mtime = n.stat.mtime := by
  unfold openCopy at h
  cases hpar : d.createParents cwd target with
  | error e => simp [hpar] at h
  | ok d₁ =>
    cases hsrc : d₁.resolve cwd source true with
    | error e => simp [hpar, hsrc] at h
    | ok pl =>
      cases pl with
      | absent => simp [hpar, hsrc] at h
      | found src n =>
        cases hopen : d₁.openWrite cwd target true with
        | error e => simp [hpar, hsrc, hopen] at h
        | ok r =>
          obtain ⟨d₂, loc⟩ := r
          simp only [hpar, hsrc, hopen, Prod.mk.injEq, Except.ok.injEq] at h
          obtain ⟨rfl, rfl⟩ := h
          obtain ⟨pl, tmode, hres, hslot, rfl⟩ := openWrite_eq_ok hopen
          refine ⟨d₁, src, n, pl, tmode, rfl, hsrc, hres, hslot, rfl, ?_, rfl, rfl, rfl⟩
          intro bytes fmode ftime hg
          simp [hg]

theorem setMtime_set_file (hnd : (d.nodes.map (·.1)).Nodup) {p : String} {pl : Place} {loc : Loc}
    (h : d.resolve cwd p true = .ok pl) (hslot : pl.FileSlot loc) (data : ByteArray) (fmode : Nat)
    (t t' : FileTime) :
    (d.set loc (.file data fmode t)).setMtime cwd p t' = .ok (d.set loc (.file data fmode t')) := by
  simp [setMtime, resolve_set_file hnd h hslot, bind, Except.bind, set_set]

/-! ## 6. A whole copy -/

variable {ls : Loc} {c : ByteArray} {m : FileTime}

/-- A copy that returns a count: the parents made, and then one location changed, where the
target's path led. A file stands there with the bytes the copy read, which are the source's
unless the target is the source itself, and with the source's time; the count is their number. -/
theorem copyFile_eq_ok (hnd : (d.nodes.map (·.1)).Nodup) {n : Nat}
    (hsrc : d.resolve cwd source true = .ok (.found ls (.file c mode m)))
    (h : d.copyFile cwd w source target = (d', .ok n)) :
    ∃ d₁ pl lt tmode bytes, d.createParents cwd target = .ok d₁ ∧
      d₁.resolve cwd target true = .ok pl ∧ pl.FileSlot lt ∧
      bytes = (if lt = ls then .empty else c) ∧ n = bytes.size ∧
      d' = d₁.set lt (.file (held lt bytes bytes.size) tmode m) := by
  unfold copyFile at h
  split_ifs at h with hw
  · simp at h
  rcases hop : d.openCopy cwd source target with ⟨d₂, e | cp⟩
  · simp [hop] at h
  simp only [hop] at h
  obtain ⟨d₁, src, nd, pl, tmode, hpar, hsrc₁, hres, hslot, rfl, hdata, htp, hdone, hmt⟩ :=
    openCopy_eq_ok hop
  -- creating the parents left the source where it was, so the copy found it there
  have hsrc' := resolve_createParents_file hpar hsrc
  rw [hsrc'] at hsrc₁
  simp only [Except.ok.injEq, Place.found.injEq] at hsrc₁
  obtain ⟨rfl, rfl⟩ := hsrc₁
  have hnd₁ := nodup_createParents hnd hpar
  have hfree := fileOrFree_of_resolve hslot hres
  have hls : d₁.get? ls = some (.file c mode m) :=
    get?_of_walk_file _ _ _ _ _ _ (resolve_eq_walk hsrc').2.2
  -- what the copy reads: the source, or the empty target when the two are one file
  obtain ⟨bytes, hbytes, hdata'⟩ :
      ∃ bytes, bytes = (if cp.target = ls then .empty else c) ∧ cp.data = some bytes := by
    by_cases hself : cp.target = ls
    · refine ⟨.empty, by simp [hself], hdata .empty tmode d₁.now ?_⟩
      rw [← hself, get?_set_self hfree.ne_nil]
    · refine ⟨c, by simp [hself], hdata c mode m ?_⟩
      rw [get?_set_of_ne (Ne.symm hself), hls]
  rcases hch : (d₁.set cp.target (.file .empty tmode d₁.now)).copyChunks w cp with ⟨d₃, e | cq⟩
  · simp [hch] at h
  simp only [hch] at h
  have hd₂ : d₁.set cp.target (.file .empty tmode d₁.now) =
      d₁.set cp.target (.file (held cp.target bytes cp.done) tmode d₁.now) := by
    rw [hdone, held_zero]
  obtain ⟨rfl, rfl⟩ := copyChunks_eq_ok _ cp hdata' hfree.ne_nil (by omega) hd₂ hch
  have hfin : (d₁.set cp.target (.file (held cp.target bytes bytes.size) tmode d₁.now)).finishCopy cwd
      { cp with done := bytes.size } = .ok (d₁.set cp.target (.file (held cp.target bytes bytes.size) tmode m)) := by
    rw [finishCopy]
    dsimp only
    rw [htp, hmt]
    exact setMtime_set_file hnd₁ hres hslot _ _ _ _
  rw [hfin] at h
  simp only [Prod.mk.injEq, Except.ok.injEq] at h
  obtain ⟨rfl, rfl⟩ := h
  exact ⟨d₁, pl, cp.target, tmode, bytes, hpar, hres, hslot, hbytes, rfl, rfl⟩

/-- A copy stops cancelled only at a wait where the run is found cancelled: the one before it
opens, or one before a read. -/
theorem copyFile_cancelled (h : d.copyFile cwd w source target = (d', .error .cancelled)) :
    ∃ k, w.cancelledAt k = true := by
  unfold copyFile at h
  split_ifs at h with hw
  · exact ⟨none, hw⟩
  rcases hop : d.openCopy cwd source target with ⟨d₂, e | cp⟩
  · simp [hop] at h
  simp only [hop] at h
  rcases hch : d₂.copyChunks w cp with ⟨d₃, e | cq⟩
  · simp only [hch, Prod.mk.injEq, Except.error.injEq] at h
    obtain ⟨-, rfl⟩ := h
    obtain ⟨k, hk⟩ := copyChunks_cancelled _ _ hch
    exact ⟨some k, hk⟩
  · simp only [hch] at h
    cases hfin : d₃.finishCopy cwd cq <;> simp [hfin] at h

/-- A copy of a file whose bytes nothing else changes, over every course of cancellations and
short reads. When it returns a count, and the target is neither the source nor the null device,
it has created the target's parents and then put one file where the target's path led: the
source's bytes, all of them, with the source's time. So the target reads back as the source,
whatever it held before, and the count is the source's size. When it stops cancelled, the run
was found cancelled at one of its waits. -/
theorem copies_write_the_whole_source (hnd : (d.nodes.map (·.1)).Nodup)
    {r : Except CopyError Nat} (hsrc : d.resolve cwd source true = .ok (.found ls (.file c mode m)))
    (h : d.copyFile cwd w source target = (d', r)) :
    (∀ n, r = .ok n → d'.locate cwd target ≠ .ok ls → d'.locate cwd target ≠ .ok nullDevice →
      ∃ d₁ lt tmode, d.createParents cwd target = .ok d₁ ∧ d₁.locate cwd target = .ok lt ∧
        d' = d₁.set lt (.file c tmode m) ∧ n = c.size ∧ d'.fileBytes cwd target = .ok c ∧
        d'.stat cwd target = .ok ⟨.file, c.size, tmode, m⟩) ∧
    (r = .error .cancelled → ∃ k, w.cancelledAt k = true) := by
  refine ⟨fun n hn hself hnull => ?_, fun hr => copyFile_cancelled (hr ▸ h)⟩
  subst hn
  obtain ⟨d₁, pl, lt, tmode, bytes, hpar, hres, hslot, hbytes, rfl, rfl⟩ := copyFile_eq_ok hnd hsrc h
  have hres' := resolve_set_file (nodup_createParents hnd hpar) hres hslot
    (held lt bytes bytes.size) tmode m
  -- the target's path now leads to the new file, so that file is neither the source nor the
  -- null device, and it holds what the copy read, which is the source
  have hloc := resolve_found_locate hres'
  have hlt_ls : lt ≠ ls := fun he => hself (he ▸ hloc)
  have hlt_null : lt ≠ nullDevice := fun he => hnull (he ▸ hloc)
  have hbytes' : bytes = c := by rw [hbytes, if_neg hlt_ls]
  have hheld : held lt bytes bytes.size = c := by rw [held_size, if_neg hlt_null, hbytes']
  rw [hheld] at hres' ⊢
  refine ⟨d₁, lt, tmode, hpar, FileSlot.locate hres hslot, rfl, by rw [hbytes'],
    resolve_found_fileBytes hres', ?_⟩
  simp [stat, hres', bind, Except.bind, Node.stat]

/-- Two bytes copied from `/s` to `/d/t`, `/d` yet to be made: the copy creates it and the
target reads back as the source. -/
theorem copying_two_bytes_into_a_new_directory :
    ∃ d', Disk.copyFile ⟨[(["s"], .file ⟨#[7, 8]⟩ 0o644 ⟨5, 0⟩)], ⟨9, 0⟩⟩ [] .calm "/s" "/d/t" =
        (d', .ok 2) ∧ d'.locate [] "/d/t" = .ok ["d", "t"] ∧ d'.fileBytes [] "/d/t" = .ok ⟨#[7, 8]⟩ := by
  have hcopy : (Disk.copyFile ⟨[(["s"], .file ⟨#[7, 8]⟩ 0o644 ⟨5, 0⟩)], ⟨9, 0⟩⟩ [] .calm "/s" "/d/t").2 =
      .ok 2 := by
    cbv
  have hloc : (Disk.copyFile ⟨[(["s"], .file ⟨#[7, 8]⟩ 0o644 ⟨5, 0⟩)], ⟨9, 0⟩⟩ [] .calm "/s" "/d/t").1.locate
      [] "/d/t" = .ok ["d", "t"] := by
    cbv
  have hsrc : Disk.resolve ⟨[(["s"], .file ⟨#[7, 8]⟩ 0o644 ⟨5, 0⟩)], ⟨9, 0⟩⟩ [] "/s" true =
      .ok (.found ["s"] (.file ⟨#[7, 8]⟩ 0o644 ⟨5, 0⟩)) := by
    cbv
  obtain ⟨d', hd'⟩ : ∃ d', Disk.copyFile ⟨[(["s"], .file ⟨#[7, 8]⟩ 0o644 ⟨5, 0⟩)], ⟨9, 0⟩⟩ [] .calm
      "/s" "/d/t" = (d', .ok 2) := ⟨_, Prod.ext rfl hcopy⟩
  rw [hd'] at hloc
  obtain ⟨-, -, -, -, -, -, -, hread, -⟩ :=
    (copies_write_the_whole_source (by decide) hsrc hd').1 2 rfl (by rw [hloc]; decide)
      (by rw [hloc]; decide)
  exact ⟨d', hd', hloc, hread⟩

end Disk

end Safekeep
