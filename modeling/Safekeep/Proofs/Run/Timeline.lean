import Safekeep.Proofs.Run.Report

/-!
# What each runner publishes, in order

A runner's publications tell its life in a fixed order (`story`): first its totals, every file
and byte of its plan still to go and no current file; then, for each file of its plan in turn,
the file as it passes the gate, current and counted among the files left, and the file as it is
logged, with the files and bytes left after it; and last how it ended: completed, with nothing
left and no current file, exactly when it logged its whole plan, and failed otherwise. A file
that passed the gate when the runner stopped early is told as it passed, and never as logged.
No publication says the job is inactive.

The bytes are counted in 64 bits (`planBytes`): the total wraps, and the bytes left are the total
less the bytes logged, never below zero. For a plan whose bytes fit, that is exactly the bytes of
the files not yet logged (`planBytes_sub_take`).

`Notice` names what one publication says and `Notice.Fits` what it asks of the progress.
`Runner.Tells` says once what a runner's step publishes, and `Runner.Timeline` what a runner has
published so far; a step keeps it (`Runner.Timeline.step`). Since the jobs of a run's runners
have distinct ids, the publications for a job's id are its runner's own (`Batch.Timelines`).
-/

namespace Safekeep

open Safekeep.Time

def bytesOf (us : List Transfer) : Nat := (us.map (·.size)).sum

@[simp] theorem bytesOf_nil : bytesOf [] = 0 := rfl

@[simp] theorem bytesOf_cons (u : Transfer) (us : List Transfer) :
    bytesOf (u :: us) = u.size + bytesOf us := by
  simp [bytesOf]

@[simp] theorem bytesOf_append (us vs : List Transfer) :
    bytesOf (us ++ vs) = bytesOf us + bytesOf vs := by
  simp [bytesOf]

def planBytes (plan : List Transfer) : Nat := bytesOf plan % (Number.u64Max + 1)

theorem planBytes_le (plan : List Transfer) : planBytes plan ≤ bytesOf plan := Nat.mod_le _ _

/-- A plan whose bytes fit in 64 bits is counted exactly: what is left after its first `k` files
is the bytes of the others. -/
theorem planBytes_sub_take {plan : List Transfer} (h : bytesOf plan ≤ Number.u64Max) (k : Nat) :
    planBytes plan - bytesOf (plan.take k) = bytesOf (plan.drop k) := by
  have hsplit : bytesOf plan = bytesOf (plan.take k) + bytesOf (plan.drop k) := by
    rw [← bytesOf_append, List.take_append_drop]
  rw [planBytes, Nat.mod_eq_of_lt (Nat.lt_succ_of_le h)]
  omega

theorem bytesOf_take_succ {plan us : List Transfer} {u : Transfer} {k : Nat}
    (h : plan.drop k = u :: us) : bytesOf (plan.take (k + 1)) = bytesOf (plan.take k) + u.size := by
  have hk : plan[k]? = some u := by
    rw [← Nat.add_zero k, ← List.getElem?_drop, h]
    rfl
  rw [List.take_add_one, hk, bytesOf_append]
  simp

/-- What one publication of a runner says. -/
inductive Notice
  -- The runner starts, with `files` files and `bytes` bytes to go.
  | totals (files bytes : Nat)
  -- File `u` passed the gate; `files` files are left to go, `u` among them.
  | entered (u : Transfer) (files : Nat)
  -- A file was logged; `files` files and `bytes` bytes are left to go after it.
  | logged (files bytes : Nat)
  -- The runner logged its whole plan.
  | completed
  -- The runner stopped early.
  | failed

namespace Notice

/-- Whether a progress says what a notice says. -/
def Fits : Notice → Progress → Prop
  | totals n s, p => p.state = .active ∧ p.filesTotal = n ∧ p.filesRemaining = n ∧
      p.bytesTotal = s ∧ p.bytesRemaining = s ∧ p.currentSource = none ∧
      p.currentTarget = none
  | entered u n, p => p.state = .active ∧ p.currentSource = some u.source ∧
      p.currentTarget = some u.target ∧ p.filesRemaining = n
  | logged n s, p => p.state = .active ∧ p.filesRemaining = n ∧ p.bytesRemaining = s
  | completed, p => p.state = .completed ∧ p.filesRemaining = 0 ∧ p.bytesRemaining = 0 ∧
      p.currentSource = none ∧ p.currentTarget = none
  | failed, p => p.state = .failed ∧ p.currentSource = none ∧ p.currentTarget = none

def ofOutcome : JobOutcome → Notice
  | .completed _ _ => .completed
  | _ => .failed

theorem Fits.state_ne_inactive {n : Notice} {p : Progress} (h : n.Fits p) :
    p.state ≠ .inactive := by
  cases n <;> simp only [Fits] at h <;> rw [h.1] <;> simp

/-- Publications that each fit a notice never say a job is inactive. -/
theorem state_ne_inactive_of_forall₂ {ns : List Notice} {ps : List Progress}
    (h : List.Forall₂ Fits ns ps) : ∀ q ∈ ps, q.state ≠ .inactive := by
  induction h with
  | nil => simp
  | cons hq _ ih =>
    intro q hmem
    rcases List.mem_cons.1 hmem with rfl | hmem
    · exact hq.state_ne_inactive
    · exact ih q hmem

end Notice

/-- The notices of the files of `us` of which the first `k` were logged, with `bytes` counted
as left before them: each as it passes the gate, with the files left counting it, then as it is
logged, with the files left after it and the bytes counted less its own. -/
def loggedNotices : List Transfer → Nat → Nat → List Notice
  | u :: us, k + 1, bytes => .entered u (us.length + 1) :: .logged us.length (bytes - u.size) ::
      loggedNotices us k (bytes - u.size)
  | _, _, _ => []

def enteredNotice (plan : List Transfer) (k : Nat) : List Notice :=
  match plan.drop k with
  | u :: us => [.entered u (us.length + 1)]
  | [] => []

/-- What a runner of plan `plan` has published once it logged the first `k` files of its plan:
its totals, the plan's bytes counted in 64 bits; then each of those files as it passed the gate
and as it was logged; the next file as it passed the gate, when `admitted`; and how it ended,
once it has. -/
def story (plan : List Transfer) (k : Nat) (admitted : Bool) (ending : Option Notice) :
    List Notice :=
  .totals plan.length (planBytes plan) :: (loggedNotices plan k (planBytes plan) ++
    ((if admitted then enteredNotice plan k else []) ++ ending.toList))

section Story

variable {plan us : List Transfer} {u : Transfer} {k : Nat}

@[simp] theorem loggedNotices_zero (bytes : Nat) : loggedNotices plan 0 bytes = [] := by
  cases plan <;> rfl

/-- Logging the file after the first `k` adds it, as it passed the gate and as it was logged,
with the bytes counted less those of the files up to it. -/
theorem loggedNotices_succ (h : plan.drop k = u :: us) (bytes : Nat) :
    loggedNotices plan (k + 1) bytes = loggedNotices plan k bytes ++
      [.entered u (us.length + 1), .logged us.length (bytes - bytesOf (plan.take (k + 1)))] := by
  induction plan generalizing k bytes with
  | nil => simp at h
  | cons v vs ih =>
    cases k with
    | zero =>
      simp only [List.drop_zero, List.cons.injEq] at h
      obtain ⟨rfl, rfl⟩ := h
      simp [loggedNotices]
    | succ k =>
      rw [List.drop_succ_cons] at h
      simp [loggedNotices, ih h, Nat.sub_sub]

theorem enteredNotice_eq (h : plan.drop k = u :: us) :
    enteredNotice plan k = [.entered u (us.length + 1)] := by
  simp [enteredNotice, h]

theorem story_start : story plan 0 false none = [.totals plan.length (planBytes plan)] := by
  simp [story]

theorem story_ending {entered : Bool} (n : Notice) :
    story plan k entered none ++ [n] = story plan k entered (some n) := by
  simp [story]

theorem story_entered (h : plan.drop k = u :: us) :
    story plan k false none ++ [.entered u (us.length + 1)] = story plan k true none := by
  simp [story, enteredNotice_eq h]

theorem story_logged (h : plan.drop k = u :: us) :
    story plan k true none ++ [.logged us.length (planBytes plan - bytesOf (plan.take (k + 1)))] =
      story plan (k + 1) false none := by
  simp [story, enteredNotice_eq h, loggedNotices_succ h]

end Story

namespace Runner

variable {cx : Context} {sh sh₀ sh' : Shared} {r r₀ r' : Runner} {u : Transfer}
  {us : List Transfer} {o : JobOutcome}

@[simp] theorem abort_progress :
    (r.abort sh o).2.progress =
      { r.progress with state := .failed, currentSource := none, currentTarget := none } := rfl

theorem abort_published :
    (r.abort sh o).1.published = sh.published ++ [(r.abort sh o).2.progress] := rfl

theorem logUnit_progress (tm cm : Int) (err : Option String) :
    (r.logUnit cx sh u tm cm err).2.progress =
      { r.progress with
        state := .active
        filesRemaining := r.progress.filesRemaining - 1
        bytesRemaining := r.progress.bytesRemaining - u.size } := by
  unfold logUnit; split <;> rfl

theorem logUnit_published (tm cm : Int) (err : Option String) :
    (r.logUnit cx sh u tm cm err).1.published =
      sh.published ++ [(r.logUnit cx sh u tm cm err).2.progress] := by
  unfold logUnit; split <;> rfl

/-- What a runner's step publishes, by where the runner is: nothing, as it moves within a file;
its totals, as it starts; a file, as it passes the gate; the counts left, as it logs a file; its
failure, as it stops early with a file left; its completion, after its last file. -/
inductive Tells (sh : Shared) (r : Runner) : Shared → Runner → Prop
  | quiet {sh' : Shared} {r' : Runner} : r.stage ≠ .start → r'.stage ≠ .start →
      r.isFinished = false → r'.isFinished = false → r'.units = r.units →
      r'.stage.isAdmitted = r.stage.isAdmitted → r'.progress = r.progress →
      sh'.published = sh.published → Tells sh r sh' r'
  | totals {sh' : Shared} {r' : Runner} : r.stage = .start → r'.stage = .next →
      r'.units = r.units →
      r'.progress = { r.progress with
        state := .active
        filesTotal := r.units.length
        filesRemaining := r.units.length
        bytesTotal := planBytes r.units
        bytesRemaining := planBytes r.units } →
      sh'.published = sh.published ++ [r'.progress] → Tells sh r sh' r'
  | entered {sh' : Shared} {r' : Runner} (u : Transfer) : r.current = some u →
      r.stage ≠ .start → r.isFinished = false → r.stage.isAdmitted = false →
      r'.isFinished = false → r'.stage.isAdmitted = true → r'.units = r.units →
      r'.progress = { r.progress with
        state := .active
        currentSource := some u.source
        currentTarget := some u.target } →
      sh'.published = sh.published ++ [r'.progress] → Tells sh r sh' r'
  | logged {sh' : Shared} {r' : Runner} (u : Transfer) : r.units = u :: r'.units →
      r.stage.isAdmitted = true → r'.stage = .next →
      r'.progress = { r.progress with
        state := .active
        filesRemaining := r.progress.filesRemaining - 1
        bytesRemaining := r.progress.bytesRemaining - u.size } →
      sh'.published = sh.published ++ [r'.progress] → Tells sh r sh' r'
  | stopped {sh' : Shared} {r' : Runner} (o : JobOutcome) : r.stage ≠ .start →
      r.isFinished = false → r.units ≠ [] → r'.stage = .finished o →
      (∀ t f, o ≠ .completed t f) → r'.units = r.units →
      r'.progress = { r.progress with
        state := .failed
        currentSource := none
        currentTarget := none } →
      sh'.published = sh.published ++ [r'.progress] → Tells sh r sh' r'
  | completed {sh' : Shared} {r' : Runner} : r.stage = .next → r.units = [] →
      r'.stage = .finished (.completed r.transferred r.failed) → r'.units = r.units →
      r'.progress = { r.progress with
        state := .completed
        currentSource := none
        currentTarget := none } →
      sh'.published = sh.published ++ [r'.progress] → Tells sh r sh' r'

theorem Tells.of_abort (hs : r.stage ≠ .start) (hfin : r.isFinished = false)
    (hne : r.units ≠ []) (hu : r₀.units = r.units) (hp : r₀.progress = r.progress)
    (hsh : sh₀.published = sh.published) (ho : ∀ t f, o ≠ .completed t f) :
    Tells sh r (r₀.abort sh₀ o).1 (r₀.abort sh₀ o).2 :=
  .stopped o hs hfin hne rfl ho (by rw [abort_units, hu]) (by rw [abort_progress, hp])
    (by rw [abort_published, hsh])

theorem Tells.of_logUnit (hcur : r.units = u :: r.units.tail) (hadm : r.stage.isAdmitted = true)
    (hu : r₀.units = r.units) (hp : r₀.progress = r.progress)
    (hsh : sh₀.published = sh.published) (tm cm : Int) (err : Option String) :
    Tells sh r (r₀.logUnit cx sh₀ u tm cm err).1 (r₀.logUnit cx sh₀ u tm cm err).2 :=
  .logged u (by rw [logUnit_units, hu, List.drop_one]; exact hcur) hadm (logUnit_stage ..)
    (by rw [logUnit_progress, hp]) (by rw [logUnit_published, hsh])

/-- Logging a file after the tool gave its code. -/
theorem Tells.of_afterSeal {a : Stage} (ha : r.stage = a) (hadm : a.isAdmitted = true)
    (hcur : r.units = u :: us) (hsh : sh₀.published = sh.published) (code : Int) :
    Tells sh r (r.afterSeal cx sh₀ u code).1 (r.afterSeal cx sh₀ u code).2 := by
  have hcur' : r.units = u :: r.units.tail := by rw [hcur]; rfl
  subst ha
  unfold afterSeal
  dsimp only
  split
  · split
    · exact Tells.of_logUnit hcur' hadm rfl rfl (by exact hsh) _ _ _
    · exact Tells.of_logUnit hcur' hadm rfl rfl hsh _ _ _
  · exact Tells.of_logUnit hcur' hadm rfl rfl hsh _ _ _

/-- Ending a copy logs the file, or hands it to the tool without a publication. -/
theorem Tells.of_endCopy {a : Stage} (ha : r.stage = a) (hcopy : a.isCopying = true)
    (hcur : r.units = u :: us) (hsh : sh₀.published = sh.published) (result : Except Errno Nat) :
    Tells sh r (r.endCopy cx sh₀ u result).1 (r.endCopy cx sh₀ u result).2 := by
  subst ha
  have hcur' : r.units = u :: r.units.tail := by rw [hcur]; rfl
  have hadm := Stage.isAdmitted_of_isCopying hcopy
  have hu := release_units r sh₀
  have hp := release_progress r sh₀
  have hst := release_stage r sh₀
  have hpub : (r.release sh₀).1.published = sh.published := by rw [release_published, hsh]
  unfold endCopy
  generalize r.release sh₀ = x at hu hp hst hpub ⊢
  obtain ⟨sh₁, r₁⟩ := x
  cases result with
  | error e => exact Tells.of_logUnit hcur' hadm hu hp hpub _ _ _
  | ok n =>
    dsimp only
    split
    · -- the copy is handed to the tool: the runner holds its file, past the gate
      refine .quiet ?_ (by simp) ?_ (by simp [isFinished]) hu ?_ hp hpub
      · intro h; rw [h] at hcopy; cases hcopy
      · exact isFinished_eq_false fun o h => by rw [h] at hadm; cases hadm
      · rw [hadm]; rfl
    · exact Tells.of_logUnit hcur' hadm hu hp hpub _ _ _

/-- A cancelled copy gives the slot back, removes the target and publishes the failure. -/
theorem Tells.of_cancelCopy {a : Stage} (ha : r.stage = a) (hcopy : a.isCopying = true)
    (hcur : r.units = u :: us) :
    Tells sh r (r.cancelCopy cx sh u).1 (r.cancelCopy cx sh u).2 := by
  subst ha
  have hne : r.units ≠ [] := by rw [hcur]; simp
  have hadm := Stage.isAdmitted_of_isCopying hcopy
  have hs : r.stage ≠ .start := fun h => by rw [h] at hcopy; cases hcopy
  have hfin := isFinished_eq_false (not_finished_of_isAdmitted hadm)
  have hu := release_units r sh
  have hp := release_progress r sh
  have hpub := release_published r sh
  have ho : ∀ t f, JobOutcome.cancelled ≠ .completed t f := fun _ _ h => by cases h
  unfold cancelCopy
  generalize r.release sh = x at hu hp hpub ⊢
  obtain ⟨sh₁, r₁⟩ := x
  dsimp only
  split
  · exact Tells.of_abort hs hfin hne hu hp (by exact hpub) ho
  · exact Tells.of_abort hs hfin hne hu hp hpub ho

/-- Passing the gate, from a stage short of it, publishes the file as current. -/
theorem Tells.of_enter {a : Stage} (ha : r.stage = a) (hcur : r.units = u :: us)
    (has : a ≠ .start) (haf : ∀ o, a ≠ .finished o) (hadm : a.isAdmitted = false)
    (hu : r₀.units = r.units) (hp : r₀.progress = r.progress)
    (hsh : sh₀.published = sh.published) :
    Tells sh r (r₀.enter sh₀ u).1 (r₀.enter sh₀ u).2 :=
  .entered u (current_of_units hcur) (ha ▸ has) (isFinished_eq_false (ha ▸ haf)) (ha ▸ hadm)
    rfl rfl hu (by simp [enter, hp]) (by simp [enter, Shared.publish, hsh])

/-- A step that moves the runner between two stages inside its life, past its start and short
of its end, on the same side of the gate, publishes nothing. -/
theorem Tells.move {a b : Stage} (ha : r.stage = a) (hb : r'.stage = b)
    (has : a ≠ .start) (hbs : b ≠ .start) (haf : ∀ o, a ≠ .finished o)
    (hbf : ∀ o, b ≠ .finished o) (hab : b.isAdmitted = a.isAdmitted) (hu : r'.units = r.units)
    (hp : r'.progress = r.progress) (hsh : sh'.published = sh.published) : Tells sh r sh' r' :=
  .quiet (ha ▸ has) (hb ▸ hbs) (isFinished_eq_false (ha ▸ haf))
    (isFinished_eq_false (hb ▸ hbf)) hu (by rw [ha, hb, hab]) hp hsh

theorem Tells.stop {a : Stage} (ha : r.stage = a) (hcur : r.units = u :: us) (has : a ≠ .start)
    (haf : ∀ o, a ≠ .finished o) (hsh : sh₀.published = sh.published)
    (ho : ∀ t f, o ≠ .completed t f) :
    Tells sh r (r.abort sh₀ o).1 (r.abort sh₀ o).2 :=
  Tells.of_abort (ha ▸ has) (isFinished_eq_false (ha ▸ haf)) (by rw [hcur]; simp) rfl rfl hsh ho

theorem afterPause_isAdmitted (u : Transfer) : (afterPause u).isAdmitted = false ∨
    afterPause u = .copyWait := by
  unfold afterPause
  split_ifs <;> simp [Stage.isAdmitted]

/-- What one step of a runner publishes. -/
theorem step_tells {p : Shared × Runner} (hbusy : r.stage.holdsUnit = true → r.units ≠ [])
    (h : r.step cx sh = some p) : Tells sh r p.1 p.2 := by
  cases takes_of_step h with
  | totals hs => exact .totals hs rfl rfl rfl rfl
  | complete hs hu => exact .completed hs hu rfl rfl rfl rfl
  | unitless hh hu => exact absurd hu (hbusy hh)
  | pastPause hs _ _ _ hn =>
    refine Tells.move hs rfl (by simp) ?_ (by simp) (afterPause_ne_finished _) ?_ rfl rfl rfl
    · unfold afterPause; split_ifs <;> simp
    · rcases afterPause_isAdmitted ‹Transfer› with h | h
      · rw [h]; rfl
      · exact absurd h hn
  -- the runner moves on within its file
  | toGate hs | drainedToSlot hs | opened hs | chunk hs | launch hs =>
    exact Tells.move hs rfl (by simp) (by simp) (by simp) (by simp) (by rfl) rfl rfl rfl
  -- the runner stops early, at the source check, a wait or the tool
  | lost hs hu | cancelAtTool hs hu | cancelReap hs hu =>
    exact Tells.stop hs hu (by simp) (by simp) (by rfl) (by simp)
  | cancelAtGate hs hu =>
    rcases hs with hs | hs | hs <;> exact Tells.stop hs hu (by simp) (by simp) (by rfl) (by simp)
  | enterAtPause hs hu | enterAtDrain hs hu | takeSlot hs hu =>
    exact Tells.of_enter hs hu (by simp) (by simp) (by rfl) rfl rfl rfl
  | cancelCopy hs hu => exact Tells.of_cancelCopy rfl hs hu
  | openFailed hs hu | readFailed hs hu | chunkFailed hs hu | copied hs hu | finishFailed hs hu =>
    exact Tells.of_endCopy hs (by rfl) hu (by rfl) _
  | sealDecided hs hu | launchRefused hs hu | reap hs hu =>
    exact Tells.of_afterSeal hs (by rfl) hu (by rfl) _

/-- Runner `r` of plan `plan` has logged the first `k` files of its plan and published `ps`: the
story of those files, of the next one as it passed the gate when `entered`, and of its end once
it has returned. Its progress counts the whole plan, the files it has left, and the bytes
counted less those it logged. -/
structure Told (plan : List Transfer) (k : Nat) (entered : Bool) (ps : List Progress)
    (r : Runner) : Prop where
  started : r.stage ≠ .start
  le_length : k ≤ plan.length
  units : r.units = plan.drop k
  entered_eq : r.isFinished = false → entered = r.stage.isAdmitted
  completed_iff : ∀ o, r.stage = .finished o →
    ((∃ t f, o = .completed t f) ↔ k = plan.length)
  filesTotal : r.progress.filesTotal = plan.length
  bytesTotal : r.progress.bytesTotal = planBytes plan
  filesRemaining : r.progress.filesRemaining = r.units.length
  bytesRemaining : r.progress.bytesRemaining = planBytes plan - bytesOf (plan.take k)
  notices : List.Forall₂ Notice.Fits (story plan k entered (r.outcome?.map Notice.ofOutcome)) ps

/-- What runner `r` of plan `plan` has published, `ps`. -/
inductive Timeline (plan : List Transfer) (ps : List Progress) (r : Runner) : Prop
  -- Before its first step the runner has published nothing and has no current file.
  | fresh : r.stage = .start → r.units = plan → r.progress.currentSource = none →
      r.progress.currentTarget = none → ps = [] → Timeline plan ps r
  -- Past it, the runner has told the story of the first `k` files of its plan.
  | told (k : Nat) (entered : Bool) : r.Told plan k entered ps → Timeline plan ps r

variable {plan : List Transfer} {ps : List Progress} {k : Nat} {e : Bool}

theorem Timeline.new (job : Job) (plan : List Transfer) (now : Instant) :
    (Runner.new job plan now).Timeline plan [] :=
  .fresh rfl rfl rfl rfl rfl

theorem Timeline.told_of_started (ht : r.Timeline plan ps) (hs : r.stage ≠ .start) :
    ∃ k e, r.Told plan k e ps := by
  cases ht with
  | fresh h => exact absurd h hs
  | told k e ht => exact ⟨k, e, ht⟩

theorem isFinished_of_stage (h : r.stage = .finished o) : r.isFinished = true := by
  simp [isFinished, h]

theorem started_of_isAdmitted (h : r.stage.isAdmitted = true) : r.stage ≠ .start := by
  intro hs
  rw [hs] at h
  cases h

theorem Told.outcome_none (hfin : r.isFinished = false) (ht : r.Told plan k e ps) :
    List.Forall₂ Notice.Fits (story plan k e none) ps := by
  have h := ht.notices
  rwa [outcome?_eq_none.2 hfin, Option.map_none] at h

/-- A step that keeps the runner's files and its progress's counts keeps what they count. -/
theorem Told.counts (ht : r.Told plan k e ps) (hu : r'.units = r.units)
    (hp : r'.progress.filesTotal = r.progress.filesTotal ∧
      r'.progress.bytesTotal = r.progress.bytesTotal ∧
      r'.progress.filesRemaining = r.progress.filesRemaining ∧
      r'.progress.bytesRemaining = r.progress.bytesRemaining) :
    r'.progress.filesTotal = plan.length ∧ r'.progress.bytesTotal = planBytes plan ∧
      r'.progress.filesRemaining = r'.units.length ∧
      r'.progress.bytesRemaining = planBytes plan - bytesOf (plan.take k) := by
  obtain ⟨h₁, h₂, h₃, h₄⟩ := hp
  rw [h₁, h₂, h₃, h₄, hu]
  exact ⟨ht.filesTotal, ht.bytesTotal, ht.filesRemaining, ht.bytesRemaining⟩

theorem forall₂_snoc {ns : List Notice} {n : Notice} {q : Progress}
    (h : List.Forall₂ Notice.Fits ns ps) (hq : n.Fits q) :
    List.Forall₂ Notice.Fits (ns ++ [n]) (ps ++ [q]) :=
  List.rel_append h (.cons hq .nil)

/-- A step that publishes nothing and keeps the runner's files, progress and side of the gate
keeps its story. -/
theorem Told.quiet (ht : r.Told plan k e ps) (hs' : r'.stage ≠ .start)
    (hfin : r.isFinished = false) (hfin' : r'.isFinished = false) (hu : r'.units = r.units)
    (hadm : r'.stage.isAdmitted = r.stage.isAdmitted) (hp : r'.progress = r.progress) :
    r'.Told plan k e ps := by
  obtain ⟨h₁, h₂, h₃, h₄⟩ := ht.counts hu (by simp [hp])
  refine ⟨hs', ht.le_length, hu.trans ht.units, fun _ => by rw [hadm]; exact ht.entered_eq hfin,
    fun o ho => by simp [isFinished_of_stage ho] at hfin', h₁, h₂, h₃, h₄, ?_⟩
  rw [outcome?_eq_none.2 hfin', Option.map_none]
  exact ht.outcome_none hfin

/-- The first step publishes the totals of the plan. -/
theorem Timeline.totals (ht : r.Timeline plan ps) (hs : r.stage = .start)
    (hs' : r'.stage = .next) (hu : r'.units = r.units)
    (hp : r'.progress = { r.progress with
      state := .active
      filesTotal := r.units.length
      filesRemaining := r.units.length
      bytesTotal := planBytes r.units
      bytesRemaining := planBytes r.units }) :
    r'.Told plan 0 false (ps ++ [r'.progress]) := by
  obtain ⟨-, hplan, hcs, hct, rfl⟩ : r.stage = .start ∧ r.units = plan ∧
      r.progress.currentSource = none ∧ r.progress.currentTarget = none ∧ ps = [] := by
    cases ht with
    | fresh h₁ h₂ h₃ h₄ h₅ => exact ⟨h₁, h₂, h₃, h₄, h₅⟩
    | told _ _ ht => exact absurd hs ht.started
  have hfin' : r'.isFinished = false := by simp [isFinished, hs']
  refine ⟨by simp [hs'], Nat.zero_le _, by rw [hu, hplan, List.drop_zero],
    fun _ => by simp [hs', Stage.isAdmitted], fun o ho => by simp [hs'] at ho,
    by simp [hp, hplan], by simp [hp, hplan], by simp [hp, hu], by simp [hp, hplan], ?_⟩
  rw [outcome?_eq_none.2 hfin', Option.map_none, List.nil_append, story_start]
  refine .cons ?_ .nil
  simp [Notice.Fits, hp, hplan, hcs, hct]

/-- Passing the gate publishes the file, now current, with the files left counting it. -/
theorem Told.entered (ht : r.Told plan k e ps) (hcur : r.current = some u)
    (hfin : r.isFinished = false) (hadm : r.stage.isAdmitted = false)
    (hfin' : r'.isFinished = false) (hadm' : r'.stage.isAdmitted = true)
    (hu : r'.units = r.units)
    (hp : r'.progress = { r.progress with
      state := .active
      currentSource := some u.source
      currentTarget := some u.target }) :
    r'.Told plan k true (ps ++ [r'.progress]) := by
  have he : e = false := (ht.entered_eq hfin).trans hadm
  have hcons := units_eq_cons hcur
  have hdrop : plan.drop k = u :: r.units.tail := ht.units.symm.trans hcons
  obtain ⟨h₁, h₂, h₃, h₄⟩ := ht.counts hu (by simp [hp])
  refine ⟨started_of_isAdmitted hadm', ht.le_length, hu.trans ht.units, fun _ => hadm'.symm,
    fun o ho => by simp [isFinished_of_stage ho] at hfin', h₁, h₂, h₃, h₄, ?_⟩
  rw [outcome?_eq_none.2 hfin', Option.map_none, ← story_entered hdrop]
  refine forall₂_snoc (he ▸ ht.outcome_none hfin) ?_
  -- the files left still count the file that passed the gate
  have hleft : r.progress.filesRemaining = r.units.tail.length + 1 := by
    rw [ht.filesRemaining, hcons, List.tail_cons, List.length_cons]
  simp [Notice.Fits, hp, hleft]

/-- Logging the file past the gate publishes the files and bytes left after it. -/
theorem Told.logged (ht : r.Told plan k e ps) (hcur : r.units = u :: r'.units)
    (hadm : r.stage.isAdmitted = true) (hs' : r'.stage = .next)
    (hp : r'.progress = { r.progress with
      state := .active
      filesRemaining := r.progress.filesRemaining - 1
      bytesRemaining := r.progress.bytesRemaining - u.size }) :
    r'.Told plan (k + 1) false (ps ++ [r'.progress]) := by
  have hfin : r.isFinished = false := isFinished_eq_false (not_finished_of_isAdmitted hadm)
  have hfin' : r'.isFinished = false := by simp [isFinished, hs']
  have he : e = true := (ht.entered_eq hfin).trans hadm
  have hdrop : plan.drop k = u :: r'.units := ht.units.symm.trans hcur
  have hlt : k < plan.length := by
    have h := congrArg List.length hdrop
    rw [List.length_drop, List.length_cons] at h
    omega
  have hfiles : r'.progress.filesRemaining = r'.units.length := by
    rw [hp, ht.filesRemaining, hcur, List.length_cons]; rfl
  -- the bytes counted lose the logged file's
  have hbytes : r'.progress.bytesRemaining = planBytes plan - bytesOf (plan.take (k + 1)) := by
    rw [hp]
    dsimp only
    rw [ht.bytesRemaining, bytesOf_take_succ hdrop, Nat.sub_sub]
  refine ⟨by simp [hs'], hlt, by rw [List.drop_add_one_eq_tail_drop, hdrop, List.tail_cons],
    fun _ => by simp [hs', Stage.isAdmitted], fun o ho => by simp [hs'] at ho,
    by rw [hp]; exact ht.filesTotal, by rw [hp]; exact ht.bytesTotal, hfiles, hbytes, ?_⟩
  rw [outcome?_eq_none.2 hfin', Option.map_none, ← story_logged hdrop]
  refine forall₂_snoc (he ▸ ht.outcome_none hfin) ?_
  simp only [Notice.Fits]
  exact ⟨by rw [hp], hfiles, hbytes⟩

/-- Stopping early, with a file left, publishes the failure. -/
theorem Told.stopped (ht : r.Told plan k e ps) (hfin : r.isFinished = false)
    (hne : r.units ≠ []) (hs' : r'.stage = .finished o) (ho : ∀ t f, o ≠ .completed t f)
    (hu : r'.units = r.units)
    (hp : r'.progress = { r.progress with
      state := .failed
      currentSource := none
      currentTarget := none }) :
    r'.Told plan k e (ps ++ [r'.progress]) := by
  -- a file is left, so the runner has not logged its whole plan
  have hk : k ≠ plan.length := fun hk =>
    hne (ht.units.trans (List.drop_eq_nil_iff.2 (Nat.le_of_eq hk.symm)))
  have hend : Notice.ofOutcome o = .failed := by
    cases o with
    | completed t f => exact absurd rfl (ho t f)
    | _ => rfl
  obtain ⟨h₁, h₂, h₃, h₄⟩ := ht.counts hu (by simp [hp])
  refine ⟨by simp [hs'], ht.le_length, hu.trans ht.units,
    fun h => by simp [isFinished_of_stage hs'] at h, fun o' ho' => ?_, h₁, h₂, h₃, h₄, ?_⟩
  · rw [hs', Stage.finished.injEq] at ho'
    subst ho'
    exact ⟨fun ⟨t, f, h⟩ => absurd h (ho t f), fun h => absurd h hk⟩
  · rw [outcome?_eq_some.2 hs', Option.map_some, hend, ← story_ending]
    refine forall₂_snoc (ht.outcome_none hfin) ?_
    simp [Notice.Fits, hp]

/-- Returning after the last file publishes the completion, with nothing left. -/
theorem Told.completed (ht : r.Told plan k e ps) (hs : r.stage = .next) (hnil : r.units = [])
    {t f : Nat} (hs' : r'.stage = .finished (.completed t f)) (hu : r'.units = r.units)
    (hp : r'.progress = { r.progress with
      state := .completed
      currentSource := none
      currentTarget := none }) :
    r'.Told plan k e (ps ++ [r'.progress]) := by
  have hfin : r.isFinished = false := by simp [isFinished, hs]
  -- no file is left, so the runner has logged its whole plan
  have hk : k = plan.length :=
    Nat.le_antisymm ht.le_length (List.drop_eq_nil_iff.1 (ht.units.symm.trans hnil))
  obtain ⟨h₁, h₂, h₃, h₄⟩ := ht.counts hu (by simp [hp])
  refine ⟨by simp [hs'], ht.le_length, hu.trans ht.units,
    fun h => by simp [isFinished_of_stage hs'] at h, fun o ho => ?_, h₁, h₂, h₃, h₄, ?_⟩
  · rw [hs', Stage.finished.injEq] at ho
    subst ho
    exact ⟨fun _ => hk, fun _ => ⟨t, f, rfl⟩⟩
  · rw [outcome?_eq_some.2 hs', Option.map_some, ← story_ending]
    refine forall₂_snoc (ht.outcome_none hfin) ?_
    -- the bytes counted never exceed the plan's, so none are left
    have hbytes : r.progress.bytesRemaining = 0 := by
      rw [ht.bytesRemaining, hk, List.take_length]
      exact Nat.sub_eq_zero_of_le (planBytes_le plan)
    simp [Notice.Fits, Notice.ofOutcome, hp, ht.filesRemaining, hbytes, hnil]

/-- A step keeps what the runner has published: either it publishes nothing, or its new
progress, which goes on the story. -/
theorem Timeline.step (ht : r.Timeline plan ps) (hs : Tells sh r sh' r') :
    (sh'.published = sh.published ∧ r'.Timeline plan ps) ∨
      (sh'.published = sh.published ++ [r'.progress] ∧
        r'.Timeline plan (ps ++ [r'.progress])) := by
  cases hs with
  | quiet hs hs' hfin hfin' hu hadm hp hsh =>
    obtain ⟨k, e, ht⟩ := ht.told_of_started hs
    exact .inl ⟨hsh, .told k e (ht.quiet hs' hfin hfin' hu hadm hp)⟩
  | totals hs hs' hu hp hsh => exact .inr ⟨hsh, .told 0 false (ht.totals hs hs' hu hp)⟩
  | entered u hcur hs hfin hadm hfin' hadm' hu hp hsh =>
    obtain ⟨k, e, ht⟩ := ht.told_of_started hs
    exact .inr ⟨hsh, .told k true (ht.entered hcur hfin hadm hfin' hadm' hu hp)⟩
  | logged u hcur hadm hs' hp hsh =>
    obtain ⟨k, e, ht⟩ := ht.told_of_started (started_of_isAdmitted hadm)
    exact .inr ⟨hsh, .told (k + 1) false (ht.logged hcur hadm hs' hp)⟩
  | stopped o hs hfin hne hs' ho hu hp hsh =>
    obtain ⟨k, e, ht⟩ := ht.told_of_started hs
    exact .inr ⟨hsh, .told k e (ht.stopped hfin hne hs' ho hu hp)⟩
  | completed hs hnil hs' hu hp hsh =>
    obtain ⟨k, e, ht⟩ := ht.told_of_started (by rw [hs]; simp)
    exact .inr ⟨hsh, .told k e (ht.completed hs hnil hs' hu hp)⟩

theorem Timeline.state_ne_inactive (ht : r.Timeline plan ps) :
    ∀ q ∈ ps, q.state ≠ .inactive := by
  cases ht with
  | fresh _ _ _ _ hps => simp [hps]
  | told k e ht => exact Notice.state_ne_inactive_of_forall₂ ht.notices

/-- A step leaves the publications of every other job as they were. -/
theorem Publishes.filter_of_ne (hp : Publishes sh sh' r r') {id : Nat}
    (h : r.progress.jobId ≠ id) :
    sh'.published.filter (·.jobId = id) = sh.published.filter (·.jobId = id) := by
  rcases hp.record with ⟨-, hsh, -⟩ | hsh
  · rw [hsh]
  · rw [hsh, List.filter_append]
    simp [hp.jobId, h]

end Runner

namespace Batch

open Runner

variable {b b' : Batch} {m : Move} {plans : List (Job × List Transfer)} {idles : List Progress}

/-- Each runner has published, under its job's id, the story of its plan; `plans` lists each
runner's job and plan. -/
structure Timelines (plans : List (Job × List Transfer)) (b : Batch) : Prop where
  runners : b.runners.length = plans.length
  runner : ∀ (i : Nat) (r : Runner) (job : Job) (plan : List Transfer),
    b.runners[i]? = some r → plans[i]? = some (job, plan) →
    r.Timeline plan (b.shared.published.filter (·.jobId = r.job.id))

/-- Runners at two places of a run are of two jobs. -/
theorem jobId_ne_of_ne (hd : (b.runners.map (·.job.id)).Nodup) {j k : Nat} {x r : Runner}
    (hx : b.runners[j]? = some x) (hr : b.runners[k]? = some r) (hjk : j ≠ k) :
    x.job.id ≠ r.job.id := by
  intro h
  have hj : j < (b.runners.map (·.job.id)).length := by
    simpa using (List.getElem?_eq_some_iff.1 hx).1
  exact hjk ((List.getElem?_inj hj hd).1 (by simp [hx, hr, h]))

/-- A runner's step keeps every runner's timeline: it publishes only for its own job. -/
theorem Timelines.runner_step (hi : b.Inv) (hs : b.Shown idles) (ht : b.Timelines plans)
    {k : Nat} (h : b.step (.runner k) = some b') : b'.Timelines plans := by
  obtain ⟨r, p, hr, hstep, rfl⟩ := step_runner h
  have hmem : r ∈ b.runners := List.mem_of_getElem? hr
  have hk : k < b.runners.length := (List.getElem?_eq_some_iff.1 hr).1
  have hpub := step_publishes hstep
  have hid : r.progress.jobId = r.job.id := (hs.shows r hmem).jobId
  refine ⟨by simpa using ht.runners, fun j x job plan hx hp => ?_⟩
  show x.Timeline plan (p.1.published.filter (·.jobId = x.job.id))
  by_cases hjk : j = k
  · subst hjk
    rw [List.getElem?_set_self hk, Option.some.injEq] at hx
    subst hx
    rw [hpub.job]
    rcases (ht.runner j r job plan hr hp).step (step_tells (hi.wf r hmem).busy hstep) with
      ⟨hsh, ht'⟩ | ⟨hsh, ht'⟩
    · rwa [hsh]
    · rw [hsh, List.filter_append]
      simpa [hpub.jobId, hid] using ht'
  · rw [List.getElem?_set_ne (Ne.symm hjk)] at hx
    rw [hpub.filter_of_ne (by rw [hid]; exact (jobId_ne_of_ne hs.distinct hx hr hjk).symm)]
    exact ht.runner j x job plan hx hp

theorem Timelines.of_eq (ht : b.Timelines plans) (hr : b'.runners = b.runners)
    (hp : b'.shared.published = b.shared.published) : b'.Timelines plans :=
  ⟨hr ▸ ht.runners, fun i r job plan hx => by
    rw [hp]
    exact ht.runner i r job plan (hr ▸ hx)⟩

/-- A runner giving up on its tool keeps its timeline: it publishes nothing, and its files,
progress and side of the gate stay. -/
theorem Timelines.giveUp (ht : b.Timelines plans) {k : Nat} {r : Runner} {code : Int}
    (hr : b.runners[k]? = some r) (hc : r.stage = .sealRun code) :
    (b.giveUp k r).Timelines plans := by
  refine ⟨by simpa using ht.runners, forall_giveUp ht.runner hr fun job plan h => ?_⟩
  -- the recoded runner is past its start and has published nothing since
  obtain ⟨n, e, htold⟩ := h.told_of_started (by simp [hc])
  exact .told n e (htold.quiet (by simp) (by simp [isFinished, hc]) (by simp [isFinished]) rfl
    (by simp [hc, Stage.isAdmitted]) rfl)

/-- Every move keeps the runners' timelines. -/
theorem Timelines.step (hi : b.Inv) (hs : b.Shown idles) (ht : b.Timelines plans)
    (h : b.step m = some b') : b'.Timelines plans := by
  cases m with
  | runner k => exact ht.runner_step hi hs h
  | tick =>
    obtain ⟨-, rfl⟩ := step_tick h
    exact ht.of_eq rfl rfl
  | cancel =>
    cases h
    exact ht.of_eq rfl rfl
  | stopMonitor =>
    obtain ⟨-, -, rfl⟩ := step_stopMonitor h
    exact ht.of_eq rfl rfl
  | abandon k =>
    obtain ⟨r, code, hr, hc, h'⟩ := step_abandon h
    exact (ht.giveUp hr hc).runner_step (hi.giveUp hr hc) (hs.giveUp hr hc) h'

/-- A run starts with no publication for any of its runners' jobs. -/
theorem Timelines.launch {o : Orchestrator} {d : Disk} {cwd : Loc} {now : Instant}
    {probes : List Bool} {prepared : List (Nat × Prepared)}
    (hapart : ∀ q ∈ (o.launch d cwd now probes prepared).shared.published,
      ∀ r ∈ (o.launch d cwd now probes prepared).runners, q.jobId ≠ r.job.id) :
    (o.launch d cwd now probes prepared).Timelines (Orchestrator.activeJobs prepared) := by
  refine ⟨by rw [Orchestrator.launch_runners, List.length_map], fun i r job plan hr hp => ?_⟩
  have hnone : (o.launch d cwd now probes prepared).shared.published.filter
      (·.jobId = r.job.id) = [] :=
    List.filter_eq_nil_iff.2 fun q hq hqr =>
      hapart q hq r (List.mem_of_getElem? hr) (of_decide_eq_true hqr)
  rw [hnone]
  rw [Orchestrator.launch_runners, List.getElem?_map, hp, Option.map_some,
    Option.some.injEq] at hr
  subst hr
  exact Timeline.new job plan now

end Batch

namespace Orchestrator

open Runner

variable {o : Orchestrator} {d : Disk} {cwd : Loc} {now : Instant} {probes : List Bool}
  {ids : List Nat} {b : Batch}

/-- Along every run, each runner's publications tell the story of its plan. -/
theorem Reaches.timelines (h : o.Reaches d cwd now probes ids b) :
    b.Timelines (activeJobs (o.prepareAll d cwd now ids)) := by
  obtain ⟨ms, hms⟩ := h
  have hstart := Reaches.shown (⟨[], rfl⟩ : o.Reaches d cwd now probes ids _)
  have hrun := @Batch.exec_preserves
    (fun x => x.Inv ∧
      x.Shown (o.launch d cwd now probes (o.prepareAll d cwd now ids)).shared.published ∧
      x.Timelines (activeJobs (o.prepareAll d cwd now ids)))
    (fun ⟨hi, hs, ht⟩ hstep => ⟨hi.step hstep, hs.step hstep, ht.step hi hs hstep⟩) ms _ _
    ⟨Batch.Inv.start o d cwd now probes ids, hstart, Batch.Timelines.launch hstart.apart⟩ hms
  exact hrun.2.2

/-- What each runner of a run publishes, whatever the order of the runners' steps, the business
pause and the cancellation. Take the entries of the log that runner `i` appended, one per file of
a prefix of its plan, `k` of them. The publications for the runner's job are, in order: its
totals, every file and byte of its plan with no current file; for each of the `k` files, the file
as it passed the gate, current and counted among the files left, and the file as it was logged,
with exactly the files and bytes left after it; the next file as it passed the gate, when the
runner has let it through or stopped after letting it through; and, once the runner has returned,
one last publication saying how: completed, with nothing left and no current file, exactly when
`k` is the length of the plan, and failed with no current file otherwise. Before its first step
the runner has published nothing, and no publication says the job is inactive. -/
theorem runners_publish_their_progress_in_order (h : o.Reaches d cwd now probes ids b) :
    ∃ owners : List Nat, owners.length = b.shared.logs.length ∧
      ∀ (i : Nat) (job : Job) (plan : List Transfer) (r : Runner),
        (activeJobs (o.prepareAll d cwd now ids))[i]? = some (job, plan) →
        b.runners[i]? = some r →
        List.Forall₂ (LogEntry.Records job) (plan.take (ownedBy b.shared.logs owners i).length)
          (ownedBy b.shared.logs owners i) ∧
        (∀ q ∈ b.shared.published.filter (·.jobId = job.id), q.state ≠ .inactive) ∧
        ((r.stage = .start ∧ b.shared.published.filter (·.jobId = job.id) = []) ∨
          ∃ entered : Bool,
            List.Forall₂ Notice.Fits
              (story plan (ownedBy b.shared.logs owners i).length entered
                (r.outcome?.map Notice.ofOutcome))
              (b.shared.published.filter (·.jobId = job.id)) ∧
            (r.isFinished = false → entered = r.stage.isAdmitted) ∧
            ∀ oc, r.outcome? = some oc →
              ((∃ t f, oc = .completed t f) ↔
                (ownedBy b.shared.logs owners i).length = plan.length)) := by
  obtain ⟨owners, hj⟩ := h.journal
  refine ⟨owners, hj.length, fun i job plan r hplan hr => ?_⟩
  obtain ⟨hjob, hjr⟩ := hj.runner i r job plan hr hplan
  have htl := h.timelines.runner i r job plan hr hplan
  rw [hjob] at htl
  refine ⟨hjob ▸ hjr.entries, htl.state_ne_inactive, ?_⟩
  cases htl with
  | fresh hs _ _ _ hps => exact .inl ⟨hs, hps⟩
  | told k e ht =>
    -- the files the runner has passed are the files it has logged
    have hk : k = (ownedBy b.shared.logs owners i).length := by
      have hlen := congrArg List.length (ht.units.symm.trans hjr.units)
      rw [List.length_drop, List.length_drop] at hlen
      have := hjr.length_le
      have := ht.le_length
      omega
    subst hk
    exact .inr ⟨e, ht.notices, ht.entered_eq,
      fun oc ho => ht.completed_iff oc (outcome?_eq_some.1 ho)⟩

end Orchestrator

end Safekeep
