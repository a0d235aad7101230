import Safekeep.Run.Batch
import Safekeep.Proofs.Gate.Basic

/-!
# What a runner owes its run

The gates of a run keep two counts: the drain, of the priority files not yet counted off, and
the large-file slot. This file reads off a runner's state what it owes each of them: the
priority files among its remaining ones, until it returns (`Runner.priorityOwed`), and the slot
it holds (`Runner.slotHeld`). It also names where a runner is with respect to the gates
(`Stage.isCopying`, `Stage.isAdmitted`, `Stage.pastDrain`).

`Runner.Wf` is what holds of every runner along a run: its own count of priority files is what
it owes; it has a file whenever it is between the steps of one; it holds the slot exactly while
it copies a large file; it waits for the slot only on a large file and for the drain only on a
plain one; and its files are in plan order, priority files first. The planner gives plans of
that shape (`Disk.plan_priorityFirst`).

Beside each operation of a step stand its small lemmas, one per field it touches, so that later
proofs never unfold it.
-/

namespace Safekeep

open Safekeep.Time

namespace Shared

variable (sh : Shared) (p : Progress)

@[simp] theorem publish_gate : (sh.publish p).gate = sh.gate := rfl
@[simp] theorem publish_sealBusy : (sh.publish p).sealBusy = sh.sealBusy := rfl
@[simp] theorem publish_logs : (sh.publish p).logs = sh.logs := rfl

end Shared

/-! ## Where a runner is -/

namespace Stage

def holdsUnit : Stage → Bool
  | .start | .next | .finished _ => false
  | _ => true

def isCopying : Stage → Bool
  | .copyWait | .copyRead _ => true
  | _ => false

def isAdmitted : Stage → Bool
  | .copyWait | .copyRead _ | .sealWait | .sealRun _ => true
  | _ => false

def pastDrain : Stage → Bool
  | .waitSlot => true
  | s => s.isAdmitted

def isSealRun : Stage → Bool
  | .sealRun _ => true
  | _ => false

theorem isAdmitted_of_isCopying {t : Stage} (h : t.isCopying = true) : t.isAdmitted = true := by
  cases t <;> simp_all [isCopying, isAdmitted]

theorem isSealRun_of_isCopying {t : Stage} (h : t.isCopying = true) : t.isSealRun = false := by
  cases t <;> simp_all [isCopying, isSealRun]

theorem holdsUnit_eq_true {t : Stage} (h₁ : ∀ o, t = .finished o → False)
    (h₂ : t = .start → False) (h₃ : t = .next → False) : t.holdsUnit = true := by
  cases t <;> simp_all [holdsUnit]

theorem pastDrain_of_isAdmitted {t : Stage} (h : t.isAdmitted = true) : t.pastDrain = true := by
  cases t <;> simp_all [isAdmitted, pastDrain]

end Stage

def PriorityFirst (plan : List Transfer) : Prop :=
  plan.Pairwise fun u v => v.priority = true → u.priority = true

/-- In a list with its priority files first, a priority file anywhere puts one at the head. -/
theorem PriorityFirst.head_priority {l : List Transfer} (h : PriorityFirst l) {u : Transfer}
    (hu : u ∈ l) (hp : u.priority = true) : l.head?.any (·.priority) = true := by
  cases l with
  | nil => cases hu
  | cons v rest =>
    rcases List.mem_cons.1 hu with rfl | hu
    · simp [hp]
    · simp [(List.pairwise_cons.1 h).1 u hu hp]

/-! ## What a runner owes -/

namespace Runner

def current (r : Runner) : Option Transfer := r.units.head?

def headLarge (r : Runner) : Bool := r.current.any (·.large)

def headPriority (r : Runner) : Bool := r.current.any (·.priority)

def priorityOwed (r : Runner) : Nat :=
  if r.isFinished then 0 else (r.units.filter (·.priority)).length

def slotHeld (r : Runner) : Nat := if r.holdsSlot then 1 else 0

def plainPastDrain (r : Runner) : Bool := r.stage.pastDrain && !r.headPriority

/-- What holds of every runner along a run with settings `s`. -/
structure Wf (s : Settings) (r : Runner) : Prop where
  pending : r.pending = r.priorityOwed
  busy : r.stage.holdsUnit = true → r.units ≠ []
  slot : r.holdsSlot = (r.stage.isCopying && r.headLarge)
  slotWait : r.stage = .waitSlot → r.headLarge = true
  drainWait : r.stage = .waitDrain → r.headPriority = false
  sorted : PriorityFirst r.units
  classified : ∀ u ∈ r.units, u.priority = s.isPriority u.source

variable {s : Settings} {r : Runner} {u : Transfer}

theorem isFinished_eq_false (h : ∀ o, r.stage ≠ .finished o) : r.isFinished = false := by
  unfold isFinished
  split <;> simp_all

theorem priorityOwed_of_active (h : ∀ o, r.stage ≠ .finished o) :
    r.priorityOwed = (r.units.filter (·.priority)).length := by
  simp [priorityOwed, isFinished_eq_false h]

theorem priorityOwed_of_finished (h : r.isFinished = true) : r.priorityOwed = 0 := by
  simp [priorityOwed, h]

theorem current_eq_of_units {r' : Runner} (hu : r'.units = r.units) : r'.current = r.current := by
  rw [current, current, hu]

theorem priorityOwed_eq_of_units {r' : Runner} (hu : r'.units = r.units)
    (h : ∀ o, r.stage ≠ .finished o) (h' : ∀ o, r'.stage ≠ .finished o) :
    r'.priorityOwed = r.priorityOwed := by
  rw [priorityOwed_of_active h', priorityOwed_of_active h, hu]

theorem units_eq_cons (h : r.current = some u) : r.units = u :: r.units.tail := by
  obtain ⟨rest, hr⟩ := List.head?_eq_some_iff.1 h
  simp [hr]

theorem current_of_units {t : List Transfer} (h : r.units = u :: t) : r.current = some u := by
  simp [current, h]

theorem not_finished_of_isAdmitted (h : r.stage.isAdmitted = true) :
    ∀ o, r.stage ≠ .finished o := by
  intro o ho
  rw [ho] at h
  cases h

theorem Wf.holdsSlot_eq_false (hw : r.Wf s) (h : r.stage.isCopying = false) :
    r.holdsSlot = false := by
  rw [hw.slot, h]
  rfl

theorem Wf.pending_pos (hw : r.Wf s) (hadm : r.stage.isAdmitted = true)
    (hcur : r.current = some u) (hup : u.priority = true) : 0 < r.pending := by
  rw [hw.pending, priorityOwed_of_active (not_finished_of_isAdmitted hadm), units_eq_cons hcur]
  simp [hup]

/-! ## The operations of a step, field by field -/

section Effects

variable (cx : Context) (r : Runner) (sh : Shared) (o : JobOutcome) (u : Transfer) (tm cm : Int)
  (err : Option String)

@[simp] theorem abort_gate : (r.abort sh o).1.gate = sh.gate.complete r.pending := rfl
@[simp] theorem abort_sealBusy : (r.abort sh o).1.sealBusy = sh.sealBusy := rfl
@[simp] theorem abort_logs : (r.abort sh o).1.logs = sh.logs := rfl
@[simp] theorem abort_units : (r.abort sh o).2.units = r.units := rfl
@[simp] theorem abort_pending : (r.abort sh o).2.pending = 0 := rfl
@[simp] theorem abort_stage : (r.abort sh o).2.stage = .finished o := rfl
@[simp] theorem abort_holdsSlot : (r.abort sh o).2.holdsSlot = r.holdsSlot := rfl
@[simp] theorem abort_job : (r.abort sh o).2.job = r.job := rfl
@[simp] theorem abort_transferred : (r.abort sh o).2.transferred = r.transferred := rfl
@[simp] theorem abort_failed : (r.abort sh o).2.failed = r.failed := rfl

theorem logUnit_gate :
    (r.logUnit cx sh u tm cm err).1.gate = if u.priority then sh.gate.complete 1 else sh.gate := by
  unfold logUnit; split <;> rfl
@[simp] theorem logUnit_priorityRemaining :
    (r.logUnit cx sh u tm cm err).1.gate.priorityRemaining =
      sh.gate.priorityRemaining - (if u.priority then 1 else 0) := by
  rw [logUnit_gate]; split <;> simp
@[simp] theorem logUnit_largeInFlight :
    (r.logUnit cx sh u tm cm err).1.gate.largeInFlight = sh.gate.largeInFlight := by
  rw [logUnit_gate]; split <;> rfl
@[simp] theorem logUnit_paused :
    (r.logUnit cx sh u tm cm err).1.gate.paused = sh.gate.paused := by
  rw [logUnit_gate]; split <;> rfl
@[simp] theorem logUnit_sealBusy : (r.logUnit cx sh u tm cm err).1.sealBusy = sh.sealBusy := by
  unfold logUnit; split <;> rfl
theorem logUnit_logs : (r.logUnit cx sh u tm cm err).1.logs = sh.logs ++
    [⟨cx.now, r.job.name, u.source, u.target, u.size, tm, cm, entryMessage err cm⟩] := by
  unfold logUnit; split <;> rfl
@[simp] theorem logUnit_units : (r.logUnit cx sh u tm cm err).2.units = r.units.drop 1 := by
  unfold logUnit; split <;> rfl
@[simp] theorem logUnit_pending :
    (r.logUnit cx sh u tm cm err).2.pending = r.pending - (if u.priority then 1 else 0) := by
  unfold logUnit; split <;> simp_all
@[simp] theorem logUnit_stage : (r.logUnit cx sh u tm cm err).2.stage = .next := by
  unfold logUnit; split <;> rfl
@[simp] theorem logUnit_disk : (r.logUnit cx sh u tm cm err).1.disk = sh.disk := by
  unfold logUnit; split <;> rfl
@[simp] theorem logUnit_holdsSlot :
    (r.logUnit cx sh u tm cm err).2.holdsSlot = r.holdsSlot := by
  unfold logUnit; split <;> rfl
@[simp] theorem logUnit_job : (r.logUnit cx sh u tm cm err).2.job = r.job := by
  unfold logUnit; split <;> rfl
@[simp] theorem logUnit_transferred : (r.logUnit cx sh u tm cm err).2.transferred =
    if tm < 0 then r.transferred else r.transferred + 1 := by
  unfold logUnit; split <;> rfl
@[simp] theorem logUnit_failed : (r.logUnit cx sh u tm cm err).2.failed =
    if tm < 0 then r.failed + 1 else r.failed := by
  unfold logUnit; split <;> rfl

@[simp] theorem release_units : (r.release sh).2.units = r.units := by
  unfold release; split <;> rfl
@[simp] theorem release_pending : (r.release sh).2.pending = r.pending := by
  unfold release; split <;> rfl
@[simp] theorem release_stage : (r.release sh).2.stage = r.stage := by
  unfold release; split <;> rfl
@[simp] theorem release_holdsSlot : (r.release sh).2.holdsSlot = false := by
  unfold release; split <;> simp_all
@[simp] theorem release_sealBusy : (r.release sh).1.sealBusy = sh.sealBusy := by
  unfold release; split <;> rfl
@[simp] theorem release_logs : (r.release sh).1.logs = sh.logs := by
  unfold release; split <;> rfl
@[simp] theorem release_disk : (r.release sh).1.disk = sh.disk := by
  unfold release; split <;> rfl
@[simp] theorem release_job : (r.release sh).2.job = r.job := by
  unfold release; split <;> rfl
@[simp] theorem release_transferred : (r.release sh).2.transferred = r.transferred := by
  unfold release; split <;> rfl
@[simp] theorem release_failed : (r.release sh).2.failed = r.failed := by
  unfold release; split <;> rfl
theorem release_gate :
    (r.release sh).1.gate = if r.holdsSlot then sh.gate.dropLarge else sh.gate := by
  unfold release; split <;> simp_all

end Effects

end Runner

/-! ## Plans -/

/-- A plan that succeeds is a list of units, each a priority file exactly when the settings
say its path is one, with the priority units moved first. -/
theorem Disk.plan_eq_ok {d : Disk} {cwd : Loc} {h : Host} {s : Settings} {job : Job}
    {plan : List Transfer} (hp : d.plan cwd h s job = .ok plan) :
    ∃ units : List Transfer, (∀ u ∈ units, u.priority = s.isPriority u.source) ∧
      plan = units.filter (·.priority) ++ units.filter (!·.priority) := by
  unfold Disk.plan at hp
  split at hp
  · split at hp
    · cases hp
    · cases hp
    · cases hp
      refine ⟨_, fun u hu => ?_, rfl⟩
      obtain ⟨⟨path, rel, st⟩, -, hf⟩ := List.mem_filterMap.1 hu
      dsimp only at hf
      split at hf
      · cases hf
      · cases hf
        rfl
  · cases hp

/-- A planned file is a priority file exactly when the settings say its path is one. -/
theorem Disk.plan_classified {d : Disk} {cwd : Loc} {h : Host} {s : Settings} {job : Job}
    {plan : List Transfer} (hp : d.plan cwd h s job = .ok plan) :
    ∀ u ∈ plan, u.priority = s.isPriority u.source := by
  obtain ⟨units, hunits, rfl⟩ := Disk.plan_eq_ok hp
  intro u hu
  rw [List.mem_append, List.mem_filter, List.mem_filter] at hu
  exact hunits u (hu.elim (·.1) (·.1))

/-- The planner's stable partition puts every priority file before every other file. -/
theorem Disk.plan_priorityFirst {d : Disk} {cwd : Loc} {h : Host} {s : Settings} {job : Job}
    {plan : List Transfer} (hp : d.plan cwd h s job = .ok plan) : PriorityFirst plan := by
  obtain ⟨units, -, rfl⟩ := Disk.plan_eq_ok hp
  refine List.pairwise_append.2 ⟨?_, ?_, ?_⟩
  · exact List.pairwise_filter.2 (List.pairwise_of_forall fun _ _ hu _ _ => hu)
  · exact List.pairwise_filter.2 (List.pairwise_of_forall fun _ _ _ hv hv' => by simp_all)
  · intro u hu _ _ _
    exact (List.mem_filter.1 hu).2

end Safekeep
