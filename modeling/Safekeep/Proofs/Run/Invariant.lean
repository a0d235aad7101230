import Safekeep.Proofs.Run.RunnerStep
import Mathlib

/-!
# The invariant of a run

A run of several jobs (`Batch`) moves by its runners' steps, the business monitor's ticks and
the cancellation of its token, in any order. `Batch.Inv` is what holds at every point of every
such order, for every run that `Orchestrator.runMany` starts:

* every runner is well-formed (`Runner.Wf`);
* the drain counts exactly the priority files the runners owe, and the slot count exactly the
  runners holding the slot, which is at most one;
* the tool's slot is taken only while some runner runs the tool;
* a runner is past the drain on a plain file only once the drain is empty;
* the log lists every priority file's entry before every plain file's entry, and holds a plain
  file's entry only once the drain is empty.

A runner's step keeps it by `Runner.step_spec`; a tick only sets the pause, and a cancellation
only what the runners see at their next wait. It holds at the start because the planner lists
each job's priority files first and marks exactly those the settings call priority.
-/

namespace Safekeep

open Safekeep.Time

theorem sum_map_set_add {α : Type} (f : α → Nat) :
    ∀ {l : List α} {i : Nat} {a : α}, l[i]? = some a → ∀ b,
      ((l.set i b).map f).sum + f a = (l.map f).sum + f b
  | x :: xs, 0, a, h, b => by
    simp only [List.getElem?_cons_zero, Option.some.injEq] at h
    subst h
    simp only [List.set_cons_zero, List.map_cons, List.sum_cons]
    omega
  | x :: xs, i + 1, a, h, b => by
    simp only [List.getElem?_cons_succ] at h
    have ih := sum_map_set_add f h b
    simp only [List.set_cons_succ, List.map_cons, List.sum_cons]
    omega

private theorem mem_set_of_ne {α : Type} {l : List α} {i : Nat} {a x : α} (ha : l[i]? = some a)
    (hx : x ∈ l) (hne : x ≠ a) (y : α) : x ∈ l.set i y := by
  obtain ⟨j, hj, rfl⟩ := List.getElem_of_mem hx
  have hij : i ≠ j := by
    rintro rfl
    exact hne (by simpa [hj] using ha)
  rw [List.mem_iff_getElem?]
  exact ⟨j, by rw [List.getElem?_set_ne hij]; exact List.getElem?_eq_getElem hj⟩

/-- Replacing an element by one of the same image leaves the image of the list as it was. -/
theorem map_set_of_eq {α β : Type} {f : α → β} {l : List α} {i : Nat} {a c : α}
    (h : l[i]? = some a) (hf : f c = f a) : (l.set i c).map f = l.map f := by
  rw [List.map_set, hf]
  apply List.ext_getElem?
  intro j
  rw [List.getElem?_set]
  split
  · subst_vars
    obtain ⟨hj, hget⟩ := List.getElem?_eq_some_iff.1 h
    simp [hj, hget]
  · rfl

namespace Runner

variable {s : Settings} {r : Runner} {code : Int}

/-- Only the stage of a runner waiting for its tool changes when the tool's end is read as a
fault, and nothing that the accounting of a run reads of the stage. -/
theorem Wf.giveUp (hw : r.Wf s) (hs : r.stage = .sealRun code) (c : Int) :
    { r with stage := .sealRun c }.Wf s :=
  ⟨by simpa [priorityOwed, isFinished, hs] using hw.pending,
    fun _ => hw.busy (by simp [hs, Stage.holdsUnit]),
    by simpa [hs, Stage.isCopying] using hw.slot, (fun h => by cases h), (fun h => by cases h),
    hw.sorted, hw.classified⟩

theorem plainPastDrain_giveUp (hs : r.stage = .sealRun code) (c : Int) :
    { r with stage := .sealRun c }.plainPastDrain = r.plainPastDrain := by
  simp [plainPastDrain, hs, Stage.pastDrain, Stage.isAdmitted, headPriority, current]

end Runner

namespace Batch

open Runner

variable {b b' : Batch} {m : Move}

def entryPriority (b : Batch) (e : LogEntry) : Bool := b.context.settings.isPriority e.sourcePath

/-- What holds of a run at every point. -/
structure Inv (b : Batch) : Prop where
  wf : ∀ r ∈ b.runners, r.Wf b.context.settings
  drain : b.shared.gate.priorityRemaining = (b.runners.map (·.pending)).sum
  slot : b.shared.gate.largeInFlight = (b.runners.map (·.slotHeld)).sum
  slotOne : b.shared.gate.largeInFlight ≤ 1
  tool : b.shared.sealBusy = true → ∃ r ∈ b.runners, r.stage.isSealRun = true
  drained : ∀ r ∈ b.runners, r.plainPastDrain = true → b.shared.gate.priorityRemaining = 0
  logOrder : b.shared.logs.Pairwise fun e f => b.entryPriority f = true → b.entryPriority e = true
  logDrained : ∀ e ∈ b.shared.logs, b.entryPriority e = false →
    b.shared.gate.priorityRemaining = 0

theorem step_runner {i : Nat} (h : b.step (.runner i) = some b') :
    ∃ r p, b.runners[i]? = some r ∧ r.step b.context b.shared = some p ∧
      b' = { b with shared := p.1, runners := b.runners.set i p.2 } := by
  simp only [Batch.step] at h
  split at h
  · cases h
  · rename_i r hr
    split at h
    · cases h
    · rename_i sh' r' hs
      cases h
      exact ⟨r, (sh', r'), hr, hs, rfl⟩

/-- A tick happens only while the business monitor runs, and applies its next answer to the
pause; the rest of the run stays as it was. -/
theorem step_tick (h : b.step .tick = some b') :
    b.monitorOn = true ∧ b' = { b with
      shared := { b.shared with gate := b.shared.gate.setPaused (nextProbe b.probes).1 }
      probes := (nextProbe b.probes).2 } := by
  simp only [Batch.step] at h
  split at h
  · cases h
    exact ⟨‹_›, rfl⟩
  · cases h

/-- The monitor stops only while it runs in a cancelled run, and the run is then closed: the
pause lifted and the monitor off. -/
theorem step_stopMonitor (h : b.step .stopMonitor = some b') :
    b.monitorOn = true ∧ b.context.cancelled = true ∧ b' = b.close := by
  simp only [Batch.step] at h
  split at h
  · rename_i hon
    cases h
    simp only [Bool.and_eq_true] at hon
    exact ⟨hon.1, hon.2, rfl⟩
  · cases h

@[simp] theorem close_runners : b.close.runners = b.runners := rfl
@[simp] theorem close_context : b.close.context = b.context := rfl
@[simp] theorem close_logs : b.close.shared.logs = b.shared.logs := rfl
@[simp] theorem close_disk : b.close.shared.disk = b.shared.disk := rfl
@[simp] theorem close_published : b.close.shared.published = b.shared.published := rfl

/-- The run with runner `i` given up on its tool `r`: the tool's end read as a fault, and one
more tool unwaited. -/
def giveUp (b : Batch) (i : Nat) (r : Runner) : Batch :=
  { b with runners := b.runners.set i { r with stage := .sealRun unexpectedFault },
           unwaited := b.unwaited + 1 }

@[simp] theorem giveUp_runners {i : Nat} {r : Runner} :
    (b.giveUp i r).runners = b.runners.set i { r with stage := .sealRun unexpectedFault } := rfl
@[simp] theorem giveUp_shared {i : Nat} {r : Runner} : (b.giveUp i r).shared = b.shared := rfl
@[simp] theorem giveUp_context {i : Nat} {r : Runner} : (b.giveUp i r).context = b.context := rfl

/-- A fact about each runner and its job's plan survives giving up on runner `i`'s tool when the
recoded runner keeps it: no other runner changes. -/
theorem forall_giveUp {plans : List (Job × List Transfer)}
    {Q : Nat → Runner → Job → List Transfer → Prop} {i : Nat} {r : Runner}
    (hall : ∀ j x job plan, b.runners[j]? = some x → plans[j]? = some (job, plan) → Q j x job plan)
    (hr : b.runners[i]? = some r)
    (hQ : ∀ job plan, Q i r job plan → Q i { r with stage := .sealRun unexpectedFault } job plan) :
    ∀ j x job plan, (b.giveUp i r).runners[j]? = some x → plans[j]? = some (job, plan) →
      Q j x job plan := by
  intro j x job plan hx hp
  by_cases hji : j = i
  · subst hji
    rw [giveUp_runners, List.getElem?_set_self (List.getElem?_eq_some_iff.1 hr).1,
      Option.some.injEq] at hx
    subst hx
    exact hQ job plan (hall j r job plan hr hp)
  · rw [giveUp_runners, List.getElem?_set_ne (Ne.symm hji)] at hx
    exact hall j x job plan hx hp

/-- A runner gives up on its tool only while it waits for it; the move is then its step in the
run where the tool's end reads as a fault. -/
theorem step_abandon {i : Nat} (h : b.step (.abandon i) = some b') :
    ∃ r code, b.runners[i]? = some r ∧ r.stage = .sealRun code ∧
      (b.giveUp i r).step (.runner i) = some b' := by
  simp only [Batch.step] at h
  split at h
  · cases h
  · rename_i r₀ hr₀
    split at h
    · cases h
    · rename_i sh' r' hs
      cases h
      obtain ⟨r, hr, hab⟩ := Option.bind_eq_some_iff.1 hr₀
      unfold Runner.abandonTool at hab
      split at hab
      · rename_i code hst
        cases hab
        have hi := (List.getElem?_eq_some_iff.1 hr).1
        refine ⟨r, code, hr, hst, ?_⟩
        simp only [Batch.step, giveUp, List.getElem?_set_self hi, hs, List.set_set]
      · cases hab

/-- Every move keeps the run's settings. -/
theorem step_settings (h : b.step m = some b') : b'.context.settings = b.context.settings := by
  cases m with
  | runner i =>
    obtain ⟨_, _, _, _, rfl⟩ := step_runner h
    rfl
  | tick =>
    obtain ⟨-, rfl⟩ := step_tick h
    rfl
  | cancel =>
    cases h
    rfl
  | stopMonitor =>
    obtain ⟨-, -, rfl⟩ := step_stopMonitor h
    rfl
  | abandon i =>
    obtain ⟨_, _, _, _, h'⟩ := step_abandon h
    obtain ⟨_, _, _, _, rfl⟩ := step_runner h'
    rfl

/-- What every move keeps, every order of moves keeps. -/
theorem exec_preserves {P : Batch → Prop}
    (hstep : ∀ {b b' : Batch} {m : Move}, P b → b.step m = some b' → P b') :
    ∀ {ms : List Move} {b b' : Batch}, P b → b.exec ms = some b' → P b' := by
  intro ms
  induction ms with
  | nil =>
    intro b b' hb h
    cases h
    exact hb
  | cons m ms ih =>
    intro b b' hb h
    simp only [Batch.exec, Option.bind_eq_some_iff] at h
    obtain ⟨b₁, h₁, h₂⟩ := h
    exact ih (hstep hb h₁) h₂

theorem Inv.pending_le (hi : b.Inv) {r : Runner} (hr : r ∈ b.runners) :
    r.pending ≤ b.shared.gate.priorityRemaining := by
  rw [hi.drain]
  exact List.le_sum_of_mem (List.mem_map_of_mem hr)

theorem Inv.slotHeld_le (hi : b.Inv) {r : Runner} (hr : r ∈ b.runners) :
    r.slotHeld ≤ b.shared.gate.largeInFlight := by
  rw [hi.slot]
  exact List.le_sum_of_mem (List.mem_map_of_mem hr)

/-- A runner's step appends at most one entry to the log: a plain file's only once the drain is
empty, and a priority file's only while every entry before it is a priority file's. -/
theorem Inv.log_step (hi : b.Inv) {r r' : Runner} {sh' : Shared} (hr : r ∈ b.runners)
    (spec : StepSpec b.context.settings b.shared r sh' r') :
    sh'.logs = b.shared.logs ∨ ∃ e, sh'.logs = b.shared.logs ++ [e] ∧
      (b.entryPriority e = false → b.shared.gate.priorityRemaining = 0) ∧
      (b.entryPriority e = true → ∀ x ∈ b.shared.logs, b.entryPriority x = true) := by
  have hw := hi.wf r hr
  rcases spec.log with hlog | ⟨u, e, hcur, hadm, hlog, hsrc⟩
  · exact .inl hlog
  · have hprio : b.entryPriority e = u.priority := by
      rw [entryPriority, hsrc, hw.classified u (List.mem_of_mem_head? hcur)]
    refine .inr ⟨e, hlog, fun hpe => ?_, fun hpe => ?_⟩
    · -- a plain file is logged past the drain, which is then empty
      have hppd : r.plainPastDrain = true := by
        rw [hprio] at hpe
        simp [plainPastDrain, headPriority, hcur, hpe, Stage.pastDrain_of_isAdmitted hadm]
      exact hi.drained r hr hppd
    · -- a priority file is still owed as it is logged, so the drain is not empty, and no
      -- plain file's entry can be in the log yet
      have hpos := hw.pending_pos hadm hcur (hprio ▸ hpe)
      have hle := hi.pending_le hr
      intro x hx
      cases hpx : b.entryPriority x
      · have := hi.logDrained x hx hpx; omega
      · rfl

/-- A runner's step keeps the invariant of its run. -/
theorem Inv.runner (hi : b.Inv) {i : Nat} (h : b.step (.runner i) = some b') : b'.Inv := by
  obtain ⟨r, p, hr, hs, rfl⟩ := step_runner h
  have hmem : r ∈ b.runners := List.mem_of_getElem? hr
  have spec := step_spec (hi.wf r hmem) (hi.pending_le hmem) (hi.slotHeld_le hmem) hs
  -- the drain never goes back up
  have hdown : p.1.gate.priorityRemaining ≤ b.shared.gate.priorityRemaining := by
    have := spec.drain; have := spec.pending_le; omega
  have hset : ∀ x ∈ b.runners.set i p.2, x ∈ b.runners ∨ x = p.2 :=
    fun x hx => List.mem_or_eq_of_mem_set hx
  have hlog := hi.log_step hmem spec
  refine ⟨?wf, ?drain, ?slot, ?slotOne, ?tool, ?drained, ?logOrder, ?logDrained⟩
  case wf =>
    intro x hx
    rcases hset x hx with hx | rfl
    · exact hi.wf x hx
    · exact spec.wf
  case drain =>
    have := spec.drain
    have := sum_map_set_add (·.pending) hr p.2
    have := hi.drain
    dsimp only at *
    omega
  case slot =>
    have := spec.slot
    have := sum_map_set_add (·.slotHeld) hr p.2
    have := hi.slot
    dsimp only at *
    omega
  case slotOne =>
    have hs1 := spec.slot
    have hone := hi.slotOne
    dsimp only
    -- the slot count rises only when a runner takes the slot, and then it was free
    cases hr0 : r.holdsSlot <;> cases hr1 : p.2.holdsSlot <;> simp [slotHeld, hr0, hr1] at hs1
    · omega
    · have := spec.slot_free hr0 hr1; omega
    · omega
    · omega
  case tool =>
    intro hbusy
    rcases spec.toolSlot hbusy with hrun | ⟨hbusy₀, hnot⟩
    · exact ⟨p.2, List.mem_set (List.getElem?_eq_some_iff.1 hr).1 _, hrun⟩
    · obtain ⟨x, hx, hxrun⟩ := hi.tool hbusy₀
      refine ⟨x, mem_set_of_ne hr hx ?_ _, hxrun⟩
      rintro rfl
      rw [hxrun] at hnot
      cases hnot
  case drained =>
    intro x hx hppd
    dsimp only at *
    rcases hset x hx with hx | rfl
    · have := hi.drained x hx hppd; omega
    · rcases spec.drained hppd with h | h
      · have := hi.drained r hmem h; omega
      · exact h
  case logOrder =>
    show List.Pairwise (fun e f => b.entryPriority f = true → b.entryPriority e = true) p.1.logs
    rcases hlog with hlog | ⟨e, hlog, _, hall⟩
    · rw [hlog]; exact hi.logOrder
    · rw [hlog]
      refine List.pairwise_append.2 ⟨hi.logOrder, List.pairwise_singleton _ _, ?_⟩
      intro x hx y hy hpy
      rw [List.mem_singleton] at hy
      subst hy
      exact hall hpy x hx
  case logDrained =>
    show ∀ e ∈ p.1.logs, b.entryPriority e = false → p.1.gate.priorityRemaining = 0
    intro x hx hpx
    rcases hlog with hlog | ⟨e, hlog, hplain, hall⟩
    · rw [hlog] at hx
      have := hi.logDrained x hx hpx; omega
    · rw [hlog] at hx
      rcases List.mem_append.1 hx with hx | hx
      · have := hi.logDrained x hx hpx; omega
      · rw [List.mem_singleton] at hx
        subst hx
        have := hplain hpx; omega

/-- Reading a waiting runner's tool end as a fault keeps the invariant: nothing it reads of the
runner changes. -/
theorem Inv.giveUp (hi : b.Inv) {i : Nat} {r : Runner} {code : Int} (hr : b.runners[i]? = some r)
    (hs : r.stage = .sealRun code) : (b.giveUp i r).Inv := by
  have hmem : r ∈ b.runners := List.mem_of_getElem? hr
  have hset : ∀ x ∈ (b.giveUp i r).runners, x ∈ b.runners ∨ x = { r with stage := .sealRun unexpectedFault } :=
    fun x hx => List.mem_or_eq_of_mem_set hx
  refine ⟨?wf, ?drain, ?slot, hi.slotOne, ?tool, ?drained, hi.logOrder, hi.logDrained⟩
  case wf =>
    intro x hx
    rcases hset x hx with hx | rfl
    · exact hi.wf x hx
    · exact (hi.wf r hmem).giveUp hs _
  case drain =>
    exact hi.drain.trans (congrArg List.sum (map_set_of_eq (f := (·.pending))
      (c := { r with stage := .sealRun unexpectedFault }) hr rfl).symm)
  case slot =>
    exact hi.slot.trans (congrArg List.sum (map_set_of_eq (f := (·.slotHeld))
      (c := { r with stage := .sealRun unexpectedFault }) hr rfl).symm)
  case tool =>
    intro hbusy
    obtain ⟨x, hx, hxrun⟩ := hi.tool hbusy
    by_cases hxr : x = r
    · exact ⟨_, List.mem_set (List.getElem?_eq_some_iff.1 hr).1 _, rfl⟩
    · exact ⟨x, mem_set_of_ne hr hx hxr _, hxrun⟩
  case drained =>
    intro x hx hppd
    rcases hset x hx with hx | rfl
    · exact hi.drained x hx hppd
    · exact hi.drained r hmem (by rwa [plainPastDrain_giveUp hs] at hppd)

/-- Every move keeps the invariant: a runner's step, a monitor tick or stop (which only set the
pause), the cancellation of the token (which only the runners' next waits see), and a runner's
giving up on its tool (its step once the tool's end reads as a fault). -/
theorem Inv.step (hi : b.Inv) (h : b.step m = some b') : b'.Inv := by
  cases m with
  | runner i => exact hi.runner h
  | tick =>
    obtain ⟨-, rfl⟩ := step_tick h
    exact ⟨hi.wf, hi.drain, hi.slot, hi.slotOne, hi.tool, hi.drained, hi.logOrder,
      hi.logDrained⟩
  | cancel =>
    cases h
    exact ⟨hi.wf, hi.drain, hi.slot, hi.slotOne, hi.tool, hi.drained, hi.logOrder,
      hi.logDrained⟩
  | stopMonitor =>
    obtain ⟨-, -, rfl⟩ := step_stopMonitor h
    exact ⟨hi.wf, hi.drain, hi.slot, hi.slotOne, hi.tool, hi.drained, hi.logOrder,
      hi.logDrained⟩
  | abandon i =>
    obtain ⟨r, code, hr, hs, h'⟩ := step_abandon h
    exact (hi.giveUp hr hs).runner h'

end Batch

/-! ## The start of a run -/

namespace Orchestrator

variable (o : Orchestrator) (d : Disk) (cwd : Loc) (now : Instant) (probes : List Bool)
  (prepared : List (Nat × Prepared))

theorem launch_settings : (o.launch d cwd now probes prepared).context.settings = o.settings := by
  unfold launch; split; rfl

theorem launch_runners : (o.launch d cwd now probes prepared).runners =
    (activeJobs prepared).map fun (job, plan) => Runner.new job plan now := by
  unfold launch; split; rfl

theorem launch_priorityRemaining :
    (o.launch d cwd now probes prepared).shared.gate.priorityRemaining =
      ((activeJobs prepared).map fun (_, plan) => (plan.filter (·.priority)).length).sum := by
  unfold launch; split; rfl

theorem launch_largeInFlight :
    (o.launch d cwd now probes prepared).shared.gate.largeInFlight = 0 := by
  unfold launch; split; rfl

theorem launch_sealBusy : (o.launch d cwd now probes prepared).shared.sealBusy = false := by
  unfold launch; split; rfl

theorem launch_logs : (o.launch d cwd now probes prepared).shared.logs = [] := by
  unfold launch; split; rfl

theorem launch_cancelled :
    (o.launch d cwd now probes prepared).context.cancelled = o.cancelled := by
  unfold launch; split; rfl

theorem launch_cwd : (o.launch d cwd now probes prepared).context.cwd = cwd := by
  unfold launch; split; rfl

theorem launch_disk : (o.launch d cwd now probes prepared).shared.disk = d := by
  unfold launch; split; rfl

theorem launch_unwaited : (o.launch d cwd now probes prepared).unwaited = 0 := by
  unfold launch; split; rfl

variable {o d cwd now}

/-- Every active job of a preparation was planned by the planner. -/
theorem plan_of_mem_activeJobs {ids : List Nat} {job : Job} {plan : List Transfer}
    (h : (job, plan) ∈ activeJobs (o.prepareAll d cwd now ids)) :
    d.plan cwd o.host o.settings job = .ok plan := by
  simp only [activeJobs, prepareAll, List.mem_filterMap, List.mem_map] at h
  obtain ⟨a, ⟨id, -, rfl⟩, hp⟩ := h
  have hprep : prepareJob d cwd o.host o.settings o.jobs now id = .active job plan := by
    cases hq : prepareJob d cwd o.host o.settings o.jobs now id with
    | stopped outcome idle => simp [hq] at hp
    | active j pl =>
      simp only [hq, Option.some.injEq, Prod.mk.injEq] at hp
      rw [hp.1, hp.2]
  unfold prepareJob at hprep
  split at hprep
  · cases hprep
  · split at hprep
    · cases hprep
    · split at hprep
      · cases hprep
      · split at hprep
        · rename_i hplan
          cases hprep
          exact hplan
        · cases hprep

/-- The states a run of the jobs `ids` can be in: its start, after any order of the runners'
steps, the monitor's ticks (answering by `probes`) and the cancellation of its token. -/
def Reaches (o : Orchestrator) (d : Disk) (cwd : Loc) (now : Instant) (probes : List Bool)
    (ids : List Nat) (b : Batch) : Prop :=
  ∃ ms, (o.launch d cwd now probes (o.prepareAll d cwd now ids)).exec ms = some b

end Orchestrator

namespace Runner

theorem Wf.new {s : Settings} {job : Job} {plan : List Transfer} {now : Instant}
    (hf : PriorityFirst plan) (hc : ∀ u ∈ plan, u.priority = s.isPriority u.source) :
    (Runner.new job plan now).Wf s :=
  ⟨by simp [Runner.new, priorityOwed, isFinished], by simp [Runner.new, Stage.holdsUnit], rfl,
    by simp [Runner.new], by simp [Runner.new], hf, hc⟩

end Runner

namespace Batch

open Orchestrator Runner

/-- A run starts with its invariant, when the plans list their priority files first and mark
exactly the files the settings call priority. -/
theorem Inv.launch {o : Orchestrator} {d : Disk} {cwd : Loc} {now : Instant}
    {probes : List Bool} {prepared : List (Nat × Prepared)}
    (hplans : ∀ p ∈ activeJobs prepared,
      PriorityFirst p.2 ∧ ∀ u ∈ p.2, u.priority = o.settings.isPriority u.source) :
    (o.launch d cwd now probes prepared).Inv := by
  have hstart : ∀ r ∈ (o.launch d cwd now probes prepared).runners, r.stage = .start := by
    rw [launch_runners]
    intro r hr
    obtain ⟨_, _, rfl⟩ := List.mem_map.1 hr
    rfl
  refine ⟨?wf, ?drain, ?slot, ?slotOne, ?tool, ?drained, ?logOrder, ?logDrained⟩
  case wf =>
    rw [launch_runners, launch_settings]
    intro r hr
    obtain ⟨⟨job, plan⟩, hmem, rfl⟩ := List.mem_map.1 hr
    exact Wf.new (hplans _ hmem).1 (hplans _ hmem).2
  case drain =>
    rw [launch_priorityRemaining, launch_runners, List.map_map]
    rfl
  case slot =>
    rw [launch_largeInFlight, launch_runners]
    simp [slotHeld, Runner.new, Function.comp_def]
  case slotOne => rw [launch_largeInFlight]; omega
  case tool => rw [launch_sealBusy]; intro h; cases h
  case drained =>
    intro r hr hppd
    simp [plainPastDrain, hstart r hr, Stage.pastDrain, Stage.isAdmitted] at hppd
  case logOrder => rw [launch_logs]; exact List.Pairwise.nil
  case logDrained => rw [launch_logs]; intro e he; cases he

theorem Inv.start (o : Orchestrator) (d : Disk) (cwd : Loc) (now : Instant)
    (probes : List Bool) (ids : List Nat) :
    (o.launch d cwd now probes (o.prepareAll d cwd now ids)).Inv :=
  Inv.launch fun _ hp =>
    ⟨Disk.plan_priorityFirst (plan_of_mem_activeJobs hp),
      Disk.plan_classified (plan_of_mem_activeJobs hp)⟩

end Batch

namespace Orchestrator

variable {o : Orchestrator} {d : Disk} {cwd : Loc} {now : Instant} {probes : List Bool}
  {ids : List Nat} {b : Batch}

theorem Reaches.inv (h : o.Reaches d cwd now probes ids b) : b.Inv := by
  obtain ⟨ms, hms⟩ := h
  exact Batch.exec_preserves Batch.Inv.step (Batch.Inv.start o d cwd now probes ids) hms

theorem Reaches.settings (h : o.Reaches d cwd now probes ids b) :
    b.context.settings = o.settings := by
  obtain ⟨ms, hms⟩ := h
  exact @Batch.exec_preserves (fun x => x.context.settings = o.settings)
    (fun hx hs => (Batch.step_settings hs).trans hx) ms _ _ (launch_settings ..) hms

end Orchestrator

end Safekeep
