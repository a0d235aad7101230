import Safekeep.Proofs.Run.Report
import Safekeep.Proofs.Run.Monitor

/-!
# The token of a run

An orchestrator holds one cancellation token at a time (`Orchestrator.cancelled` says whether it
is cancelled). A run starts with that token, and once it is cancelled every runner that is at a
wait, at one of the gates, at the pause before a chunk of its copy, at the tool's slot or while
the tool runs, stops there, cancelled (`Batch.Inv.step_atWait`).

A token cancelled before a run cancels the whole run: no runner gets past the pause, so nothing
is copied or logged, and each runner stops cancelled, or completes with nothing when it has no
file (`Batch.CancelledFromStart`). After a run the orchestrator holds a fresh token, and a run
whose token is not cancelled never stops a job cancelled: the canonical order cancels nothing
(`Batch.settle_context`), and a runner stops cancelled only in a cancelled run
(`Batch.NoneCancelled`).
-/

namespace Safekeep

open Safekeep.Time

namespace Runner

variable {cx : Context} {sh : Shared} {r : Runner} {p : Shared × Runner}

/-- Whether the runner is at a wait of its run, where it looks at the token: at one of the gates,
at the pause before a chunk of its copy, at the tool's slot once the tool is found, or while the
tool runs. -/
def AtWait (cx : Context) (sh : Shared) (r : Runner) : Prop :=
  r.stage.holdsUnit = true ∧
    ∀ u code, r.stage = .sealWait → r.current = some u →
      sh.disk.sealPlan cx.cwd cx.host cx.settings u.target ≠ .decided code

/-- At a wait of a cancelled run, the runner stops, cancelled. -/
theorem step_atWait (hc : cx.cancelled = true) (hw : r.AtWait cx sh) (hne : r.units ≠ []) :
    ∃ p, r.step cx sh = some p ∧ p.2.stage = .finished .cancelled := by
  obtain ⟨hs, hseal⟩ := hw
  obtain ⟨u, rest, hu⟩ := List.exists_cons_of_ne_nil hne
  cases hst : r.stage with
  | waitPause => exact ⟨r.abort sh .cancelled, by simp [step, hst, hu, hc], rfl⟩
  | waitDrain => exact ⟨r.abort sh .cancelled, by simp [step, hst, hu, hc], rfl⟩
  | waitSlot => exact ⟨r.abort sh .cancelled, by simp [step, hst, hu, hc], rfl⟩
  | copyWait => exact ⟨r.cancelCopy cx sh u, by simp [step, hst, hu, hc], cancelCopy_stage⟩
  | copyRead c => exact ⟨r.cancelCopy cx sh u, by simp [step, hst, hu, hc], cancelCopy_stage⟩
  | sealWait =>
    -- a tool that was not found is no wait: the file is logged with its code
    cases hp : sh.disk.sealPlan cx.cwd cx.host cx.settings u.target with
    | decided code => exact absurd hp (hseal u code hst (current_of_units hu))
    | launch tool => exact ⟨r.abort sh .cancelled, by simp [step, hst, hu, hc, hp], rfl⟩
  | sealRun code =>
    exact ⟨r.abort { sh with sealBusy := false } .cancelled, by simp [step, hst, hu, hc], rfl⟩
  | start | next | finished o => simp [hst, Stage.holdsUnit] at hs

/-- The course of a runner in a run cancelled from its start: nothing counted, and from its start
it goes to its first file, then to the pause, where it stops cancelled; with no file it
completes with nothing. -/
structure CancelledCourse (r : Runner) : Prop where
  transferred : r.transferred = 0
  failed : r.failed = 0
  stage : r.stage = .start ∨ r.stage = .next ∨ (r.stage = .waitPause ∧ r.units ≠ []) ∨
    r.stage = .finished (if r.units = [] then .completed 0 0 else .cancelled)

/-- In a cancelled run, a runner whose source is a directory keeps to its course, on its job
and files, and touches neither the disk nor the log. -/
theorem CancelledCourse.step (hr : r.CancelledCourse) (hc : cx.cancelled = true)
    (hdir : sh.disk.isDir cx.cwd r.job.source = true) (h : r.step cx sh = some p) :
    p.2.CancelledCourse ∧ p.2.units = r.units ∧ p.2.job = r.job ∧ p.1.disk = sh.disk ∧
      p.1.logs = sh.logs := by
  obtain ⟨ht, hf, hs⟩ := hr
  rcases hs with hs | hs | ⟨hs, hne⟩ | hs
  · simp only [Runner.step, hs, Option.some.injEq] at h
    subst h
    exact ⟨⟨ht, hf, .inr (.inl rfl)⟩, rfl, rfl, rfl, rfl⟩
  · cases hu : r.units with
    | nil =>
      simp only [Runner.step, hs, hu, Option.some.injEq] at h
      subst h
      exact ⟨⟨ht, hf, .inr (.inr (.inr (by simp [ht, hf])))⟩, rfl, rfl, rfl, rfl⟩
    | cons u rest =>
      simp only [Runner.step, hs, hu, hdir, if_true, Option.some.injEq] at h
      subst h
      exact ⟨⟨ht, hf, .inr (.inr (.inl ⟨rfl, by simp⟩))⟩, rfl, rfl, rfl, rfl⟩
  · obtain ⟨u, rest, hu⟩ := List.exists_cons_of_ne_nil hne
    simp only [Runner.step, hs, hu, hc, if_true, Option.some.injEq] at h
    subst h
    exact ⟨⟨ht, hf, .inr (.inr (.inr (by simp [hu])))⟩, rfl, rfl, rfl, rfl⟩
  · rw [step_of_finished hs] at h
    cases h

theorem cancelled_of_stopped (hbusy : r.stage.holdsUnit = true → r.units ≠ [])
    (h : r.step cx sh = some p) (hst : p.2.stage = .finished .cancelled) : cx.cancelled = true :=
  (((step_moves hbusy h).outcome hst).2.2.1 rfl).1

end Runner

namespace Batch

open Runner

variable {b b' : Batch} {m : Move} {d : Disk} {i : Nat} {r : Runner}

/-- At a wait of a cancelled run, a runner's own step stops it, cancelled. -/
theorem Inv.step_atWait (hi : b.Inv) (hc : b.context.cancelled = true)
    (hr : b.runners[i]? = some r) (hw : r.AtWait b.context b.shared) :
    ∃ b' r', b.step (.runner i) = some b' ∧ b'.runners[i]? = some r' ∧
      r'.stage = .finished .cancelled := by
  have hne := (hi.wf r (List.mem_of_getElem? hr)).busy hw.1
  obtain ⟨p, hs, hst⟩ := Runner.step_atWait hc hw hne
  have hlt : i < b.runners.length := (List.getElem?_eq_some_iff.1 hr).1
  exact ⟨{ b with shared := p.1, runners := b.runners.set i p.2 }, p.2,
    by simp [Batch.step, hr, hs], List.getElem?_set_self hlt, hst⟩

/-- The canonical order takes only the runners' steps and the monitor's ticks, so it leaves the
run's context, its token included, as it was. -/
theorem settle_context (b : Batch) : (settle b).context = b.context := by
  fun_induction settle b
  case case1 => rfl
  case case2 c _ b' hfirst _ ih =>
    obtain ⟨i, hi⟩ := firstRunnerMove_some hfirst
    obtain ⟨_, _, _, _, rfl⟩ := step_runner hi
    exact ih
  case case3 => rfl
  case case4 c _ _ b' htick _ ih => rw [ih, (step_tick htick).2]
  case case5 => rfl
  case case6 => rfl

/-! ## A run cancelled from its start -/

/-- A run whose token was cancelled at its start, on disk `d`: the disk and the log are as the
run found them, every runner keeps to its course, and each runner's source is a directory. -/
structure CancelledFromStart (d : Disk) (b : Batch) : Prop where
  cancelled : b.context.cancelled = true
  disk : b.shared.disk = d
  logs : b.shared.logs = []
  runners : ∀ r ∈ b.runners, r.CancelledCourse ∧ d.isDir b.context.cwd r.job.source = true

/-- Every move of a run cancelled from its start keeps it so. No runner of it waits for a tool,
so none can give up on one. -/
theorem CancelledFromStart.step (hb : b.CancelledFromStart d) (h : b.step m = some b') :
    b'.CancelledFromStart d := by
  cases m with
  | runner k =>
    obtain ⟨r, p, hr, hs, rfl⟩ := step_runner h
    obtain ⟨hcourse, hdir⟩ := hb.runners r (List.mem_of_getElem? hr)
    obtain ⟨hcourse', -, hjob, hdisk, hlogs⟩ :=
      hcourse.step hb.cancelled (hb.disk ▸ hdir) hs
    refine ⟨hb.cancelled, hdisk.trans hb.disk, hlogs.trans hb.logs, fun x hx => ?_⟩
    rcases List.mem_or_eq_of_mem_set hx with hx | rfl
    · exact hb.runners x hx
    · exact ⟨hcourse', hjob ▸ hdir⟩
  | tick =>
    obtain ⟨-, rfl⟩ := step_tick h
    exact ⟨hb.cancelled, hb.disk, hb.logs, hb.runners⟩
  | cancel =>
    cases h
    exact ⟨rfl, hb.disk, hb.logs, hb.runners⟩
  | stopMonitor =>
    obtain ⟨-, -, rfl⟩ := step_stopMonitor h
    exact ⟨hb.cancelled, hb.disk, hb.logs, hb.runners⟩
  | abandon k =>
    obtain ⟨r, code, hr, hc, -⟩ := step_abandon h
    rcases (hb.runners r (List.mem_of_getElem? hr)).1.stage with hs | hs | ⟨hs, -⟩ | hs <;>
      rw [hs] at hc <;> cases hc

/-! ## A run that is not cancelled -/

def NoneCancelled (b : Batch) : Prop := ∀ r ∈ b.runners, r.stage ≠ .finished .cancelled

/-- A runner's step in a run that is not cancelled stops no runner cancelled. -/
theorem NoneCancelled.runner (hi : b.Inv) (hn : b.NoneCancelled)
    (hc : b.context.cancelled = false) {k : Nat} (h : b.step (.runner k) = some b') :
    b'.NoneCancelled := by
  obtain ⟨r, p, hr, hs, rfl⟩ := step_runner h
  intro x hx hst
  rcases List.mem_or_eq_of_mem_set hx with hx | rfl
  · exact hn x hx hst
  · have := Runner.cancelled_of_stopped (hi.wf r (List.mem_of_getElem? hr)).busy hs hst
    rw [hc] at this
    cases this

/-- A move of a run that is not cancelled stops no runner cancelled. -/
theorem NoneCancelled.step (hi : b.Inv) (hn : b.NoneCancelled)
    (hc : b.context.cancelled = false) (h : b.step m = some b') : b'.NoneCancelled := by
  cases m with
  | runner k => exact hn.runner hi hc h
  | tick =>
    obtain ⟨-, rfl⟩ := step_tick h
    exact hn
  | cancel =>
    cases h
    exact hn
  | stopMonitor =>
    obtain ⟨-, -, rfl⟩ := step_stopMonitor h
    exact hn
  | abandon k =>
    obtain ⟨r, code, hr, hs, h'⟩ := step_abandon h
    -- the runner giving up on its tool is still waiting for it
    have hn' : (b.giveUp k r).NoneCancelled := fun x hx hst => by
      rcases List.mem_or_eq_of_mem_set hx with hx | rfl
      · exact hn x hx hst
      · cases hst
    exact hn'.runner (hi.giveUp hr hs) hc h'

/-- A run not cancelled after a move was not cancelled before it, so the move stopped no runner
cancelled. -/
theorem step_noneCancelled (hi : b.Inv) (hn : b.context.cancelled = false → b.NoneCancelled)
    (h : b.step m = some b') : b'.context.cancelled = false → b'.NoneCancelled := by
  intro hc'
  have hc : b.context.cancelled = false := by
    cases hc : b.context.cancelled
    · rfl
    · rw [cancelled_of_step h hc] at hc'
      cases hc'
  exact (hn hc).step hi hc h

end Batch

namespace Orchestrator

variable {o : Orchestrator} {d : Disk} {cwd : Loc} {now : Instant} {probes : List Bool}
  {ids : List Nat} {b : Batch}

/-- A run leaves the orchestrator a fresh token: its own when it was not cancelled, a new one
otherwise. -/
theorem conclude_fresh (prepared : List (Nat × Prepared)) (b : Batch) :
    (o.conclude prepared b).1 = { o with cancelled := false } := by
  simp only [conclude]
  cases b.context.cancelled <;> rfl

theorem source_of_mem_activeJobs {job : Job} {plan : List Transfer}
    (h : (job, plan) ∈ activeJobs (o.prepareAll d cwd now ids)) :
    d.isDir cwd job.source = true := by
  obtain ⟨id, hx⟩ := mem_activeJobs_iff.1 h
  cases preparation_of_mem hx with
  | planned _ _ _ hsrc => exact hsrc

/-- A run whose token is cancelled is cancelled from its start, and stays so whatever its moves. -/
theorem Reaches.cancelledFromStart (h : o.Reaches d cwd now probes ids b)
    (hc : o.cancelled = true) : b.CancelledFromStart d := by
  obtain ⟨ms, hms⟩ := h
  refine Batch.exec_preserves Batch.CancelledFromStart.step ⟨?_, ?_, ?_, ?_⟩ hms
  · rw [launch_cancelled, hc]
  · exact launch_disk ..
  · exact launch_logs ..
  · intro r hr
    rw [launch_runners] at hr
    obtain ⟨⟨job, plan⟩, hjob, rfl⟩ := List.mem_map.1 hr
    exact ⟨⟨rfl, rfl, .inl rfl⟩, by rw [launch_cwd]; exact source_of_mem_activeJobs hjob⟩

/-- Along every run, while it is not cancelled, no runner has stopped cancelled. -/
theorem Reaches.noneCancelled (h : o.Reaches d cwd now probes ids b)
    (hc : b.context.cancelled = false) : b.NoneCancelled := by
  obtain ⟨ms, hms⟩ := h
  have hstart : ∀ r ∈ (o.launch d cwd now probes (o.prepareAll d cwd now ids)).runners,
      r.stage ≠ .finished .cancelled := by
    intro r hr
    rw [launch_runners] at hr
    obtain ⟨_, -, rfl⟩ := List.mem_map.1 hr
    nofun
  have hrun := @Batch.exec_preserves
    (fun x => x.Inv ∧ (x.context.cancelled = false → x.NoneCancelled))
    (fun ⟨hi, hn⟩ hs => ⟨hi.step hs, Batch.step_noneCancelled hi hn hs⟩) ms _ _
    ⟨Batch.Inv.start o d cwd now probes ids, fun _ => hstart⟩ hms
  exact hrun.2 hc

/-- In a run that has logged nothing, every runner still has the plan the planner gave its job. -/
theorem Reaches.plan_of_no_logs (h : o.Reaches d cwd now probes ids b)
    (hl : b.shared.logs = []) {r : Runner} (hr : r ∈ b.runners) :
    d.plan cwd o.host o.settings r.job = .ok r.units := by
  obtain ⟨owners, hj⟩ := h.journal
  obtain ⟨i, hi⟩ := List.mem_iff_getElem?.1 hr
  have hlt : i < (activeJobs (o.prepareAll d cwd now ids)).length :=
    hj.runners ▸ (List.getElem?_eq_some_iff.1 hi).1
  obtain ⟨hjob, hjr⟩ := hj.runner i r _ _ hi (List.getElem?_eq_getElem hlt)
  have hnone : ownedBy b.shared.logs owners i = [] := by
    rw [hl]
    simp [ownedBy]
  rw [hjr.units, hnone, List.length_nil, List.drop_zero, hjob]
  exact plan_of_mem_activeJobs (List.getElem_mem hlt)

/-- A run whose token is not cancelled reports no job cancelled: a job that never became active
was skipped or failed at its preparation, and the runner of an active job never stops cancelled
on its way to its end. -/
theorem runMany_not_cancelled (hc : o.cancelled = false) :
    ∀ line ∈ (o.runMany d cwd now probes ids).2.2.jobs, line.outcome ≠ .cancelled := by
  have hstart : o.Reaches d cwd now probes ids
      (o.launch d cwd now probes (o.prepareAll d cwd now ids)) := ⟨[], rfl⟩
  obtain ⟨hdone, hreach⟩ := hstart.settle
  have hcx : (Batch.settle (o.launch d cwd now probes (o.prepareAll d cwd now ids))).context.cancelled
      = false := by
    rw [Batch.settle_context, launch_cancelled, hc]
  have hnone := hreach.noneCancelled hcx
  have hjobs : (o.runMany d cwd now probes ids).2.2.jobs = (o.prepareAll d cwd now ids).map
      (Batch.settle (o.launch d cwd now probes (o.prepareAll d cwd now ids))).reportLine := rfl
  intro line hline
  rw [hjobs] at hline
  obtain ⟨⟨id, prep⟩, hx, rfl⟩ := List.mem_map.1 hline
  cases prep with
  | stopped oc idle => cases preparation_of_mem hx <;> simp [Batch.reportLine]
  | active job plan =>
    obtain ⟨-, -, -, -, -, r, hr, -, ho⟩ := (hreach.reports hdone hx).ran.1 rfl
    intro hcan
    rw [hcan] at ho
    exact hnone r hr (Runner.outcome?_eq_some.1 ho)

/-- A run whose token is cancelled before it starts leaves the disk as it was and logs nothing,
and each job that became active stops cancelled, or completes with nothing when the planner gave
it no file. -/
theorem runMany_of_cancelled (hc : o.cancelled = true) :
    (o.runMany d cwd now probes ids).2.1 = d ∧ (o.runMany d cwd now probes ids).2.2.logs = [] ∧
      ∀ line ∈ (o.runMany d cwd now probes ids).2.2.jobs, line.activated = true →
        ∃ job plan, o.jobs.find? line.jobId = some job ∧ d.plan cwd o.host o.settings job = .ok plan ∧
          line.outcome = if plan = [] then .completed 0 0 else .cancelled := by
  have hstart : o.Reaches d cwd now probes ids
      (o.launch d cwd now probes (o.prepareAll d cwd now ids)) := ⟨[], rfl⟩
  obtain ⟨hdone, hreach⟩ := hstart.settle
  have hb := hreach.cancelledFromStart hc
  have hjobs : (o.runMany d cwd now probes ids).2.2.jobs = (o.prepareAll d cwd now ids).map
      (Batch.settle (o.launch d cwd now probes (o.prepareAll d cwd now ids))).reportLine := rfl
  refine ⟨hb.disk, hb.logs, fun line hline hact => ?_⟩
  rw [hjobs] at hline
  obtain ⟨x, hx, rfl⟩ := List.mem_map.1 hline
  obtain ⟨job, hfind, -, -, ⟨plan, hplan⟩, r, hr, hjob, ho⟩ := (hreach.reports hdone hx).ran.1 hact
  refine ⟨job, plan, hfind, hplan, ?_⟩
  -- the runner has returned on its course, with the whole plan still its own
  have hfin : r.isFinished = true := List.all_eq_true.1 hdone r hr
  have hunits : r.units = plan := by
    have hown := hreach.plan_of_no_logs hb.logs hr
    rw [hjob, hplan, Except.ok.injEq] at hown
    exact hown.symm
  have hend := Runner.outcome?_eq_some.1 ho
  rcases (hb.runners r hr).1.stage with hs | hs | ⟨hs, -⟩ | hs
  · simp [Runner.isFinished, hs] at hfin
  · simp [Runner.isFinished, hs] at hfin
  · simp [Runner.isFinished, hs] at hfin
  · rw [hs, Stage.finished.injEq, hunits] at hend
    exact hend.symm

/-- A run starts with the orchestrator's current token, and once that token is cancelled every
runner at a wait stops there, cancelled. A token cancelled before the run cancels it: the disk is
left as it was, nothing is logged, and each job that became active stops cancelled, or completes
with nothing when the planner gave it no file. After the run the orchestrator holds a fresh
token, also when the token was cancelled in the middle of the run, so the next run, unless its
token is cancelled again, reports no job cancelled. -/
theorem run_token_reaches_only_its_run (o : Orchestrator) (d : Disk) (cwd : Loc) (now : Instant)
    (probes : List Bool) (ids : List Nat) :
    let after := o.runMany d cwd now probes ids
    (o.launch d cwd now probes (o.prepareAll d cwd now ids)).context.cancelled = o.cancelled ∧
      (∀ b, o.Reaches d cwd now probes ids b → b.context.cancelled = true →
        ∀ i r, b.runners[i]? = some r → r.AtWait b.context b.shared →
          ∃ b' r', b.step (.runner i) = some b' ∧ b'.runners[i]? = some r' ∧
            r'.stage = .finished .cancelled) ∧
      (o.cancelled = true → after.2.1 = d ∧ after.2.2.logs = [] ∧
        ∀ line ∈ after.2.2.jobs, line.activated = true →
          ∃ job plan, o.jobs.find? line.jobId = some job ∧ d.plan cwd o.host o.settings job = .ok plan ∧
            line.outcome = if plan = [] then .completed 0 0 else .cancelled) ∧
      after.1 = { o with cancelled := false } ∧
      (∀ moves along, o.runAlong d cwd now probes ids moves = some along →
        along.1 = { o with cancelled := false }) ∧
      ∀ d' cwd' now' probes' ids', ∀ line ∈ (after.1.runMany d' cwd' now' probes' ids').2.2.jobs,
        line.outcome ≠ .cancelled := by
  intro after
  have hafter : after.1 = { o with cancelled := false } := conclude_fresh _ _
  refine ⟨launch_cancelled .., fun _ hb hc _ _ hr hw => hb.inv.step_atWait hc hr hw,
    runMany_of_cancelled, hafter, fun moves along h => ?_, fun _ _ _ _ _ => ?_⟩
  · -- whatever moves the run took, it ends by handing back a fresh token
    obtain ⟨b, -, rfl⟩ := Option.map_eq_some_iff.1 h
    exact conclude_fresh _ _
  · rw [hafter]
    exact runMany_not_cancelled rfl

end Orchestrator

end Safekeep
