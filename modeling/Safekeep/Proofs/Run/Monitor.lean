import Safekeep.Proofs.Run.Settle

/-!
# The business monitor

When the business monitor runs, the pause of a run is the probe's answer the monitor applied
last: the first answer before any runner moves, then the next one at each tick, an answer past
the probe's last one reading false. Once the run is cancelled the monitor may stop, and the pause
is then lifted (`Batch.Applied`). While every answer applied so far is true and the run is not
cancelled, no runner gets past the pause, so the disk and the log stay as the run found them
(`Batch.Held`). A run ends with the monitor stopped and the pause lifted (`Batch.close`).
-/

namespace Safekeep

open Safekeep.Time

def Move.isTick : Move → Bool
  | .tick => true
  | _ => false

namespace Stage

/-- Whether a runner at this stage has not got past the pause: not started, between files,
waiting for the pause, or returned. -/
def shortOfPause : Stage → Bool
  | .start | .next | .waitPause | .finished _ => true
  | _ => false

theorem isAdmitted_of_shortOfPause {t : Stage} (h : t.shortOfPause = true) :
    t.isAdmitted = false := by
  cases t <;> simp_all [shortOfPause, isAdmitted]

end Stage

namespace Runner

variable {cx : Context} {sh : Shared} {r : Runner} {p : Shared × Runner}

/-- A runner short of the pause, in a run that is paused and not cancelled, stays short of it
and touches neither the disk nor the log. -/
theorem step_shortOfPause (hs : r.stage.shortOfPause = true) (hp : sh.gate.paused = true)
    (hc : cx.cancelled = false) (h : r.step cx sh = some p) :
    p.1.disk = sh.disk ∧ p.1.logs = sh.logs ∧ p.2.stage.shortOfPause = true := by
  -- a runner past the pause, a cancelled run and a lifted pause are ruled out by the hypotheses
  cases takes_of_step h <;> simp_all [Stage.shortOfPause, abort, Shared.publish]

end Runner

namespace Batch

open Runner

variable {b b' : Batch} {m : Move} {probes : List Bool} {k : Nat} {d : Disk}

/-- The answers left after the first `n` start with answer `n`, false once they are used up. -/
theorem nextProbe_drop (probes : List Bool) (n : Nat) :
    nextProbe (probes.drop n) = (probes.getD n false, probes.drop (n + 1)) := by
  induction probes generalizing n with
  | nil => simp [nextProbe]
  | cons a as ih =>
    cases n with
    | zero => simp [nextProbe]
    | succ n => simpa using ih n

/-- The monitor has applied answers `0` to `k` of `probes`, the first before any runner moved and
one at each of `k` ticks, an answer past the last reading false: the answers left are the rest.
While it runs the pause is the last answer applied; once it has stopped, which it does only in a
cancelled run, the pause is lifted. -/
structure Applied (probes : List Bool) (k : Nat) (b : Batch) : Prop where
  left : b.probes = probes.drop (k + 1)
  paused : b.monitorOn = true ∧ b.shared.gate.paused = probes.getD k false ∨
    b.monitorOn = false ∧ b.shared.gate.paused = false ∧ b.context.cancelled = true

/-- A runner's step keeps the pause and the monitor. -/
theorem Applied.runner (hi : b.Inv) (ha : b.Applied probes k) {i : Nat}
    (h : b.step (.runner i) = some b') : b'.Applied probes k := by
  obtain ⟨r, p, hr, hs, rfl⟩ := step_runner h
  have hmem := List.mem_of_getElem? hr
  have spec := step_spec (hi.wf r hmem) (hi.pending_le hmem) (hi.slotHeld_le hmem) hs
  have hp := ha.paused
  rw [← spec.paused] at hp
  exact ⟨ha.left, hp⟩

/-- A tick applies the next answer; the monitor's stop lifts the pause; every other move keeps
the pause. -/
theorem Applied.step (hi : b.Inv) (ha : b.Applied probes k) (h : b.step m = some b') :
    b'.Applied probes (k + if m.isTick then 1 else 0) := by
  cases m with
  | runner i => exact ha.runner hi h
  | tick =>
    obtain ⟨hon, rfl⟩ := step_tick h
    -- the tick applies the answer after the `k` applied so far
    have hnext := nextProbe_drop probes (k + 1)
    rw [← ha.left] at hnext
    exact ⟨by simp [hnext, Move.isTick], .inl ⟨hon, by simp [hnext, Gate.setPaused, Move.isTick]⟩⟩
  | cancel =>
    cases h
    refine ⟨ha.left, ?_⟩
    rcases ha.paused with h | ⟨hoff, hp, -⟩
    · exact .inl h
    · exact .inr ⟨hoff, hp, rfl⟩
  | stopMonitor =>
    obtain ⟨-, hc, rfl⟩ := step_stopMonitor h
    exact ⟨ha.left, .inr ⟨rfl, by simp [Batch.close, Gate.setPaused], hc⟩⟩
  | abandon i =>
    obtain ⟨r, code, hr, hs, h'⟩ := step_abandon h
    exact Applied.runner (hi.giveUp hr hs) ⟨ha.left, ha.paused⟩ h'

/-- Along a run the monitor applies one answer per tick. -/
theorem Applied.exec (hi : b.Inv) (ha : b.Applied probes k) {ms : List Move}
    (h : b.exec ms = some b') : b'.Applied probes (k + ms.countP Move.isTick) := by
  induction ms generalizing b k with
  | nil =>
    cases h
    exact ha
  | cons m ms ih =>
    obtain ⟨b₁, h₁, h⟩ := Option.bind_eq_some_iff.1 h
    have := ih (hi.step h₁) (ha.step hi h₁) h
    rw [List.countP_cons]
    rwa [Nat.add_assoc, Nat.add_comm (if m.isTick then 1 else 0)] at this

/-- A cancelled run stays cancelled. -/
theorem cancelled_of_step (h : b.step m = some b') (hc : b.context.cancelled = true) :
    b'.context.cancelled = true := by
  cases m with
  | runner i =>
    obtain ⟨_, _, _, _, rfl⟩ := step_runner h
    exact hc
  | tick =>
    obtain ⟨-, rfl⟩ := step_tick h
    exact hc
  | cancel =>
    cases h
    rfl
  | stopMonitor =>
    obtain ⟨-, -, rfl⟩ := step_stopMonitor h
    exact hc
  | abandon i =>
    obtain ⟨_, _, _, _, h'⟩ := step_abandon h
    obtain ⟨_, _, _, _, rfl⟩ := step_runner h'
    exact hc

theorem cancelled_of_exec {ms : List Move} (h : b.exec ms = some b')
    (hc : b.context.cancelled = true) : b'.context.cancelled = true :=
  @exec_preserves (fun x => x.context.cancelled = true) (fun hb hs => cancelled_of_step hs hb)
    ms b b' hc h

/-- Every runner is short of the pause, and the disk and the log are as the run found them on
disk `d`. -/
structure Held (d : Disk) (b : Batch) : Prop where
  disk : b.shared.disk = d
  logs : b.shared.logs = []
  runners : ∀ r ∈ b.runners, r.stage.shortOfPause = true

/-- A move of a paused run that leaves it not cancelled keeps every runner short of the pause,
and the disk and the log as they were. -/
theorem Held.step (hh : b.Held d) (hp : b.shared.gate.paused = true)
    (hc : b'.context.cancelled = false) (h : b.step m = some b') : b'.Held d := by
  cases m with
  | runner i =>
    obtain ⟨r, p, hr, hs, rfl⟩ := step_runner h
    obtain ⟨hdisk, hlogs, hstage⟩ :=
      step_shortOfPause (hh.runners r (List.mem_of_getElem? hr)) hp hc hs
    refine ⟨hdisk.trans hh.disk, hlogs.trans hh.logs, fun x hx => ?_⟩
    rcases List.mem_or_eq_of_mem_set hx with hx | rfl
    · exact hh.runners x hx
    · exact hstage
  | tick =>
    obtain ⟨-, rfl⟩ := step_tick h
    exact ⟨hh.disk, hh.logs, hh.runners⟩
  | cancel =>
    cases h
    cases hc
  | stopMonitor =>
    -- the monitor stops only in a cancelled run
    obtain ⟨-, hcan, rfl⟩ := step_stopMonitor h
    rw [close_context, hcan] at hc
    cases hc
  | abandon i =>
    -- no runner short of the pause waits for a tool
    obtain ⟨r, code, hr, hs, -⟩ := step_abandon h
    have := hh.runners r (List.mem_of_getElem? hr)
    simp [hs, Stage.shortOfPause] at this

/-- Along a run that is not cancelled, while every answer the monitor applied is true, every
runner stays short of the pause and the disk and the log stay as they were. -/
theorem Held.exec (hi : b.Inv) (ha : b.Applied probes k) (hh : b.Held d) {ms : List Move}
    (h : b.exec ms = some b') (hc : b'.context.cancelled = false)
    (htrue : ∀ i ≤ k + ms.countP Move.isTick, probes.getD i false = true) : b'.Held d := by
  induction ms generalizing b k with
  | nil =>
    cases h
    exact hh
  | cons m ms ih =>
    obtain ⟨b₁, h₁, h⟩ := Option.bind_eq_some_iff.1 h
    -- the run is not cancelled after the first move either, and paused before it
    have hc₁ : b₁.context.cancelled = false := by
      cases hc₁ : b₁.context.cancelled
      · rfl
      · rw [cancelled_of_exec h hc₁] at hc
        cases hc
    have hp : b.shared.gate.paused = true := by
      rcases ha.paused with ⟨-, hp⟩ | ⟨-, -, hcan⟩
      · rw [hp]
        exact htrue k (Nat.le_add_right _ _)
      · -- a run whose monitor stopped was cancelled, and stays so
        rw [cancelled_of_exec h (cancelled_of_step h₁ hcan)] at hc
        cases hc
    refine ih (hi.step h₁) (ha.step hi h₁) (hh.step hp hc₁ h₁) h fun i hik => htrue i ?_
    rw [List.countP_cons]
    omega

end Batch

namespace Orchestrator

variable {o : Orchestrator} {d : Disk} {cwd : Loc} {now : Instant} {probes : List Bool}
  {prepared : List (Nat × Prepared)}

/-- With the monitor on, a run starts with the probe's first answer applied. -/
theorem launch_applied (hmon : o.monitorOn = true) :
    (o.launch d cwd now probes prepared).Applied probes 0 := by
  have h := Batch.nextProbe_drop probes 0
  rw [List.drop_zero] at h
  unfold launch
  simp only [hmon, ite_true, h]
  exact ⟨rfl, .inl ⟨rfl, by simp [Gate.setPaused]⟩⟩

theorem launch_held : (o.launch d cwd now probes prepared).Held d := by
  refine ⟨launch_disk .., launch_logs .., fun r hr => ?_⟩
  rw [launch_runners] at hr
  obtain ⟨_, -, rfl⟩ := List.mem_map.1 hr
  rfl

variable {ids : List Nat}

/-- With the business monitor on, along every run from its start, whatever the order of the
runners' steps, the monitor's ticks and stop, the cancellation and the runners' giving up on
their tools: the monitor has applied the probe's first answer before any tick and then the next
answer at each tick, an answer past the probe's last reading false. While the monitor runs the
pause is the last answer it applied; it stops only in a cancelled run, lifting the pause. While
the run is not cancelled and every answer applied so far is true, no runner lets a file through
the gate, and the disk and the log are as the run found them. The run's report is read off its
last state, in which the monitor has stopped and the pause is lifted. -/
theorem pause_follows_the_latest_probe_answer (hmon : o.monitorOn = true) {ms : List Move}
    {b : Batch} (h : (o.launch d cwd now probes (o.prepareAll d cwd now ids)).exec ms = some b) :
    b.probes = probes.drop (ms.countP Move.isTick + 1) ∧
    (b.monitorOn = true → b.shared.gate.paused = probes.getD (ms.countP Move.isTick) false) ∧
    (b.monitorOn = false → b.shared.gate.paused = false ∧ b.context.cancelled = true) ∧
    (b.context.cancelled = false →
      (∀ i ≤ ms.countP Move.isTick, probes.getD i false = true) →
      b.shared.disk = d ∧ b.shared.logs = [] ∧
        ∀ r ∈ b.runners, r.stage.isAdmitted = false) ∧
    let done := (Batch.settle (o.launch d cwd now probes (o.prepareAll d cwd now ids))).close
    done.monitorOn = false ∧ done.shared.gate.paused = false ∧
      (o.runMany d cwd now probes ids).2.2 =
        ⟨(o.prepareAll d cwd now ids).map done.reportLine, done.shared.logs,
          done.shared.published⟩ := by
  have hi := Batch.Inv.start o d cwd now probes ids
  have ha := (launch_applied hmon).exec hi h
  rw [Nat.zero_add] at ha
  refine ⟨ha.left, fun hon => ?_, fun hoff => ?_, fun hc htrue => ?_, rfl,
    by simp [Batch.close, Gate.setPaused], rfl⟩
  · rcases ha.paused with ⟨-, hp⟩ | ⟨hoff, -, -⟩
    · exact hp
    · rw [hon] at hoff
      cases hoff
  · rcases ha.paused with ⟨hon, -⟩ | ⟨-, hp, hc⟩
    · rw [hon] at hoff
      cases hoff
    · exact ⟨hp, hc⟩
  · have hh := launch_held.exec hi (launch_applied hmon) h hc (by simpa using htrue)
    exact ⟨hh.disk, hh.logs, fun r hr => Stage.isAdmitted_of_shortOfPause (hh.runners r hr)⟩

end Orchestrator

end Safekeep
