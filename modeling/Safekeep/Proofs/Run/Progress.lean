import Safekeep.Proofs.Run.Scenario

/-!
# A run never deadlocks

While the business pause is off, a run in which some runner has not returned always lets some
runner take a step. Every wait of a runner is for something another runner gives back:

* the large-file slot is held by a runner that is copying, and a copy waits only for the pause;
* the tool's slot is held by a runner running the tool, whose exit is its next step;
* the drain is not empty only while some runner owes a priority file, and such a runner is not
  at the priority gate itself: its files are in plan order, so it is on a priority file, and a
  runner waits at the drain only on a plain file.

So no chain of waits closes on itself: the drain's owner may wait only for a slot, and the
slots' holders wait for nothing but the pause.
-/

namespace Safekeep

open Safekeep.Time Runner

namespace Runner

variable {s : Settings} {r : Runner}

/-- A runner at the priority gate owes no priority file: it waits there only on a plain file,
and its priority files come first. -/
theorem Wf.priorityOwed_eq_zero_of_waitDrain (hw : r.Wf s) (h : r.stage = .waitDrain) :
    r.priorityOwed = 0 := by
  rw [priorityOwed_of_active (by simp [h]), List.length_eq_zero_iff, List.filter_eq_nil_iff]
  intro u hu hp
  have hplain := hw.drainWait h
  rw [headPriority, current, hw.sorted.head_priority hu hp] at hplain
  cases hplain

theorem Wf.isCopying_of_holdsSlot (hw : r.Wf s) (h : r.holdsSlot = true) :
    r.stage.isCopying = true := by
  rw [hw.slot] at h
  exact (Bool.and_eq_true_iff.1 h).1

end Runner

namespace Batch

variable {b : Batch} {r : Runner}

theorem exists_step_of_mem (hr : r ∈ b.runners) (h : (r.step b.context b.shared).isSome) :
    ∃ i, (b.step (.runner i)).isSome := by
  obtain ⟨i, hi⟩ := List.mem_iff_getElem?.1 hr
  refine ⟨i, ?_⟩
  obtain ⟨p, hp⟩ := Option.isSome_iff_exists.1 h
  simp [Batch.step, hi, hp]

/-- A runner that is copying or running the tool takes a step while the pause is off: neither
is a wait at a gate. -/
theorem exists_step_of_busy (hp : b.shared.gate.paused = false) (hr : r ∈ b.runners)
    (hbusy : r.stage.isCopying = true ∨ r.stage.isSealRun = true) :
    ∃ i, (b.step (.runner i)).isSome := by
  have hgate : ∀ t : Stage, (t.isCopying = true ∨ t.isSealRun = true) →
      (∀ o, t ≠ .finished o) ∧ t ≠ .waitDrain ∧ t ≠ .waitSlot ∧ t ≠ .sealWait := by
    intro t ht
    cases t <;> simp_all [Stage.isCopying, Stage.isSealRun]
  obtain ⟨hfin, hdrain, hslot, htool⟩ := hgate r.stage hbusy
  exact exists_step_of_mem hr (step_isSome b.context (isFinished_eq_false hfin) hp
    (absurd · hdrain) (absurd · hslot) (absurd · htool))

/-- While the drain is not empty, some runner that owes a priority file is not at the priority
gate. -/
theorem Inv.owner_not_at_drain (hi : b.Inv) (h : b.shared.gate.priorityRemaining ≠ 0) :
    ∃ (j : Nat) (x : Runner), b.runners[j]? = some x ∧ 0 < x.priorityOwed ∧
      x.stage ≠ .waitDrain := by
  rw [hi.drain] at h
  obtain ⟨n, hn, hn0⟩ := List.exists_mem_ne_zero_of_sum_ne_zero h
  obtain ⟨x, hx, rfl⟩ := List.mem_map.1 hn
  obtain ⟨j, hj⟩ := List.mem_iff_getElem?.1 hx
  have hw := hi.wf x hx
  have howed : 0 < x.priorityOwed := by
    rw [← hw.pending]
    exact Nat.pos_of_ne_zero hn0
  refine ⟨j, x, hj, howed, fun hd => ?_⟩
  rw [hw.priorityOwed_eq_zero_of_waitDrain hd] at howed
  exact Nat.lt_irrefl 0 howed

/-- A runner that has not returned, and may pass the drain if it is there, lets some runner
take a step while the pause is off: itself, or the holder of the slot it waits for. -/
theorem Inv.exists_step (hi : b.Inv) (hp : b.shared.gate.paused = false) (hr : r ∈ b.runners)
    (hfin : r.isFinished = false)
    (hdrain : r.stage = .waitDrain → b.shared.gate.priorityRemaining = 0) :
    ∃ i, (b.step (.runner i)).isSome := by
  by_cases hslot : r.stage = .waitSlot ∧ b.shared.gate.largeInFlight ≠ 0
  · -- the slot is held, by a runner that is copying
    rw [hi.slot] at hslot
    obtain ⟨n, hn, hn0⟩ := List.exists_mem_ne_zero_of_sum_ne_zero hslot.2
    obtain ⟨x, hx, rfl⟩ := List.mem_map.1 hn
    have hcopy : x.stage.isCopying = true := by
      refine (hi.wf x hx).isCopying_of_holdsSlot ?_
      cases hh : x.holdsSlot
      · simp [slotHeld, hh] at hn0
      · rfl
    exact exists_step_of_busy hp hx (.inl hcopy)
  by_cases htool : r.stage = .sealWait ∧ b.shared.sealBusy = true
  · -- the tool's slot is held, by a runner running the tool
    obtain ⟨x, hx, hrun⟩ := hi.tool htool.2
    exact exists_step_of_busy hp hx (.inr hrun)
  · -- otherwise the runner itself can step
    refine exists_step_of_mem hr (step_isSome b.context hfin hp hdrain (fun h => ?_) (fun h => ?_))
    · by_contra hne
      exact hslot ⟨h, hne⟩
    · cases hb : b.shared.sealBusy
      · rfl
      · exact absurd ⟨h, hb⟩ htool

/-- While the pause is off, a run in which some runner has not returned lets some runner take
a step. -/
theorem Inv.progress (hi : b.Inv) (hp : b.shared.gate.paused = false) (hd : b.isDone = false) :
    ∃ i, (b.step (.runner i)).isSome := by
  obtain ⟨r, hr, hfin⟩ : ∃ r ∈ b.runners, r.isFinished = false := by
    simpa [Batch.isDone] using hd
  by_cases hwait : r.stage = .waitDrain ∧ b.shared.gate.priorityRemaining ≠ 0
  · -- a runner owing a priority file is elsewhere, and it has not returned
    obtain ⟨j, x, hj, howed, hxd⟩ := hi.owner_not_at_drain hwait.2
    have hxfin : x.isFinished = false := by
      cases hx : x.isFinished
      · rfl
      · rw [priorityOwed_of_finished hx] at howed
        exact absurd howed (Nat.lt_irrefl 0)
    exact hi.exists_step hp (List.mem_of_getElem? hj) hxfin (fun h => absurd h hxd)
  · exact hi.exists_step hp hr hfin fun h => by
      by_contra hne
      exact hwait ⟨h, hne⟩

end Batch

namespace Orchestrator

variable {o : Orchestrator} {d : Disk} {cwd : Loc} {now : Instant} {probes : List Bool}
  {ids : List Nat} {b : Batch}

/-- A run never deadlocks. While the business pause is off, if some runner has not returned,
some runner can take a step (the exit of a running tool is its runner's step). Along the way:
no runner waits at the priority gate while it owes a priority file itself; while a runner is
held there, some other runner that owes a priority file is not there; and the holder of the
large-file slot waits neither at the priority gate nor for the tool. -/
theorem runs_never_deadlock (h : o.Reaches d cwd now probes ids b) :
    (b.shared.gate.paused = false → b.isDone = false → ∃ i, (b.step (.runner i)).isSome) ∧
    (∀ r ∈ b.runners, r.stage = .waitDrain → r.priorityOwed = 0) ∧
    (∀ (i : Nat) (r : Runner), b.runners[i]? = some r → r.stage = .waitDrain →
      b.shared.gate.priorityRemaining ≠ 0 →
      ∃ (j : Nat) (x : Runner), j ≠ i ∧ b.runners[j]? = some x ∧ 0 < x.priorityOwed ∧
        x.stage ≠ .waitDrain) ∧
    (∀ r ∈ b.runners, r.holdsSlot = true →
      r.stage ≠ .waitDrain ∧ r.stage ≠ .sealWait) := by
  have hi := h.inv
  refine ⟨hi.progress, fun r hr => (hi.wf r hr).priorityOwed_eq_zero_of_waitDrain,
    fun i r hr hd hrem => ?_, fun r hr hh => ?_⟩
  · obtain ⟨j, x, hj, howed, hxd⟩ := hi.owner_not_at_drain hrem
    refine ⟨j, x, fun hji => ?_, hj, howed, hxd⟩
    -- the owner is not the waiting runner, which is at the gate
    rw [hji, hr, Option.some.injEq] at hj
    exact hxd (hj ▸ hd)
  · have hcopy := (hi.wf r hr).isCopying_of_holdsSlot hh
    constructor <;> intro hs <;> rw [hs] at hcopy <;> cases hcopy

theorem runs_never_deadlock_of_two_jobs :
    ∃ b, twoJobs.Reaches twoTrees [] (.ofSeconds 0) [] [1, 2] b ∧
      b.runners.map (·.stage) = [.copyWait, .waitDrain] ∧
      b.runners.map (·.priorityOwed) = [1, 0] ∧ b.shared.gate.priorityRemaining = 1 ∧
      b.shared.gate.paused = false ∧ b.isDone = false ∧
      (∃ i, (b.step (.runner i)).isSome) ∧
      (∀ r ∈ b.runners, r.stage = .waitDrain → r.priorityOwed = 0) ∧
      (∀ (i : Nat) (r : Runner), b.runners[i]? = some r → r.stage = .waitDrain →
        b.shared.gate.priorityRemaining ≠ 0 →
        ∃ (j : Nat) (x : Runner), j ≠ i ∧ b.runners[j]? = some x ∧ 0 < x.priorityOwed ∧
          x.stage ≠ .waitDrain) ∧
      (∀ r ∈ b.runners, r.holdsSlot = true →
      r.stage ≠ .waitDrain ∧ r.stage ≠ .sealWait) := by
  obtain ⟨b, hb, hstages, -, -, howed, hdrain, -, -, hpaused, hdone⟩ := twoJobs_midway
  obtain ⟨hprog, hrest⟩ := runs_never_deadlock hb
  exact ⟨b, hb, hstages, howed, hdrain, hpaused, hdone, hprog hpaused hdone, hrest⟩

end Orchestrator

end Safekeep
