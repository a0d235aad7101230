import Safekeep.Proofs.Run.Settle

/-!
# One run of the encryption tool at a time

The encryption tool has a single slot, shared by every runner of a run. A runner starts the tool
on a file only when the slot is free, and takes it in the same step; the runner's next step reaps
the tool and gives the slot back, whatever code the tool gave and also when the runner then finds
the run cancelled. No other step touches the slot (`Runner.step_sealBusy`).

So at every point of a run the slot is taken exactly while one runner waits for its tool, and
never while two do (`Batch.ToolHeld`), whatever the order of the runners' steps, of the business
pause and of the cancellation of the run's token. A runner may give up on its tool when its wait,
or in a cancelled run its kill, fails: it then gives the slot back at once, and the tool, which
may still run, is counted as unwaited (`Batch.exec_unwaited`).
-/

namespace Safekeep

open Safekeep.Time

namespace Runner

variable {cx : Context} {sh : Shared} {r : Runner} {u : Transfer}

@[simp] theorem enter_sealBusy : (r.enter sh u).1.sealBusy = sh.sealBusy := rfl

@[simp] theorem enter_stage : (r.enter sh u).2.stage = .copyWait := rfl

@[simp] theorem endCopy_sealBusy (result : Except Errno Nat) :
    (r.endCopy cx sh u result).1.sealBusy = sh.sealBusy := by
  have hb := release_sealBusy r sh
  unfold endCopy
  generalize r.release sh = x at hb ⊢
  obtain ⟨sh₁, r₁⟩ := x
  cases result with
  | error e => simpa using hb
  | ok n =>
    dsimp only
    split <;> simpa using hb

@[simp] theorem cancelCopy_sealBusy : (r.cancelCopy cx sh u).1.sealBusy = sh.sealBusy := by
  have hb := release_sealBusy r sh
  unfold cancelCopy
  generalize r.release sh = x at hb ⊢
  obtain ⟨sh₁, r₁⟩ := x
  dsimp only
  split <;> simpa using hb

@[simp] theorem afterSeal_sealBusy (code : Int) :
    (r.afterSeal cx sh u code).1.sealBusy = sh.sealBusy := by
  unfold afterSeal
  dsimp only
  split
  · split <;> simp
  · simp

theorem endCopy_isSealRun (result : Except Errno Nat) :
    (r.endCopy cx sh u result).2.stage.isSealRun = false := by
  rcases @endCopy_moves_on cx sh r u result with ⟨h, -⟩ | ⟨h, -⟩ <;> rw [h] <;> rfl

theorem afterPause_isSealRun (u : Transfer) : (afterPause u).isSealRun = false := by
  unfold afterPause
  split_ifs <;> rfl

/-- What a runner's step does to the tool's slot. The runner that starts the tool takes the
slot, and only when it is free; the runner whose tool ran reaps it in its next step, and gives
the slot back; every other step leaves the slot as it was. -/
theorem step_sealBusy {p : Shared × Runner} (hunit : r.stage.holdsUnit = true → r.units ≠ [])
    (h : r.step cx sh = some p) :
    p.1.sealBusy = (sh.sealBusy && !r.stage.isSealRun || p.2.stage.isSealRun) ∧
    (r.stage.isSealRun = false → p.2.stage.isSealRun = true → sh.sealBusy = false) ∧
    (r.stage.isSealRun = true → p.2.stage.isSealRun = false) := by
  cases takes_of_step h
  -- starting the tool: the slot was free, and the runner takes it
  case launch hs _ _ _ hfree _ => simp [hs, hfree, Stage.isSealRun]
  -- reaping the tool gives the slot back, whether or not the run was cancelled
  case cancelReap hs _ _ => simp [hs, Stage.isSealRun]
  case reap hs _ _ => simp [hs, (afterSeal_moves_on ..).1, Stage.isSealRun]
  case pastPause hs _ _ _ _ =>
    have hwait : Stage.waitPause.isSealRun = false := rfl
    simp [hs, afterPause_isSealRun, hwait]
  case unitless hh hu => exact absurd hu (hunit hh)
  case cancelAtGate hs _ _ => rcases hs with hs | hs | hs <;> simp [hs, Stage.isSealRun]
  case cancelCopy hs _ _ =>
    have hend : (Stage.finished .cancelled).isSealRun = false := rfl
    simp [Stage.isSealRun_of_isCopying hs, cancelCopy_stage, hend]
  -- the other steps neither start nor reap the tool, and leave the slot alone
  all_goals simp_all [Stage.isSealRun.eq_1, Stage.isSealRun.eq_2, endCopy_isSealRun,
    (afterSeal_moves_on ..).1]

end Runner

def Move.givesUp : Move → Bool
  | .abandon _ => true
  | _ => false

namespace Batch

open Runner

variable {b b' : Batch} {m : Move} {i : Nat}

def ToolHeld (b : Batch) : Prop :=
  b.runners.countP (·.stage.isSealRun) = if b.shared.sealBusy then 1 else 0

/-- A runner's step keeps the tool's slot held exactly while one tool runs: a runner that starts
the tool found no other tool running, and one that reaps it was the only one. -/
theorem ToolHeld.runner (hi : b.Inv) (ht : b.ToolHeld) (h : b.step (.runner i) = some b') :
    b'.ToolHeld := by
  obtain ⟨r, p, hr, hs, rfl⟩ := step_runner h
  have hlt : i < b.runners.length := (List.getElem?_eq_some_iff.1 hr).1
  have hget : b.runners[i] = r := (List.getElem?_eq_some_iff.1 hr).2
  obtain ⟨hbusy, hfree, hreap⟩ :=
    step_sealBusy (hi.wf r (List.mem_of_getElem? hr)).busy hs
  -- the runner's own run of the tool is one of those counted
  have hle := @List.boole_getElem_le_countP _ (fun x : Runner => x.stage.isSealRun) _ _ hlt
  unfold ToolHeld at ht ⊢
  rw [hget, ht] at hle
  dsimp only
  rw [List.countP_set hlt, hget, ht, hbusy]
  -- by whether the runner's tool runs before and after the step, and whether the slot is taken
  cases h₁ : r.stage.isSealRun <;> cases h₂ : p.2.stage.isSealRun <;>
    cases h₃ : b.shared.sealBusy <;> simp_all

/-- A runner giving up on its tool still counts as waiting for it until its next step. -/
theorem ToolHeld.giveUp (ht : b.ToolHeld) {r : Runner} {code : Int} (hr : b.runners[i]? = some r)
    (hc : r.stage = .sealRun code) : (b.giveUp i r).ToolHeld := by
  -- the recoded runner waits for a tool, as it did
  have hmap := map_set_of_eq (f := fun x : Runner => x.stage.isSealRun)
    (c := { r with stage := .sealRun unexpectedFault }) hr (by simp [hc, Stage.isSealRun])
  have hcount := congrArg (List.countP id) hmap
  simp only [List.countP_map, Function.id_comp] at hcount
  unfold ToolHeld at ht ⊢
  rw [giveUp_runners, giveUp_shared, hcount, ht]

/-- Every move keeps the tool's slot held exactly while one tool runs; a tick, a cancellation
and the monitor stopping touch neither, and giving up on a tool is the runner's step after it. -/
theorem ToolHeld.step (hi : b.Inv) (ht : b.ToolHeld) (h : b.step m = some b') :
    b'.ToolHeld := by
  cases m with
  | runner i => exact ht.runner hi h
  | tick =>
    obtain ⟨-, rfl⟩ := step_tick h
    exact ht
  | cancel =>
    cases h
    exact ht
  | stopMonitor =>
    obtain ⟨-, -, rfl⟩ := step_stopMonitor h
    exact ht
  | abandon i =>
    obtain ⟨r, code, hr, hc, h'⟩ := step_abandon h
    exact (ht.giveUp hr hc).runner (hi.giveUp hr hc) h'

/-- Only giving up on a tool leaves one unwaited. -/
theorem step_unwaited (h : b.step m = some b') :
    b'.unwaited = b.unwaited + if m.givesUp then 1 else 0 := by
  cases m with
  | runner i =>
    obtain ⟨r, p, -, -, rfl⟩ := step_runner h
    rfl
  | tick =>
    obtain ⟨-, rfl⟩ := step_tick h
    rfl
  | cancel =>
    cases h
    rfl
  | stopMonitor =>
    obtain ⟨-, -, rfl⟩ := step_stopMonitor h
    rfl
  | abandon i =>
    obtain ⟨r, code, -, -, h'⟩ := step_abandon h
    obtain ⟨_, _, -, -, rfl⟩ := step_runner h'
    rfl

/-- Along a course of moves, the tools left unwaited are one per move giving up on a tool. -/
theorem exec_unwaited {ms : List Move} (h : b.exec ms = some b') :
    b'.unwaited = b.unwaited + ms.countP Move.givesUp := by
  induction ms generalizing b with
  | nil =>
    cases h
    rfl
  | cons m ms ih =>
    obtain ⟨b₁, h₁, h'⟩ := Option.bind_eq_some_iff.1 h
    rw [ih h', step_unwaited h₁, List.countP_cons]
    omega

/-- At the start of a run no tool runs and the slot is free. -/
theorem ToolHeld.launch {o : Orchestrator} {d : Disk} {cwd : Loc} {now : Instant}
    {probes : List Bool} {prepared : List (Nat × Prepared)} :
    (o.launch d cwd now probes prepared).ToolHeld := by
  unfold ToolHeld
  rw [Orchestrator.launch_sealBusy, Orchestrator.launch_runners, if_neg Bool.false_ne_true,
    List.countP_eq_zero]
  intro r hr
  obtain ⟨_, _, rfl⟩ := List.mem_map.1 hr
  simp [Runner.new, Stage.isSealRun]

/-- A runner whose tool ran can always take its next step, and that step reaps the tool and
gives the slot back. -/
theorem reap_of_isSealRun (hi : b.Inv) {r : Runner} (hr : r ∈ b.runners)
    (hrun : r.stage.isSealRun = true) :
    ∃ p, r.step b.context b.shared = some p ∧ p.1.sealBusy = false ∧
      p.2.stage.isSealRun = false := by
  obtain ⟨code, hcode⟩ : ∃ code, r.stage = .sealRun code := by
    cases hst : r.stage <;> simp_all [Stage.isSealRun]
  -- the runner holds the file whose tool ran
  obtain ⟨u, rest, hu⟩ : ∃ u rest, r.units = u :: rest := by
    cases hus : r.units with
    | nil => exact absurd hus ((hi.wf r hr).busy (by simp [hcode, Stage.holdsUnit]))
    | cons u rest => exact ⟨u, rest, rfl⟩
  have hsome : (r.step b.context b.shared).isSome := by
    simp only [Runner.step, hcode, hu]
    split <;> rfl
  obtain ⟨p, hp⟩ := Option.isSome_iff_exists.1 hsome
  obtain ⟨hbusy, -, hreap⟩ := step_sealBusy (hi.wf r hr).busy hp
  have hout := hreap hrun
  exact ⟨p, hp, by simp [hbusy, hrun, hout], hout⟩

end Batch

namespace Orchestrator

variable {o : Orchestrator} {d : Disk} {cwd : Loc} {now : Instant} {probes : List Bool}
  {ids : List Nat} {b : Batch}

theorem Reaches.toolHeld (h : o.Reaches d cwd now probes ids b) : b.ToolHeld := by
  obtain ⟨ms, hms⟩ := h
  have hrun := @Batch.exec_preserves (fun x => x.Inv ∧ x.ToolHeld)
    (fun ⟨hi, ht⟩ hs => ⟨hi.step hs, ht.step hi hs⟩) ms _ _
    ⟨Batch.Inv.start o d cwd now probes ids, Batch.ToolHeld.launch⟩ hms
  exact hrun.2

/-- At most one encryption tool is waited for at any time of a run, whatever the order of its
runners' steps, of the business pause, of the cancellation of its token and of the monitor
stopping: the number of runners waiting for their tool is one while the tool's slot is taken and
none while it is free. A runner starts the tool only in a step that finds the slot free and takes
it; and a runner whose tool ran can always take its next step, which gives the slot back, whatever
code the tool gave and whether or not the run was cancelled meanwhile. A tool the runner gave up
on (its wait or its kill failed) may still run: the run counts one such tool per move that gave
up on one. -/
theorem one_tool_run_at_a_time {ms : List Move}
    (hms : (o.launch d cwd now probes (o.prepareAll d cwd now ids)).exec ms = some b) :
    b.runners.countP (·.stage.isSealRun) = (if b.shared.sealBusy then 1 else 0) ∧
    b.unwaited = ms.countP Move.givesUp ∧
    (∀ r ∈ b.runners, ∀ p, r.step b.context b.shared = some p →
      r.stage.isSealRun = false → p.2.stage.isSealRun = true →
      b.shared.sealBusy = false ∧ p.1.sealBusy = true) ∧
    (∀ r ∈ b.runners, r.stage.isSealRun = true →
      ∃ p, r.step b.context b.shared = some p ∧ p.1.sealBusy = false ∧
        p.2.stage.isSealRun = false) := by
  have h : o.Reaches d cwd now probes ids b := ⟨ms, hms⟩
  have hi := h.inv
  have hunwaited : b.unwaited = ms.countP Move.givesUp := by
    rw [Batch.exec_unwaited hms, launch_unwaited, Nat.zero_add]
  refine ⟨h.toolHeld, hunwaited, fun r hr p hp hidle hstart => ?_,
    fun r hr hrun => Batch.reap_of_isSealRun hi hr hrun⟩
  obtain ⟨hbusy, hfree, -⟩ := Runner.step_sealBusy (hi.wf r hr).busy hp
  exact ⟨hfree hidle hstart, by simp [hbusy, hstart]⟩

end Orchestrator

end Safekeep
