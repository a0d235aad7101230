import Safekeep.Proofs.Run.Journal
import Safekeep.Proofs.Run.Progress

/-!
# A run comes to its end

`Batch.settle` follows the canonical order of a run only while each move brings the run nearer
its end (`Batch.distance`). Every step of a runner does (`Runner.step_closer`): it moves the
runner to a later stage of its file, logs the file, returns, or reads at least one byte of its
copy. A tick does while the run is paused. From every state a run can reach, some runner can
step unless the run is paused (`Batch.Inv.progress`), and only the business monitor pauses a
run, so it can tick. Hence the canonical order stops only once every runner has returned
(`Orchestrator.Reaches.settle`).
-/

namespace Safekeep

open Safekeep.Time

theorem Disk.nextChunk_left {c c' : Copying} {bytes : ByteArray}
    (h : Disk.nextChunk c = .ok (some (bytes, c'))) : c'.left < c.left :=
  Copying.readChunk_left h

namespace Runner

variable {cx : Context} {sh : Shared} {r r₀ r' : Runner} {u : Transfer} {o : JobOutcome}

/-- Runner `r'` is nearer its return than `r`: a lower rank, or the same rank and fewer bytes
to read. -/
def Closer (r' r : Runner) : Prop :=
  r'.rank < r.rank ∨ (r'.rank = r.rank ∧ r'.toRead < r.toRead)

theorem rank_active (h : ∀ o, r.stage ≠ .finished o) :
    r.rank = 10 * r.units.length + r.stage.weight := by
  unfold rank
  split
  · rename_i o ho
    exact absurd ho (h o)
  · rfl

theorem rank_finished (h : r.stage = .finished o) : r.rank = 0 := by
  simp [rank, h]

theorem rank_pos (h : ∀ o, r.stage ≠ .finished o) : 0 < r.rank := by
  rw [rank_active h]
  have : 0 < r.stage.weight := by
    cases hs : r.stage <;> simp_all [Stage.weight]
  omega

theorem Closer.of_finished (hfin : ∀ o, r.stage ≠ .finished o) (h' : r'.stage = .finished o) :
    Closer r' r :=
  .inl (by rw [rank_finished h']; exact rank_pos hfin)

theorem Closer.of_stage (hfin : ∀ o, r.stage ≠ .finished o)
    (hfin' : ∀ o, r'.stage ≠ .finished o) (hu : r'.units = r.units)
    (hw : r'.stage.weight < r.stage.weight) : Closer r' r :=
  .inl (by rw [rank_active hfin, rank_active hfin', hu]; omega)

/-- Logging the current file and moving to the next. -/
theorem Closer.of_logged (hfin : ∀ o, r.stage ≠ .finished o)
    (hcur : r.units = u :: r.units.tail) (h' : r'.stage = .next)
    (hu : r'.units = r.units.drop 1) : Closer r' r := by
  left
  rw [rank_active hfin, rank_active (by simp [h']), hu, h', hcur]
  simp [Stage.weight]
  omega

theorem cancelCopy_stage : (r.cancelCopy cx sh u).2.stage = .finished .cancelled := by
  unfold cancelCopy
  generalize r.release sh = x
  obtain ⟨sh₁, r₁⟩ := x
  dsimp only
  split <;> rfl

theorem afterSeal_moves_on (code : Int) :
    (r.afterSeal cx sh u code).2.stage = .next ∧
      (r.afterSeal cx sh u code).2.units = r.units.drop 1 := by
  unfold afterSeal
  dsimp only
  split
  · split <;> exact ⟨logUnit_stage .., logUnit_units ..⟩
  · exact ⟨logUnit_stage .., logUnit_units ..⟩

/-- Ending a copy hands the file to the tool, or logs it and moves to the next. -/
theorem endCopy_moves_on (result : Except Errno Nat) :
    ((r.endCopy cx sh u result).2.stage = .sealWait ∧
      (r.endCopy cx sh u result).2.units = r.units) ∨
    ((r.endCopy cx sh u result).2.stage = .next ∧
      (r.endCopy cx sh u result).2.units = r.units.drop 1) := by
  have hu := release_units r sh
  unfold endCopy
  generalize r.release sh = x at hu ⊢
  obtain ⟨sh₁, r₁⟩ := x
  dsimp only at hu
  cases result with
  | error e => exact .inr ⟨logUnit_stage .., by rw [logUnit_units, hu]⟩
  | ok n =>
    dsimp only
    split
    · exact .inl ⟨rfl, hu⟩
    · exact .inr ⟨logUnit_stage .., by rw [logUnit_units, hu]⟩

theorem Closer.of_endCopy (hfin : ∀ o, r.stage ≠ .finished o)
    (hw : Stage.sealWait.weight < r.stage.weight) (hcur : r.units = u :: r.units.tail)
    (result : Except Errno Nat) : Closer (r.endCopy cx sh u result).2 r := by
  rcases @endCopy_moves_on cx sh r u result with ⟨hs, hu⟩ | ⟨hs, hu⟩
  · exact Closer.of_stage hfin (by simp [hs]) hu (by rw [hs]; exact hw)
  · exact Closer.of_logged hfin hcur hs hu

theorem afterPause_weight (u : Transfer) :
    (afterPause u).weight < Stage.waitPause.weight ∧ ∀ o, afterPause u ≠ .finished o := by
  unfold afterPause
  split_ifs <;> simp [Stage.weight]

/-- Every step of a runner brings it nearer its return. -/
theorem step_closer {p : Shared × Runner} (h : r.step cx sh = some p) : Closer p.2 r := by
  -- a branch moves the runner to a later stage, logs its file, returns, or reads a chunk
  cases takes_of_step h with
  | totals hs | toGate hs =>
    exact Closer.of_stage (by simp [hs]) (by simp) rfl (by simp [hs, Stage.weight])
  | complete hs | lost hs => exact Closer.of_finished (by simp [hs]) rfl
  | unitless hh =>
    exact Closer.of_finished (fun o ho => by rw [ho] at hh; cases hh) rfl
  | cancelAtGate hs =>
    rcases hs with hs | hs | hs <;> exact Closer.of_finished (by simp [hs]) rfl
  | pastPause hs =>
    have hw := afterPause_weight ‹Transfer›
    exact Closer.of_stage (by simp [hs]) hw.2 rfl (by rw [hs]; exact hw.1)
  | enterAtPause hs | enterAtDrain hs | takeSlot hs =>
    exact Closer.of_stage (by simp [hs]) (by simp [enter]) rfl (by simp [hs, enter, Stage.weight])
  | drainedToSlot hs | opened hs | launch hs =>
    exact Closer.of_stage (by simp [hs]) (by simp) rfl (by simp [hs, Stage.weight])
  | cancelCopy hs =>
    exact Closer.of_finished (not_finished_of_isAdmitted (Stage.isAdmitted_of_isCopying hs))
      cancelCopy_stage
  | openFailed hs hu | readFailed hs hu | chunkFailed hs hu | copied hs hu | finishFailed hs hu =>
    exact Closer.of_endCopy (by simp [hs]) (by simp [hs, Stage.weight])
      (units_eq_cons (current_of_units hu)) _
  | chunk hs _ _ _ hn =>
    -- a chunk keeps the runner at the same stage and reads at least one byte
    refine .inr ⟨by simp [rank, hs, Stage.weight], ?_⟩
    simp only [toRead, hs]
    exact Disk.nextChunk_left hn
  | sealDecided hs hu | launchRefused hs hu | reap hs hu =>
    exact Closer.of_logged (by simp [hs]) (units_eq_cons (current_of_units hu))
      (afterSeal_moves_on _).1 (afterSeal_moves_on _).2
  | cancelAtTool hs | cancelReap hs => exact Closer.of_finished (by simp [hs]) rfl

end Runner

namespace Batch

open Runner

variable {b b' : Batch} {m : Move} {i : Nat}

/-- A runner's step brings the run nearer its end. -/
theorem nearer_of_runner (h : b.step (.runner i) = some b') : Nearer b' b := by
  obtain ⟨r, p, hr, hs, rfl⟩ := step_runner h
  have hrank := sum_map_set_add Runner.rank hr p.2
  have hread := sum_map_set_add Runner.toRead hr p.2
  unfold Nearer distance
  dsimp only
  -- the ranks add up to less, or to as much with fewer bytes to read
  rcases step_closer hs with hlt | ⟨heq, hlt⟩
  · exact .left _ _ (by show List.sum _ < List.sum _; omega)
  · have hsame : ((b.runners.set i p.2).map Runner.rank).foldr (· + ·) 0 =
        (b.runners.map Runner.rank).foldr (· + ·) 0 := by
      show List.sum _ = List.sum _
      omega
    rw [hsame]
    exact .right _ (.left _ _ (by show List.sum _ < List.sum _; omega))

/-- A tick of a paused run brings it nearer its end: it uses up a probe answer, or, with none
left, lifts the pause. -/
theorem nearer_tick (h : b.step .tick = some b') (hp : b.shared.gate.paused = true) :
    Nearer b' b := by
  obtain ⟨-, rfl⟩ := step_tick h
  unfold Nearer distance
  refine .right _ (.right _ ?_)
  cases hq : b.probes with
  | nil => exact .right _ (by simp [nextProbe, hp, Gate.setPaused])
  | cons a rest => exact .left _ _ (by simp [nextProbe])

def PausedByMonitor (b : Batch) : Prop := b.shared.gate.paused = true → b.monitorOn = true

theorem PausedByMonitor.runner (hi : b.Inv) (hm : b.PausedByMonitor) {k : Nat}
    (h : b.step (.runner k) = some b') : b'.PausedByMonitor := by
  obtain ⟨r, p, hr, hs, rfl⟩ := step_runner h
  have hmem := List.mem_of_getElem? hr
  have spec := step_spec (hi.wf r hmem) (hi.pending_le hmem) (hi.slotHeld_le hmem) hs
  exact fun hp => hm (spec.paused ▸ hp)

theorem PausedByMonitor.step (hi : b.Inv) (hm : b.PausedByMonitor) (h : b.step m = some b') :
    b'.PausedByMonitor := by
  cases m with
  | runner k => exact hm.runner hi h
  | tick =>
    obtain ⟨hon, rfl⟩ := step_tick h
    exact fun _ => hon
  | cancel =>
    cases h
    exact hm
  | stopMonitor =>
    -- a stopped monitor lifts the pause
    obtain ⟨-, -, rfl⟩ := step_stopMonitor h
    intro hp
    simp [Batch.close, Gate.setPaused] at hp
  | abandon k =>
    obtain ⟨r, code, hr, hs, h'⟩ := step_abandon h
    exact PausedByMonitor.runner (hi.giveUp hr hs) hm h'

theorem exec_append (b : Batch) (ms ms' : List Move) :
    b.exec (ms ++ ms') = (b.exec ms).bind (·.exec ms') := by
  induction ms generalizing b with
  | nil => rfl
  | cons m ms ih =>
    simp only [List.cons_append, exec]
    cases b.step m with
    | none => rfl
    | some b₁ => exact ih b₁

theorem firstRunnerMove_some (h : b.firstRunnerMove = some b') :
    ∃ i, b.step (.runner i) = some b' := by
  obtain ⟨i, -, hi⟩ := List.exists_of_findSome?_eq_some h
  exact ⟨i, hi⟩

theorem firstRunnerMove_none (h : b.firstRunnerMove = none) (i : Nat) :
    b.step (.runner i) = none := by
  rw [firstRunnerMove, List.findSome?_eq_none_iff] at h
  by_cases hi : i < b.runners.length
  · exact h i (List.mem_range.2 hi)
  · simp [Batch.step, List.getElem?_eq_none (Nat.le_of_not_lt hi)]

end Batch

namespace Orchestrator

variable {o : Orchestrator} {d : Disk} {cwd : Loc} {now : Instant} {probes : List Bool}
  {ids : List Nat} {b b' : Batch} {m : Move}

theorem launch_pausedByMonitor (prepared : List (Nat × Prepared)) :
    (o.launch d cwd now probes prepared).PausedByMonitor := by
  unfold launch Batch.PausedByMonitor
  split
  rename_i paused rest hprobe
  intro hp
  cases hm : o.monitorOn
  · simp only [hm, Bool.false_eq_true, ↓reduceIte, Prod.mk.injEq] at hprobe
    simp [← hprobe.1, Gate.setPaused] at hp
  · rfl

theorem Reaches.step (h : o.Reaches d cwd now probes ids b) (hs : b.step m = some b') :
    o.Reaches d cwd now probes ids b' := by
  obtain ⟨ms, hms⟩ := h
  exact ⟨ms ++ [m], by rw [Batch.exec_append, hms]; simp [Batch.exec, hs]⟩

theorem Reaches.pausedByMonitor (h : o.Reaches d cwd now probes ids b) : b.PausedByMonitor := by
  obtain ⟨ms, hms⟩ := h
  have hrun := @Batch.exec_preserves (fun x => x.Inv ∧ x.PausedByMonitor)
    (fun ⟨hi, hm⟩ hs => ⟨hi.step hs, hm.step hi hs⟩) ms _ _
    ⟨Batch.Inv.start o d cwd now probes ids, launch_pausedByMonitor _⟩ hms
  exact hrun.2

/-- A state of a run that is not done, and where every runner waits, is paused by the monitor,
so it can tick, and the tick brings it nearer its end. -/
theorem Reaches.tick_nearer (h : o.Reaches d cwd now probes ids b) (hd : b.isDone = false)
    (hnone : b.firstRunnerMove = none) : ∃ b', b.step .tick = some b' ∧ b'.Nearer b := by
  -- with the pause off some runner could step
  have hp : b.shared.gate.paused = true := by
    cases hp : b.shared.gate.paused
    · obtain ⟨i, hi⟩ := h.inv.progress hp hd
      rw [Batch.firstRunnerMove_none hnone i] at hi
      cases hi
    · rfl
  have hm := h.pausedByMonitor hp
  obtain ⟨b', hb'⟩ : ∃ b', b.step .tick = some b' := by simp [Batch.step, hm]
  exact ⟨b', hb', Batch.nearer_tick hb' hp⟩

/-- From every state of a run, the canonical order comes to a state of the same run where every
runner has returned. -/
theorem Reaches.settle (h : o.Reaches d cwd now probes ids b) :
    (Batch.settle b).isDone = true ∧ o.Reaches d cwd now probes ids (Batch.settle b) := by
  revert h
  fun_induction Batch.settle b
  case case1 c hd => exact fun h => ⟨hd, h⟩
  case case2 c _ b' hfirst _ ih =>
    intro h
    obtain ⟨i, hi⟩ := Batch.firstRunnerMove_some hfirst
    exact ih (h.step hi)
  case case3 c _ b' hfirst hfar =>
    intro _
    obtain ⟨i, hi⟩ := Batch.firstRunnerMove_some hfirst
    exact absurd (Batch.nearer_of_runner hi) hfar
  case case4 c _ _ b' htick _ ih => exact fun h => ih (h.step htick)
  case case5 c hnd hnone b' htick hfar =>
    intro h
    obtain ⟨b'', htick', hnear⟩ := h.tick_nearer (by simpa using hnd) hnone
    rw [htick, Option.some.injEq] at htick'
    exact absurd (htick' ▸ hnear) hfar
  case case6 c hnd hnone htick =>
    intro h
    obtain ⟨b'', htick', -⟩ := h.tick_nearer (by simpa using hnd) hnone
    rw [htick] at htick'
    cases htick'

end Orchestrator

end Safekeep
