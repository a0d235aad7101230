import Safekeep.Proofs.Run.Branch

/-!
# One step of a runner

`Runner.step_spec` says once what a step of a well-formed runner does to its run, whatever the
step is: the drain drops by exactly the priority files the runner stops owing, and never
rises; the slot count moves with the slot the runner takes or gives back, and the runner takes
it only when it is free; the tool's slot is taken only by a runner that then runs the tool; a
runner gets past the drain on a plain file only when the drain is empty; the log grows by at
most one entry, of the file the runner had admitted; and the runner stays well-formed. The
invariants of a whole run (`Safekeep.Batch.Inv`) follow from it and never open a step again.

The branches of a step (`Runner.Takes`) fall into a few kinds, each with its own lemma: moves
that touch neither the gates nor the log (`Advance`), logging a file, stopping early, taking the
large-file slot, handing a file to the tool, and ending or cancelling a copy. `Runner.step_isSome`
says when a step can be taken at all: always, except while the runner waits at a gate.
-/

namespace Safekeep

namespace Runner

/-- What a step from runner `r` to `r'`, with the shared state going from `sh` to `sh'`, does to
the accounting of a run with settings `s`. -/
structure StepSpec (s : Settings) (sh : Shared) (r : Runner) (sh' : Shared) (r' : Runner) :
    Prop where
  paused : sh'.gate.paused = sh.gate.paused
  drain : sh'.gate.priorityRemaining + r.pending = sh.gate.priorityRemaining + r'.pending
  pending_le : r'.pending ≤ r.pending
  slot : sh'.gate.largeInFlight + r.slotHeld = sh.gate.largeInFlight + r'.slotHeld
  slot_free : r.holdsSlot = false → r'.holdsSlot = true → sh.gate.largeInFlight = 0
  toolSlot : sh'.sealBusy = true →
    r'.stage.isSealRun = true ∨ (sh.sealBusy = true ∧ r.stage.isSealRun = false)
  drained : r'.plainPastDrain = true → r.plainPastDrain = true ∨ sh'.gate.priorityRemaining = 0
  log : sh'.logs = sh.logs ∨ ∃ u e, r.current = some u ∧ r.stage.isAdmitted = true ∧
    sh'.logs = sh.logs ++ [e] ∧ e.sourcePath = u.source
  wf : r'.Wf s

variable {s : Settings} {sh sh₀ sh' : Shared} {r r₀ r' : Runner} {u : Transfer} {o : JobOutcome}
  {code : Int}

/-- `sh₀` is `sh` once the runner `r` gave back what it holds: the large-file slot if it holds
it, and the tool's slot if it runs the tool. The drain, the pause and the log are as they were. -/
structure Released (sh : Shared) (r : Runner) (sh₀ : Shared) : Prop where
  drain : sh₀.gate.priorityRemaining = sh.gate.priorityRemaining
  paused : sh₀.gate.paused = sh.gate.paused
  slot : sh₀.gate.largeInFlight + r.slotHeld = sh.gate.largeInFlight
  logs : sh₀.logs = sh.logs
  tool : sh₀.sealBusy = sh.sealBusy ∧ r.stage.isSealRun = false ∨ sh₀.sealBusy = false

theorem Released.of_frame (hh : r.holdsSlot = false) (ht : r.stage.isSealRun = false)
    (hg : sh₀.gate = sh.gate) (hl : sh₀.logs = sh.logs) (hb : sh₀.sealBusy = sh.sealBusy) :
    Released sh r sh₀ :=
  ⟨by rw [hg], by rw [hg], by simp [slotHeld, hh, hg], hl, .inl ⟨hb, ht⟩⟩

theorem Released.release (hl : r.slotHeld ≤ sh.gate.largeInFlight)
    (ht : r.stage.isSealRun = false) (hg : sh₀.gate = sh.gate) (hlog : sh₀.logs = sh.logs)
    (hb : sh₀.sealBusy = sh.sealBusy) : Released sh r (r.release sh₀).1 := by
  refine ⟨?_, ?_, ?_, by rw [release_logs, hlog],
    .inl ⟨by rw [release_sealBusy, hb], ht⟩⟩ <;>
    cases hh : r.holdsSlot <;> simp [release_gate, slotHeld, hh, hg] at hl ⊢
  omega

theorem Released.disk (h : Released sh r sh₀) (d : Disk) :
    Released sh r { sh₀ with disk := d } :=
  ⟨h.drain, h.paused, h.slot, h.logs, h.tool⟩

theorem Released.toolSlot (h : Released sh r sh₀) (hb : sh₀.sealBusy = true) :
    sh.sealBusy = true ∧ r.stage.isSealRun = false := by
  rcases h.tool with ⟨hb', ht⟩ | hb'
  · exact ⟨hb' ▸ hb, ht⟩
  · rw [hb'] at hb
    cases hb

theorem Released.toolDone (hh : r.holdsSlot = false) :
    Released sh r { sh with sealBusy := false } :=
  ⟨rfl, rfl, by simp [slotHeld, hh], rfl, .inr rfl⟩

/-- The moves of a runner that leave the gates, the tool's slot, the log and its own files as
they were: from the start to the first file, from one file to the gates, through the pause and
the drain to the slot or the copy, and along the copy. `rem` is the drain's count. -/
inductive Advance (rem : Nat) : Option Transfer → Stage → Stage → Prop
  | begin (u : Option Transfer) : Advance rem u .start .next
  | next (u : Transfer) : Advance rem (some u) .next .waitPause
  | toDrain (u : Transfer) : u.priority = false → Advance rem (some u) .waitPause .waitDrain
  | toSlot (u : Transfer) :
      u.priority = true → u.large = true → Advance rem (some u) .waitPause .waitSlot
  | toCopy (u : Transfer) :
      u.priority = true → u.large = false → Advance rem (some u) .waitPause .copyWait
  | drainedToSlot (u : Transfer) :
      rem = 0 → u.large = true → Advance rem (some u) .waitDrain .waitSlot
  | drainedToCopy (u : Transfer) :
      rem = 0 → u.large = false → Advance rem (some u) .waitDrain .copyWait
  | opened (u : Transfer) (c : Copying) : Advance rem (some u) .copyWait (.copyRead c)
  | chunk (u : Transfer) (c c' : Copying) : Advance rem (some u) (.copyRead c) (.copyRead c')

namespace Advance

variable {rem : Nat} {u : Option Transfer} {a b : Stage}

theorem not_finished (h : Advance rem u a b) :
    (∀ o, a ≠ .finished o) ∧ ∀ o, b ≠ .finished o := by
  cases h <;> simp

theorem isSealRun (h : Advance rem u a b) : a.isSealRun = false ∧ b.isSealRun = false := by
  cases h <;> exact ⟨rfl, rfl⟩

theorem busy (h : Advance rem u a b) (hb : b.holdsUnit = true) : u.isSome := by
  cases h <;> first | rfl | cases hb

theorem slot (h : Advance rem u a b) :
    (b.isCopying && u.any (·.large)) = (a.isCopying && u.any (·.large)) := by
  cases h <;> simp_all [Stage.isCopying]

theorem slotWait (h : Advance rem u a b) (hb : b = .waitSlot) : u.any (·.large) = true := by
  cases h <;> simp_all

theorem drainWait (h : Advance rem u a b) (hb : b = .waitDrain) :
    u.any (·.priority) = false := by
  cases h <;> simp_all

theorem drained (h : Advance rem u a b) (hb : (b.pastDrain && !u.any (·.priority)) = true) :
    (a.pastDrain && !u.any (·.priority)) = true ∨ rem = 0 := by
  cases h <;> simp_all [Stage.pastDrain, Stage.isAdmitted]

end Advance

theorem Advance.afterPause (rem : Nat) (u : Transfer) :
    Advance rem (some u) .waitPause (Runner.afterPause u) := by
  unfold Runner.afterPause
  cases hp : u.priority <;> cases hl : u.large <;> simp
  · exact .toDrain u hp
  · exact .toDrain u hp
  · exact .toCopy u hp hl
  · exact .toSlot u hp hl

/-- A move that touches neither the gates nor the log keeps the accounting. -/
theorem StepSpec.of_advance (hw : r.Wf s)
    (ha : Advance sh.gate.priorityRemaining r.current r.stage r'.stage)
    (hu : r'.units = r.units) (hp : r'.pending = r.pending) (hs : r'.holdsSlot = r.holdsSlot)
    (hg : sh'.gate = sh.gate) (hb : sh'.sealBusy = sh.sealBusy) (hl : sh'.logs = sh.logs) :
    StepSpec s sh r sh' r' := by
  have hc := current_eq_of_units hu
  have howed := priorityOwed_eq_of_units hu ha.not_finished.1 ha.not_finished.2
  refine ⟨by rw [hg], by rw [hg, hp], Nat.le_of_eq hp, by simp [slotHeld, hg, hs],
    fun h₁ h₂ => (by rw [hs, h₁] at h₂; cases h₂), ?_, ?_, .inl hl, ?_⟩
  · intro hbusy
    exact .inr ⟨hb ▸ hbusy, ha.isSealRun.1⟩
  · intro hd
    rcases ha.drained (by simpa [plainPastDrain, headPriority, hc] using hd) with h | h
    · exact .inl (by simpa [plainPastDrain, headPriority] using h)
    · exact .inr (by rw [hg]; exact h)
  · refine ⟨by rw [hp, hw.pending, howed], fun h => ?_, ?_, fun h => ?_, fun h => ?_,
      hu ▸ hw.sorted, hu ▸ hw.classified⟩
    · have hsome := ha.busy h
      rw [hu]
      intro hnil
      simp [current, hnil] at hsome
    · rw [hs, hw.slot, headLarge, headLarge, hc, ha.slot]
    · rw [headLarge, hc]; exact ha.slotWait h
    · rw [headPriority, hc]; exact ha.drainWait h

/-- Stopping early, once the runner gave back its slots, keeps the accounting: the drain drops
by exactly the priority files the runner still owed. -/
theorem StepSpec.of_abort (hw : r.Wf s) (hp : r.pending ≤ sh.gate.priorityRemaining)
    (hrel : Released sh r sh₀) (hu : r₀.units = r.units) (hpend : r₀.pending = r.pending)
    (hh : r₀.holdsSlot = false) (o : JobOutcome) :
    StepSpec s sh r (r₀.abort sh₀ o).1 (r₀.abort sh₀ o).2 := by
  have hslot := hrel.slot
  have h0 : (r₀.abort sh₀ o).2.slotHeld = 0 := by simp [slotHeld, hh]
  refine ⟨by simp [hrel.paused], ?_, Nat.zero_le _, ?_, by simp [hh], ?_, ?_, .inl hrel.logs,
    ?_⟩
  · simp only [abort_gate, Gate.complete_priorityRemaining, abort_pending, hrel.drain, hpend]
    omega
  · rw [h0, abort_gate, Gate.complete_largeInFlight]
    omega
  · exact fun hb => .inr (hrel.toolSlot (by simpa using hb))
  · simp [plainPastDrain, Stage.pastDrain, Stage.isAdmitted]
  · refine ⟨by simp [priorityOwed, isFinished], by simp [Stage.holdsUnit],
      by simp [hh, Stage.isCopying], by simp, by simp, ?_, ?_⟩
    · simpa [hu] using hw.sorted
    · simpa [hu] using hw.classified

/-- Logging the current file, once the runner gave back its slots, keeps the accounting: a
priority file is counted off the drain as it is logged. -/
theorem StepSpec.of_logUnit (hw : r.Wf s) (hadm : r.stage.isAdmitted = true)
    (hcur : r.current = some u) (hp : r.pending ≤ sh.gate.priorityRemaining)
    (hrel : Released sh r sh₀) (hu : r₀.units = r.units) (hpend : r₀.pending = r.pending)
    (hh : r₀.holdsSlot = false) (cx : Context) (tm cm : Int) (err : Option String) :
    StepSpec s sh r (r₀.logUnit cx sh₀ u tm cm err).1
      (r₀.logUnit cx sh₀ u tm cm err).2 := by
  -- the runner's count is its file, when that is a priority file, and the priority files after
  have howed : r.pending =
      (if u.priority then 1 else 0) + (r.units.tail.filter (·.priority)).length := by
    rw [hw.pending, priorityOwed_of_active (not_finished_of_isAdmitted hadm), units_eq_cons hcur]
    cases hpr : u.priority <;> simp [hpr, Nat.add_comm]
  have hnext : (r₀.logUnit cx sh₀ u tm cm err).2.priorityOwed =
      (r.units.tail.filter (·.priority)).length := by
    rw [priorityOwed_of_active (by simp), logUnit_units, hu, List.drop_one]
  have hslot := hrel.slot
  have hdrain := hrel.drain
  have h0 : (r₀.logUnit cx sh₀ u tm cm err).2.slotHeld = 0 := by simp [slotHeld, hh]
  refine ⟨by simp [hrel.paused], ?_, ?_, ?_, by simp [hh], ?_, ?_,
    .inr ⟨u, ⟨cx.now, r₀.job.name, u.source, u.target, u.size, tm, cm, entryMessage err cm⟩,
      hcur, hadm, ?_, rfl⟩, ?_⟩
  · simp only [logUnit_priorityRemaining, logUnit_pending, hpend]
    omega
  · simp only [logUnit_pending, hpend]
    omega
  · rw [h0, logUnit_largeInFlight]
    omega
  · exact fun hb => .inr (hrel.toolSlot (by simpa using hb))
  · simp [plainPastDrain, Stage.pastDrain, Stage.isAdmitted]
  · rw [logUnit_logs, hrel.logs]
  · refine ⟨?_, by simp [Stage.holdsUnit], by simp [hh, Stage.isCopying], by simp, by simp,
      ?_, ?_⟩
    · rw [hnext, logUnit_pending, hpend]
      omega
    · rw [logUnit_units, hu, List.drop_one]
      exact List.Pairwise.sublist (List.tail_sublist _) hw.sorted
    · rw [logUnit_units, hu, List.drop_one]
      exact fun v hv => hw.classified v (List.mem_of_mem_tail hv)

/-- Completing after the last file: nothing is owed, so the gates stay as they are. -/
theorem StepSpec.of_complete (hw : r.Wf s) (hst : r.stage = .next) (hnil : r.units = [])
    (hu : r'.units = r.units) (hp : r'.pending = r.pending) (hs : r'.holdsSlot = r.holdsSlot)
    (hfin : r'.stage = .finished o) (hg : sh'.gate = sh.gate) (hb : sh'.sealBusy = sh.sealBusy)
    (hl : sh'.logs = sh.logs) : StepSpec s sh r sh' r' := by
  have hheld : r.holdsSlot = false := hw.holdsSlot_eq_false (hst ▸ rfl)
  have hzero : r.pending = 0 := by
    rw [hw.pending, priorityOwed_of_active (by simp [hst]), hnil]; rfl
  refine ⟨by rw [hg], by rw [hg, hp], Nat.le_of_eq hp, by simp [slotHeld, hg, hs],
    fun h₁ h₂ => (by rw [hs, h₁] at h₂; cases h₂), ?_, ?_, .inl hl, ?_⟩
  · intro hbusy
    exact .inr ⟨hb ▸ hbusy, hst ▸ rfl⟩
  · simp [plainPastDrain, hfin, Stage.pastDrain, Stage.isAdmitted]
  · refine ⟨by simp [priorityOwed, isFinished, hfin, hp, hzero], by simp [hfin, Stage.holdsUnit],
      by simp [hs, hheld, hfin, Stage.isCopying], by simp [hfin], by simp [hfin], ?_, ?_⟩
    · rw [hu, hnil]; exact List.Pairwise.nil
    · simp [hu, hnil]

/-- Taking the free large-file slot: the slot count goes from 0 to 1 with the runner as
holder. -/
theorem StepSpec.of_takeSlot (hw : r.Wf s) (hst : r.stage = .waitSlot)
    (hfree : sh.gate.largeInFlight = 0) (hu : r'.units = r.units) (hp : r'.pending = r.pending)
    (hs : r'.holdsSlot = true) (hcopy : r'.stage = .copyWait)
    (hg : sh'.gate = sh.gate.takeLarge) (hb : sh'.sealBusy = sh.sealBusy)
    (hl : sh'.logs = sh.logs) : StepSpec s sh r sh' r' := by
  have hheld : r.holdsSlot = false := hw.holdsSlot_eq_false (hst ▸ rfl)
  have hc := current_eq_of_units hu
  have howed := priorityOwed_eq_of_units hu (by simp [hst]) (by simp [hcopy])
  refine ⟨by simp [hg], by simp [hg, hp], Nat.le_of_eq hp, by simp [slotHeld, hg, hs, hheld],
    fun _ _ => hfree, ?_, ?_, .inl hl, ?_⟩
  · intro hbusy
    exact .inr ⟨hb ▸ hbusy, hst ▸ rfl⟩
  · intro hd
    left
    simpa [plainPastDrain, headPriority, hc, hcopy, hst, Stage.pastDrain, Stage.isAdmitted]
      using hd
  · refine ⟨by rw [hp, hw.pending, howed], fun _ => hu ▸ hw.busy (hst ▸ rfl), ?_,
      by simp [hcopy], by simp [hcopy], hu ▸ hw.sorted, hu ▸ hw.classified⟩
    rw [hs, hcopy, headLarge, hc, ← headLarge, hw.slotWait hst]
    rfl

/-- Launching the tool takes its free slot. -/
theorem StepSpec.of_launch (hw : r.Wf s) (hst : r.stage = .sealWait) (hu : r'.units = r.units)
    (hp : r'.pending = r.pending) (hs : r'.holdsSlot = r.holdsSlot)
    (hrun : r'.stage = .sealRun code) (hg : sh'.gate = sh.gate) (hl : sh'.logs = sh.logs) :
    StepSpec s sh r sh' r' := by
  have hheld : r.holdsSlot = false := hw.holdsSlot_eq_false (hst ▸ rfl)
  have hc := current_eq_of_units hu
  have howed := priorityOwed_eq_of_units hu (by simp [hst]) (by simp [hrun])
  refine ⟨by rw [hg], by rw [hg, hp], Nat.le_of_eq hp, by simp [slotHeld, hg, hs],
    fun h₁ h₂ => (by rw [hs, h₁] at h₂; cases h₂), fun _ => .inl (hrun ▸ rfl), ?_,
    .inl hl, ?_⟩
  · intro hd
    left
    simpa [plainPastDrain, headPriority, hc, hrun, hst, Stage.pastDrain, Stage.isAdmitted]
      using hd
  · refine ⟨by rw [hp, hw.pending, howed], fun _ => hu ▸ hw.busy (hst ▸ rfl), ?_,
      by simp [hrun], by simp [hrun], hu ▸ hw.sorted, hu ▸ hw.classified⟩
    rw [hs, hheld, hrun]
    rfl

/-- Handing a copied file to the tool gives the large-file slot back and keeps the rest. -/
theorem StepSpec.of_toSeal (hw : r.Wf s) (hcopy : r.stage.isCopying = true)
    (hrel : Released sh r sh') (hu : r'.units = r.units) (hp : r'.pending = r.pending)
    (hs : r'.holdsSlot = false) (hst : r'.stage = .sealWait) : StepSpec s sh r sh' r' := by
  have hadm := Stage.isAdmitted_of_isCopying hcopy
  have hc := current_eq_of_units hu
  have howed := priorityOwed_eq_of_units hu (not_finished_of_isAdmitted hadm) (by simp [hst])
  have hslot := hrel.slot
  have h0 : r'.slotHeld = 0 := by simp [slotHeld, hs]
  refine ⟨hrel.paused, by rw [hrel.drain, hp], Nat.le_of_eq hp, by rw [h0]; omega,
    fun h₁ h₂ => (by rw [hs] at h₂; cases h₂), fun hb => .inr (hrel.toolSlot hb), ?_,
    .inl hrel.logs, ?_⟩
  · intro hd
    left
    have hpast := Stage.pastDrain_of_isAdmitted hadm
    have hseal : Stage.sealWait.pastDrain = true := rfl
    simp only [plainPastDrain, headPriority, hc, hst, hseal, hpast, Bool.true_and] at hd ⊢
    exact hd
  · refine ⟨by rw [hp, hw.pending, howed], fun _ => hu ▸ hw.busy ?_,
      by simp [hs, hst, Stage.isCopying], by simp [hst], by simp [hst], hu ▸ hw.sorted,
      hu ▸ hw.classified⟩
    revert hcopy; cases r.stage <;> simp [Stage.isCopying, Stage.holdsUnit]

/-- Ending a copy gives the large-file slot back, then logs the file or hands it to the tool. -/
theorem StepSpec.of_endCopy (hw : r.Wf s) (hcopy : r.stage.isCopying = true)
    (hcur : r.current = some u) (hp : r.pending ≤ sh.gate.priorityRemaining)
    (hl : r.slotHeld ≤ sh.gate.largeInFlight) (hg : sh₀.gate = sh.gate)
    (hlog : sh₀.logs = sh.logs) (hb : sh₀.sealBusy = sh.sealBusy) (cx : Context)
    (result : Except Errno Nat) :
    StepSpec s sh r (r.endCopy cx sh₀ u result).1 (r.endCopy cx sh₀ u result).2 := by
  have hrel := Released.release hl (Stage.isSealRun_of_isCopying hcopy) hg hlog hb
  have hadm := Stage.isAdmitted_of_isCopying hcopy
  have hu := release_units r sh₀
  have hpend := release_pending r sh₀
  have hh := release_holdsSlot r sh₀
  unfold endCopy
  generalize r.release sh₀ = x at hrel hu hpend hh ⊢
  obtain ⟨sh₁, r₁⟩ := x
  cases result with
  | error e => exact StepSpec.of_logUnit hw hadm hcur hp hrel hu hpend hh cx _ _ _
  | ok n =>
    dsimp only
    split
    · exact StepSpec.of_toSeal hw hcopy hrel hu hpend hh rfl
    · exact StepSpec.of_logUnit hw hadm hcur hp hrel hu hpend hh cx _ _ _

/-- A cancelled copy gives the large-file slot back, removes the target, and stops. -/
theorem StepSpec.of_cancelCopy (hw : r.Wf s) (hcopy : r.stage.isCopying = true)
    (hp : r.pending ≤ sh.gate.priorityRemaining) (hl : r.slotHeld ≤ sh.gate.largeInFlight)
    (hg : sh₀.gate = sh.gate) (hlog : sh₀.logs = sh.logs) (hb : sh₀.sealBusy = sh.sealBusy)
    (cx : Context) : StepSpec s sh r (r.cancelCopy cx sh₀ u).1 (r.cancelCopy cx sh₀ u).2 := by
  have hrel := Released.release hl (Stage.isSealRun_of_isCopying hcopy) hg hlog hb
  have hu := release_units r sh₀
  have hpend := release_pending r sh₀
  have hh := release_holdsSlot r sh₀
  unfold cancelCopy
  generalize r.release sh₀ = x at hrel hu hpend hh ⊢
  obtain ⟨sh₁, r₁⟩ := x
  dsimp only
  split
  · exact StepSpec.of_abort hw hp (hrel.disk _) hu hpend hh _
  · exact StepSpec.of_abort hw hp hrel hu hpend hh _

/-- Logging a file after the tool gave its code, its target's time restored for a code that is
not negative. -/
theorem StepSpec.of_afterSeal (hw : r.Wf s) (hadm : r.stage.isAdmitted = true)
    (hcur : r.current = some u) (hp : r.pending ≤ sh.gate.priorityRemaining)
    (hh : r.holdsSlot = false) (hrel : Released sh r sh₀) (cx : Context) (code : Int) :
    StepSpec s sh r (r.afterSeal cx sh₀ u code).1 (r.afterSeal cx sh₀ u code).2 := by
  unfold afterSeal
  dsimp only
  split
  · split
    · exact StepSpec.of_logUnit hw hadm hcur hp (hrel.disk _) rfl rfl hh cx _ _ _
    · exact StepSpec.of_logUnit hw hadm hcur hp hrel rfl rfl hh cx _ _ _
  · exact StepSpec.of_logUnit hw hadm hcur hp hrel rfl rfl hh cx _ _ _

theorem StepSpec.of_stop (hw : r.Wf s) (hp : r.pending ≤ sh.gate.priorityRemaining) {t : Stage}
    (hst : r.stage = t) (hc : t.isCopying = false) (ht : t.isSealRun = false) (o : JobOutcome) :
    StepSpec s sh r (r.abort sh o).1 (r.abort sh o).2 := by
  have hheld := hw.holdsSlot_eq_false (hst ▸ hc)
  exact StepSpec.of_abort hw hp (Released.of_frame hheld (hst ▸ ht) rfl rfl rfl) rfl rfl hheld o

/-- What one step of a well-formed runner does to the accounting of its run, when the gates
count the priority files it owes and the slot it holds. -/
theorem step_spec {cx : Context} {p : Shared × Runner} (hw : r.Wf cx.settings)
    (hp : r.pending ≤ sh.gate.priorityRemaining) (hl : r.slotHeld ≤ sh.gate.largeInFlight)
    (h : r.step cx sh = some p) : StepSpec cx.settings sh r p.1 p.2 := by
  -- one case per branch of the step
  cases takes_of_step h with
  | totals hs => exact StepSpec.of_advance hw (hs ▸ .begin _) rfl rfl rfl rfl rfl rfl
  | complete hs hu => exact StepSpec.of_complete hw hs hu rfl rfl rfl rfl rfl rfl rfl
  | toGate hs hu =>
    exact StepSpec.of_advance hw (by rw [hs, current_of_units hu]; exact .next _)
      rfl rfl rfl rfl rfl rfl
  | lost hs => exact StepSpec.of_stop hw hp hs rfl rfl _
  | unitless hh hu =>
    -- a runner between two steps of a file always has that file
    exact absurd hu (hw.busy hh)
  | cancelAtGate hs =>
    rcases hs with hs | hs | hs <;> exact StepSpec.of_stop hw hp hs rfl rfl _
  | pastPause hs hu =>
    exact StepSpec.of_advance hw
      (by rw [hs, current_of_units hu]; exact Advance.afterPause _ _) rfl rfl rfl rfl rfl rfl
  | enterAtPause hs hu _ _ hn =>
    have ha := Advance.afterPause sh.gate.priorityRemaining ‹Transfer›
    rw [hn] at ha
    exact StepSpec.of_advance hw (by rw [hs, current_of_units hu]; exact ha)
      rfl rfl rfl rfl rfl rfl
  | drainedToSlot hs hu _ hd hl =>
    exact StepSpec.of_advance hw (by rw [hs, current_of_units hu]; exact .drainedToSlot _ hd hl)
      rfl rfl rfl rfl rfl rfl
  | enterAtDrain hs hu _ hd hl =>
    exact StepSpec.of_advance hw (by rw [hs, current_of_units hu]; exact .drainedToCopy _ hd hl)
      rfl rfl rfl rfl rfl rfl
  | takeSlot hs _ _ hfree => exact StepSpec.of_takeSlot hw hs hfree rfl rfl rfl rfl rfl rfl rfl
  | cancelCopy hs => exact StepSpec.of_cancelCopy hw hs hp hl rfl rfl rfl cx
  | openFailed hs hu => apply StepSpec.of_endCopy hw (hs ▸ rfl) (current_of_units hu) hp hl <;> rfl
  | opened hs hu =>
    exact StepSpec.of_advance hw (by rw [hs, current_of_units hu]; exact .opened _ _)
      rfl rfl rfl rfl rfl rfl
  | readFailed hs hu | chunkFailed hs hu | copied hs hu | finishFailed hs hu =>
    apply StepSpec.of_endCopy hw (hs ▸ rfl) (current_of_units hu) hp hl <;> rfl
  | chunk hs hu =>
    exact StepSpec.of_advance hw (by rw [hs, current_of_units hu]; exact .chunk _ _ _)
      rfl rfl rfl rfl rfl rfl
  | sealDecided hs hu =>
    have hheld := hw.holdsSlot_eq_false (hs ▸ rfl)
    exact StepSpec.of_afterSeal hw (hs ▸ rfl) (current_of_units hu) hp hheld
      (Released.of_frame hheld (hs ▸ rfl) rfl rfl rfl) cx _
  | cancelAtTool hs => exact StepSpec.of_stop hw hp hs rfl rfl _
  | launchRefused hs hu =>
    have hheld := hw.holdsSlot_eq_false (hs ▸ rfl)
    exact StepSpec.of_afterSeal hw (hs ▸ rfl) (current_of_units hu) hp hheld
      ((Released.of_frame hheld (hs ▸ rfl) rfl rfl rfl).disk _) cx _
  | launch hs => exact StepSpec.of_launch hw hs rfl rfl rfl rfl rfl rfl
  | cancelReap hs =>
    have hheld := hw.holdsSlot_eq_false (hs ▸ rfl)
    exact StepSpec.of_abort hw hp (Released.toolDone hheld) rfl rfl hheld _
  | reap hs hu =>
    have hheld := hw.holdsSlot_eq_false (hs ▸ rfl)
    exact StepSpec.of_afterSeal hw (hs ▸ rfl) (current_of_units hu) hp hheld
      (Released.toolDone hheld) cx _

/-- A runner that has not returned can take a step, except where it waits: for the pause, before
a file or a chunk of its copy; for the drain, at the priority gate; for the large-file slot; or
for the tool's slot. -/
theorem step_isSome (cx : Context) (hfin : r.isFinished = false) (hpaused : sh.gate.paused = false)
    (hdrain : r.stage = .waitDrain → sh.gate.priorityRemaining = 0)
    (hslot : r.stage = .waitSlot → sh.gate.largeInFlight = 0)
    (htool : r.stage = .sealWait → sh.sealBusy = false) : (r.step cx sh).isSome := by
  -- every step that gives nothing is one of those waits, or a runner that has returned
  fun_cases Runner.step cx sh r
  all_goals first | rfl | simp_all [isFinished]

end Runner

end Safekeep
