import Safekeep.Proofs.Run.Scenario

/-!
# What each runner writes to the log

The log of a run is shared, but every entry comes from one runner's step. Naming, for each entry,
the runner that appended it (`ownedBy`), the entries of one runner are one per file of a prefix
of its plan, in plan order (`LogEntry.Records`), whatever the order of the runners' steps, the
business pause and the cancellation: a pause holds a runner at a wait and never makes it log a
file twice or skip one. A runner's counts of copied and failed files are those of its entries,
and it returns completed exactly when it has logged its whole plan.

How a runner returns is decided by the step that ends it (`Runner.Moves`): completed after its
last file, failed when it finds its source directory gone before its next file, cancelled when
it sees the run cancelled while it holds a file, admitting, copying or encrypting it.
-/

namespace Safekeep

open Safekeep.Time

def LogEntry.Records (job : Job) (u : Transfer) (e : LogEntry) : Prop :=
  e.backupName = job.name ∧ e.sourcePath = u.source ∧ e.targetPath = u.target ∧
    e.fileSize = u.size

/-- The entries of a log that a list of owners, one per entry, gives to runner `i`, in log
order. -/
def ownedBy (logs : List LogEntry) (owners : List Nat) (i : Nat) : List LogEntry :=
  ((logs.zip owners).filter (·.2 = i)).map (·.1)

@[simp] theorem ownedBy_nil (i : Nat) : ownedBy [] [] i = [] := rfl

theorem ownedBy_append {logs : List LogEntry} {owners : List Nat}
    (h : logs.length = owners.length) (e : LogEntry) (j i : Nat) :
    ownedBy (logs ++ [e]) (owners ++ [j]) i =
      ownedBy logs owners i ++ if j = i then [e] else [] := by
  unfold ownedBy
  rw [List.zip_append h, List.filter_append, List.map_append]
  by_cases hj : j = i <;> simp [hj]

namespace Runner

/-- The runner after a step is on the same job, with the same files and counts. -/
structure Keeps (r r' : Runner) : Prop where
  job : r'.job = r.job
  units : r'.units = r.units
  transferred : r'.transferred = r.transferred
  failed : r'.failed = r.failed

theorem Keeps.refl (r : Runner) : Keeps r r := ⟨rfl, rfl, rfl, rfl⟩

theorem Keeps.release (r : Runner) (sh : Shared) : Keeps r (r.release sh).2 :=
  ⟨release_job r sh, release_units r sh, release_transferred r sh, release_failed r sh⟩

/-- What a step does to a runner's files, its counts and the log: it moves on within a file,
logs its current file, completes after its last file, stops when it finds its source directory
gone, or stops when it sees the run cancelled while it holds a file. -/
inductive Moves (cx : Context) (sh : Shared) (r : Runner) : Shared → Runner → Prop
  | quiet {sh₁ : Shared} {r₁ : Runner} : Keeps r r₁ → r₁.isFinished = false →
      sh₁.logs = sh.logs → Moves cx sh r sh₁ r₁
  | logged {sh₁ : Shared} {r₁ : Runner} (u : Transfer) (e : LogEntry) : r₁.job = r.job →
      r.units = u :: r₁.units → e.Records r.job u → sh₁.logs = sh.logs ++ [e] →
      r₁.transferred = (if e.transferMs < 0 then r.transferred else r.transferred + 1) →
      r₁.failed = (if e.transferMs < 0 then r.failed + 1 else r.failed) →
      r₁.isFinished = false → Moves cx sh r sh₁ r₁
  | completed {sh₁ : Shared} {r₁ : Runner} : r.stage = .next → r.units = [] → Keeps r r₁ →
      r₁.stage = .finished (.completed r.transferred r.failed) → sh₁.logs = sh.logs →
      Moves cx sh r sh₁ r₁
  | lost {sh₁ : Shared} {r₁ : Runner} (msg : String) : r.stage = .next → r.units ≠ [] →
      sh.disk.isDir cx.cwd r.job.source = false → Keeps r r₁ →
      r₁.stage = .finished (.failed msg) → sh₁.logs = sh.logs → Moves cx sh r sh₁ r₁
  | cancelled {sh₁ : Shared} {r₁ : Runner} : cx.cancelled = true → r.stage.holdsUnit = true →
      r.units ≠ [] → Keeps r r₁ → r₁.stage = .finished .cancelled → sh₁.logs = sh.logs →
      Moves cx sh r sh₁ r₁

variable {cx : Context} {sh sh₀ sh' : Shared} {r r₀ r' : Runner} {u : Transfer}

/-- Logging the current file, once the runner gave back its slots. -/
theorem Moves.of_logUnit (hcur : r.units = u :: r.units.tail) (hk : Keeps r r₀)
    (hl : sh₀.logs = sh.logs) (tm cm : Int) (err : Option String) :
    Moves cx sh r (r₀.logUnit cx sh₀ u tm cm err).1 (r₀.logUnit cx sh₀ u tm cm err).2 := by
  refine .logged u ⟨cx.now, r₀.job.name, u.source, u.target, u.size, tm, cm, entryMessage err cm⟩
    (by simp [hk.job]) ?_ ⟨by simp [hk.job], rfl, rfl, rfl⟩ (by rw [logUnit_logs, hl])
    (by simp [hk.transferred]) (by simp [hk.failed]) (by simp [isFinished])
  rw [logUnit_units, hk.units, hcur]
  rfl

/-- Ending a copy logs the file, or hands it to the tool. -/
theorem Moves.of_endCopy (hcur : r.units = u :: r.units.tail)
    (hl : sh₀.logs = sh.logs) (result : Except Errno Nat) :
    Moves cx sh r (r.endCopy cx sh₀ u result).1 (r.endCopy cx sh₀ u result).2 := by
  have hk := Keeps.release r sh₀
  have hlog : (r.release sh₀).1.logs = sh.logs := by rw [release_logs, hl]
  unfold endCopy
  generalize r.release sh₀ = x at hk hlog ⊢
  obtain ⟨sh₁, r₁⟩ := x
  cases result with
  | error e => exact Moves.of_logUnit hcur hk hlog _ _ _
  | ok n =>
    dsimp only
    split
    · exact .quiet ⟨hk.job, hk.units, hk.transferred, hk.failed⟩ rfl hlog
    · exact Moves.of_logUnit hcur hk hlog _ _ _

/-- Logging a file after the tool gave its code. -/
theorem Moves.of_afterSeal (hcur : r.units = u :: r.units.tail) (hl : sh₀.logs = sh.logs)
    (code : Int) : Moves cx sh r (r.afterSeal cx sh₀ u code).1 (r.afterSeal cx sh₀ u code).2 := by
  unfold afterSeal
  dsimp only
  split
  · split
    · exact Moves.of_logUnit hcur (Keeps.refl r) (by exact hl) _ _ _
    · exact Moves.of_logUnit hcur (Keeps.refl r) hl _ _ _
  · exact Moves.of_logUnit hcur (Keeps.refl r) hl _ _ _

theorem Moves.of_cancel (hc : cx.cancelled = true) (hs : r.stage.holdsUnit = true)
    (hne : r.units ≠ []) (hk : Keeps r r₀) (hl : sh₀.logs = sh.logs) :
    Moves cx sh r (r₀.abort sh₀ .cancelled).1 (r₀.abort sh₀ .cancelled).2 :=
  .cancelled hc hs hne ⟨by simp [hk.job], by simp [hk.units], by simp [hk.transferred],
    by simp [hk.failed]⟩ rfl (by rw [abort_logs, hl])

/-- A cancelled copy gives the slot back, removes the target and stops. -/
theorem Moves.of_cancelCopy (hc : cx.cancelled = true) (hs : r.stage.holdsUnit = true)
    (hne : r.units ≠ []) : Moves cx sh r (r.cancelCopy cx sh u).1 (r.cancelCopy cx sh u).2 := by
  have hk := Keeps.release r sh
  have hlog := release_logs r sh
  unfold cancelCopy
  generalize r.release sh = x at hk hlog ⊢
  obtain ⟨sh₁, r₁⟩ := x
  dsimp only
  split
  · exact Moves.of_cancel hc hs hne hk hlog
  · exact Moves.of_cancel hc hs hne hk hlog

/-- What one step of a runner does to its files, its counts and the log. -/
theorem step_moves {p : Shared × Runner} (hbusy : r.stage.holdsUnit = true → r.units ≠ [])
    (h : r.step cx sh = some p) : Moves cx sh r p.1 p.2 := by
  cases takes_of_step h with
  -- moves that keep the runner's files, its counts and the log
  | totals _ | toGate _ | enterAtPause _ | drainedToSlot _ | enterAtDrain _ | takeSlot _
  | opened _ | chunk _ | launch _ =>
    exact .quiet ⟨rfl, rfl, rfl, rfl⟩ rfl rfl
  | pastPause =>
    refine .quiet ⟨rfl, rfl, rfl, rfl⟩ ?_ rfl
    -- past the pause comes a gate or the copy, never an end
    simp only [isFinished, afterPause]
    split_ifs <;> rfl
  | complete hs hu => exact .completed hs hu ⟨rfl, rfl, rfl, rfl⟩ rfl rfl
  | lost hs hu hdir => exact .lost _ hs (by simp [hu]) hdir ⟨rfl, rfl, rfl, rfl⟩ rfl rfl
  | unitless hh hu => exact absurd hu (hbusy hh)
  | cancelAtGate hs hu hc =>
    have hh : r.stage.holdsUnit = true := by
      rcases hs with hs | hs | hs <;> simp [hs, Stage.holdsUnit]
    exact Moves.of_cancel hc hh (by simp [hu]) (Keeps.refl r) rfl
  | cancelCopy hs hu hc =>
    have hh : r.stage.holdsUnit = true := by
      revert hs; cases r.stage <;> simp [Stage.isCopying, Stage.holdsUnit]
    exact Moves.of_cancelCopy hc hh (by simp [hu])
  | openFailed _ hu | readFailed _ hu | chunkFailed _ hu | copied _ hu | finishFailed _ hu =>
    apply Moves.of_endCopy (units_eq_cons (current_of_units hu)); rfl
  | sealDecided _ hu | launchRefused _ hu _ _ _ _ | reap _ hu =>
    apply Moves.of_afterSeal (units_eq_cons (current_of_units hu)); rfl
  | cancelAtTool hs hu _ hc | cancelReap hs hu hc =>
    exact Moves.of_cancel hc (by simp [hs, Stage.holdsUnit]) (by simp [hu]) (Keeps.refl r) rfl

theorem Moves.job (hm : Moves cx sh r sh' r') : r'.job = r.job := by
  cases hm with
  | quiet hk => exact hk.job
  | logged _ _ hjob => exact hjob
  | completed _ _ hk => exact hk.job
  | lost _ _ _ _ hk => exact hk.job
  | cancelled _ _ _ hk => exact hk.job

theorem outcome?_eq_some {o : JobOutcome} : r.outcome? = some o ↔ r.stage = .finished o := by
  unfold outcome?
  split <;> simp_all

theorem outcome?_eq_none : r.outcome? = none ↔ r.isFinished = false := by
  unfold outcome? isFinished
  split <;> simp_all

theorem step_of_finished {o : JobOutcome} (h : r.stage = .finished o) : r.step cx sh = none := by
  simp [step, h]

/-- The step that ends a runner decides its outcome: completed when no file is left, failed when
the source directory is gone before the next file, cancelled when the run is cancelled while the
runner holds a file. -/
theorem Moves.outcome (hm : Moves cx sh r sh' r') {o : JobOutcome} (ho : r'.stage = .finished o) :
    ((∃ t f, o = .completed t f) ↔ r.units = []) ∧
    ((∃ msg, o = .failed msg) ↔
      r.stage = .next ∧ r.units ≠ [] ∧ sh.disk.isDir cx.cwd r.job.source = false) ∧
    (o = .cancelled ↔ cx.cancelled = true ∧ r.stage.holdsUnit = true) := by
  cases hm with
  | quiet _ hfin => simp [isFinished, ho] at hfin
  | logged _ _ _ _ _ _ _ _ hfin => simp [isFinished, ho] at hfin
  | completed hst hnil _ hfin =>
    rw [hfin] at ho
    cases ho
    simp [hst, hnil, Stage.holdsUnit]
  | lost msg hst hne hdir _ hfin =>
    rw [hfin] at ho
    cases ho
    simp [hst, hne, hdir, Stage.holdsUnit]
  | cancelled hc hs hne _ hfin =>
    rw [hfin] at ho
    cases ho
    have hnext : r.stage ≠ .next := fun h => by simp [h, Stage.holdsUnit] at hs
    simp [hc, hs, hne, hnext]

/-! ## What a runner has logged -/

/-- What runner `r` has logged of its plan, `es` being its entries in log order: one per file of
a prefix of the plan, in plan order; its counts are those of the entries; it completes only once
the whole plan is logged, and stops early only with a file left. -/
structure Journal (plan : List Transfer) (es : List LogEntry) (r : Runner) : Prop where
  units : r.units = plan.drop es.length
  entries : List.Forall₂ (LogEntry.Records r.job) (plan.take es.length) es
  counted : r.transferred + r.failed = es.length
  failedCount : r.failed = (es.filter (·.transferMs < 0)).length
  completed : ∀ t f, r.stage = .finished (.completed t f) →
    r.units = [] ∧ t = r.transferred ∧ f = r.failed
  stopped : ∀ o, r.stage = .finished o → r.units = [] → ∃ t f, o = .completed t f

variable {plan : List Transfer} {es : List LogEntry}

theorem Journal.new (job : Job) (plan : List Transfer) (now : Instant) :
    (Runner.new job plan now).Journal plan [] :=
  ⟨rfl, .nil, rfl, rfl, by simp [Runner.new], by simp [Runner.new]⟩

/-- A step that keeps the runner's files and counts keeps what it has logged, when the ends it
may reach are allowed. -/
theorem Journal.keep (hj : r.Journal plan es) (hk : Keeps r r')
    (hc : ∀ t f, r'.stage = .finished (.completed t f) →
      r'.units = [] ∧ t = r'.transferred ∧ f = r'.failed)
    (hs : ∀ o, r'.stage = .finished o → r'.units = [] → ∃ t f, o = .completed t f) :
    r'.Journal plan es :=
  ⟨hk.units ▸ hj.units, hk.job ▸ hj.entries, by rw [hk.transferred, hk.failed, hj.counted],
    hk.failed ▸ hj.failedCount, hc, hs⟩

/-- Logging the next file of the plan extends what the runner has logged by its entry. -/
theorem Journal.logged (hj : r.Journal plan es) {e : LogEntry} (hjob : r'.job = r.job)
    (hunits : r.units = u :: r'.units) (hrec : e.Records r.job u)
    (ht : r'.transferred = (if e.transferMs < 0 then r.transferred else r.transferred + 1))
    (hf : r'.failed = (if e.transferMs < 0 then r.failed + 1 else r.failed))
    (hfin : r'.isFinished = false) : r'.Journal plan (es ++ [e]) := by
  have hdrop : plan.drop es.length = u :: r'.units := hj.units ▸ hunits
  -- the file logged is the plan's next one
  have hget : plan[es.length]? = some u := by
    rw [← List.head?_drop, hdrop]
    rfl
  have hnotfin : ∀ o, r'.stage ≠ .finished o := fun o ho => by simp [isFinished, ho] at hfin
  refine ⟨?_, ?_, ?_, ?_, fun t f ho => absurd ho (hnotfin _), fun o ho => absurd ho (hnotfin _)⟩
  · rw [List.length_append, List.length_singleton, ← List.tail_drop, hdrop]
    rfl
  · rw [List.length_append, List.length_singleton, List.take_add_one, hget, hjob]
    exact List.rel_append hj.entries (.cons hrec .nil)
  · have := hj.counted
    rw [ht, hf, List.length_append, List.length_singleton]
    split <;> omega
  · rw [hf, hj.failedCount, List.filter_append, List.length_append]
    by_cases hneg : e.transferMs < 0 <;> simp [hneg]

/-- A runner's step keeps what it has logged, or extends it by the entry it appends. -/
theorem Journal.step (hj : r.Journal plan es) (hm : Moves cx sh r sh' r') :
    (sh'.logs = sh.logs ∧ r'.Journal plan es) ∨
      ∃ e, sh'.logs = sh.logs ++ [e] ∧ r'.Journal plan (es ++ [e]) := by
  cases hm with
  | quiet hk hfin hl =>
    have hnotfin : ∀ o, r'.stage ≠ .finished o := fun o ho => by simp [isFinished, ho] at hfin
    exact .inl ⟨hl, hj.keep hk (fun t f ho => absurd ho (hnotfin _))
      (fun o ho => absurd ho (hnotfin _))⟩
  | logged u e hjob hunits hrec hl ht hf hfin =>
    exact .inr ⟨e, hl, hj.logged hjob hunits hrec ht hf hfin⟩
  | completed hst hnil hk hfin hl =>
    refine .inl ⟨hl, hj.keep hk (fun t f ho => ?_) (fun o ho _ => ?_)⟩
    · rw [hfin] at ho
      cases ho
      exact ⟨hk.units.trans hnil, hk.transferred.symm, hk.failed.symm⟩
    · rw [hfin] at ho
      cases ho
      exact ⟨_, _, rfl⟩
  | lost msg hst hne hdir hk hfin hl =>
    refine .inl ⟨hl, hj.keep hk (fun t f ho => ?_) (fun o ho hnil => ?_)⟩
    · rw [hfin] at ho
      cases ho
    · exact absurd (hk.units ▸ hnil) hne
  | cancelled hc hs hne hk hfin hl =>
    refine .inl ⟨hl, hj.keep hk (fun t f ho => ?_) (fun o ho hnil => ?_)⟩
    · rw [hfin] at ho
      cases ho
    · exact absurd (hk.units ▸ hnil) hne

theorem Journal.giveUp (hj : r.Journal plan es) (c : Int) :
    { r with stage := .sealRun c }.Journal plan es :=
  ⟨hj.units, hj.entries, hj.counted, hj.failedCount, (fun _ _ h => by cases h),
    (fun _ h => by cases h)⟩

theorem Journal.length_le (hj : r.Journal plan es) : es.length ≤ plan.length := by
  have h := hj.entries.length_eq
  rw [List.length_take] at h
  omega

/-- A runner that has returned completed exactly when it has logged its whole plan. -/
theorem Journal.completed_iff (hj : r.Journal plan es) {o : JobOutcome}
    (ho : r.stage = .finished o) : (∃ t f, o = .completed t f) ↔ es.length = plan.length := by
  constructor
  · rintro ⟨t, f, rfl⟩
    have hnil := (hj.completed t f ho).1
    rw [hj.units, List.drop_eq_nil_iff] at hnil
    have := hj.length_le
    omega
  · intro hlen
    exact hj.stopped o ho (by rw [hj.units, hlen, List.drop_length])

/-- A runner that completed copied or failed every file of its plan, the failed ones being the
entries with a negative transfer time. -/
theorem Journal.completed_counts (hj : r.Journal plan es) {t f : Nat}
    (ho : r.stage = .finished (.completed t f)) :
    t + f = plan.length ∧ f = (es.filter (·.transferMs < 0)).length := by
  obtain ⟨-, rfl, rfl⟩ := hj.completed t f ho
  have hlen := (hj.completed_iff ho).1 ⟨_, _, rfl⟩
  exact ⟨hj.counted.trans hlen, hj.failedCount⟩

end Runner

/-! ## Who wrote each entry -/

namespace Batch

open Runner

variable {b b' : Batch} {m : Move} {plans : List (Job × List Transfer)} {owners : List Nat}
  {i : Nat} {r r' : Runner}

/-- `owners` names, for each entry of the log, the runner that appended it, and each runner's
entries are what it has logged of its plan; `plans` lists each runner's job and plan. -/
structure Journal (plans : List (Job × List Transfer)) (b : Batch) (owners : List Nat) :
    Prop where
  length : owners.length = b.shared.logs.length
  bound : ∀ j ∈ owners, j < b.runners.length
  runners : b.runners.length = plans.length
  runner : ∀ (i : Nat) (r : Runner) (job : Job) (plan : List Transfer),
    b.runners[i]? = some r → plans[i]? = some (job, plan) →
    r.job = job ∧ r.Journal plan (ownedBy b.shared.logs owners i)

/-- A runner's step changes no other runner, and makes the runner what its step gives. -/
theorem runner_at {j : Nat} (h : b.step (.runner j) = some b') (hr : b.runners[i]? = some r)
    (hr' : b'.runners[i]? = some r') :
    (j ≠ i ∧ r' = r) ∨ (j = i ∧ r.step b.context b.shared = some (b'.shared, r')) := by
  obtain ⟨x, p, hx, hs, rfl⟩ := step_runner h
  by_cases hji : j = i
  · subst hji
    rw [hx, Option.some.injEq] at hr
    subst hr
    rw [List.getElem?_set_self (List.getElem?_eq_some_iff.1 hx).1, Option.some.injEq] at hr'
    exact .inr ⟨rfl, by rw [hs, ← hr']⟩
  · rw [List.getElem?_set_ne hji, hr, Option.some.injEq] at hr'
    exact .inl ⟨hji, hr'.symm⟩

/-- After a move, a runner is as it was, unless the move was its own step, taken as it is or
once its tool's end reads as a fault. -/
theorem step_at (h : b.step m = some b') (hr : b.runners[i]? = some r)
    (hr' : b'.runners[i]? = some r') :
    r' = r ∨ ∃ r₀, (r₀ = r ∨ ∃ code, r.stage = .sealRun code ∧
        r₀ = { r with stage := .sealRun unexpectedFault }) ∧
      r₀.step b.context b.shared = some (b'.shared, r') := by
  cases m with
  | runner j =>
    rcases runner_at h hr hr' with ⟨-, heq⟩ | ⟨-, hs⟩
    · exact .inl heq
    · exact .inr ⟨r, .inl rfl, hs⟩
  | tick =>
    obtain ⟨-, rfl⟩ := step_tick h
    rw [hr, Option.some.injEq] at hr'
    exact .inl hr'.symm
  | cancel =>
    cases h
    rw [hr, Option.some.injEq] at hr'
    exact .inl hr'.symm
  | stopMonitor =>
    obtain ⟨-, -, rfl⟩ := step_stopMonitor h
    rw [close_runners, hr, Option.some.injEq] at hr'
    exact .inl hr'.symm
  | abandon j =>
    obtain ⟨x, code, hx, hxs, h'⟩ := step_abandon h
    by_cases hji : j = i
    · -- the runner that gave up on its tool takes its step with the tool's end a fault
      subst hji
      rw [hx, Option.some.injEq] at hr
      subst hr
      have hr₀ : (b.giveUp j x).runners[j]? = some { x with stage := .sealRun unexpectedFault } :=
        List.getElem?_set_self (List.getElem?_eq_some_iff.1 hx).1
      rcases runner_at h' hr₀ hr' with ⟨hne, -⟩ | ⟨-, hs⟩
      · exact absurd rfl hne
      · exact .inr ⟨_, .inr ⟨code, hxs, rfl⟩, hs⟩
    · have hr₀ : (b.giveUp j x).runners[i]? = some r := by
        rw [giveUp_runners, List.getElem?_set_ne hji, hr]
      rcases runner_at h' hr₀ hr' with ⟨-, heq⟩ | ⟨hji', -⟩
      · exact .inl heq
      · exact absurd hji' hji

/-- A runner's step keeps the owners of the log, naming the runner as the owner of the entry it
appends. -/
theorem Journal.runner_step (hi : b.Inv) (hj : b.Journal plans owners) {k : Nat}
    (h : b.step (.runner k) = some b') : ∃ owners', b'.Journal plans owners' := by
  obtain ⟨r, p, hr, hs, rfl⟩ := step_runner h
  have hmem : r ∈ b.runners := List.mem_of_getElem? hr
  have hk : k < b.runners.length := (List.getElem?_eq_some_iff.1 hr).1
  have hm := step_moves (hi.wf r hmem).busy hs
  have hkp : k < plans.length := hj.runners ▸ hk
  obtain ⟨job, plan, hplan⟩ : ∃ job plan, plans[k]? = some (job, plan) :=
    ⟨plans[k].1, plans[k].2, List.getElem?_eq_getElem hkp⟩
  obtain ⟨hjob, hjr⟩ := hj.runner k r job plan hr hplan
  -- the runners other than the stepped one are as they were
  have hother : ∀ j x, j ≠ k → (b.runners.set k p.2)[j]? = some x → b.runners[j]? = some x :=
    fun j x hjk hx => by rwa [List.getElem?_set_ne (Ne.symm hjk)] at hx
  have hself : ∀ x, (b.runners.set k p.2)[k]? = some x → x = p.2 := fun x hx => by
    rw [List.getElem?_set_self hk, Option.some.injEq] at hx
    exact hx.symm
  rcases hjr.step hm with ⟨hl, hj'⟩ | ⟨e, hl, hj'⟩
  · refine ⟨owners, ⟨by rw [hl]; exact hj.length, by simpa using hj.bound,
      by simpa using hj.runners, fun j x job' plan' hx hp => ?_⟩⟩
    show x.job = job' ∧ x.Journal plan' (ownedBy p.1.logs owners j)
    rw [hl]
    by_cases hjk : j = k
    · subst hjk
      rw [hplan, Option.some.injEq, Prod.mk.injEq] at hp
      obtain ⟨rfl, rfl⟩ := hp
      rw [hself x hx]
      exact ⟨hm.job.trans hjob, hj'⟩
    · exact hj.runner j x job' plan' (hother j x hjk hx) hp
  · refine ⟨owners ++ [k], ⟨by simp [hl, hj.length], ?_, by simpa using hj.runners,
      fun j x job' plan' hx hp => ?_⟩⟩
    · intro j hj'
      rcases List.mem_append.1 hj' with hj' | hj'
      · simpa using hj.bound j hj'
      · simp_all
    · show x.job = job' ∧ x.Journal plan' (ownedBy p.1.logs (owners ++ [k]) j)
      rw [hl, ownedBy_append hj.length.symm]
      by_cases hjk : j = k
      · subst hjk
        rw [hplan, Option.some.injEq, Prod.mk.injEq] at hp
        obtain ⟨rfl, rfl⟩ := hp
        rw [hself x hx, if_pos rfl]
        exact ⟨hm.job.trans hjob, hj'⟩
      · rw [if_neg (Ne.symm hjk), List.append_nil]
        exact hj.runner j x job' plan' (hother j x hjk hx) hp

/-- Reading the end of a runner's tool as a fault keeps the owners of the log. -/
theorem Journal.giveUp (hj : b.Journal plans owners) {k : Nat} (hr : b.runners[k]? = some r) :
    (b.giveUp k r).Journal plans owners := by
  refine ⟨hj.length, by simpa using hj.bound, by simpa using hj.runners,
    forall_giveUp hj.runner hr fun job plan ⟨hjob, hjr⟩ => ⟨hjob, hjr.giveUp _⟩⟩

/-- Every move keeps the owners of the log: a tick, a stop of the monitor and a cancellation
append nothing, and a runner that gives up on its tool takes its step. -/
theorem Journal.step (hi : b.Inv) (hj : b.Journal plans owners) (h : b.step m = some b') :
    ∃ owners', b'.Journal plans owners' := by
  cases m with
  | runner k => exact hj.runner_step hi h
  | tick =>
    obtain ⟨-, rfl⟩ := step_tick h
    exact ⟨owners, hj.length, hj.bound, hj.runners, hj.runner⟩
  | cancel =>
    cases h
    exact ⟨owners, hj.length, hj.bound, hj.runners, hj.runner⟩
  | stopMonitor =>
    obtain ⟨-, -, rfl⟩ := step_stopMonitor h
    exact ⟨owners, hj.length, hj.bound, hj.runners, hj.runner⟩
  | abandon k =>
    obtain ⟨r, code, hr, hs, h'⟩ := step_abandon h
    exact (hj.giveUp hr).runner_step (hi.giveUp hr hs) h'

/-- After a move, a runner's outcome, once there, stays; and the move that ends a runner decides
its outcome. -/
theorem Inv.step_outcome (hi : b.Inv) (h : b.step m = some b') (hr : b.runners[i]? = some r)
    (hr' : b'.runners[i]? = some r') :
    (∀ oc, r.outcome? = some oc → r'.outcome? = some oc) ∧
    (r.outcome? = none → ∀ oc, r'.outcome? = some oc →
      ((∃ t f, oc = .completed t f) ↔ r.units = []) ∧
      ((∃ msg, oc = .failed msg) ↔
        r.stage = .next ∧ r.units ≠ [] ∧ b.shared.disk.isDir b.context.cwd r.job.source = false) ∧
      (oc = .cancelled ↔ b.context.cancelled = true ∧ r.stage.holdsUnit = true)) := by
  rcases step_at h hr hr' with rfl | ⟨r₀, hr₀, hs⟩
  · exact ⟨fun _ h => h, fun hn oc ho => by rw [hn] at ho; cases ho⟩
  · -- the runner steps as it is, or as one waiting for its tool, which reads the same
    obtain ⟨hunits, hjob, hhold, hnext, hfin⟩ : r₀.units = r.units ∧ r₀.job = r.job ∧
        r₀.stage.holdsUnit = r.stage.holdsUnit ∧ (r₀.stage = .next) = (r.stage = .next) ∧
        ∀ oc, r.outcome? = some oc → r₀.stage = .finished oc := by
      rcases hr₀ with rfl | ⟨code, hcode, rfl⟩
      · exact ⟨rfl, rfl, rfl, rfl, fun oc ho => outcome?_eq_some.1 ho⟩
      · refine ⟨rfl, rfl, by simp [hcode, Stage.holdsUnit], by simp [hcode], fun oc ho => ?_⟩
        simp [outcome?, hcode] at ho
    have hw := hi.wf r (List.mem_of_getElem? hr)
    have hm := step_moves (fun hh => hunits ▸ hw.busy (hhold ▸ hh)) hs
    refine ⟨fun oc ho => ?_, fun _ oc ho => ?_⟩
    · -- a runner that has returned takes no more steps
      rw [step_of_finished (hfin oc ho)] at hs
      cases hs
    · have ho' := hm.outcome (outcome?_eq_some.1 ho)
      rwa [hunits, hjob, hhold, hnext] at ho'

theorem Journal.launch {o : Orchestrator} {d : Disk} {cwd : Loc} {now : Instant}
    {probes : List Bool} {prepared : List (Nat × Prepared)} :
    (o.launch d cwd now probes prepared).Journal (Orchestrator.activeJobs prepared) [] := by
  refine ⟨by rw [Orchestrator.launch_logs]; rfl, by simp,
    by rw [Orchestrator.launch_runners, List.length_map], fun i r job plan hr hp => ?_⟩
  rw [Orchestrator.launch_runners, List.getElem?_map, hp, Option.map_some,
    Option.some.injEq] at hr
  subst hr
  rw [Orchestrator.launch_logs]
  exact ⟨rfl, Journal.new job plan now⟩

end Batch

namespace Orchestrator

variable {o : Orchestrator} {d : Disk} {cwd : Loc} {now : Instant} {probes : List Bool}
  {ids : List Nat} {b : Batch}

/-- Along every run, some list names the runner that appended each entry of the log. -/
theorem Reaches.journal (h : o.Reaches d cwd now probes ids b) :
    ∃ owners, b.Journal (activeJobs (o.prepareAll d cwd now ids)) owners := by
  obtain ⟨ms, hms⟩ := h
  have hrun := @Batch.exec_preserves
    (fun x => x.Inv ∧ ∃ owners, x.Journal (activeJobs (o.prepareAll d cwd now ids)) owners)
    (fun ⟨hi, _, hj⟩ hs => ⟨hi.step hs, hj.step hi hs⟩) ms _ _
    ⟨Batch.Inv.start o d cwd now probes ids, [], Batch.Journal.launch⟩ hms
  exact hrun.2

/-- Each runner of a run logs one entry per file of a prefix of its plan, in plan order, and none
for any other file, whatever the order of the runners' steps, the business pause and the
cancellation: every entry of the log has an owner among the runners, and the entries of runner
`i` record the first files of the plan of the `i`-th active job. A runner that has returned
completed exactly when it logged its whole plan, and then its copied and failed files add up to
the plan, the failed ones being its entries with a negative transfer time. The step that ends a
runner decides how: completed when no file is left, failed when it finds the source directory
gone before its next file, cancelled when it sees the run cancelled while admitting, copying or
encrypting that file; and an outcome, once there, stays. -/
theorem runners_log_a_prefix_of_their_plans (h : o.Reaches d cwd now probes ids b) :
    (∃ owners : List Nat, owners.length = b.shared.logs.length ∧
      (∀ j ∈ owners, j < b.runners.length) ∧
      ∀ (i : Nat) (job : Job) (plan : List Transfer) (r : Runner),
        (activeJobs (o.prepareAll d cwd now ids))[i]? = some (job, plan) →
        b.runners[i]? = some r →
        (ownedBy b.shared.logs owners i).length ≤ plan.length ∧
        r.units = plan.drop (ownedBy b.shared.logs owners i).length ∧
        List.Forall₂ (LogEntry.Records job) (plan.take (ownedBy b.shared.logs owners i).length)
          (ownedBy b.shared.logs owners i) ∧
        (∀ oc, r.outcome? = some oc →
          ((∃ t f, oc = .completed t f) ↔
            (ownedBy b.shared.logs owners i).length = plan.length)) ∧
        (∀ t f, r.outcome? = some (.completed t f) → t + f = plan.length ∧
          f = ((ownedBy b.shared.logs owners i).filter (·.transferMs < 0)).length)) ∧
    ∀ (m : Move) (b' : Batch) (i : Nat) (r r' : Runner), b.step m = some b' →
      b.runners[i]? = some r → b'.runners[i]? = some r' →
      (∀ oc, r.outcome? = some oc → r'.outcome? = some oc) ∧
      (r.outcome? = none → ∀ oc, r'.outcome? = some oc →
        ((∃ t f, oc = .completed t f) ↔ r.units = []) ∧
        ((∃ msg, oc = .failed msg) ↔ r.stage = .next ∧ r.units ≠ [] ∧
          b.shared.disk.isDir b.context.cwd r.job.source = false) ∧
        (oc = .cancelled ↔ b.context.cancelled = true ∧ r.stage.holdsUnit = true)) := by
  obtain ⟨owners, hj⟩ := h.journal
  refine ⟨⟨owners, hj.length, hj.bound, fun i job plan r hp hr => ?_⟩,
    fun m b' i r r' hs hr hr' => h.inv.step_outcome hs hr hr'⟩
  obtain ⟨hjob, hjr⟩ := hj.runner i r job plan hr hp
  refine ⟨hjr.length_le, hjr.units, hjob ▸ hjr.entries,
    fun oc ho => hjr.completed_iff (Runner.outcome?_eq_some.1 ho),
    fun t f ho => hjr.completed_counts (Runner.outcome?_eq_some.1 ho)⟩

theorem runners_log_a_prefix_of_their_plans_of_two_jobs :
    ∃ b, twoJobs.Reaches twoTrees [] (.ofSeconds 0) [] [1, 2] b ∧
      b.runners.map (·.outcome?) = [some (.completed 1 0), some (.completed 2 0)] ∧
      b.shared.logs.map (·.sourcePath) = ["/u/y.p", "/s/x.p", "/u/z"] ∧
      (∃ owners : List Nat, owners.length = b.shared.logs.length ∧
        (∀ j ∈ owners, j < b.runners.length) ∧
        ∀ (i : Nat) (job : Job) (plan : List Transfer) (r : Runner),
          (activeJobs (twoJobs.prepareAll twoTrees [] (.ofSeconds 0) [1, 2]))[i]? = some (job, plan) →
          b.runners[i]? = some r →
          (ownedBy b.shared.logs owners i).length ≤ plan.length ∧
          r.units = plan.drop (ownedBy b.shared.logs owners i).length ∧
          List.Forall₂ (LogEntry.Records job) (plan.take (ownedBy b.shared.logs owners i).length)
            (ownedBy b.shared.logs owners i) ∧
          (∀ oc, r.outcome? = some oc →
            ((∃ t f, oc = .completed t f) ↔
              (ownedBy b.shared.logs owners i).length = plan.length)) ∧
          (∀ t f, r.outcome? = some (.completed t f) → t + f = plan.length ∧
            f = ((ownedBy b.shared.logs owners i).filter (·.transferMs < 0)).length)) ∧
      ∀ (m : Move) (b' : Batch) (i : Nat) (r r' : Runner), b.step m = some b' →
        b.runners[i]? = some r → b'.runners[i]? = some r' →
        (∀ oc, r.outcome? = some oc → r'.outcome? = some oc) ∧
        (r.outcome? = none → ∀ oc, r'.outcome? = some oc →
          ((∃ t f, oc = .completed t f) ↔ r.units = []) ∧
          ((∃ msg, oc = .failed msg) ↔ r.stage = .next ∧ r.units ≠ [] ∧
            b.shared.disk.isDir b.context.cwd r.job.source = false) ∧
          (oc = .cancelled ↔ b.context.cancelled = true ∧ r.stage.holdsUnit = true)) := by
  obtain ⟨b, hb, -, houtcomes, -, hlogs⟩ := twoJobs_done
  exact ⟨b, hb, houtcomes, hlogs, runners_log_a_prefix_of_their_plans hb⟩

end Orchestrator

end Safekeep
