import Safekeep.Proofs.Run.Journal

/-!
# What the progress record shows

Every publication of a runner is its own progress, which stays its job's: a runner's step
publishes nothing and keeps the runner's progress, or publishes its new progress
(`Runner.Publishes`). The step that ends a runner publishes how it ended: completed, or failed
also when it was cancelled (`JobOutcome.shownAs`).

Since the runners of a run have jobs of distinct ids, and the jobs that stopped before they could
run have yet other ids, the last publication for each job (`lastFor`) is, at every point of a
run, the idle progress of a stopped job, or the current progress of a runner that has started
(`Batch.Shown`). Once every runner has returned, each job's last publication shows how it ended.
-/

namespace Safekeep

open Safekeep.Time

/-- The state the progress record shows for a job that ended so: completed, failed (also when
cancelled), or inactive for a job that never became active. -/
def JobOutcome.shownAs : JobOutcome → RunState
  | .completed _ _ => .completed
  | .failed _ => .failed
  | .cancelled => .failed
  | .skipped _ => .inactive

def lastFor (ps : List Progress) (id : Nat) : Option Progress :=
  (ps.filter (·.jobId = id)).getLast?

section LastFor

variable {ps : List Progress} {p : Progress} {id : Nat}

@[simp] theorem lastFor_append_of_eq (h : p.jobId = id) : lastFor (ps ++ [p]) id = some p := by
  simp [lastFor, List.filter_append, h]

@[simp] theorem lastFor_append_of_ne (h : p.jobId ≠ id) :
    lastFor (ps ++ [p]) id = lastFor ps id := by
  simp [lastFor, List.filter_append, h]

/-- In a list of progresses of distinct jobs, each one is the last of its job. -/
theorem lastFor_of_nodup (hd : (ps.map (·.jobId)).Nodup) (hp : p ∈ ps) :
    lastFor ps p.jobId = some p := by
  have hf : ps.filter (·.jobId = p.jobId) = [p] := by
    induction ps with
    | nil => cases hp
    | cons q qs ih =>
      rw [List.map_cons, List.nodup_cons] at hd
      rcases List.mem_cons.1 hp with rfl | hq
      · -- no later progress is of the same job
        have hnone : qs.filter (·.jobId = p.jobId) = [] :=
          List.filter_eq_nil_iff.2 fun x hx hxp =>
            hd.1 (List.mem_map.2 ⟨x, hx, of_decide_eq_true hxp⟩)
        simp [hnone]
      · have hne : q.jobId ≠ p.jobId := fun h => hd.1 (h ▸ List.mem_map_of_mem hq)
        rw [List.filter_cons, if_neg (by simpa using hne), ih hd.2 hq]
  simp [lastFor, hf]

end LastFor

namespace Runner

variable {cx : Context} {sh sh₀ sh' : Shared} {r r₀ r' : Runner} {u : Transfer}

/-- What a runner's step does to the progress record and to the runner's own progress. Past its
first step, a runner either publishes nothing and keeps its progress, or publishes its new
progress; the progress stays its job's, and the step that ends it shows how it ended: completed,
failed or cancelled, never skipped. -/
structure Publishes (sh sh' : Shared) (r r' : Runner) : Prop where
  record : (r.stage ≠ .start ∧ sh'.published = sh.published ∧ r'.progress = r.progress) ∨
    sh'.published = sh.published ++ [r'.progress]
  jobId : r'.progress.jobId = r.progress.jobId
  job : r'.job = r.job
  ended : ∀ o, r'.stage = .finished o →
    r'.progress.state = o.shownAs ∧ ∀ reason, o ≠ .skipped reason

theorem Publishes.quiet (hr : r.stage ≠ .start) (hsh : sh'.published = sh.published)
    (hp : r'.progress = r.progress) (hj : r'.job = r.job) (he : ∀ o, r'.stage ≠ .finished o) :
    Publishes sh sh' r r' :=
  ⟨.inl ⟨hr, hsh, hp⟩, by rw [hp], hj, fun o ho => absurd ho (he o)⟩

/-- Stopping early publishes the failure. -/
theorem Publishes.of_abort (hsh : sh₀.published = sh.published) (hp : r₀.progress = r.progress)
    (hj : r₀.job = r.job) {o : JobOutcome} (ho : o.shownAs = .failed) :
    Publishes sh (r₀.abort sh₀ o).1 r (r₀.abort sh₀ o).2 :=
  ⟨.inr (by simp [abort, Shared.publish, hsh]), by simp [abort, hp], by simp [hj],
    fun o' ho' => by
      simp only [abort_stage, Stage.finished.injEq] at ho'
      subst ho'
      refine ⟨by simp [abort, ho], fun reason h => ?_⟩
      rw [h] at ho
      cases ho⟩

/-- Logging a file publishes the remaining counts. -/
theorem Publishes.of_logUnit (hsh : sh₀.published = sh.published)
    (hp : r₀.progress = r.progress) (hj : r₀.job = r.job) (tm cm : Int) (err : Option String) :
    Publishes sh (r₀.logUnit cx sh₀ u tm cm err).1 r (r₀.logUnit cx sh₀ u tm cm err).2 := by
  refine ⟨.inr ?_, ?_, by simp [hj], fun o ho => by simp at ho⟩
  · unfold logUnit
    split <;> simp [Shared.publish, hsh]
  · unfold logUnit
    split <;> simp [hp]

/-- Logging a file after the tool gave its code. -/
theorem Publishes.of_afterSeal (hsh : sh₀.published = sh.published) (code : Int) :
    Publishes sh (r.afterSeal cx sh₀ u code).1 r (r.afterSeal cx sh₀ u code).2 := by
  unfold afterSeal
  dsimp only
  split
  · split
    · exact Publishes.of_logUnit (by exact hsh) rfl rfl _ _ _
    · exact Publishes.of_logUnit hsh rfl rfl _ _ _
  · exact Publishes.of_logUnit hsh rfl rfl _ _ _

theorem release_progress (r : Runner) (sh : Shared) : (r.release sh).2.progress = r.progress := by
  unfold release; split <;> rfl

theorem release_published (r : Runner) (sh : Shared) :
    (r.release sh).1.published = sh.published := by
  unfold release; split <;> rfl

/-- Ending a copy logs the file, or hands it to the tool without a publication. -/
theorem Publishes.of_endCopy (hr : r.stage ≠ .start) (hsh : sh₀.published = sh.published)
    (result : Except Errno Nat) :
    Publishes sh (r.endCopy cx sh₀ u result).1 r (r.endCopy cx sh₀ u result).2 := by
  have hp := release_progress r sh₀
  have hj := release_job r sh₀
  have hpub : (r.release sh₀).1.published = sh.published := by rw [release_published, hsh]
  unfold endCopy
  generalize r.release sh₀ = x at hp hj hpub ⊢
  obtain ⟨sh₁, r₁⟩ := x
  cases result with
  | error e => exact Publishes.of_logUnit hpub hp hj _ _ _
  | ok n =>
    dsimp only
    split
    · exact Publishes.quiet hr hpub hp hj (by simp)
    · exact Publishes.of_logUnit hpub hp hj _ _ _

/-- A cancelled copy gives the slot back, removes the target and publishes the failure. -/
theorem Publishes.of_cancelCopy :
    Publishes sh (r.cancelCopy cx sh u).1 r (r.cancelCopy cx sh u).2 := by
  have hp := release_progress r sh
  have hj := release_job r sh
  have hpub := release_published r sh
  unfold cancelCopy
  generalize r.release sh = x at hp hj hpub ⊢
  obtain ⟨sh₁, r₁⟩ := x
  have hc : JobOutcome.cancelled.shownAs = .failed := rfl
  dsimp only
  split
  · exact Publishes.of_abort (by exact hpub) hp hj hc
  · exact Publishes.of_abort hpub hp hj hc

theorem Publishes.of_enter (hsh : sh₀.published = sh.published) (hp : r₀.progress = r.progress)
    (hj : r₀.job = r.job) : Publishes sh (r₀.enter sh₀ u).1 r (r₀.enter sh₀ u).2 :=
  ⟨.inr (by simp [enter, Shared.publish, hsh]), by simp [enter, hp], by simp [enter, hj],
    fun o ho => by simp [enter] at ho⟩

theorem afterPause_ne_finished (u : Transfer) (o : JobOutcome) : afterPause u ≠ .finished o := by
  unfold afterPause; split_ifs <;> simp

/-- What one step of a runner publishes. -/
theorem step_publishes {p : Shared × Runner} (h : r.step cx sh = some p) :
    Publishes sh p.1 r p.2 := by
  cases takes_of_step h with
  | totals => exact ⟨.inr rfl, rfl, rfl, fun o ho => by simp at ho⟩
  | complete =>
    refine ⟨.inr rfl, rfl, rfl, fun o ho => ?_⟩
    cases ho
    exact ⟨rfl, fun _ h => by cases h⟩
  -- moves inside the runner's life publish nothing
  | toGate hs | drainedToSlot hs | opened hs | chunk hs | launch hs =>
    exact Publishes.quiet (by simp [hs]) rfl rfl rfl (by simp)
  | pastPause hs => exact Publishes.quiet (by simp [hs]) rfl rfl rfl (afterPause_ne_finished _)
  -- stopping early publishes the failure
  | lost | unitless | cancelAtGate | cancelAtTool | cancelReap =>
    exact Publishes.of_abort (by rfl) rfl rfl (by rfl)
  | cancelCopy => exact Publishes.of_cancelCopy
  -- passing the gate publishes the file as current
  | enterAtPause | enterAtDrain | takeSlot => exact Publishes.of_enter rfl rfl rfl
  | openFailed hs | readFailed hs | chunkFailed hs | copied hs | finishFailed hs =>
    exact Publishes.of_endCopy (by simp [hs]) (by rfl) _
  | sealDecided | launchRefused | reap => exact Publishes.of_afterSeal (by rfl) _

/-- What a runner shows of itself: its progress is its job's, and once it has returned its
progress shows how it ended, which is never as a skipped job. -/
structure Shows (r : Runner) : Prop where
  jobId : r.progress.jobId = r.job.id
  ended : ∀ o, r.stage = .finished o →
    r.progress.state = o.shownAs ∧ ∀ reason, o ≠ .skipped reason

theorem Shows.new (job : Job) (plan : List Transfer) (now : Instant) :
    (Runner.new job plan now).Shows :=
  ⟨rfl, fun o h => by simp [Runner.new] at h⟩

theorem Publishes.shows (hp : Publishes sh sh' r r') (hs : r.Shows) : r'.Shows :=
  ⟨by rw [hp.jobId, hs.jobId, hp.job], hp.ended⟩

theorem Publishes.lastFor_of_ne (hp : Publishes sh sh' r r') {id : Nat}
    (h : r.progress.jobId ≠ id) : lastFor sh'.published id = lastFor sh.published id := by
  rcases hp.record with ⟨-, hsh, -⟩ | hsh
  · rw [hsh]
  · rw [hsh, lastFor_append_of_ne (by rw [hp.jobId]; exact h)]

/-- After a step, the runner's progress is the last published for its job, if it was before the
step or the runner had not started. -/
theorem Publishes.lastFor_self (hp : Publishes sh sh' r r')
    (hlast : lastFor sh.published r.progress.jobId = some r.progress ∨ r.stage = .start) :
    lastFor sh'.published r'.progress.jobId = some r'.progress := by
  rcases hp.record with ⟨hst, hsh, hpr⟩ | hsh
  · rw [hsh, hpr]
    exact hlast.resolve_right hst
  · rw [hsh, lastFor_append_of_eq rfl]

end Runner

/-- Keys read off the kept entries of a list are a sublist of the entries' own keys. -/
theorem map_filterMap_sublist {α β : Type} {l : List α} {f : α → Option β} {k : α → Nat}
    {g : β → Nat} (h : ∀ x ∈ l, ∀ y, f x = some y → g y = k x) :
    ((l.filterMap f).map g).Sublist (l.map k) := by
  induction l with
  | nil => simp
  | cons x xs ih =>
    have ih' := ih fun x' hx' => h x' (List.mem_cons_of_mem x hx')
    cases hf : f x with
    | none => simpa [List.filterMap_cons, hf] using ih'.cons (k x)
    | some y =>
      simpa [List.filterMap_cons, hf, h x List.mem_cons_self y hf] using ih'.cons_cons (k x)

namespace Batch

open Runner

variable {b b' : Batch} {m : Move} {idles : List Progress}

/-- What the progress record shows at every point of a run whose stopped jobs published `idles`:
every runner shows its own progress, which is the last published for its job once it has
started; each stopped job's idle progress is the last published for it; and no two runners, and
no runner and stopped job, are of one job id. -/
structure Shown (idles : List Progress) (b : Batch) : Prop where
  shows : ∀ r ∈ b.runners, r.Shows
  last : ∀ r ∈ b.runners, lastFor b.shared.published r.job.id = some r.progress ∨
    (r.stage = .start ∧ lastFor b.shared.published r.job.id = none)
  idle : ∀ p ∈ idles, lastFor b.shared.published p.jobId = some p
  distinct : (b.runners.map (·.job.id)).Nodup
  apart : ∀ p ∈ idles, ∀ r ∈ b.runners, p.jobId ≠ r.job.id

theorem Shown.of_eq (hs : b.Shown idles) (hr : b'.runners = b.runners)
    (hp : b'.shared.published = b.shared.published) : b'.Shown idles :=
  ⟨hr ▸ hs.shows, by rw [hr, hp]; exact hs.last, by rw [hp]; exact hs.idle,
    hr ▸ hs.distinct, hr ▸ hs.apart⟩

/-- A runner's step keeps the job of every runner, so their ids. -/
theorem map_jobId_set {rs : List Runner} {k : Nat} {r r' : Runner} (hr : rs[k]? = some r)
    (hj : r'.job = r.job) : (rs.set k r').map (·.job.id) = rs.map (·.job.id) := by
  apply List.ext_getElem?
  intro j
  rw [List.getElem?_map, List.getElem?_map, List.getElem?_set]
  split
  · rename_i hjk
    subst hjk
    obtain ⟨hk, rfl⟩ := List.getElem?_eq_some_iff.1 hr
    simp [hk, hj]
  · rfl

/-- A runner's step keeps what the progress record shows: it publishes only its own progress,
and no other runner or stopped job is of its job. -/
theorem Shown.runner_step (hs : b.Shown idles) {k : Nat} (h : b.step (.runner k) = some b') :
    b'.Shown idles := by
  obtain ⟨r, p, hr, hstep, rfl⟩ := step_runner h
  have hmem : r ∈ b.runners := List.mem_of_getElem? hr
  have hp := step_publishes hstep
  have hshows := hp.shows (hs.shows r hmem)
  have hids := map_jobId_set hr hp.job
  have hid : p.2.job.id = r.job.id := by rw [hp.job]
  -- the runners of the new run are the stepped one and runners of the old run
  have hin : ∀ x ∈ b.runners.set k p.2, x = p.2 ∨ x ∈ b.runners := fun x hx =>
    (List.mem_or_eq_of_mem_set hx).symm
  have hold : r.progress.jobId = r.job.id := (hs.shows r hmem).jobId
  refine ⟨fun x hx => ?_, fun x hx => ?_, fun q hq => ?_, ?_, fun q hq x hx => ?_⟩
  · rcases hin x hx with rfl | hx
    · exact hshows
    · exact hs.shows x hx
  · by_cases hxr : x.job.id = r.job.id
    · -- the only runner of the stepped runner's job is the stepped runner
      have hxp : x = p.2 :=
        List.inj_on_of_nodup_map (hids ▸ hs.distinct) hx
          (List.mem_set (List.getElem?_eq_some_iff.1 hr).1 _) (hxr.trans hid.symm)
      subst hxp
      left
      rw [← hshows.jobId]
      refine hp.lastFor_self ?_
      rw [hold]
      rcases hs.last r hmem with h | h
      · exact .inl h
      · exact .inr h.1
    · rcases hin x hx with rfl | hx'
      · exact absurd hid hxr
      · rw [hp.lastFor_of_ne (by rw [hold]; exact Ne.symm hxr)]
        exact hs.last x hx'
  · rw [hp.lastFor_of_ne (by rw [hold]; exact Ne.symm (hs.apart q hq r hmem))]
    exact hs.idle q hq
  · exact hids ▸ hs.distinct
  · rcases hin x hx with rfl | hx
    · rw [hid]
      exact hs.apart q hq r hmem
    · exact hs.apart q hq x hx

/-- Reading a waiting runner's tool end as a fault keeps what the progress record shows. -/
theorem Shown.giveUp (hs : b.Shown idles) {k : Nat} {r : Runner} (hr : b.runners[k]? = some r)
    {code : Int} (hc : r.stage = .sealRun code) : (b.giveUp k r).Shown idles := by
  have hmem := List.mem_of_getElem? hr
  have hin : ∀ x ∈ (b.giveUp k r).runners,
      x = { r with stage := .sealRun unexpectedFault } ∨ x ∈ b.runners := fun x hx =>
    (List.mem_or_eq_of_mem_set hx).symm
  refine ⟨fun x hx => ?_, fun x hx => ?_, hs.idle, ?_, fun q hq x hx => ?_⟩
  · rcases hin x hx with rfl | hx
    · exact ⟨(hs.shows r hmem).jobId, fun o ho => by cases ho⟩
    · exact hs.shows x hx
  · rcases hin x hx with rfl | hx
    · rcases hs.last r hmem with hl | ⟨hst, -⟩
      · exact .inl hl
      · rw [hc] at hst
        cases hst
    · exact hs.last x hx
  · rw [giveUp_runners, map_set_of_eq (f := (·.job.id))
      (c := { r with stage := .sealRun unexpectedFault }) hr rfl]
    exact hs.distinct
  · rcases hin x hx with rfl | hx
    · exact hs.apart q hq r hmem
    · exact hs.apart q hq x hx

/-- Every move keeps what the progress record shows. -/
theorem Shown.step (hs : b.Shown idles) (h : b.step m = some b') : b'.Shown idles := by
  cases m with
  | runner k => exact hs.runner_step h
  | tick =>
    obtain ⟨-, rfl⟩ := step_tick h
    exact hs.of_eq rfl rfl
  | cancel =>
    cases h
    exact hs.of_eq rfl rfl
  | stopMonitor =>
    obtain ⟨-, -, rfl⟩ := step_stopMonitor h
    exact hs.of_eq rfl rfl
  | abandon k =>
    obtain ⟨r, code, hr, hc, h'⟩ := step_abandon h
    exact (hs.giveUp hr hc).runner_step h'

/-- Once every runner has returned, the last progress published for each runner's job shows
how the runner ended. -/
theorem Shown.ended (hs : b.Shown idles) {r : Runner} (hr : r ∈ b.runners) {o : JobOutcome}
    (ho : r.stage = .finished o) :
    ∃ p, lastFor b.shared.published r.job.id = some p ∧ p.state = o.shownAs := by
  refine ⟨r.progress, ?_, ((hs.shows r hr).ended o ho).1⟩
  rcases hs.last r hr with h | h
  · exact h
  · rw [ho] at h
    cases h.1

end Batch

/-- Each job a preparation names is of the id it was prepared for: the idle progress of a
stopped job, and the job of an active one. -/
def Prepared.Names (id : Nat) : Prepared → Prop
  | .stopped _ idle => ∀ p ∈ idle, p.jobId = id
  | .active job _ => job.id = id

theorem lastFor_eq_none {ps : List Progress} {id : Nat} (h : ∀ p ∈ ps, p.jobId ≠ id) :
    lastFor ps id = none := by
  have hf : ps.filter (·.jobId = id) = [] :=
    List.filter_eq_nil_iff.2 fun p hp hpid => h p hp (of_decide_eq_true hpid)
  simp [lastFor, hf]

namespace Orchestrator

variable (o : Orchestrator) (d : Disk) (cwd : Loc) (now : Instant) (probes : List Bool)
  (prepared : List (Nat × Prepared))

theorem launch_published : (o.launch d cwd now probes prepared).shared.published =
    prepared.filterMap fun (_, p) => match p with
      | .stopped _ idle => idle
      | .active _ _ => none := by
  unfold launch; split; rfl

variable {o d cwd now probes prepared}

/-- The active jobs of a preparation are those it prepared as active. -/
theorem mem_activeJobs_iff {job : Job} {plan : List Transfer} :
    (job, plan) ∈ activeJobs prepared ↔
      ∃ id, (id, Prepared.active job plan) ∈ prepared := by
  unfold activeJobs
  rw [List.mem_filterMap]
  constructor
  · rintro ⟨⟨id, _ | ⟨job', plan'⟩⟩, hx, h⟩
    · cases h
    · cases h
      exact ⟨id, hx⟩
  · rintro ⟨id, hx⟩
    exact ⟨_, hx, rfl⟩

/-- A run starts with the idle progress of each stopped job of its preparation published. -/
theorem mem_launch_published_iff {q : Progress} :
    q ∈ (o.launch d cwd now probes prepared).shared.published ↔
      ∃ id oc, (id, Prepared.stopped oc (some q)) ∈ prepared := by
  rw [launch_published, List.mem_filterMap]
  constructor
  · rintro ⟨⟨id, ⟨oc, idle⟩ | _⟩, hx, h⟩
    · cases h
      exact ⟨id, oc, hx⟩
    · cases h
  · rintro ⟨id, oc, hx⟩
    exact ⟨_, hx, rfl⟩

end Orchestrator

namespace Batch

open Orchestrator

variable {o : Orchestrator} {d : Disk} {cwd : Loc} {now : Instant} {probes : List Bool}
  {prepared : List (Nat × Prepared)}

/-- A run starts showing the idle progress of its stopped jobs and nothing of its runners, when
each id is prepared once and each preparation names only jobs of its id. -/
theorem Shown.launch (hkeys : (prepared.map (·.1)).Nodup)
    (hnames : ∀ x ∈ prepared, x.2.Names x.1) :
    (o.launch d cwd now probes prepared).Shown
      (o.launch d cwd now probes prepared).shared.published := by
  -- the runners' jobs and the idle progresses are of the ids of their preparations
  have hdistinct : ((o.launch d cwd now probes prepared).runners.map (·.job.id)).Nodup := by
    rw [launch_runners, List.map_map]
    show ((activeJobs prepared).map (·.1.id)).Nodup
    rw [activeJobs]
    refine (map_filterMap_sublist ?_).nodup hkeys
    rintro ⟨id, _ | ⟨job, plan⟩⟩ hx y hy
    · cases hy
    · cases hy
      exact hnames _ hx
  have hidles : ((o.launch d cwd now probes prepared).shared.published.map (·.jobId)).Nodup := by
    rw [launch_published]
    refine (map_filterMap_sublist ?_).nodup hkeys
    rintro ⟨id, _ | _⟩ hx q hq
    · exact hnames _ hx q hq
    · cases hq
  -- a stopped job and an active job come from different preparations, so have different ids
  have hapart : ∀ q ∈ (o.launch d cwd now probes prepared).shared.published,
      ∀ r ∈ (o.launch d cwd now probes prepared).runners, q.jobId ≠ r.job.id := by
    intro q hq r hr hqr
    obtain ⟨id, oc, hx⟩ := mem_launch_published_iff.1 hq
    rw [launch_runners] at hr
    obtain ⟨⟨job, plan⟩, hjob, rfl⟩ := List.mem_map.1 hr
    obtain ⟨id', hy⟩ := mem_activeJobs_iff.1 hjob
    have hq' : q.jobId = id := hnames _ hx q rfl
    have hj' : job.id = id' := hnames _ hy
    have hid : id = id' := by
      rw [← hq', ← hj']
      exact hqr
    cases List.inj_on_of_nodup_map hkeys hx hy hid
  refine ⟨?_, ?_, fun q hq => lastFor_of_nodup hidles hq, hdistinct, hapart⟩
  · rw [launch_runners]
    intro r hr
    obtain ⟨⟨job, plan⟩, -, rfl⟩ := List.mem_map.1 hr
    exact Runner.Shows.new job plan now
  · intro r hr
    right
    refine ⟨?_, lastFor_eq_none fun q hq => hapart q hq r hr⟩
    rw [launch_runners] at hr
    obtain ⟨⟨job, plan⟩, -, rfl⟩ := List.mem_map.1 hr
    rfl

end Batch

end Safekeep
