import Safekeep.Proofs.Run.Settle
import Safekeep.Proofs.Run.Publish

/-!
# What a run reports

A run reports each requested id once, in the order of first mention (`FirstMentions`). How the
id is prepared decides its line (`Preparation`): skipped when it is not configured, or when its
source, or else its target, is not a directory; failed without becoming active when its planning
fails; otherwise active, with the outcome that the job's own runner returned in the run's final
state, which the canonical order always reaches (`Orchestrator.Reaches.settle`). The run fails
(exit code 1) exactly when no job became active. For every configured id, the last progress
published agrees with its line (`Reports`): inactive when skipped, failed when failed or
cancelled, completed when completed.
-/

namespace Safekeep

open Safekeep.Time

/-! ## Each id once, in order of first mention -/

/-- `l` lists the members of `ids`, each once, in the order of their first mention. -/
structure FirstMentions (ids l : List Nat) : Prop where
  nodup : l.Nodup
  mem : ∀ x, x ∈ l ↔ x ∈ ids
  ordered : l.Pairwise fun a b => ids.idxOf a < ids.idxOf b

theorem distinctIds_append (xs : List Nat) (x : Nat) :
    distinctIds (xs ++ [x]) =
      if (distinctIds xs).contains x then distinctIds xs else distinctIds xs ++ [x] := by
  rw [distinctIds, List.foldl_append]
  rfl

/-- An id already mentioned changes nothing; a new one is listed last. -/
theorem distinctIds_firstMentions (ids : List Nat) : FirstMentions ids (distinctIds ids) := by
  induction ids using List.reverseRecOn with
  | nil => exact ⟨List.nodup_nil, by simp [distinctIds], List.Pairwise.nil⟩
  | append_singleton xs x ih =>
    -- the ids listed so far keep their places in the longer list
    have hkeep : ∀ a ∈ distinctIds xs, (xs ++ [x]).idxOf a = xs.idxOf a :=
      fun a ha => List.idxOf_append_of_mem ((ih.mem a).1 ha)
    have hold : (distinctIds xs).Pairwise fun a b => (xs ++ [x]).idxOf a < (xs ++ [x]).idxOf b :=
      ih.ordered.imp_of_mem fun ha hb hab => by rw [hkeep _ ha, hkeep _ hb]; exact hab
    rw [distinctIds_append]
    by_cases hx : x ∈ xs
    · have hc : (distinctIds xs).contains x = true := by simpa [ih.mem] using hx
      rw [if_pos hc]
      refine ⟨ih.nodup, fun y => ?_, hold⟩
      rw [ih.mem, List.mem_append, List.mem_singleton]
      constructor
      · exact .inl
      · rintro (hy | rfl)
        · exact hy
        · exact hx
    · have hnew : x ∉ distinctIds xs := fun h => hx ((ih.mem x).1 h)
      rw [if_neg (by simpa using hnew)]
      refine ⟨?_, fun y => by simp [ih.mem], ?_⟩
      · refine List.nodup_append.2 ⟨ih.nodup, List.nodup_singleton x, ?_⟩
        intro a ha b hb hab
        rw [List.mem_singleton] at hb
        exact hnew (hb ▸ hab ▸ ha)
      · refine List.pairwise_append.2 ⟨hold, List.pairwise_singleton _ x, fun a ha b hb => ?_⟩
        rw [List.mem_singleton] at hb
        subst hb
        -- the new id comes after every id mentioned before it
        calc (xs ++ [b]).idxOf a = xs.idxOf a := hkeep a ha
          _ < xs.length := List.idxOf_lt_length_of_mem ((ih.mem a).1 ha)
          _ = (xs ++ [b]).idxOf b := by rw [List.idxOf_append_of_notMem hx]; simp

/-! ## Preparing one id -/

theorem Catalog.find?_id {c : Catalog} {id : Nat} {job : Job} (h : c.find? id = some job) :
    job.id = id := by
  simpa using List.find?_some h

section Preparation

variable (d : Disk) (cwd : Loc) (host : Host) (s : Settings) (jobs : Catalog) (now : Instant)
  (id : Nat)

/-- How an id is prepared: skipped when it is not configured, or when its job's source, or else
its target, is not a directory, publishing the job as inactive; failed when planning fails,
publishing the job as failed; otherwise active with its plan. -/
inductive Preparation : Prepared → Prop
  | unknown : jobs.find? id = none → Preparation (.stopped (.skipped .unknownJob) none)
  | sourceMissing (job : Job) : jobs.find? id = some job → d.isDir cwd job.source = false →
      Preparation (.stopped (.skipped .sourceMissing)
        (some (Progress.idle job.id job.name .inactive now)))
  | targetMissing (job : Job) : jobs.find? id = some job → d.isDir cwd job.source = true →
      d.isDir cwd job.target = false →
      Preparation (.stopped (.skipped .targetMissing)
        (some (Progress.idle job.id job.name .inactive now)))
  | planFailed (job : Job) (e : PlanError) : jobs.find? id = some job →
      d.isDir cwd job.source = true → d.isDir cwd job.target = true →
      d.plan cwd host s job = .error e →
      Preparation (.stopped (.failed e.message) (some (Progress.idle job.id job.name .failed now)))
  | planned (job : Job) (plan : List Transfer) : jobs.find? id = some job →
      d.isDir cwd job.source = true → d.isDir cwd job.target = true →
      d.plan cwd host s job = .ok plan → Preparation (.active job plan)

theorem prepareJob_spec : Preparation d cwd host s jobs now id (prepareJob d cwd host s jobs now id) := by
  unfold prepareJob
  split
  next hfind => exact .unknown hfind
  next job hjob =>
    split
    next hsrc => exact .sourceMissing job hjob (by simpa using hsrc)
    next hsrc =>
      have hsrc : d.isDir cwd job.source = true := by simpa using hsrc
      split
      next htgt => exact .targetMissing job hjob hsrc (by simpa using htgt)
      next htgt =>
        have htgt : d.isDir cwd job.target = true := by simpa using htgt
        split
        next plan hplan => exact .planned job plan hjob hsrc htgt hplan
        next e hplan => exact .planFailed job e hjob hsrc htgt hplan

variable {d cwd host s jobs now id}

/-- A preparation names only the job of its id. -/
theorem Preparation.names {p : Prepared} (hp : Preparation d cwd host s jobs now id p) :
    p.Names id := by
  cases hp with
  | unknown => intro q hq; cases hq
  | sourceMissing job hjob =>
    rintro q ⟨⟩
    exact Catalog.find?_id hjob
  | targetMissing job hjob =>
    rintro q ⟨⟩
    exact Catalog.find?_id hjob
  | planFailed job e hjob =>
    rintro q ⟨⟩
    exact Catalog.find?_id hjob
  | planned job plan hjob => exact Catalog.find?_id hjob

end Preparation

/-! ## The report -/

namespace Batch

variable {b : Batch}

/-- The outcome a run reports for a job is the one its own runner returned, the runners being
of distinct jobs. -/
theorem outcomeOf_eq (hd : (b.runners.map (·.job.id)).Nodup) {r : Runner} (hr : r ∈ b.runners)
    {oc : JobOutcome} (ho : r.outcome? = some oc) : b.outcomeOf r.job.id = oc := by
  unfold outcomeOf
  have hsome : ((b.runners.map fun r => (r.job.id, r.outcome?.getD .cancelled)).find?
      (·.1 == r.job.id)).isSome := List.find?_isSome.2 ⟨_, List.mem_map_of_mem hr, by simp⟩
  obtain ⟨y, hy⟩ := Option.isSome_iff_exists.1 hsome
  obtain ⟨r', hr', rfl⟩ := List.mem_map.1 (List.mem_of_find?_eq_some hy)
  have hid : r'.job.id = r.job.id := by simpa using List.find?_some hy
  obtain rfl : r' = r := List.inj_on_of_nodup_map hd hr' hr hid
  simp [hy, ho]

theorem reportLine_jobId (x : Nat × Prepared) : (b.reportLine x).jobId = x.1 := by
  obtain ⟨id, _ | _⟩ := x <;> rfl

end Batch

/-- The run fails exactly when no job became active, so also when no id was requested. -/
theorem RunReport.exitCode_eq_one_iff (report : RunReport) :
    report.exitCode = 1 ↔ ∀ line ∈ report.jobs, line.activated = false := by
  have hnone : (report.jobs.filter (·.activated)).length = 0 ↔
      ∀ line ∈ report.jobs, line.activated = false := by
    rw [List.length_eq_zero_iff, List.filter_eq_nil_iff]
    simp
  unfold RunReport.exitCode RunReport.jobsRan
  rw [← hnone]
  split <;> simp_all

/-- What a run's report says of one id, given the catalog, the disk, the run's final state `done`
and the progress record `published`: skipped as unknown exactly when the id is not configured;
skipped for its source exactly when the job's source is not a directory, and for its target
exactly when the source is one but the target is not; failed without becoming active exactly
when planning failed, with the planner's message; active exactly when planning succeeded, with
the outcome the job's own runner returned; and for a configured id, the last progress published
shows the line's outcome. -/
structure Reports (o : Orchestrator) (d : Disk) (cwd : Loc) (done : Batch)
    (published : List Progress) (line : JobReport) : Prop where
  unknown : line.outcome = .skipped .unknownJob ↔ o.jobs.find? line.jobId = none
  sourceMissing : line.outcome = .skipped .sourceMissing ↔
    ∃ job, o.jobs.find? line.jobId = some job ∧ d.isDir cwd job.source = false
  targetMissing : line.outcome = .skipped .targetMissing ↔
    ∃ job, o.jobs.find? line.jobId = some job ∧ d.isDir cwd job.source = true ∧
      d.isDir cwd job.target = false
  planFailed : (line.activated = false ∧ ∃ msg, line.outcome = .failed msg) ↔
    ∃ job, o.jobs.find? line.jobId = some job ∧ d.isDir cwd job.source = true ∧
      d.isDir cwd job.target = true ∧
      ∃ e, d.plan cwd o.host o.settings job = .error e ∧ line.outcome = .failed e.message
  ran : line.activated = true ↔
    ∃ job, o.jobs.find? line.jobId = some job ∧ d.isDir cwd job.source = true ∧
      d.isDir cwd job.target = true ∧ (∃ plan, d.plan cwd o.host o.settings job = .ok plan) ∧
      ∃ r ∈ done.runners, r.job = job ∧ r.outcome? = some line.outcome
  shown : ∀ job, o.jobs.find? line.jobId = some job →
    ∃ p, lastFor published line.jobId = some p ∧ p.state = line.outcome.shownAs

namespace Orchestrator

variable {o : Orchestrator} {d : Disk} {cwd : Loc} {now : Instant} {probes : List Bool}
  {ids : List Nat} {b : Batch}

theorem prepareAll_ids : (o.prepareAll d cwd now ids).map (·.1) = distinctIds ids := by
  simp [prepareAll, Function.comp_def]

theorem preparation_of_mem {x : Nat × Prepared} (hx : x ∈ o.prepareAll d cwd now ids) :
    Preparation d cwd o.host o.settings o.jobs now x.1 x.2 := by
  obtain ⟨id, -, rfl⟩ := List.mem_map.1 hx
  exact prepareJob_spec ..

/-- Along every run, the last progress published for each job is the idle progress of a stopped
job or the current progress of a runner. -/
theorem Reaches.shown (h : o.Reaches d cwd now probes ids b) :
    b.Shown (o.launch d cwd now probes (o.prepareAll d cwd now ids)).shared.published := by
  obtain ⟨ms, hms⟩ := h
  have hkeys : ((o.prepareAll d cwd now ids).map (·.1)).Nodup := by
    rw [prepareAll_ids]
    exact (distinctIds_firstMentions ids).nodup
  exact Batch.exec_preserves Batch.Shown.step
    (Batch.Shown.launch hkeys fun x hx => (preparation_of_mem hx).names) hms

/-- Every active job has a runner of its own at every point of the run. -/
theorem Reaches.runner_of_active (h : o.Reaches d cwd now probes ids b) {job : Job}
    {plan : List Transfer} (hjob : (job, plan) ∈ activeJobs (o.prepareAll d cwd now ids)) :
    ∃ r ∈ b.runners, r.job = job := by
  obtain ⟨owners, hj⟩ := h.journal
  obtain ⟨i, hi⟩ := List.mem_iff_getElem?.1 hjob
  have hlt : i < b.runners.length := hj.runners ▸ (List.getElem?_eq_some_iff.1 hi).1
  exact ⟨b.runners[i], List.getElem_mem hlt,
    (hj.runner i _ job plan (List.getElem?_eq_getElem hlt) hi).1⟩

/-- In a run where every runner has returned, the report line of every prepared id says what
`Reports` asks. -/
theorem Reaches.reports (h : o.Reaches d cwd now probes ids b) (hdone : b.isDone = true)
    {x : Nat × Prepared} (hx : x ∈ o.prepareAll d cwd now ids) :
    Reports o d cwd b b.shared.published (b.reportLine x) := by
  have hshown := h.shown
  obtain ⟨id, p⟩ := x
  -- the idle progress of a stopped job of a configured id is the last published for it
  have hidle : ∀ {oc : JobOutcome} {q : Progress}, p = .stopped oc (some q) → q.jobId = id →
      lastFor b.shared.published id = some q := fun hp hid => by
    subst hp
    exact hid ▸ hshown.idle _ (mem_launch_published_iff.2 ⟨id, _, hx⟩)
  have hprep : Preparation d cwd o.host o.settings o.jobs now id p := preparation_of_mem hx
  cases hprep with
  | unknown hfind =>
    refine ⟨?_, ?_, ?_, ?_, ?_, ?_⟩ <;> simp [Batch.reportLine, hfind]
  | sourceMissing job hfind | targetMissing job hfind | planFailed job _ hfind =>
    -- an active line would need the job's directories and plan, which it lacks
    refine ⟨?_, ?_, ?_, ?_, ⟨fun h => ?_, fun ⟨_, hf, hs, ht, hp, _⟩ => ?_⟩,
      fun _ _ => ⟨_, hidle rfl (Catalog.find?_id hfind), rfl⟩⟩ <;>
      simp_all [Batch.reportLine]
  | planned job plan hfind hsrc htgt hplan =>
    -- the job's runner has returned, and its outcome is the line's
    obtain ⟨r, hr, hjob⟩ := h.runner_of_active (mem_activeJobs_iff.2 ⟨id, hx⟩)
    have hfin : r.isFinished = true := List.all_eq_true.1 hdone r hr
    obtain ⟨oc, ho⟩ : ∃ oc, r.outcome? = some oc := by
      cases hoc : r.outcome? with
      | none => rw [Runner.outcome?_eq_none.1 hoc] at hfin; cases hfin
      | some oc => exact ⟨oc, rfl⟩
    have hid : r.job.id = id := by rw [hjob]; exact Catalog.find?_id hfind
    have hline : b.reportLine (id, .active job plan) = ⟨id, oc, true⟩ := by
      simp [Batch.reportLine, ← hid, Batch.outcomeOf_eq hshown.distinct hr ho]
    have hended := (hshown.shows r hr).ended oc (Runner.outcome?_eq_some.1 ho)
    rw [hline]
    refine ⟨?_, ?_, ?_, ?_, ?_, fun _ _ => ?_⟩
    · simp [hended.2, hfind]
    · simp [hended.2, hfind, hsrc]
    · simp [hended.2, hfind, htgt]
    · simp [hfind, hsrc, htgt, hplan]
    · exact ⟨fun _ => ⟨job, hfind, hsrc, htgt, ⟨plan, hplan⟩, r, hr, hjob, ho⟩,
        fun _ => rfl⟩
    · rw [← hid]
      exact hshown.ended hr (Runner.outcome?_eq_some.1 ho)

/-- A run reports each requested id once, in the order of first mention. Its final state is one
the run reaches, with every runner returned, one runner per job. Each line says how its id was
prepared: skipped when the id is not configured, or when the job's source, or else its target,
is not a directory; failed without becoming active when planning failed; otherwise active, with
the outcome the job's own runner returned. For each configured id, the last progress published
shows the line's outcome. The run fails (exit code 1) exactly when no job became active. -/
theorem runs_report_each_id_as_it_ended (o : Orchestrator) (d : Disk) (cwd : Loc) (now : Instant)
    (probes : List Bool) (ids : List Nat) :
    let done := Batch.settle (o.launch d cwd now probes (o.prepareAll d cwd now ids))
    let report := (o.runMany d cwd now probes ids).2.2
    FirstMentions ids (report.jobs.map (·.jobId)) ∧
      o.Reaches d cwd now probes ids done ∧ done.isDone = true ∧
      (done.runners.map (·.job.id)).Nodup ∧
      (∀ line ∈ report.jobs, Reports o d cwd done report.published line) ∧
      (report.exitCode = 1 ↔ ∀ line ∈ report.jobs, line.activated = false) := by
  intro done report
  have hstart : o.Reaches d cwd now probes ids
      (o.launch d cwd now probes (o.prepareAll d cwd now ids)) := ⟨[], rfl⟩
  obtain ⟨hdone, hreach⟩ := hstart.settle
  have hjobs : report.jobs = (o.prepareAll d cwd now ids).map done.reportLine := rfl
  have hids : report.jobs.map (·.jobId) = distinctIds ids := by
    rw [hjobs, List.map_map, ← prepareAll_ids]
    exact List.map_congr_left fun x _ => Batch.reportLine_jobId x
  refine ⟨hids ▸ distinctIds_firstMentions ids, hreach, hdone, hreach.shown.distinct, ?_,
    RunReport.exitCode_eq_one_iff report⟩
  intro line hline
  rw [hjobs] at hline
  obtain ⟨x, hx, rfl⟩ := List.mem_map.1 hline
  exact hreach.reports hdone hx

end Orchestrator

end Safekeep
