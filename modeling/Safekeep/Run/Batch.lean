import Safekeep.Run.Runner
import Safekeep.Job.Catalog

/-!
# Running several jobs at once

A run takes a list of job ids and handles each distinct id once, in the order of first mention.
An id that is not configured is skipped; so is a job whose source, or else target, is not a
directory (its idle progress is published as inactive). A job whose planning fails is reported
failed (its idle progress is published as failed). The other jobs become active: each gets a
runner, and all runners share one gate whose drain starts at the number of priority files over
all their plans.

When the business monitor is on (enabled, with a process name), the probe is asked once before
any runner starts and its answer sets the pause; afterwards every tick of the monitor applies
the next answer. The monitor's token is a child of the run's: once the run is cancelled the
monitor may stop, lifting the pause. When the runners are done the monitor stops and the pause is
lifted.

The runners' steps may interleave in any order with the monitor's ticks and stop, the
cancellation of the run's token, and a runner giving up on its tool (`Batch.step`, and
`Batch.exec` along a list of moves). A tool given up on is counted as unwaited: it may still
run. A run's outcome is taken along one such order, `Batch.settle`: always the first runner, in
job order, that can take a step, and a monitor tick when every runner waits. Each move of that
order is taken only when it brings the run nearer its end (`Batch.distance`: the runners'
remaining steps, then the bytes their copies have still to read, then the probe answers left,
then the pause), so the order comes to an end. A run may also take any moves first
(`Orchestrator.runAlong`). A run whose token was cancelled leaves the orchestrator a fresh one.

The report lists, per id, whether the job became active and how it ended; the run counts as
failed (exit code 1) when no job became active.
-/

namespace Safekeep

open Safekeep.Time

/-- One job's line of a run's report. -/
structure JobReport where
  jobId : Nat
  outcome : JobOutcome
  activated : Bool

/-- A run of several jobs: what the runners share, the runners in job order, the business
monitor's remaining probe answers and whether it runs, and the tools started whose end no runner
waited for. -/
structure Batch where
  context : Context
  shared : Shared
  runners : List Runner
  probes : List Bool
  monitorOn : Bool
  unwaited : Nat

/-- A move of a run: a runner's step, a tick of the business monitor, the run's token being
cancelled from outside, the monitor stopping on the cancellation, or runner `i` giving up on its
tool and taking its step. -/
inductive Move
  | runner (i : Nat)
  | tick
  | cancel
  | stopMonitor
  | abandon (i : Nat)

namespace Stage

/-- The steps a runner may still take on its current file from this stage, the chunks of a copy
apart: fewer at each stage than at the one before it. -/
def weight : Stage → Nat
  | .start => 10
  | .next => 9
  | .waitPause => 8
  | .waitDrain => 7
  | .waitSlot => 6
  | .copyWait => 5
  | .copyRead _ => 4
  | .sealWait => 3
  | .sealRun _ => 2
  | .finished _ => 0

end Stage

namespace Runner

/-- How far a runner is from returning, the chunks of a copy apart: ten for each file left, and
its place on the current one. -/
def rank (r : Runner) : Nat :=
  match r.stage with
  | .finished _ => 0
  | s => 10 * r.units.length + s.weight

/-- The bytes the runner's copy has still to read. -/
def toRead (r : Runner) : Nat :=
  match r.stage with
  | .copyRead c => c.left
  | _ => 0

end Runner

namespace Batch

/-- The run with the business monitor stopped and the pause lifted. -/
def close (b : Batch) : Batch :=
  { b with shared := { b.shared with gate := b.shared.gate.setPaused false }, monitorOn := false }

/-- The next probe answer (false once they are used up) and the answers after it. -/
def nextProbe : List Bool → Bool × List Bool
  | [] => (false, [])
  | b :: rest => (b, rest)

/-- Apply a move; none when it cannot be taken. -/
def step (b : Batch) : Move → Option Batch
  | .runner i =>
    match b.runners[i]? with
    | none => none
    | some r =>
      match r.step b.context b.shared with
      | none => none
      | some (sh, r') => some { b with shared := sh, runners := b.runners.set i r' }
  | .tick =>
    if b.monitorOn then
      let (answer, rest) := nextProbe b.probes
      some { b with shared := { b.shared with gate := b.shared.gate.setPaused answer }, probes := rest }
    else none
  | .cancel => some { b with context := { b.context with cancelled := true } }
  | .stopMonitor => if b.monitorOn && b.context.cancelled then some b.close else none
  | .abandon i =>
    match b.runners[i]? >>= Runner.abandonTool with
    | none => none
    | some r =>
      match r.step b.context b.shared with
      | none => none
      | some (sh, r') =>
        some { b with shared := sh, runners := b.runners.set i r', unwaited := b.unwaited + 1 }

/-- Apply moves in order; none as soon as one cannot be taken. -/
def exec (b : Batch) : List Move → Option Batch
  | [] => some b
  | m :: ms => (b.step m).bind (·.exec ms)

def isDone (b : Batch) : Bool := b.runners.all (·.isFinished)

/-- The first runner, in job order, that can take a step, with the run after it. -/
def firstRunnerMove (b : Batch) : Option Batch :=
  ((List.range b.runners.length).findSome? fun i => b.step (.runner i))

/-- How far a run is from its end, compared lexicographically: the runners' ranks, the bytes
their copies have still to read, the probe answers left, and whether the run is paused. -/
def distance (b : Batch) : Nat × Nat × Nat × Nat :=
  ((b.runners.map Runner.rank).foldr (· + ·) 0, (b.runners.map Runner.toRead).foldr (· + ·) 0,
    b.probes.length, if b.shared.gate.paused then 1 else 0)

/-- Whether the run `b'` is nearer its end than `b`. -/
def Nearer (b' b : Batch) : Prop :=
  Prod.Lex (· < ·) (Prod.Lex (· < ·) (Prod.Lex (· < ·) (· < ·))) b'.distance b.distance

instance (b' b : Batch) : Decidable (Nearer b' b) :=
  inferInstanceAs (Decidable (Prod.Lex _ _ b'.distance b.distance))

/-- Run along the canonical order: the first runner that can move, and a monitor tick when every
runner waits, as long as each move brings the run nearer its end. -/
def settle (b : Batch) : Batch :=
  if b.isDone then b
  else
    match b.firstRunnerMove with
    | some b' => if _h : Nearer b' b then settle b' else b
    | none =>
      match b.step .tick with
      | some b' => if _h : Nearer b' b then settle b' else b
      | none => b
termination_by b.distance
decreasing_by all_goals assumption

end Batch

def distinctIds (xs : List Nat) : List Nat :=
  xs.foldl (fun acc x => if acc.contains x then acc else acc ++ [x]) []

/-- What preparing one id gives: a report line with no runner, or an active job and its plan. -/
inductive Prepared
  | stopped (outcome : JobOutcome) (idle : Option Progress)
  | active (job : Job) (plan : List Transfer)

/-- Prepare one id: look the job up, check its directories, plan it. -/
def prepareJob (d : Disk) (cwd : Loc) (h : Host) (s : Settings) (jobs : Catalog) (now : Instant)
    (id : Nat) : Prepared :=
  match jobs.find? id with
  | none => .stopped (.skipped .unknownJob) none
  | some job =>
    if ¬d.isDir cwd job.source then
      .stopped (.skipped .sourceMissing) (some (Progress.idle job.id job.name .inactive now))
    else if ¬d.isDir cwd job.target then
      .stopped (.skipped .targetMissing) (some (Progress.idle job.id job.name .inactive now))
    else
      match d.plan cwd h s job with
      | .ok plan => .active job plan
      | .error e => .stopped (.failed e.message) (some (Progress.idle job.id job.name .failed now))

/-- An orchestrator: the settings, the configured jobs, whether its current cancellation token
is cancelled, and the machine it runs on. -/
structure Orchestrator where
  settings : Settings
  jobs : Catalog
  cancelled : Bool
  host : Host

/-- What a run gives back. -/
structure RunReport where
  jobs : List JobReport
  -- Log entries in the order they reached the log.
  logs : List LogEntry
  -- Every progress publication, in order.
  published : List Progress

namespace RunReport

def jobsRan (r : RunReport) : Nat := (r.jobs.filter (·.activated)).length

def ran (r : RunReport) (id : Nat) : Bool := r.jobs.any fun j => j.jobId = id ∧ j.activated

/-- The run's exit code: 1 when no job became active. -/
def exitCode (r : RunReport) : Nat := if r.jobsRan = 0 then 1 else 0

end RunReport

namespace Batch

/-- The outcome a run reports for an active job: that of the first runner of its id, cancelled
when that runner has not returned. -/
def outcomeOf (b : Batch) (id : Nat) : JobOutcome :=
  (((b.runners.map fun r => (r.job.id, r.outcome?.getD .cancelled)).find? (·.1 == id)).map
    (·.2)).getD .cancelled

/-- The report line of a prepared id: a stopped job with the outcome of its preparation, an
active one with its runner's. -/
def reportLine (b : Batch) : Nat × Prepared → JobReport
  | (id, .stopped outcome _) => ⟨id, outcome, false⟩
  | (id, .active _ _) => ⟨id, b.outcomeOf id, true⟩

end Batch

namespace Orchestrator

def monitorOn (o : Orchestrator) : Bool :=
  o.settings.monitorEnabled && !o.settings.businessProcessName.isEmpty

/-- Prepare each requested job, each id once, in order of first mention. -/
def prepareAll (o : Orchestrator) (d : Disk) (cwd : Loc) (now : Instant) (ids : List Nat) :
    List (Nat × Prepared) :=
  (distinctIds ids).map fun id => (id, prepareJob d cwd o.host o.settings o.jobs now id)

/-- The active jobs of a preparation, with their plans, in order. -/
def activeJobs (prepared : List (Nat × Prepared)) : List (Job × List Transfer) :=
  prepared.filterMap fun (_, p) => match p with
    | .active job plan => some (job, plan)
    | .stopped _ _ => none

/-- A run at its start: one runner per active job, over gates whose drain starts at the priority
files of all their plans, paused by the probe's first answer when the monitor runs. -/
def launch (o : Orchestrator) (d : Disk) (cwd : Loc) (now : Instant) (probes : List Bool)
    (prepared : List (Nat × Prepared)) : Batch :=
  let idles := prepared.filterMap fun (_, p) => match p with
    | .stopped _ idle => idle
    | .active _ _ => none
  let active := activeJobs prepared
  let priorityFiles :=
    (active.map fun (_, plan) => (plan.filter (·.priority)).length).foldr (· + ·) 0
  let (paused, probes) := if o.monitorOn then Batch.nextProbe probes else (false, probes)
  { context := ⟨o.settings, cwd, o.cancelled, now, o.host⟩
    shared := ⟨d, (Gate.new priorityFiles).setPaused paused, false, [], idles⟩
    runners := active.map fun (job, plan) => Runner.new job plan now
    probes := probes
    monitorOn := o.monitorOn
    unwaited := 0 }

/-- End a run at the state it came to: the monitor stopped, the report read off the runners, and
the orchestrator's token, which is the run's, replaced by a fresh one when it was cancelled. -/
def conclude (o : Orchestrator) (prepared : List (Nat × Prepared)) (b : Batch) :
    Orchestrator × Disk × RunReport :=
  let done := b.close
  let reports := prepared.map done.reportLine
  let token := b.context.cancelled
  ({ o with cancelled := if token then false else token }, done.shared.disk,
    ⟨reports, done.shared.logs, done.shared.published⟩)

/-- Run the jobs of a list of ids on a disk, from a working directory, with the probe's answers:
the orchestrator after it, the disk, and the report. -/
def runMany (o : Orchestrator) (d : Disk) (cwd : Loc) (now : Instant) (probes : List Bool)
    (ids : List Nat) : Orchestrator × Disk × RunReport :=
  let prepared := o.prepareAll d cwd now ids
  o.conclude prepared (Batch.settle (o.launch d cwd now probes prepared))

/-- A run that takes the given moves from its start (a cancellation among them, say), then goes
on along the canonical order; none when a move cannot be taken. -/
def runAlong (o : Orchestrator) (d : Disk) (cwd : Loc) (now : Instant) (probes : List Bool)
    (ids : List Nat) (moves : List Move) : Option (Orchestrator × Disk × RunReport) :=
  let prepared := o.prepareAll d cwd now ids
  ((o.launch d cwd now probes prepared).exec moves).map fun b => o.conclude prepared (Batch.settle b)

end Orchestrator

end Safekeep
