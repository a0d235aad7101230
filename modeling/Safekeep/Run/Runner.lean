import Safekeep.Plan
import Safekeep.Copy
import Safekeep.Gate
import Safekeep.Seal
import Safekeep.Log.Entry
import Safekeep.Progress.Basic
import Safekeep.Job.Outcome

/-!
# Running a job, step by step

A job's runner works through its plan one file at a time. Its life is a series of steps, each
ending where the runner may have to wait for something outside it; between two steps the other
runners of the run and the business monitor may act. What the runners share is the disk, the
gate (business pause, priority drain, large-file slot), the encryption tool's single slot, and
the two sinks: the log (entries in the order they arrive) and the progress record (every
publication in order).

A runner first publishes its totals, the byte total summed in 64 bits. For each file it then
checks that the source directory is still a directory (if not, the job fails), passes the gate
(the pause, then for a plain file the priority drain, then for a large file the slot), publishes
the file as current, and copies it: a pause wait, opening, then a pause wait before every chunk;
a chunk the machine fails to read or write ends the copy with that failure.
Once the copy is over the large slot is given back. A copied file that needs encryption is handed
to the tool, which takes the encryption slot; a tool that does not start gives the slot back at
once, one that starts holds it until the runner has waited for its end. A code of at least zero
restores the target's time from the source. The file's log entry is then appended, a priority
file is counted off the drain, and the remaining counts are published. After the last file the
runner publishes its completion.

Cancellation is seen at every wait. A cancelled copy removes the target; a cancelled runner
counts its remaining priority files off the drain and publishes its failure, as does a runner
whose source went away. The wait for the tool may fail, and so may the kill of a cancelled run's
tool (`Runner.abandonTool`): the runner then gives the slot back without the tool's end.
-/

namespace Safekeep

open Safekeep.Time

/-- Where a runner is. -/
inductive Stage
  -- Nothing published yet.
  | start
  -- Before the next file (or the end).
  | next
  -- Admitting the current file: waiting for the pause to lift.
  | waitPause
  -- Admitting the current file: waiting for the priority files to drain.
  | waitDrain
  -- Admitting the current file: waiting for the large-file slot.
  | waitSlot
  -- Copying: the first pause wait, before anything is opened.
  | copyWait
  -- Copying: the pause wait before the next chunk.
  | copyRead (c : Copying)
  -- The copy is done; encryption waits for the tool's slot.
  | sealWait
  -- The tool runs, and will end with this code; the runner waits for its end.
  | sealRun (code : Int)
  -- The runner returned.
  | finished (outcome : JobOutcome)
  deriving DecidableEq

/-- One job's runner. -/
structure Runner where
  job : Job
  -- The files not yet handled, the current one first.
  units : List Transfer
  stage : Stage
  progress : Progress
  -- Priority files of the plan not yet counted off the drain.
  pending : Nat
  transferred : Nat
  failed : Nat
  -- Whether the runner holds the large-file slot.
  holdsSlot : Bool

/-- What every runner of a run shares. -/
structure Shared where
  disk : Disk
  gate : Gate
  -- Whether the encryption tool's slot is taken.
  sealBusy : Bool
  -- Log entries in the order they reached the log.
  logs : List LogEntry
  -- Progress publications in order.
  published : List Progress

/-- What a runner knows about its run. -/
structure Context where
  settings : Settings
  cwd : Loc
  cancelled : Bool
  now : Instant
  host : Host

namespace Shared

def publish (sh : Shared) (p : Progress) : Shared := { sh with published := sh.published ++ [p] }

end Shared

namespace Runner

/-- A fresh runner for a job and its plan. -/
def new (job : Job) (plan : List Transfer) (now : Instant) : Runner where
  job := job
  units := plan
  stage := .start
  progress := Progress.idle job.id job.name .inactive now
  pending := (plan.filter (·.priority)).length
  transferred := 0
  failed := 0
  holdsSlot := false

def isFinished (r : Runner) : Bool :=
  match r.stage with
  | .finished _ => true
  | _ => false

/-- The outcome of a runner that has returned. -/
def outcome? (r : Runner) : Option JobOutcome :=
  match r.stage with
  | .finished o => some o
  | _ => none

/-- Stop early: count the remaining priority files off the drain, drop the current file and
publish the failure. -/
def abort (r : Runner) (sh : Shared) (o : JobOutcome) : Shared × Runner :=
  let p := { r.progress with state := .failed, currentSource := none, currentTarget := none }
  (Shared.publish { sh with gate := sh.gate.complete r.pending } p,
   { r with progress := p, pending := 0, stage := .finished o })

/-- Give the large-file slot back, if held. -/
def release (r : Runner) (sh : Shared) : Shared × Runner :=
  if r.holdsSlot then ({ sh with gate := sh.gate.dropLarge }, { r with holdsSlot := false })
  else (sh, r)

/-- The error text of a file's log entry: the copy's error, else a negative encryption code. -/
def entryMessage (copyError : Option String) (code : Int) : Option String :=
  match copyError with
  | some m => some m
  | none => if code < 0 then some ("encryption failed with code " ++ toString code) else none

/-- Log the current file, count it, and publish the remaining counts. -/
def logUnit (cx : Context) (r : Runner) (sh : Shared) (u : Transfer) (transferMs cryptingMs : Int)
    (copyError : Option String) : Shared × Runner :=
  let entry : LogEntry := {
    timestamp := cx.now
    backupName := r.job.name
    sourcePath := u.source
    targetPath := u.target
    fileSize := u.size
    transferMs := transferMs
    cryptingMs := cryptingMs
    errorMessage := entryMessage copyError cryptingMs }
  let sh := { sh with logs := sh.logs ++ [entry] }
  let (sh, pending) : Shared × Nat :=
    if u.priority then ({ sh with gate := sh.gate.complete 1 }, r.pending - 1) else (sh, r.pending)
  let p := { r.progress with
    state := .active
    filesRemaining := r.progress.filesRemaining - 1
    bytesRemaining := r.progress.bytesRemaining - u.size }
  (sh.publish p, { r with
    progress := p
    pending := pending
    units := r.units.drop 1
    stage := .next
    transferred := if transferMs < 0 then r.transferred else r.transferred + 1
    failed := if transferMs < 0 then r.failed + 1 else r.failed })

/-- Log a file whose encryption gave a code, restoring the target's time first when the code is
not negative. -/
def afterSeal (cx : Context) (r : Runner) (sh : Shared) (u : Transfer) (code : Int) : Shared × Runner :=
  let sh := if code ≥ 0 then
      match sh.disk.copyMtime cx.cwd u.source u.target with
      | .ok d => { sh with disk := d }
      | .error _ => sh
    else sh
  r.logUnit cx sh u 0 code none

/-- End the current file's copy with its result. -/
def endCopy (cx : Context) (r : Runner) (sh : Shared) (u : Transfer) (result : Except Errno Nat) :
    Shared × Runner :=
  let (sh, r) := r.release sh
  match result with
  | .error e => r.logUnit cx sh u (-1) 0 (some e.message)
  | .ok _ =>
    if u.encrypt then (sh, { r with stage := .sealWait })
    else r.logUnit cx sh u 0 0 none

/-- Stop a cancelled copy: give the slot back, remove the target, and stop. -/
def cancelCopy (cx : Context) (r : Runner) (sh : Shared) (u : Transfer) : Shared × Runner :=
  let (sh, r) := r.release sh
  let sh := match sh.disk.removeFile cx.cwd u.target with
    | .ok d => { sh with disk := d }
    | .error _ => sh
  r.abort sh .cancelled

/-- Pass the gate: publish the file as current and start its copy. -/
def enter (r : Runner) (sh : Shared) (u : Transfer) : Shared × Runner :=
  let p := { r.progress with state := .active, currentSource := some u.source, currentTarget := some u.target }
  (sh.publish p, { r with progress := p, stage := .copyWait })

def afterPause (u : Transfer) : Stage :=
  if ¬u.priority then .waitDrain else if u.large then .waitSlot else .copyWait

/-- Take one step; none when the runner has returned or must wait. -/
def step (cx : Context) (sh : Shared) (r : Runner) : Option (Shared × Runner) :=
  match r.stage, r.units with
  | .finished _, _ => none
  | .start, _ =>
    -- the sizes are summed in 64 bits, wrapping around
    let total := (r.units.map (·.size)).foldr (· + ·) 0 % (Number.u64Max + 1)
    let p := { r.progress with
      state := .active
      filesTotal := r.units.length
      filesRemaining := r.units.length
      bytesTotal := total
      bytesRemaining := total }
    some (sh.publish p, { r with progress := p, stage := .next })
  | .next, [] =>
    let p := { r.progress with state := .completed, currentSource := none, currentTarget := none }
    some (sh.publish p, { r with progress := p, stage := .finished (.completed r.transferred r.failed) })
  | .next, _ :: _ =>
    if sh.disk.isDir cx.cwd r.job.source then some (sh, { r with stage := .waitPause })
    else some (r.abort sh (.failed ("source directory " ++ r.job.source ++ " is no longer accessible")))
  | _, [] => some (r.abort sh (.failed "no file to handle"))
  | .waitPause, u :: _ =>
    if cx.cancelled then some (r.abort sh .cancelled)
    else if sh.gate.paused then none
    else
      match afterPause u with
      | .copyWait => some (r.enter sh u)
      | s => some (sh, { r with stage := s })
  | .waitDrain, u :: _ =>
    if cx.cancelled then some (r.abort sh .cancelled)
    else if sh.gate.priorityRemaining ≠ 0 then none
    else if u.large then some (sh, { r with stage := .waitSlot })
    else some (r.enter sh u)
  | .waitSlot, u :: _ =>
    if cx.cancelled then some (r.abort sh .cancelled)
    else if sh.gate.largeInFlight ≠ 0 then none
    else some (enter { r with holdsSlot := true } { sh with gate := sh.gate.takeLarge } u)
  | .copyWait, u :: _ =>
    if cx.cancelled then some (r.cancelCopy cx sh u)
    else if sh.gate.paused then none
    else
      match sh.disk.openCopy cx.cwd u.source u.target with
      | (d, .error e) => some (r.endCopy cx { sh with disk := d } u (.error e))
      | (d, .ok c) => some ({ sh with disk := d }, { r with stage := .copyRead c })
  | .copyRead c, u :: _ =>
    if cx.cancelled then some (r.cancelCopy cx sh u)
    else if sh.gate.paused then none
    else
      match Disk.nextChunk c with
      | .error e => some (r.endCopy cx sh u (.error e))
      | .ok none =>
        match sh.disk.finishCopy cx.cwd c with
        | .ok d => some (r.endCopy cx { sh with disk := d } u (.ok c.done))
        | .error e => some (r.endCopy cx sh u (.error e))
      | .ok (some (bytes, c')) =>
        match cx.host.ioFault u.source c.done with
        | some e => some (r.endCopy cx sh u (.error e))
        | none =>
          some ({ sh with disk := sh.disk.writeChunk c bytes }, { r with stage := .copyRead c' })
  | .sealWait, u :: _ =>
    match sh.disk.sealPlan cx.cwd cx.host cx.settings u.target with
    | .decided code => some (r.afterSeal cx sh u code)
    | .launch tool =>
      if cx.cancelled then some (r.abort sh .cancelled)
      else if sh.sealBusy then none
      else
        match sh.disk.sealLaunch cx.cwd cx.host cx.settings tool u.target with
        | (d, .refused code) => some (r.afterSeal cx { sh with disk := d } u code)
        | (d, .ran code) =>
          some ({ sh with disk := d, sealBusy := true }, { r with stage := .sealRun code })
  | .sealRun code, u :: _ =>
    let sh := { sh with sealBusy := false }
    if cx.cancelled then some (r.abort sh .cancelled)
    else some (r.afterSeal cx sh u code)

/-- The runner stops waiting for its tool without seeing its end: the wait failed, or, in a
cancelled run, the kill did. The tool's end then reads as a fault; none unless the runner waits
for a tool. -/
def abandonTool (r : Runner) : Option Runner :=
  match r.stage with
  | .sealRun _ => some { r with stage := .sealRun unexpectedFault }
  | _ => none

end Runner

end Safekeep
