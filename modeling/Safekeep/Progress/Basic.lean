import Safekeep.Log.Entry

/-!
# Job progress

The progress of a job: its state (inactive, active, completed or failed), how many files and
bytes it has in all and still to go, the file it is on, and when this was last updated.

In JSON progress is an object with the snake-case fields `job_id` (32-bit unsigned), `job_name`,
`state`, `files_total`, `files_remaining`, `bytes_total`, `bytes_remaining` (64-bit unsigned),
`current_source` and `current_target` (paths or null) and `updated_at` (RFC 3339).
-/

namespace Safekeep

open Safekeep.Json Safekeep.Time

/-- Where a job stands. -/
inductive RunState
  | inactive
  | active
  | completed
  | failed
  deriving DecidableEq, Repr

def RunState.name : RunState → String
  | .inactive => "inactive"
  | .active => "active"
  | .completed => "completed"
  | .failed => "failed"

def RunState.ofName? : String → Option RunState
  | "inactive" => some .inactive
  | "active" => some .active
  | "completed" => some .completed
  | "failed" => some .failed
  | _ => none

/-- A job's progress. -/
structure Progress where
  jobId : Nat
  jobName : String
  state : RunState
  filesTotal : Nat
  filesRemaining : Nat
  bytesTotal : Nat
  bytesRemaining : Nat
  currentSource : Option String
  currentTarget : Option String
  updatedAt : Instant
  deriving DecidableEq, Repr

namespace Progress

/-- The progress of a job that has not started (or stopped before it could): nothing to do, no
current file. -/
def idle (id : Nat) (name : String) (state : RunState) (at_ : Instant) : Progress :=
  ⟨id, name, state, 0, 0, 0, 0, none, none, at_⟩

/-- What progress looks like in JSON. -/
def shape : Shape :=
  .record "JobProgress" false [
    ("job_id", .u32),
    ("job_name", .string),
    ("state", .variants ["inactive", "active", "completed", "failed"]),
    ("files_total", .u64),
    ("files_remaining", .u64),
    ("bytes_total", .u64),
    ("bytes_remaining", .u64),
    ("current_source", .opt .path),
    ("current_target", .opt .path),
    ("updated_at", LogEntry.stampShape)]

/-- Progress from a value already checked against `shape`. -/
def ofChecked (v : Value) : Progress where
  jobId := ((v.get "job_id").asNat?).getD 0
  jobName := ((v.get "job_name").asStr?).getD ""
  state := (((v.get "state").asStr?).bind RunState.ofName?).getD .inactive
  filesTotal := ((v.get "files_total").asNat?).getD 0
  filesRemaining := ((v.get "files_remaining").asNat?).getD 0
  bytesTotal := ((v.get "bytes_total").asNat?).getD 0
  bytesRemaining := ((v.get "bytes_remaining").asNat?).getD 0
  currentSource := (v.get "current_source").asStr?
  currentTarget := (v.get "current_target").asStr?
  updatedAt := match v.get "updated_at" with
    | .str s => match parseStamp s with
      | .ok t => t
      | .error _ => .ofSeconds 0
    | _ => .ofSeconds 0

def ofValue (v : Value) : Except Fault Progress := (shape.decode v).map ofChecked

/-- Progress as a JSON value, without its time when `withTime` is off. -/
def toValueWith (p : Progress) (withTime : Bool) : Value :=
  Value.object ([
    ("job_id", Value.nat p.jobId), ("job_name", .str p.jobName), ("state", .str p.state.name),
    ("files_total", Value.nat p.filesTotal), ("files_remaining", Value.nat p.filesRemaining),
    ("bytes_total", Value.nat p.bytesTotal), ("bytes_remaining", Value.nat p.bytesRemaining),
    ("current_source", Value.optStr p.currentSource), ("current_target", Value.optStr p.currentTarget)] ++
    if withTime then [("updated_at", .str p.updatedAt.text)] else [])

def toValue (p : Progress) : Value := p.toValueWith true

end Progress

end Safekeep
