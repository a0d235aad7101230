import Safekeep.Job.Basic

/-!
# How a requested job ended

A job asked for in a run either never became active (it is not configured, or its source or
target is not a directory: it is skipped; or its planning failed) or ran and then completed
(with the numbers of files copied and of files that failed), failed (its source directory went
away) or was cancelled.
-/

namespace Safekeep

/-- Why a job was skipped. -/
inductive SkipReason
  | unknownJob
  | sourceMissing
  | targetMissing
  deriving DecidableEq, Repr

def SkipReason.name : SkipReason → String
  | .unknownJob => "unknown_job"
  | .sourceMissing => "source_missing"
  | .targetMissing => "target_missing"

def SkipReason.text : SkipReason → String
  | .unknownJob => "job is not configured"
  | .sourceMissing => "source directory does not exist"
  | .targetMissing => "target directory does not exist"

/-- How a job ended. -/
inductive JobOutcome
  -- Every planned file was handled.
  | completed (transferred failed : Nat)
  -- The job stopped: its planning failed or its source went away.
  | failed (reason : String)
  -- The run was cancelled while the job was active.
  | cancelled
  -- The job never became active.
  | skipped (reason : SkipReason)
  deriving DecidableEq, Repr

end Safekeep
