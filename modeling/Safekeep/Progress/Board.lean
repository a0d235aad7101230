import Safekeep.Progress.Basic

/-!
# Progress boards

A board keeps the latest progress of every job, by id, and passes every update on to a listener
through a channel that holds the last 256 updates. A listener that fell further behind learns
first how many updates it missed, then reads on from the oldest one still held.
-/

namespace Safekeep

/-- What a listener reads from the channel. -/
inductive Heard
  -- This many updates were lost before the oldest one still held.
  | lagged (n : Nat)
  -- An update.
  | update (p : Progress)

/-- Latest progress per job, and the updates sent so far with one listener's position. -/
structure Board where
  latest : List Progress
  sent : List Progress
  heard : Nat

namespace Board

def capacity : Nat := 256

def empty : Board := ⟨[], [], 0⟩

/-- Record an update: it becomes the job's latest progress and goes to the channel. -/
def update (b : Board) (p : Progress) : Board :=
  let rec place : List Progress → List Progress
    | [] => [p]
    | q :: rest =>
      if q.jobId = p.jobId then p :: rest
      else if p.jobId < q.jobId then p :: q :: rest
      else q :: place rest
  { b with latest := place b.latest, sent := b.sent ++ [p] }

def get? (b : Board) (id : Nat) : Option Progress := b.latest.find? (·.jobId = id)

def drain (b : Board) : Board × List Heard :=
  let total := b.sent.length
  let oldest := total - capacity
  let missed : List Heard := if b.heard < oldest then [.lagged (oldest - b.heard)] else []
  let start := max b.heard oldest
  ({ b with heard := total }, missed ++ (b.sent.drop start).map Heard.update)

end Board

end Safekeep
