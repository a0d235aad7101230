import Safekeep.Gate

/-!
# Gate sessions

A session runs operations on one set of gates, looking at each wait once: a wait that would have
to block answers `blocked` and is dropped. Every admission or slot that passes is held under the
next index, until it is released; releasing one that holds the slot frees the slot.
-/

namespace Safekeep.Gate

/-- One operation on the gates. -/
inductive Op
  -- Count priority files as done.
  | complete (n : Nat)
  -- Set the business pause.
  | pause (b : Bool)
  -- Admit a file.
  | enter (ask : Ask) (cancelled : Bool)
  -- Take the large-file slot alone.
  | acquireLarge (cancelled : Bool)
  -- Wait for the business pause to lift.
  | waitBusiness (cancelled : Bool)
  -- Wait for the priority files to drain.
  | waitPriority (cancelled : Bool)
  -- Drop a held admission or slot.
  | release (k : Nat)
  deriving DecidableEq, Repr

/-- What an operation answers. -/
inductive Reply
  -- The operation has no answer.
  | done
  -- Admitted (or the slot taken), held under this index.
  | admitted (k : Nat)
  -- What a wait found.
  | poll (p : Poll)
  -- The held item was dropped.
  | released
  -- No such held item.
  | unknown
  deriving DecidableEq, Repr

/-- Gates with the items held so far: for each index, whether it is still held and whether it
holds the large-file slot. -/
structure Session where
  gate : Gate
  held : List (Option Bool)
  deriving DecidableEq, Repr

namespace Session

def new (priority : Nat) : Session := ⟨Gate.new priority, []⟩

def hold (s : Session) (ownsLarge : Bool) : Session × Reply :=
  ({ s with held := s.held ++ [some ownsLarge] }, .admitted s.held.length)

/-- Run one operation. -/
def step (s : Session) : Op → Session × Reply
  | .complete n => ({ s with gate := s.gate.complete n }, .done)
  | .pause b => ({ s with gate := s.gate.setPaused b }, .done)
  | .enter a c =>
    match s.gate.admitPoll a c with
    | .clear => hold { s with gate := s.gate.admitted a } a.large
    | p => (s, .poll p)
  | .acquireLarge c =>
    match s.gate.largePoll c with
    | .clear => hold { s with gate := s.gate.takeLarge } true
    | p => (s, .poll p)
  | .waitBusiness c => (s, .poll (s.gate.businessPoll c))
  | .waitPriority c => (s, .poll (s.gate.priorityPoll c))
  | .release k =>
    match s.held[k]? with
    | some (some ownsLarge) =>
      ({ gate := if ownsLarge then s.gate.dropLarge else s.gate, held := s.held.set k none }, .released)
    | _ => (s, .unknown)

def run (s : Session) : List Op → List (Reply × Gate)
  | [] => []
  | op :: ops =>
    let (s', r) := s.step op
    (r, s'.gate) :: run s' ops

end Session

end Safekeep.Gate
