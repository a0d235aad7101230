/-!
# The gates of a run

Every file of a run passes three shared gates before it is copied: the business pause (closed
while a business process runs), the priority drain (closed for plain files while some priority
file of the run is still pending) and, for large files only, the large-file slot (one large file
at a time). A `Gate` holds their state: the count of pending priority files, the pause flag and
the number of large files in flight.

A look at a gate (`Poll`) finds it clear, finds it closed, or finds the run cancelled; a
cancelled run wins over a clear gate. Admission looks at the gates in a fixed order: pause,
then drain (plain files), then slot (large files).
-/

namespace Safekeep

/-- The shared gates of a run. -/
structure Gate where
  -- Priority files of the run not yet counted as done.
  priorityRemaining : Nat
  -- Whether a business process pauses every transfer.
  paused : Bool
  -- Large files holding the slot: 0 or 1.
  largeInFlight : Nat
  deriving DecidableEq, Repr

/-- What one look at a gate finds. -/
inductive Poll
  | clear
  | blocked
  | cancelled
  deriving DecidableEq, Repr

/-- What a file asks of the gates. -/
structure Ask where
  priority : Bool
  large : Bool
  deriving DecidableEq, Repr

namespace Gate

def new (priority : Nat) : Gate := ⟨priority, false, 0⟩

/-- Count `n` priority files as done; the count stops at zero. -/
def complete (g : Gate) (n : Nat) : Gate := { g with priorityRemaining := g.priorityRemaining - n }

def setPaused (g : Gate) (b : Bool) : Gate := { g with paused := b }

def businessPoll (g : Gate) (cancelled : Bool) : Poll :=
  if cancelled then .cancelled else if g.paused then .blocked else .clear

def priorityPoll (g : Gate) (cancelled : Bool) : Poll :=
  if cancelled then .cancelled else if g.priorityRemaining = 0 then .clear else .blocked

def largePoll (g : Gate) (cancelled : Bool) : Poll :=
  if cancelled then .cancelled else if g.largeInFlight = 0 then .clear else .blocked

def takeLarge (g : Gate) : Gate := { g with largeInFlight := g.largeInFlight + 1 }

def dropLarge (g : Gate) : Gate := { g with largeInFlight := g.largeInFlight - 1 }

/-- Look at every gate a file must pass, in order: pause, drain for a plain file, slot for a
large one. -/
def admitPoll (g : Gate) (a : Ask) (cancelled : Bool) : Poll :=
  match g.businessPoll cancelled with
  | .clear =>
    match (if a.priority then Poll.clear else g.priorityPoll cancelled) with
    | .clear => if a.large then g.largePoll cancelled else .clear
    | p => p
  | p => p

/-- The gates after admitting a file: a large one holds the slot. -/
def admitted (g : Gate) (a : Ask) : Gate := if a.large then g.takeLarge else g

end Gate

end Safekeep
