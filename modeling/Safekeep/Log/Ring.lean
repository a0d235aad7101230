/-!
# Bounded logs

A ring keeps the most recent entries added to it, oldest first. Adding to a full ring drops its
oldest entry first, so a ring of capacity zero still keeps the last entry added.
-/

namespace Safekeep

/-- A bounded log of entries, oldest first. -/
structure Ring (α : Type) where
  capacity : Nat
  entries : List α
  deriving DecidableEq, Repr

namespace Ring

variable {α : Type}

def empty (capacity : Nat) : Ring α := ⟨capacity, []⟩

/-- Add an entry, dropping the oldest when the ring is full. -/
def add (r : Ring α) (e : α) : Ring α :=
  { r with entries := (if r.entries.length ≥ r.capacity then r.entries.drop 1 else r.entries) ++ [e] }

/-- The last `n` entries (all with no limit), oldest first. -/
def recent (r : Ring α) (limit : Option Nat) : List α :=
  match limit with
  | some n => r.entries.drop (r.entries.length - n)
  | none => r.entries

def clear (r : Ring α) : Ring α := { r with entries := [] }

def size (r : Ring α) : Nat := r.entries.length

def isEmpty (r : Ring α) : Bool := r.size == 0

end Ring

end Safekeep
