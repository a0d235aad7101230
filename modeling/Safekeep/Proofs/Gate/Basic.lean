import Safekeep.Gate

/-!
# The gates' small lemmas

What each operation on the gates does to each of their three fields, so that later proofs never
unfold them, and the order in which admission looks at the gates, written out as one chain of
tests (`Gate.admitPoll_eq`).
-/

namespace Safekeep

namespace Gate

variable (g : Gate)

@[simp] theorem setPaused_priorityRemaining (b : Bool) :
    (g.setPaused b).priorityRemaining = g.priorityRemaining := rfl

@[simp] theorem setPaused_paused (b : Bool) : (g.setPaused b).paused = b := rfl

@[simp] theorem setPaused_largeInFlight (b : Bool) :
    (g.setPaused b).largeInFlight = g.largeInFlight := rfl

@[simp] theorem complete_priorityRemaining (n : Nat) :
    (g.complete n).priorityRemaining = g.priorityRemaining - n := rfl

@[simp] theorem complete_paused (n : Nat) : (g.complete n).paused = g.paused := rfl

@[simp] theorem complete_largeInFlight (n : Nat) :
    (g.complete n).largeInFlight = g.largeInFlight := rfl

@[simp] theorem takeLarge_priorityRemaining :
    g.takeLarge.priorityRemaining = g.priorityRemaining := rfl

@[simp] theorem takeLarge_paused : g.takeLarge.paused = g.paused := rfl

@[simp] theorem takeLarge_largeInFlight : g.takeLarge.largeInFlight = g.largeInFlight + 1 := rfl

@[simp] theorem dropLarge_priorityRemaining :
    g.dropLarge.priorityRemaining = g.priorityRemaining := rfl

@[simp] theorem dropLarge_paused : g.dropLarge.paused = g.paused := rfl

@[simp] theorem dropLarge_largeInFlight : g.dropLarge.largeInFlight = g.largeInFlight - 1 := rfl

@[simp] theorem admitted_priorityRemaining (a : Ask) :
    (g.admitted a).priorityRemaining = g.priorityRemaining := by
  unfold admitted; split <;> rfl

@[simp] theorem admitted_paused (a : Ask) : (g.admitted a).paused = g.paused := by
  unfold admitted; split <;> rfl

theorem admitted_largeInFlight (a : Ask) :
    (g.admitted a).largeInFlight = g.largeInFlight + if a.large then 1 else 0 := by
  unfold admitted; split <;> rfl

/-- Admission looks at the gates in a fixed order: a cancelled run first, then the pause, then
the drain for a plain file, then the slot for a large one. -/
theorem admitPoll_eq (a : Ask) (c : Bool) :
    g.admitPoll a c =
      if c then .cancelled
      else if g.paused then .blocked
      else if !a.priority && g.priorityRemaining ≠ 0 then .blocked
      else if a.large && g.largeInFlight ≠ 0 then .blocked
      else .clear := by
  unfold admitPoll businessPoll priorityPoll largePoll
  cases c <;> cases g.paused <;> cases a.priority <;> cases a.large <;>
    by_cases hr : g.priorityRemaining = 0 <;> by_cases hl : g.largeInFlight = 0 <;> simp [hr, hl]

/-- A file passes the gates only when the run is not cancelled, the pause is off, a plain file
finds the drain empty and a large file finds the slot free. -/
theorem admitPoll_eq_clear (a : Ask) (c : Bool) :
    g.admitPoll a c = .clear ↔
      c = false ∧ g.paused = false ∧ (a.priority = true ∨ g.priorityRemaining = 0) ∧
        (a.large = true → g.largeInFlight = 0) := by
  rw [admitPoll_eq]
  cases c <;> cases g.paused <;> cases a.priority <;> cases a.large <;>
    by_cases hr : g.priorityRemaining = 0 <;> by_cases hl : g.largeInFlight = 0 <;> simp [hr, hl]

theorem largePoll_eq_clear (c : Bool) :
    g.largePoll c = .clear ↔ c = false ∧ g.largeInFlight = 0 := by
  unfold largePoll
  cases c <;> by_cases hl : g.largeInFlight = 0 <;> simp [hl]

end Gate

end Safekeep
