import Safekeep.Log.Ring
import Mathlib

/-!
# Bounded logs keep the latest entries

A ring of capacity `m` holds the last `max m 1` entries added since it was last cleared, oldest
first. The bound is `max m 1` and not `m` because a full ring drops its oldest entry before the
new one goes in: a ring of capacity zero still holds the entry added last. The queries read that
window: all of it, or its last `n` entries.

The window is stated against the history of calls (`Call.keep` folds the entries added since the
last clear), as the last entries of that history (`List.rtake`). One call keeps the relation
(`Holds.call`), so every sequence of calls does (`Holds.calls`).

Main statement: `rings_keep_the_latest_entries`.
-/

namespace Safekeep.Ring

variable {α : Type}

/-! ## 1. Calls on a ring -/

/-- A call on a bounded log: adding and clearing change it, the queries only read it. -/
inductive Call (α : Type)
  | add (e : α)
  | clear
  | recent (limit : Option Nat)
  | size
  | isEmpty

def perform (r : Ring α) : Call α → Ring α
  | .add e => r.add e
  | .clear => r.clear
  | _ => r

def Call.keep (added : List α) : Call α → List α
  | .add e => added ++ [e]
  | .clear => []
  | _ => added

@[simp] theorem perform_capacity (r : Ring α) (c : Call α) : (r.perform c).capacity = r.capacity := by
  cases c <;> rfl

@[simp] theorem performAll_capacity (r : Ring α) (calls : List (Call α)) :
    (calls.foldl perform r).capacity = r.capacity := by
  induction calls generalizing r with
  | nil => rfl
  | cons c rest ih => rw [List.foldl_cons, ih, perform_capacity]

/-! ## 2. The window a ring holds -/

def Holds (r : Ring α) (added : List α) : Prop := r.entries = added.rtake (max r.capacity 1)

theorem holds_empty (m : Nat) : (empty m : Ring α).Holds [] := by
  simp [Holds, empty]

/-- Adding keeps the window: the oldest entry leaves only when the window was full. -/
theorem Holds.add {r : Ring α} {added : List α} (h : r.Holds added) (e : α) :
    (r.add e).Holds (added ++ [e]) := by
  unfold Holds at h ⊢
  have hcap : (r.add e).capacity = r.capacity := rfl
  rw [hcap, Ring.add]
  simp only [List.rtake, List.length_append, List.length_singleton] at h ⊢
  have hlen : r.entries.length = min added.length (max r.capacity 1) := by
    rw [h, List.length_drop]
    omega
  split_ifs with hfull
  · -- A full window spans `max capacity 1` entries, unless the capacity is zero and nothing
    -- was added yet.
    rcases Nat.eq_zero_or_pos added.length with hnil | hpos
    · simp [h, List.length_eq_zero_iff.mp hnil]
    rw [h, List.drop_drop, List.drop_append_of_le_length (by omega)]
    congr 2
    omega
  · rw [h, List.drop_append_of_le_length (by omega)]
    congr 2
    omega

theorem Holds.clear {r : Ring α} {added : List α} (_h : r.Holds added) : r.clear.Holds [] := by
  simp [Holds, Ring.clear]

theorem Holds.call {r : Ring α} {added : List α} (h : r.Holds added) (c : Call α) :
    (r.perform c).Holds (c.keep added) := by
  cases c with
  | add e => exact h.add e
  | clear => exact h.clear
  | recent _ | size | isEmpty => exact h

theorem Holds.calls {r : Ring α} {added : List α} (h : r.Holds added)
    (calls : List (Call α)) : (calls.foldl perform r).Holds (calls.foldl Call.keep added) := by
  induction calls generalizing r added with
  | nil => exact h
  | cons c rest ih => exact ih (h.call c)

/-! ## 3. What the queries read -/

theorem recent_some (r : Ring α) (n : Nat) : r.recent (some n) = r.entries.rtake n := rfl

theorem size_le_of_holds {r : Ring α} {added : List α} (h : r.Holds added) :
    r.size ≤ max r.capacity 1 := by
  rw [size, h, List.rtake, List.length_drop]
  omega

theorem isEmpty_iff (r : Ring α) : r.isEmpty = true ↔ r.size = 0 := by
  simp [isEmpty]

/-- After any sequence of calls on a ring of capacity `m`, it holds the last `max m 1` entries
added since the last clear, in the order they were added; reading it without a limit gives them
all, with a limit `n` the last `n` of them; it never holds more than `max m 1` entries; and it is
empty exactly when it holds none. -/
theorem rings_keep_the_latest_entries (m : Nat) (calls : List (Call α)) :
    (calls.foldl perform (empty m)).entries = (calls.foldl Call.keep []).rtake (max m 1) ∧
    (calls.foldl perform (empty m)).recent none = (calls.foldl perform (empty m)).entries ∧
    (∀ n, (calls.foldl perform (empty m)).recent (some n) =
      (calls.foldl perform (empty m)).entries.rtake n) ∧
    (calls.foldl perform (empty m)).size ≤ max m 1 ∧
    ((calls.foldl perform (empty m)).isEmpty = true ↔ (calls.foldl perform (empty m)).size = 0) := by
  have hrun := (holds_empty m).calls calls
  have hcap : (calls.foldl perform (empty m)).capacity = m := performAll_capacity _ _
  refine ⟨?_, rfl, recent_some _, ?_, isEmpty_iff _⟩
  · rw [hrun, hcap]
  · simpa [hcap] using size_le_of_holds hrun

end Safekeep.Ring
