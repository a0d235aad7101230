import Safekeep.Gate.Session
import Safekeep.Proofs.Gate.Basic
import Mathlib

/-!
# What a gate session answers

A session runs operations on one set of gates and looks at each wait once. Its state after any
list of operations is determined by that list: the pending priority count is the starting count
less every count completed so far (stopping at zero), the business pause is the last value set
(off at the start), and the large files in flight are the held items that own the slot, never
more than one.

Each operation's answer then follows the gate rules read off that state (`rule`): a cancelled
wait is cancelled; an admission is held back by the pause, then, for a plain file, by pending
priority files, then, for a large file, by a taken slot, and otherwise is held under the next
index, owning the slot exactly when the file is large. An admission or slot that is held back
leaves the state as it was.

The proof is a step lemma for each part of the state (`step_priorityRemaining`, `step_paused`,
`Wf.step`, `Wf.step_eq_rule`), carried along the operations by induction (`after_*`).
-/

namespace Safekeep

namespace Gate

namespace Session

/-! ## 1. The history of a session and the rules of its answers -/

def after (s : Session) : List Op → Session
  | [] => s
  | op :: ops => (s.step op).1.after ops

def completedBy : List Op → Nat
  | [] => 0
  | .complete n :: ops => n + completedBy ops
  | _ :: ops => completedBy ops

/-- The business pause after a list of operations, from the pause before them: the last value
set, or the one before when none is. -/
def pauseAfter (b : Bool) : List Op → Bool
  | [] => b
  | .pause b' :: ops => pauseAfter b' ops
  | _ :: ops => pauseAfter b ops

/-- The answer the gate rules give to an operation, and the held items after it, from the
pending priority count, the business pause and the held items (`some owns` while an item is
held, `none` once it is dropped). The slot is taken when a held item owns it. -/
def rule (remaining : Nat) (paused : Bool) (held : List (Option Bool)) :
    Op → Reply × List (Option Bool)
  | .complete _ => (.done, held)
  | .pause _ => (.done, held)
  | .enter a c =>
    if c then (.poll .cancelled, held)
    else if paused then (.poll .blocked, held)
    else if !a.priority && remaining ≠ 0 then (.poll .blocked, held)
    else if a.large && some true ∈ held then (.poll .blocked, held)
    else (.admitted held.length, held ++ [some a.large])
  | .acquireLarge c =>
    if c then (.poll .cancelled, held)
    else if some true ∈ held then (.poll .blocked, held)
    else (.admitted held.length, held ++ [some true])
  | .waitBusiness c =>
    (.poll (if c then .cancelled else if paused then .blocked else .clear), held)
  | .waitPriority c =>
    (.poll (if c then .cancelled else if remaining = 0 then .clear else .blocked), held)
  | .release k =>
    match held[k]? with
    | some (some _) => (.released, held.set k none)
    | _ => (.unknown, held)

/-- The large files in flight are the held items that own the slot, and there is at most one. -/
structure Wf (s : Session) : Prop where
  inFlight : s.gate.largeInFlight = s.held.count (some true)
  atMostOne : s.held.count (some true) ≤ 1

/-! ## 2. One operation -/

variable {s : Session}

theorem completedBy_cons (op : Op) (ops : List Op) :
    completedBy (op :: ops) = completedBy [op] + completedBy ops := by
  cases op <;> simp [completedBy]

theorem pauseAfter_cons (b : Bool) (op : Op) (ops : List Op) :
    pauseAfter b (op :: ops) = pauseAfter (pauseAfter b [op]) ops := by
  cases op <;> rfl

@[simp] theorem hold_gate (o : Bool) : (s.hold o).1.gate = s.gate := rfl

@[simp] theorem hold_held (o : Bool) : (s.hold o).1.held = s.held ++ [some o] := rfl

/-- Only a completion moves the drain. -/
theorem step_priorityRemaining (op : Op) :
    (s.step op).1.gate.priorityRemaining = s.gate.priorityRemaining - completedBy [op] := by
  cases op with
  | enter a c => simp only [step]; split <;> simp [completedBy]
  | acquireLarge c => simp only [step]; split <;> simp [completedBy]
  | release k => simp only [step]; split <;> [(split <;> simp [completedBy]); simp [completedBy]]
  | _ => simp [step, completedBy]

theorem step_paused (op : Op) : (s.step op).1.gate.paused = pauseAfter s.gate.paused [op] := by
  cases op with
  | enter a c => simp only [step]; split <;> simp [pauseAfter]
  | acquireLarge c => simp only [step]; split <;> simp [pauseAfter]
  | release k => simp only [step]; split <;> [(split <;> simp [pauseAfter]); simp [pauseAfter]]
  | _ => simp [step, pauseAfter]

theorem Wf.slot_free_iff (hs : s.Wf) : s.gate.largeInFlight = 0 ↔ some true ∉ s.held := by
  rw [hs.inFlight, List.count_eq_zero]

theorem Wf.take (hs : s.Wf) (hfree : some true ∉ s.held) :
    Wf ⟨s.gate.takeLarge, s.held ++ [some true]⟩ := by
  have h0 : s.held.count (some true) = 0 := List.count_eq_zero.2 hfree
  constructor <;> simp [List.count_append, hs.inFlight, h0]

/-- Dropping held item `k` frees the slot exactly when the item owns it. -/
theorem Wf.drop (hs : s.Wf) {k : Nat} {o : Bool} (hk : s.held[k]? = some (some o)) :
    Wf ⟨if o then s.gate.dropLarge else s.gate, s.held.set k none⟩ := by
  obtain ⟨hlt, hget⟩ := List.getElem?_eq_some_iff.1 hk
  have hcount : (s.held.set k none).count (some true) =
      s.held.count (some true) - if o then 1 else 0 := by
    rw [List.count_set hlt, hget]
    cases o <;> simp
  constructor
  · rw [hcount]
    cases o <;> simp [hs.inFlight]
  · rw [hcount]
    exact Nat.le_trans (Nat.sub_le _ _) hs.atMostOne

/-- Every operation keeps the session well formed. -/
theorem Wf.step (hs : s.Wf) (op : Op) : (s.step op).1.Wf := by
  cases op with
  | enter a c =>
    simp only [Session.step]
    split
    · rename_i hp
      have hslot : a.large = true → some true ∉ s.held := fun hl =>
        hs.slot_free_iff.1 (((s.gate.admitPoll_eq_clear a c).1 hp).2.2.2 hl)
      cases hl : a.large
      · exact ⟨by simp [Gate.admitted_largeInFlight, hl, List.count_append, hs.inFlight],
          by simpa [List.count_append] using hs.atMostOne⟩
      · simp only [Gate.admitted, hl, if_true]
        exact hs.take (hslot hl)
    · exact hs
  | acquireLarge c =>
    simp only [Session.step]
    split
    · rename_i hp
      exact hs.take (hs.slot_free_iff.1 ((s.gate.largePoll_eq_clear c).1 hp).2)
    · exact hs
  | release k =>
    simp only [Session.step]
    split
    · exact hs.drop ‹_›
    · exact hs
  | complete n => exact ⟨hs.inFlight, hs.atMostOne⟩
  | pause b => exact ⟨hs.inFlight, hs.atMostOne⟩
  | waitBusiness c => exact hs
  | waitPriority c => exact hs

/-- In a well-formed session every operation answers by the gate rules. -/
theorem Wf.step_eq_rule (hs : s.Wf) (op : Op) :
    ((s.step op).2, (s.step op).1.held) =
      rule s.gate.priorityRemaining s.gate.paused s.held op := by
  -- the session looks at the slot's counter where the rules look at the held items
  have hslot : (s.gate.largeInFlight ≠ 0) = (some true ∈ s.held) := by
    rw [Ne, hs.slot_free_iff, not_not]
  cases op with
  | enter a c =>
    simp only [Session.step, rule, Gate.admitPoll_eq, hslot]
    split_ifs <;> rfl
  | acquireLarge c =>
    simp only [Session.step, rule, Gate.largePoll, hs.slot_free_iff]
    split_ifs <;> rfl
  | waitBusiness c => rfl
  | waitPriority c => rfl
  | release k =>
    simp only [Session.step, rule]
    rcases s.held[k]? with _ | _ | o <;> rfl
  | complete n => rfl
  | pause b => rfl

/-! ## 3. A whole session -/

theorem after_append_singleton (pre : List Op) (op : Op) :
    s.after (pre ++ [op]) = ((s.after pre).step op).1 := by
  induction pre generalizing s with
  | nil => rfl
  | cons x pre ih => exact ih

theorem after_priorityRemaining (ops : List Op) :
    (s.after ops).gate.priorityRemaining = s.gate.priorityRemaining - completedBy ops := by
  induction ops generalizing s with
  | nil => rfl
  | cons op ops ih =>
    rw [after, ih, step_priorityRemaining, Nat.sub_sub, ← completedBy_cons]

theorem after_paused (ops : List Op) :
    (s.after ops).gate.paused = pauseAfter s.gate.paused ops := by
  induction ops generalizing s with
  | nil => rfl
  | cons op ops ih => rw [after, ih, step_paused, ← pauseAfter_cons]

theorem Wf.after (hs : s.Wf) (ops : List Op) : (s.after ops).Wf := by
  induction ops generalizing s with
  | nil => exact hs
  | cons op ops ih => exact ih (hs.step op)

theorem new_wf (p : Nat) : (new p).Wf := ⟨rfl, Nat.zero_le 1⟩

/-- The answer a run gives to an operation is that of the session after the operations before
it. -/
theorem run_getElem?_length (pre : List Op) (op : Op) (post : List Op) :
    (s.run (pre ++ op :: post))[pre.length]? =
      some (((s.after pre).step op).2, ((s.after pre).step op).1.gate) := by
  induction pre generalizing s with
  | nil => rfl
  | cons x pre ih => exact ih

/-- Every answer of a session follows from the operations before it: the pending priority
count is the starting count less what was completed (stopping at zero), the pause is the last
value set, the large files in flight are the held items owning the slot and at most one, and
the answer and the held items after it are those the gate rules give. -/
theorem gate_session_follows_its_history (p : Nat) (pre : List Op) (op : Op) (post : List Op) :
    let s := (new p).after pre
    let s' := (s.step op).1
    ((new p).run (pre ++ op :: post))[pre.length]? = some ((s.step op).2, s'.gate) ∧
      ((s.step op).2, s'.held) = rule (p - completedBy pre) (pauseAfter false pre) s.held op ∧
      s'.gate.priorityRemaining = p - completedBy (pre ++ [op]) ∧
      s'.gate.paused = pauseAfter false (pre ++ [op]) ∧
      s'.gate.largeInFlight = s'.held.count (some true) ∧ s'.gate.largeInFlight ≤ 1 := by
  intro s s'
  have hafter : s' = (new p).after (pre ++ [op]) := (after_append_singleton pre op).symm
  have hs : s.Wf := (new_wf p).after pre
  have hs' : s'.Wf := hs.step op
  have hrem : s.gate.priorityRemaining = p - completedBy pre := after_priorityRemaining pre
  have hpause : s.gate.paused = pauseAfter false pre := after_paused pre
  refine ⟨run_getElem?_length pre op post, ?_, ?_, ?_, hs'.inFlight, ?_⟩
  · rw [← hrem, ← hpause]
    exact hs.step_eq_rule op
  · rw [hafter]
    exact after_priorityRemaining _
  · rw [hafter]
    exact after_paused _
  · rw [hs'.inFlight]
    exact hs'.atMostOne

end Session

end Gate

end Safekeep
