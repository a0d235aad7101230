import Safekeep.Proofs.Run.Scenario

/-!
# What the gates of a run guarantee

Three consequences of the invariant of a run (`Batch.Inv`), at every state a run of
`Orchestrator.runMany` can be in (`Orchestrator.Reaches`), whatever the order of its runners'
steps, of the business pause and of the cancellation of its token:

* the drain counts exactly the priority files the runners have neither logged nor given up by
  returning, so no runner ever counts off more than is left, and the drain ends at zero;
* a plain file is admitted only once no runner owes a priority file, so the log lists every
  priority file's entry before every plain file's entry, across all jobs;
* at most one large file is inside its copy at any time, the slot count says exactly whether
  one is, and only a large file waits for or holds the slot.

Each theorem is followed by the states of a run of two jobs (`Orchestrator.twoJobs`) where it
applies.
-/

namespace Safekeep

open Safekeep.Time Runner

namespace Batch

variable {b : Batch}

theorem Inv.priorityRemaining_eq_sum (hi : b.Inv) :
    b.shared.gate.priorityRemaining = (b.runners.map (·.priorityOwed)).sum := by
  rw [hi.drain, List.map_congr_left fun r hr => (hi.wf r hr).pending]

theorem Inv.priorityOwed_eq_zero (hi : b.Inv) (h0 : b.shared.gate.priorityRemaining = 0) :
    ∀ r ∈ b.runners, r.priorityOwed = 0 := by
  rw [hi.priorityRemaining_eq_sum, List.sum_eq_zero_iff] at h0
  exact fun r hr => h0 _ (List.mem_map_of_mem hr)

theorem sum_slotHeld (rs : List Runner) :
    (rs.map (·.slotHeld)).sum = (rs.filter (·.holdsSlot)).length := by
  induction rs with
  | nil => rfl
  | cons r rs ih =>
    rw [List.map_cons, List.sum_cons, ih, List.filter_cons]
    cases h : r.holdsSlot <;> simp [slotHeld, h, Nat.add_comm]

theorem Inv.largeInFlight_eq_copying (hi : b.Inv) :
    b.shared.gate.largeInFlight =
      (b.runners.filter fun r => r.stage.isCopying && r.headLarge).length := by
  rw [hi.slot, sum_slotHeld, List.filter_congr fun r hr => (hi.wf r hr).slot]

end Batch

namespace Orchestrator

variable {o : Orchestrator} {d : Disk} {cwd : Loc} {now : Instant} {probes : List Bool}
  {ids : List Nat} {b : Batch}

/-- The drain of a run counts exactly the priority files that its runners have neither logged
nor given up by returning; each runner's own count is what it owes, and never more than the
drain, so counting it off never cuts the drain below zero; and once every runner has returned
the drain is empty. -/
theorem drain_counts_unlogged_priority_files (h : o.Reaches d cwd now probes ids b) :
    b.shared.gate.priorityRemaining = (b.runners.map (·.priorityOwed)).sum ∧
    (∀ r ∈ b.runners,
      r.pending = r.priorityOwed ∧ r.pending ≤ b.shared.gate.priorityRemaining) ∧
    (b.isDone = true → b.shared.gate.priorityRemaining = 0) := by
  have hi := h.inv
  refine ⟨hi.priorityRemaining_eq_sum, fun r hr => ⟨(hi.wf r hr).pending, hi.pending_le hr⟩,
    fun hdone => ?_⟩
  -- a runner that has returned owes nothing
  have hall : ∀ r ∈ b.runners, r.isFinished = true := by
    simpa [Batch.isDone] using hdone
  rw [hi.priorityRemaining_eq_sum]
  refine List.sum_eq_zero fun n hn => ?_
  obtain ⟨r, hr, rfl⟩ := List.mem_map.1 hn
  exact priorityOwed_of_finished (hall r hr)

theorem drain_counts_unlogged_priority_files_of_two_jobs :
    (∃ b, twoJobs.Reaches twoTrees [] (.ofSeconds 0) [] [1, 2] b ∧
      b.runners.map (·.priorityOwed) = [1, 0] ∧ b.shared.gate.priorityRemaining = 1 ∧
      b.shared.gate.priorityRemaining = (b.runners.map (·.priorityOwed)).sum ∧
      (∀ r ∈ b.runners,
        r.pending = r.priorityOwed ∧ r.pending ≤ b.shared.gate.priorityRemaining) ∧
      (b.isDone = true → b.shared.gate.priorityRemaining = 0)) ∧
    ∃ b, twoJobs.Reaches twoTrees [] (.ofSeconds 0) [] [1, 2] b ∧ b.isDone = true ∧
      b.shared.gate.priorityRemaining = (b.runners.map (·.priorityOwed)).sum ∧
      (∀ r ∈ b.runners,
        r.pending = r.priorityOwed ∧ r.pending ≤ b.shared.gate.priorityRemaining) ∧
      (b.isDone = true → b.shared.gate.priorityRemaining = 0) := by
  obtain ⟨b, hb, -, -, -, howed, hdrain, -, -, -, -⟩ := twoJobs_midway
  obtain ⟨b', hb', hdone, -⟩ := twoJobs_done
  exact ⟨⟨b, hb, howed, hdrain, drain_counts_unlogged_priority_files hb⟩,
    ⟨b', hb', hdone, drain_counts_unlogged_priority_files hb'⟩⟩

/-- A runner is admitted on a plain file only when no runner of the run still owes a priority
file; so, in the order entries reach the log, every priority file's entry comes before every
plain file's entry, across all the jobs of the run. -/
theorem plain_files_wait_for_priority_files (h : o.Reaches d cwd now probes ids b) :
    (∀ r ∈ b.runners, ∀ u, r.current = some u → u.priority = false →
      r.stage.isAdmitted = true → ∀ x ∈ b.runners, x.priorityOwed = 0) ∧
    b.shared.logs.Pairwise fun e f =>
      o.settings.isPriority f.sourcePath = true → o.settings.isPriority e.sourcePath = true := by
  have hi := h.inv
  refine ⟨fun r hr u hcur hplain hadm => ?_, ?_⟩
  · have hppd : r.plainPastDrain = true := by
      simp [plainPastDrain, headPriority, hcur, hplain, Stage.pastDrain_of_isAdmitted hadm]
    exact hi.priorityOwed_eq_zero (hi.drained r hr hppd)
  · have hlog := hi.logOrder
    simp only [Batch.entryPriority, h.settings] at hlog
    exact hlog

theorem plain_files_wait_for_priority_files_of_two_jobs :
    (∃ b, twoJobs.Reaches twoTrees [] (.ofSeconds 0) [] [1, 2] b ∧
      b.runners.map (·.current) = [none, some zFile] ∧ b.runners.map (·.priorityOwed) = [0, 0] ∧
      (∀ r ∈ b.runners, ∀ u, r.current = some u → u.priority = false →
        r.stage.isAdmitted = true → ∀ x ∈ b.runners, x.priorityOwed = 0) ∧
      b.shared.logs.Pairwise fun e f =>
        twoJobs.settings.isPriority f.sourcePath = true →
          twoJobs.settings.isPriority e.sourcePath = true) ∧
    ∃ b, twoJobs.Reaches twoTrees [] (.ofSeconds 0) [] [1, 2] b ∧
      b.shared.logs.map (·.sourcePath) = ["/u/y.p", "/s/x.p", "/u/z"] ∧
      (∀ r ∈ b.runners, ∀ u, r.current = some u → u.priority = false →
        r.stage.isAdmitted = true → ∀ x ∈ b.runners, x.priorityOwed = 0) ∧
      b.shared.logs.Pairwise fun e f =>
        twoJobs.settings.isPriority f.sourcePath = true →
          twoJobs.settings.isPriority e.sourcePath = true := by
  obtain ⟨b, hb, -, hcur, howed, -⟩ := twoJobs_drained
  obtain ⟨b', hb', -, -, -, hlogs⟩ := twoJobs_done
  exact ⟨⟨b, hb, hcur, howed, plain_files_wait_for_priority_files hb⟩,
    ⟨b', hb', hlogs, plain_files_wait_for_priority_files hb'⟩⟩

/-- At most one large file is inside its copy at any time: a runner holds the large-file slot
exactly while it copies a large file, the slot count is the number of such runners and never
more than one, it is one throughout every large file's copy, and a runner waits for the slot
only on a large file. -/
theorem one_large_file_at_a_time (h : o.Reaches d cwd now probes ids b) :
    (∀ r ∈ b.runners, r.holdsSlot = (r.stage.isCopying && r.headLarge)) ∧
    b.shared.gate.largeInFlight =
      (b.runners.filter fun r => r.stage.isCopying && r.headLarge).length ∧
    b.shared.gate.largeInFlight ≤ 1 ∧
    (∀ r ∈ b.runners, r.stage.isCopying = true → r.headLarge = true →
      b.shared.gate.largeInFlight = 1) ∧
    (∀ r ∈ b.runners, r.stage = .waitSlot → r.headLarge = true) := by
  have hi := h.inv
  refine ⟨fun r hr => (hi.wf r hr).slot, hi.largeInFlight_eq_copying, hi.slotOne,
    fun r hr hcopy hlarge => ?_, fun r hr => (hi.wf r hr).slotWait⟩
  -- the copying runner is one of those the slot counts, and it counts at most one
  have hpos : 0 < (b.runners.filter fun r => r.stage.isCopying && r.headLarge).length :=
    List.length_pos_of_mem (List.mem_filter.2 ⟨hr, by simp [hcopy, hlarge]⟩)
  have hone := hi.slotOne
  rw [hi.largeInFlight_eq_copying] at hone ⊢
  omega

theorem one_large_file_at_a_time_of_two_jobs :
    ∃ b, twoJobs.Reaches twoTrees [] (.ofSeconds 0) [] [1, 2] b ∧
      b.runners.map (·.current) = [some xFile, some zFile] ∧
      b.runners.map (·.holdsSlot) = [true, false] ∧ b.shared.gate.largeInFlight = 1 ∧
      (∀ r ∈ b.runners, r.holdsSlot = (r.stage.isCopying && r.headLarge)) ∧
      b.shared.gate.largeInFlight =
        (b.runners.filter fun r => r.stage.isCopying && r.headLarge).length ∧
      b.shared.gate.largeInFlight ≤ 1 ∧
      (∀ r ∈ b.runners, r.stage.isCopying = true → r.headLarge = true →
        b.shared.gate.largeInFlight = 1) ∧
      (∀ r ∈ b.runners, r.stage = .waitSlot → r.headLarge = true) := by
  obtain ⟨b, hb, -, hcur, hslot, -, -, hlarge, -, -, -⟩ := twoJobs_midway
  exact ⟨b, hb, hcur, hslot, hlarge, one_large_file_at_a_time hb⟩

end Orchestrator

end Safekeep
