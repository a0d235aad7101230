import Safekeep.Proofs.Run.Invariant

/-!
# A run of two jobs over a laid-out disk

The run the theorems about runs are shown at. The disk holds two source trees: `/s` with a large
priority file `x.p`, and `/u` with a small priority file `y.p` and a small plain file `z`; files
named `.p` are priority files and files of two bytes or more are large. The first job copies `/s`
to `/d`, the second `/u` to `/e`.

Three of its states are reached here by the moves of the runners, with the facts about them
evaluated: midway (`Orchestrator.twoJobs_midway`), the first runner copies its large file
holding the large-file slot, while the second has logged its priority file and waits at the
priority drain with its plain file, since the first still owes one; drained
(`Orchestrator.twoJobs_drained`), the first has logged its file and the second copies its plain
file; at the end
(`Orchestrator.twoJobs_done`), both runners have logged their whole plans, the priority files
first, and completed.
-/

namespace Safekeep

open Safekeep.Time

namespace Orchestrator

-- the views below pair lists of stages and transfers, whose equality instance is a large term
set_option synthInstance.maxSize 2048

variable {o : Orchestrator} {d : Disk} {cwd : Loc} {now : Instant} {probes : List Bool}
  {ids : List Nat}

/-- A course of moves from the start of a run reaches one of its states; the state has the
view the course evaluates to. -/
theorem Reaches.of_exec_map {α : Type} {f : Batch → α} {v : α} {moves : List Move}
    (h : ((o.launch d cwd now probes (o.prepareAll d cwd now ids)).exec moves).map f = some v) :
    ∃ b, o.Reaches d cwd now probes ids b ∧ f b = v := by
  obtain ⟨b, hb, hv⟩ := Option.map_eq_some_iff.1 h
  exact ⟨b, ⟨moves, hb⟩, hv⟩

def twoTrees : Disk :=
  ⟨[(["s"], .dir 0o755), (["s", "x.p"], .file ⟨#[1, 2, 3]⟩ 0o644 ⟨1, 0⟩),
    (["u"], .dir 0o755), (["u", "y.p"], .file ⟨#[7]⟩ 0o644 ⟨1, 0⟩),
    (["u", "z"], .file ⟨#[9]⟩ 0o644 ⟨1, 0⟩), (["d"], .dir 0o755), (["e"], .dir 0o755)],
   ⟨5, 0⟩⟩

def quietHost : Host := ⟨[], true, fun d _ _ _ _ => (d, .error .noExec), fun _ _ => none⟩

/-- Two full jobs, `/s` to `/d` and `/u` to `/e`, with `.p` files as priority files and files of
two bytes or more as large. -/
def twoJobs : Orchestrator :=
  ⟨{ Settings.default with priorityExtensions := ["p"], largeFileThreshold := 2 },
    ⟨[⟨1, "j", "/s", "/d", .full⟩, ⟨2, "k", "/u", "/e", .full⟩]⟩, false, quietHost⟩

/-- The files of `/s` and `/u`: the large priority file `x.p`, then the priority file `y.p` and
the plain file `z`. -/
def xFile : Transfer := ⟨"/s/x.p", "/d/x.p", 3, true, true, false⟩
def yFile : Transfer := ⟨"/u/y.p", "/e/y.p", 1, true, false, false⟩
def zFile : Transfer := ⟨"/u/z", "/e/z", 1, false, false, false⟩

theorem twoJobs_prepared : twoJobs.prepareAll twoTrees [] (.ofSeconds 0) [1, 2] =
    [(1, .active ⟨1, "j", "/s", "/d", .full⟩ [xFile]),
     (2, .active ⟨2, "k", "/u", "/e", .full⟩ [yFile, zFile])] := by
  cbv

/-- Midway through the run: the first runner has taken the large-file slot and copies `x.p`;
the second has logged `y.p` and waits at the drain with `z`, which the drain of one holds back. -/
theorem twoJobs_midway : ∃ b, twoJobs.Reaches twoTrees [] (.ofSeconds 0) [] [1, 2] b ∧
    b.runners.map (·.stage) = [.copyWait, .waitDrain] ∧
    b.runners.map (·.current) = [some xFile, some zFile] ∧
    b.runners.map (·.holdsSlot) = [true, false] ∧
    b.runners.map (·.priorityOwed) = [1, 0] ∧
    b.shared.gate.priorityRemaining = 1 ∧ b.shared.gate.largeInFlight = 1 ∧
    b.shared.logs.map (·.sourcePath) = ["/u/y.p"] ∧
    b.shared.gate.paused = false ∧ b.isDone = false := by
  have h : ((twoJobs.launch twoTrees [] (.ofSeconds 0) [] (twoJobs.prepareAll twoTrees [] (.ofSeconds 0) [1, 2])).exec
      ([0, 1, 0, 0, 0, 1, 1, 1, 1, 1, 1, 1].map .runner)).map (fun b =>
        (b.runners.map (·.stage), b.runners.map (·.current), b.runners.map (·.holdsSlot),
          b.runners.map (·.priorityOwed), b.shared.gate.priorityRemaining,
          b.shared.gate.largeInFlight, b.shared.logs.map (·.sourcePath), b.shared.gate.paused,
          b.isDone)) =
      some ([.copyWait, .waitDrain], [some xFile, some zFile], [true, false], [1, 0], 1, 1,
        ["/u/y.p"], false, false) := by
    rw [twoJobs_prepared]
    decide +kernel
  obtain ⟨b, hb, hv⟩ := Reaches.of_exec_map h
  simp only [Prod.mk.injEq] at hv
  exact ⟨b, hb, hv⟩

/-- The drain emptied: the first runner has logged `x.p` and given the slot back, and the second
has passed the drain with `z` and copies it. -/
theorem twoJobs_drained : ∃ b, twoJobs.Reaches twoTrees [] (.ofSeconds 0) [] [1, 2] b ∧
    b.runners.map (·.stage) = [.next, .copyWait] ∧
    b.runners.map (·.current) = [none, some zFile] ∧
    b.runners.map (·.priorityOwed) = [0, 0] ∧
    b.shared.gate.priorityRemaining = 0 ∧
    b.shared.logs.map (·.sourcePath) = ["/u/y.p", "/s/x.p"] := by
  have h : ((twoJobs.launch twoTrees [] (.ofSeconds 0) [] (twoJobs.prepareAll twoTrees [] (.ofSeconds 0) [1, 2])).exec
      ([0, 1, 0, 0, 0, 1, 1, 1, 1, 1, 1, 1, 0, 0, 0, 1].map .runner)).map (fun b =>
        (b.runners.map (·.stage), b.runners.map (·.current), b.runners.map (·.priorityOwed),
          b.shared.gate.priorityRemaining, b.shared.logs.map (·.sourcePath))) =
      some ([.next, .copyWait], [none, some zFile], [0, 0], 0, ["/u/y.p", "/s/x.p"]) := by
    rw [twoJobs_prepared]
    decide +kernel
  obtain ⟨b, hb, hv⟩ := Reaches.of_exec_map h
  simp only [Prod.mk.injEq] at hv
  exact ⟨b, hb, hv⟩

/-- The end of the run: both runners have returned, completed, after logging `y.p`, `x.p` and
`z` in this order, and the drain is empty. -/
theorem twoJobs_done : ∃ b, twoJobs.Reaches twoTrees [] (.ofSeconds 0) [] [1, 2] b ∧
    b.isDone = true ∧
    b.runners.map (·.outcome?) = [some (.completed 1 0), some (.completed 2 0)] ∧
    b.shared.gate.priorityRemaining = 0 ∧
    b.shared.logs.map (·.sourcePath) = ["/u/y.p", "/s/x.p", "/u/z"] := by
  have h : ((twoJobs.launch twoTrees [] (.ofSeconds 0) [] (twoJobs.prepareAll twoTrees [] (.ofSeconds 0) [1, 2])).exec
      ([0, 1, 0, 0, 0, 1, 1, 1, 1, 1, 1, 1, 0, 0, 0, 0, 1, 1, 1, 1, 1].map .runner)).map
        (fun b => (b.isDone, b.runners.map (·.outcome?), b.shared.gate.priorityRemaining,
          b.shared.logs.map (·.sourcePath))) =
      some (true, [some (.completed 1 0), some (.completed 2 0)], 0,
        ["/u/y.p", "/s/x.p", "/u/z"]) := by
    rw [twoJobs_prepared]
    decide +kernel
  obtain ⟨b, hb, hv⟩ := Reaches.of_exec_map h
  simp only [Prod.mk.injEq] at hv
  exact ⟨b, hb, hv⟩

end Orchestrator

end Safekeep
