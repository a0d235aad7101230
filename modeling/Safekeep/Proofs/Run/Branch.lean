import Safekeep.Proofs.Run.Accounting

/-!
# The branches of a runner's step

`Runner.Takes` reads `Runner.step` as a relation: one constructor for each branch that gives a
step, with the stage it leaves, the guards it passed, and the shared state and runner it gives.
The branches where the runner waits (for the pause, the drain, the large-file slot or the tool's
slot), and that of a runner that has returned, give no step and have no constructor.

`Runner.takes_of_step` is the one case split over the step's definition. What a step does to the
accounting of a run, to the runner's distance from its return, to its files and the log, to the
progress record and to the tool's slot is read off the relation, branch by branch, and never
opens the step again.
-/

namespace Safekeep

namespace Runner

variable {cx : Context} {sh : Shared} {r : Runner}

/-- The step of runner `r`, with what it knows of its run `cx`, from the shared state `sh`. -/
inductive Takes (cx : Context) (sh : Shared) (r : Runner) : Shared × Runner → Prop
  -- The first step publishes the plan's totals.
  | totals (hs : r.stage = .start) :
      Takes cx sh r
        (sh.publish { r.progress with
            state := .active
            filesTotal := r.units.length
            filesRemaining := r.units.length
            bytesTotal := (r.units.map (·.size)).foldr (· + ·) 0 % (Number.u64Max + 1)
            bytesRemaining := (r.units.map (·.size)).foldr (· + ·) 0 % (Number.u64Max + 1) },
          { r with
            progress := { r.progress with
              state := .active
              filesTotal := r.units.length
              filesRemaining := r.units.length
              bytesTotal := (r.units.map (·.size)).foldr (· + ·) 0 % (Number.u64Max + 1)
              bytesRemaining := (r.units.map (·.size)).foldr (· + ·) 0 % (Number.u64Max + 1) }
            stage := .next })
  -- With no file left, the runner publishes its completion and returns.
  | complete (hs : r.stage = .next) (hu : r.units = []) :
      Takes cx sh r
        (sh.publish { r.progress with
            state := .completed
            currentSource := none
            currentTarget := none },
          { r with
            progress := { r.progress with
              state := .completed
              currentSource := none
              currentTarget := none }
            stage := .finished (.completed r.transferred r.failed) })
  -- With a file left and the source still a directory, the runner goes to the gate.
  | toGate {u : Transfer} {us : List Transfer} (hs : r.stage = .next) (hu : r.units = u :: us)
      (hdir : sh.disk.isDir cx.cwd r.job.source = true) :
      Takes cx sh r (sh, { r with stage := .waitPause })
  -- With the source gone, the job fails.
  | lost {u : Transfer} {us : List Transfer} (hs : r.stage = .next) (hu : r.units = u :: us)
      (hdir : sh.disk.isDir cx.cwd r.job.source = false) :
      Takes cx sh r
        (r.abort sh (.failed ("source directory " ++ r.job.source ++ " is no longer accessible")))
  -- A runner on a file with no file left stops; a well-formed runner never does.
  | unitless (hh : r.stage.holdsUnit = true) (hu : r.units = []) :
      Takes cx sh r (r.abort sh (.failed "no file to handle"))
  -- A cancelled run stops the runner at a gate.
  | cancelAtGate {u : Transfer} {us : List Transfer}
      (hs : r.stage = .waitPause ∨ r.stage = .waitDrain ∨ r.stage = .waitSlot)
      (hu : r.units = u :: us) (hc : cx.cancelled = true) :
      Takes cx sh r (r.abort sh .cancelled)
  -- Past the pause, a plain file goes to the drain and a large priority file to the slot.
  | pastPause {u : Transfer} {us : List Transfer} (hs : r.stage = .waitPause)
      (hu : r.units = u :: us) (hc : cx.cancelled = false) (hp : sh.gate.paused = false)
      (hn : afterPause u ≠ .copyWait) :
      Takes cx sh r (sh, { r with stage := afterPause u })
  -- Past the pause, a small priority file is copied.
  | enterAtPause {u : Transfer} {us : List Transfer} (hs : r.stage = .waitPause)
      (hu : r.units = u :: us) (hc : cx.cancelled = false) (hp : sh.gate.paused = false)
      (hn : afterPause u = .copyWait) :
      Takes cx sh r (r.enter sh u)
  -- Once the priority files are drained, a large plain file goes to the slot.
  | drainedToSlot {u : Transfer} {us : List Transfer} (hs : r.stage = .waitDrain)
      (hu : r.units = u :: us) (hc : cx.cancelled = false) (hd : sh.gate.priorityRemaining = 0)
      (hl : u.large = true) :
      Takes cx sh r (sh, { r with stage := .waitSlot })
  -- Once the priority files are drained, a small plain file is copied.
  | enterAtDrain {u : Transfer} {us : List Transfer} (hs : r.stage = .waitDrain)
      (hu : r.units = u :: us) (hc : cx.cancelled = false) (hd : sh.gate.priorityRemaining = 0)
      (hl : u.large = false) :
      Takes cx sh r (r.enter sh u)
  -- A large file takes the free slot and is copied.
  | takeSlot {u : Transfer} {us : List Transfer} (hs : r.stage = .waitSlot)
      (hu : r.units = u :: us) (hc : cx.cancelled = false) (hfree : sh.gate.largeInFlight = 0) :
      Takes cx sh r (enter { r with holdsSlot := true } { sh with gate := sh.gate.takeLarge } u)
  -- A cancelled run stops a copy at its pause wait.
  | cancelCopy {u : Transfer} {us : List Transfer} (hs : r.stage.isCopying = true)
      (hu : r.units = u :: us) (hc : cx.cancelled = true) :
      Takes cx sh r (r.cancelCopy cx sh u)
  -- Opening the source or the target fails, and the copy ends with the error.
  | openFailed {u : Transfer} {us : List Transfer} {d : Disk} {e : Errno}
      (hs : r.stage = .copyWait) (hu : r.units = u :: us) (hc : cx.cancelled = false)
      (hp : sh.gate.paused = false)
      (ho : sh.disk.openCopy cx.cwd u.source u.target = (d, .error e)) :
      Takes cx sh r (r.endCopy cx { sh with disk := d } u (.error e))
  -- Both files are opened, and the chunks follow.
  | opened {u : Transfer} {us : List Transfer} {d : Disk} {c : Copying}
      (hs : r.stage = .copyWait) (hu : r.units = u :: us) (hc : cx.cancelled = false)
      (hp : sh.gate.paused = false) (ho : sh.disk.openCopy cx.cwd u.source u.target = (d, .ok c)) :
      Takes cx sh r ({ sh with disk := d }, { r with stage := .copyRead c })
  -- A read fails, and the copy ends with the error.
  | readFailed {u : Transfer} {us : List Transfer} {c : Copying} {e : Errno}
      (hs : r.stage = .copyRead c) (hu : r.units = u :: us) (hc : cx.cancelled = false)
      (hp : sh.gate.paused = false) (hn : Disk.nextChunk c = .error e) :
      Takes cx sh r (r.endCopy cx sh u (.error e))
  -- The source is read to its end and the copy is finished: it ends with its count.
  | copied {u : Transfer} {us : List Transfer} {c : Copying} {d : Disk}
      (hs : r.stage = .copyRead c) (hu : r.units = u :: us) (hc : cx.cancelled = false)
      (hp : sh.gate.paused = false) (hn : Disk.nextChunk c = .ok none)
      (hf : sh.disk.finishCopy cx.cwd c = .ok d) :
      Takes cx sh r (r.endCopy cx { sh with disk := d } u (.ok c.done))
  -- The source is read to its end but finishing the copy fails: it ends with the error.
  | finishFailed {u : Transfer} {us : List Transfer} {c : Copying} {e : Errno}
      (hs : r.stage = .copyRead c) (hu : r.units = u :: us) (hc : cx.cancelled = false)
      (hp : sh.gate.paused = false) (hn : Disk.nextChunk c = .ok none)
      (hf : sh.disk.finishCopy cx.cwd c = .error e) :
      Takes cx sh r (r.endCopy cx sh u (.error e))
  -- The machine fails to read or write a chunk, and the copy ends with the error.
  | chunkFailed {u : Transfer} {us : List Transfer} {c c' : Copying} {bytes : ByteArray}
      {e : Errno} (hs : r.stage = .copyRead c) (hu : r.units = u :: us) (hc : cx.cancelled = false)
      (hp : sh.gate.paused = false) (hn : Disk.nextChunk c = .ok (some (bytes, c')))
      (hf : cx.host.ioFault u.source c.done = some e) :
      Takes cx sh r (r.endCopy cx sh u (.error e))
  -- A chunk is read and written to the target.
  | chunk {u : Transfer} {us : List Transfer} {c c' : Copying} {bytes : ByteArray}
      (hs : r.stage = .copyRead c) (hu : r.units = u :: us) (hc : cx.cancelled = false)
      (hp : sh.gate.paused = false) (hn : Disk.nextChunk c = .ok (some (bytes, c')))
      (hf : cx.host.ioFault u.source c.done = none) :
      Takes cx sh r
        ({ sh with disk := sh.disk.writeChunk c bytes }, { r with stage := .copyRead c' })
  -- Sealing is settled without the tool, and the file is logged with its code.
  | sealDecided {u : Transfer} {us : List Transfer} {code : Int} (hs : r.stage = .sealWait)
      (hu : r.units = u :: us)
      (hplan : sh.disk.sealPlan cx.cwd cx.host cx.settings u.target = .decided code) :
      Takes cx sh r (r.afterSeal cx sh u code)
  -- A cancelled run stops the runner before it starts the tool.
  | cancelAtTool {u : Transfer} {us : List Transfer} {tool : String} (hs : r.stage = .sealWait)
      (hu : r.units = u :: us) (hplan : sh.disk.sealPlan cx.cwd cx.host cx.settings u.target = .launch tool)
      (hc : cx.cancelled = true) :
      Takes cx sh r (r.abort sh .cancelled)
  -- The tool does not start at its free slot, which is given back at once; the file is logged with
  -- the code of why.
  | launchRefused {u : Transfer} {us : List Transfer} {tool : String} {d : Disk} {code : Int}
      (hs : r.stage = .sealWait) (hu : r.units = u :: us)
      (hplan : sh.disk.sealPlan cx.cwd cx.host cx.settings u.target = .launch tool)
      (hc : cx.cancelled = false) (hfree : sh.sealBusy = false)
      (hrun : sh.disk.sealLaunch cx.cwd cx.host cx.settings tool u.target = (d, .refused code)) :
      Takes cx sh r (r.afterSeal cx { sh with disk := d } u code)
  -- The tool starts at its free slot, and holds it while it runs.
  | launch {u : Transfer} {us : List Transfer} {tool : String} {d : Disk} {code : Int}
      (hs : r.stage = .sealWait) (hu : r.units = u :: us)
      (hplan : sh.disk.sealPlan cx.cwd cx.host cx.settings u.target = .launch tool)
      (hc : cx.cancelled = false) (hfree : sh.sealBusy = false)
      (hrun : sh.disk.sealLaunch cx.cwd cx.host cx.settings tool u.target = (d, .ran code)) :
      Takes cx sh r ({ sh with disk := d, sealBusy := true }, { r with stage := .sealRun code })
  -- The tool's end is awaited in a cancelled run: it is killed, and the runner stops.
  | cancelReap {u : Transfer} {us : List Transfer} {code : Int} (hs : r.stage = .sealRun code)
      (hu : r.units = u :: us) (hc : cx.cancelled = true) :
      Takes cx sh r (r.abort { sh with sealBusy := false } .cancelled)
  -- The tool's end is seen, and the file is logged with its code.
  | reap {u : Transfer} {us : List Transfer} {code : Int} (hs : r.stage = .sealRun code)
      (hu : r.units = u :: us) (hc : cx.cancelled = false) :
      Takes cx sh r (r.afterSeal cx { sh with sealBusy := false } u code)

/-- Every step is one of the branches. -/
theorem takes_of_step {p : Shared × Runner} (h : r.step cx sh = some p) : r.Takes cx sh p := by
  revert h
  -- the one split over the step's definition; the branches that wait give no step
  fun_cases Runner.step cx sh r <;> intro h <;> cases h
  case case2 => exact .totals ‹_›
  case case3 => exact .complete ‹_› ‹_›
  case case4 => exact .toGate ‹_› ‹_› ‹_›
  case case5 => exact .lost ‹_› ‹_› (Bool.eq_false_iff.2 ‹_›)
  case case6 => exact .unitless (Stage.holdsUnit_eq_true ‹_› ‹_› ‹_›) ‹_›
  case case7 => exact .cancelAtGate (.inl ‹_›) ‹_› ‹_›
  case case9 =>
    exact .enterAtPause ‹_› ‹_› (Bool.eq_false_iff.2 ‹_›) (Bool.eq_false_iff.2 ‹_›) ‹_›
  case case10 =>
    exact .pastPause ‹_› ‹_› (Bool.eq_false_iff.2 ‹_›) (Bool.eq_false_iff.2 ‹_›) ‹_›
  case case11 => exact .cancelAtGate (.inr (.inl ‹_›)) ‹_› ‹_›
  case case13 => exact .drainedToSlot ‹_› ‹_› (Bool.eq_false_iff.2 ‹_›) (by omega) ‹_›
  case case14 =>
    exact .enterAtDrain ‹_› ‹_› (Bool.eq_false_iff.2 ‹_›) (by omega) (Bool.eq_false_iff.2 ‹_›)
  case case15 => exact .cancelAtGate (.inr (.inr ‹_›)) ‹_› ‹_›
  case case17 => exact .takeSlot ‹_› ‹_› (Bool.eq_false_iff.2 ‹_›) (by omega)
  case case18 => exact .cancelCopy (by simp [‹r.stage = .copyWait›, Stage.isCopying]) ‹_› ‹_›
  case case20 =>
    exact .openFailed ‹_› ‹_› (Bool.eq_false_iff.2 ‹_›) (Bool.eq_false_iff.2 ‹_›) ‹_›
  case case21 => exact .opened ‹_› ‹_› (Bool.eq_false_iff.2 ‹_›) (Bool.eq_false_iff.2 ‹_›) ‹_›
  case case22 => exact .cancelCopy (by simp [‹r.stage = .copyRead _›, Stage.isCopying]) ‹_› ‹_›
  case case24 =>
    exact .readFailed ‹_› ‹_› (Bool.eq_false_iff.2 ‹_›) (Bool.eq_false_iff.2 ‹_›) ‹_›
  case case25 =>
    exact .copied ‹_› ‹_› (Bool.eq_false_iff.2 ‹_›) (Bool.eq_false_iff.2 ‹_›) ‹_› ‹_›
  case case26 =>
    exact .finishFailed ‹_› ‹_› (Bool.eq_false_iff.2 ‹_›) (Bool.eq_false_iff.2 ‹_›) ‹_› ‹_›
  case case27 =>
    exact .chunkFailed ‹_› ‹_› (Bool.eq_false_iff.2 ‹_›) (Bool.eq_false_iff.2 ‹_›) ‹_› ‹_›
  case case28 =>
    exact .chunk ‹_› ‹_› (Bool.eq_false_iff.2 ‹_›) (Bool.eq_false_iff.2 ‹_›) ‹_› ‹_›
  case case29 => exact .sealDecided ‹_› ‹_› ‹_›
  case case30 => exact .cancelAtTool ‹_› ‹_› ‹_› ‹_›
  case case32 =>
    exact .launchRefused ‹_› ‹_› ‹_› (Bool.eq_false_iff.2 ‹_›) (Bool.eq_false_iff.2 ‹_›) ‹_›
  case case33 =>
    exact .launch ‹_› ‹_› ‹_› (Bool.eq_false_iff.2 ‹_›) (Bool.eq_false_iff.2 ‹_›) ‹_›
  case case34 => exact .cancelReap ‹_› ‹_› ‹_›
  case case35 => exact .reap ‹_› ‹_› (Bool.eq_false_iff.2 ‹_›)

end Runner

end Safekeep
