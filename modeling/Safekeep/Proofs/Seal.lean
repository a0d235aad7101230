import Safekeep.Seal
import Safekeep.Shell.Run
import Mathlib

/-!
# What the code of sealing a file says

Sealing a file folds every way it can go into one signed code, the only error channel the log
has: `0` for a file that needs no sealing, and otherwise the code of the first check that fails,
in order: an empty tool path (`-10`), a tool that is not found (`-11`), then, once the tool is
found and its slot taken, a file without an absolute path (`-13`), a tool that cannot start
(`-12`), and last how the tool ended: `0` for exit status 0, `-13` for a signal or a failed wait,
and `-n` for exit status `n`. A call stops cancelled when the run is cancelled before the tool's
slot is taken, or while the tool runs.

So a code of at least zero means the file needed no sealing or the tool succeeded, and a negative
code names its cause, with one exception: the codes of exit statuses 10 to 13 are the codes of the
four failures before them (`sealing_codes_name_their_causes`). A tool that exits with status 10
reads as an empty tool path (`tool_exit_status_ten_reads_as_an_empty_tool_path`).
-/

namespace Safekeep

/-! ## 1. The code of a tool's ending -/

@[simp] theorem endingCode_exited (n : Nat) : endingCode (.exited n) = -(n : Int) := by
  cases n <;> rfl

@[simp] theorem notConfigured_eq : notConfigured = -10 := rfl

@[simp] theorem toolMissing_eq : toolMissing = -11 := rfl

@[simp] theorem launchFailed_eq : launchFailed = -12 := rfl

@[simp] theorem unexpectedFault_eq : unexpectedFault = -13 := rfl

@[simp] theorem endingCode_signalled (sig : Nat) :
    endingCode (.signalled sig) = unexpectedFault := rfl

/-- A bare tool name is looked up only through the environment's search path: with no `PATH` it
is not found. -/
theorem resolveTool_of_no_searchPath {d : Disk} {cwd : Loc} {h : Host} {tool : String}
    (hbare : (Path.components tool).length ≤ 1) (habs : Path.isAbsolute tool = false)
    (hpath : h.searchPath? = none) : resolveTool d cwd h tool = none := by
  simp [resolveTool, hpath, habs, Nat.not_lt.2 hbare]

/-- What a launch comes to in a call's world, once the tool's slot is taken: the code of a
refused start; for a tool that ran, the run's cancellation, a failed wait, or its code. -/
def Launch.outcome (w : SealWorld) : Launch → SealOutcome
  | .refused c => .code c
  | .ran c =>
    if w.cancelledWhileRunning then .cancelled
    else if w.waitFails then .code unexpectedFault
    else .code c

namespace Disk

variable (d : Disk) (cwd : Loc) (h : Host) (s : Settings) (path : String)

/-! ## 2. What sealing decides before the tool runs -/

/-- Sealing a file runs the tool it found on the file's absolute path, and the tool's process
gives `r`: how it ended, or why it could not start. -/
def ToolGives (r : Except Errno Ending) : Prop :=
  ∃ tool file, d.sealPlan cwd h s path = .launch tool ∧ absolutePath cwd path = some file ∧
    (h.start d cwd h.env tool (tool :: renderArgs s.argsTemplate file)).2 = r

/-- Before any tool runs, sealing gives `0` to a file that needs no sealing, `-10` for an empty
tool path and `-11` for a tool that is not found; otherwise it runs the tool it found. -/
theorem sealPlan_cases :
    (s.needsEncryption path = false ∧ d.sealPlan cwd h s path = .decided 0) ∨
    (s.needsEncryption path = true ∧ (Text.trim s.toolPath).isEmpty = true ∧
      d.sealPlan cwd h s path = .decided notConfigured) ∨
    (s.needsEncryption path = true ∧ (Text.trim s.toolPath).isEmpty = false ∧
      resolveTool d cwd h (Text.trim s.toolPath) = none ∧
      d.sealPlan cwd h s path = .decided toolMissing) ∨
    (∃ tool, s.needsEncryption path = true ∧ (Text.trim s.toolPath).isEmpty = false ∧
      resolveTool d cwd h (Text.trim s.toolPath) = some tool ∧
      d.sealPlan cwd h s path = .launch tool) := by
  unfold sealPlan
  cases hn : s.needsEncryption path
  · simp
  · cases he : (Text.trim s.toolPath).isEmpty
    · cases hr : resolveTool d cwd h (Text.trim s.toolPath) <;> simp [he, hr]
    · simp [he]

variable {d cwd h s path}

/-- The tool runs only for a file that needs sealing, with a tool path that is set and found. -/
theorem needs_of_launch {tool : String} (hp : d.sealPlan cwd h s path = .launch tool) :
    s.needsEncryption path = true ∧ (Text.trim s.toolPath).isEmpty = false ∧
      resolveTool d cwd h (Text.trim s.toolPath) = some tool := by
  rcases sealPlan_cases d cwd h s path with ⟨-, hp'⟩ | ⟨-, -, hp'⟩ | ⟨-, -, -, hp'⟩ |
    ⟨tool', hn, he, hr, hp'⟩
  all_goals rw [hp'] at hp; cases hp
  exact ⟨hn, he, hr⟩

theorem seal_of_decided {c : Int} (hp : d.sealPlan cwd h s path = .decided c) (w : SealWorld) :
    d.seal cwd h s path w = (d, .code c) := by
  simp [Disk.seal, hp]

theorem seal_of_launch {tool : String} (hp : d.sealPlan cwd h s path = .launch tool)
    (w : SealWorld) :
    (d.seal cwd h s path w).2 =
      if w.cancelledBeforeSlot then .cancelled
      else (d.sealLaunch cwd h s tool path).2.outcome w := by
  simp only [Disk.seal, hp]
  split
  · rfl
  · generalize d.sealLaunch cwd h s tool path = x
    obtain ⟨d', l⟩ := x
    cases l with
    | refused c => rfl
    | ran c =>
      simp only [Launch.outcome]
      split_ifs <;> rfl

/-! ## 3. What starting the tool gives -/

/-- The tool's process gives one answer. -/
theorem ToolGives.iff {r : Except Errno Ending} (hg : d.ToolGives cwd h s path r)
    (r' : Except Errno Ending) : d.ToolGives cwd h s path r' ↔ r' = r := by
  obtain ⟨tool, file, hp, hf, hr⟩ := hg
  constructor
  · rintro ⟨tool', file', hp', hf', hr'⟩
    rw [hp] at hp'
    rw [hf] at hf'
    cases hp'
    cases hf'
    rw [← hr, ← hr']
  · rintro rfl
    exact ⟨tool, file, hp, hf, hr⟩

theorem not_toolGives_of_decided {c : Int} (hp : d.sealPlan cwd h s path = .decided c)
    (r : Except Errno Ending) : ¬ d.ToolGives cwd h s path r := fun ⟨tool, _, htool, _⟩ => by
  rw [hp] at htool
  cases htool

/-- Once the tool is found, starting it goes one of three ways: the file has no absolute path,
and the start is refused with no process; the process does not start, and the start is refused;
or the process ends, and the tool ran to that end. -/
theorem launch_cases {tool : String} (hp : d.sealPlan cwd h s path = .launch tool) :
    (absolutePath cwd path = none ∧
      (d.sealLaunch cwd h s tool path).2 = .refused unexpectedFault ∧
      ∀ r, ¬ d.ToolGives cwd h s path r) ∨
    (∃ e, d.ToolGives cwd h s path (.error e) ∧
      (d.sealLaunch cwd h s tool path).2 = .refused launchFailed) ∨
    (∃ ending, d.ToolGives cwd h s path (.ok ending) ∧
      (d.sealLaunch cwd h s tool path).2 = .ran (endingCode ending)) := by
  cases hf : absolutePath cwd path with
  | none =>
    refine .inl ⟨rfl, by simp [sealLaunch, hf], fun r ⟨_, _, _, hf', _⟩ => ?_⟩
    rw [hf] at hf'
    cases hf'
  | some file =>
    have hlaunch : (d.sealLaunch cwd h s tool path).2 =
        match (h.start d cwd h.env tool (tool :: renderArgs s.argsTemplate file)).2 with
        | .ok ending => .ran (endingCode ending)
        | .error _ => .refused launchFailed := by
      simp only [sealLaunch, hf]
      generalize h.start d cwd h.env tool (tool :: renderArgs s.argsTemplate file) = x
      obtain ⟨d', r⟩ := x
      cases r <;> rfl
    cases hs : (h.start d cwd h.env tool (tool :: renderArgs s.argsTemplate file)).2 with
    | error e => exact .inr (.inl ⟨e, ⟨tool, file, hp, hf, hs⟩, by rw [hlaunch, hs]⟩)
    | ok ending => exact .inr (.inr ⟨ending, ⟨tool, file, hp, hf, hs⟩, by rw [hlaunch, hs]⟩)

/-- The code of a sealing: each code comes from one of seven causes. -/
theorem seal_code_cases {w : SealWorld} {c : Int} (hc : (d.seal cwd h s path w).2 = .code c) :
    (s.needsEncryption path = false ∧ d.sealPlan cwd h s path = .decided 0 ∧ c = 0) ∨
    (s.needsEncryption path = true ∧ (Text.trim s.toolPath).isEmpty = true ∧
      d.sealPlan cwd h s path = .decided notConfigured ∧ c = notConfigured) ∨
    (s.needsEncryption path = true ∧ (Text.trim s.toolPath).isEmpty = false ∧
      resolveTool d cwd h (Text.trim s.toolPath) = none ∧
      d.sealPlan cwd h s path = .decided toolMissing ∧ c = toolMissing) ∨
    ((∃ tool, d.sealPlan cwd h s path = .launch tool ∧ absolutePath cwd path = none) ∧
      c = unexpectedFault) ∨
    (∃ e, d.ToolGives cwd h s path (.error e) ∧ c = launchFailed) ∨
    (∃ ending, d.ToolGives cwd h s path (.ok ending) ∧ w.waitFails = true ∧
      c = unexpectedFault) ∨
    (∃ ending, d.ToolGives cwd h s path (.ok ending) ∧ w.waitFails = false ∧
      c = endingCode ending) := by
  rcases sealPlan_cases d cwd h s path with ⟨hn, hp⟩ | ⟨hn, he, hp⟩ | ⟨hn, he, hr, hp⟩ |
    ⟨tool, -, -, -, hp⟩
  · rw [seal_of_decided hp] at hc
    cases hc
    exact .inl ⟨hn, hp, rfl⟩
  · rw [seal_of_decided hp] at hc
    cases hc
    exact .inr (.inl ⟨hn, he, hp, rfl⟩)
  · rw [seal_of_decided hp] at hc
    cases hc
    exact .inr (.inr (.inl ⟨hn, he, hr, hp, rfl⟩))
  · -- the tool was found and its slot taken: the code is how starting and waiting for it went
    rw [seal_of_launch hp] at hc
    split at hc
    · cases hc
    rcases launch_cases hp with ⟨hf, hl, -⟩ | ⟨e, hg, hl⟩ | ⟨ending, hg, hl⟩
    · rw [hl] at hc
      cases hc
      exact .inr (.inr (.inr (.inl ⟨⟨tool, hp, hf⟩, rfl⟩)))
    · rw [hl] at hc
      cases hc
      exact .inr (.inr (.inr (.inr (.inl ⟨e, hg, rfl⟩))))
    · rw [hl] at hc
      simp only [Launch.outcome] at hc
      split at hc
      · cases hc
      split at hc
      · cases hc
        exact .inr (.inr (.inr (.inr (.inr (.inl ⟨ending, hg, by assumption, rfl⟩)))))
      · cases hc
        exact .inr (.inr (.inr (.inr (.inr (.inr
          ⟨ending, hg, Bool.eq_false_iff.2 (by assumption), rfl⟩)))))

/-! ## 4. What the outcomes say -/

/-- A call stops cancelled exactly when the tool is found and the run is cancelled before the
tool's slot is taken, or while the tool runs. -/
theorem seal_eq_cancelled_iff (w : SealWorld) :
    (d.seal cwd h s path w).2 = .cancelled ↔
      (∃ tool, d.sealPlan cwd h s path = .launch tool) ∧
        (w.cancelledBeforeSlot = true ∨
          w.cancelledWhileRunning = true ∧ ∃ ending, d.ToolGives cwd h s path (.ok ending)) := by
  rcases sealPlan_cases d cwd h s path with ⟨-, hp⟩ | ⟨-, -, hp⟩ | ⟨-, -, -, hp⟩ |
    ⟨tool, -, -, -, hp⟩
  all_goals try (rw [seal_of_decided hp]; simp [hp])
  rw [seal_of_launch hp]
  cases hb : w.cancelledBeforeSlot
  · rcases launch_cases hp with ⟨-, hl, hnot⟩ | ⟨e, hg, hl⟩ | ⟨ending, hg, hl⟩
    · simp [hl, Launch.outcome, hnot]
    · simp [hl, Launch.outcome, hg.iff]
    · cases hw : w.cancelledWhileRunning <;> cases hf : w.waitFails <;>
        simp [hl, Launch.outcome, hw, hf, hg.iff, hp]
  · simp [hp]

theorem seal_of_not_needed (hn : s.needsEncryption path = false) (w : SealWorld) :
    d.seal cwd h s path w = (d, .code 0) :=
  seal_of_decided (by simp [sealPlan, hn]) w

/-- What a code says about its cause. A code of at least zero means that the file needed no
sealing or that the tool exited with status 0 and was waited for; each failure has its own
negative code, except that the tool's exit statuses 10 to 13 give the codes of the four failures
before it. -/
theorem seal_code_says {w : SealWorld} {c : Int} (hc : (d.seal cwd h s path w).2 = .code c) :
    (0 ≤ c ↔ s.needsEncryption path = false ∨
      d.ToolGives cwd h s path (.ok (.exited 0)) ∧ w.waitFails = false) ∧
    (c = notConfigured ↔
      (s.needsEncryption path = true ∧ (Text.trim s.toolPath).isEmpty = true) ∨
        d.ToolGives cwd h s path (.ok (.exited 10)) ∧ w.waitFails = false) ∧
    (c = toolMissing ↔
      (s.needsEncryption path = true ∧ (Text.trim s.toolPath).isEmpty = false ∧
        resolveTool d cwd h (Text.trim s.toolPath) = none) ∨
        d.ToolGives cwd h s path (.ok (.exited 11)) ∧ w.waitFails = false) ∧
    (c = launchFailed ↔
      (∃ e, d.ToolGives cwd h s path (.error e)) ∨
        d.ToolGives cwd h s path (.ok (.exited 12)) ∧ w.waitFails = false) ∧
    (c = unexpectedFault ↔
      (∃ tool, d.sealPlan cwd h s path = .launch tool ∧ absolutePath cwd path = none) ∨
        (∃ ending, d.ToolGives cwd h s path (.ok ending) ∧ w.waitFails = true) ∨
        (∃ sig, d.ToolGives cwd h s path (.ok (.signalled sig))) ∧ w.waitFails = false ∨
        d.ToolGives cwd h s path (.ok (.exited 13)) ∧ w.waitFails = false) ∧
    (∀ n : Nat, 0 < n → n < 10 ∨ 13 < n →
      (c = -n ↔ d.ToolGives cwd h s path (.ok (.exited n)) ∧ w.waitFails = false)) := by
  rcases seal_code_cases hc with ⟨hn, hp, rfl⟩ | ⟨hn, he, hp, rfl⟩ | ⟨hn, he, hr, hp, rfl⟩ |
    ⟨⟨tool, hp, hf⟩, rfl⟩ | ⟨e, hg, rfl⟩ | ⟨ending, hg, hw, rfl⟩ | ⟨ending, hg, hw, rfl⟩
  -- before the tool runs, no answer of the tool's process is at stake
  · have hnot := not_toolGives_of_decided hp
    refine ⟨?_, ?_, ?_, ?_, ?_, fun n hpos hout => ?_⟩ <;>
      simp [hn, hp, hnot]
    omega
  · have hnot := not_toolGives_of_decided hp
    refine ⟨?_, ?_, ?_, ?_, ?_, fun n hpos hout => ?_⟩ <;>
      simp [hn, he, hp, hnot]
    omega
  · have hnot := not_toolGives_of_decided hp
    refine ⟨?_, ?_, ?_, ?_, ?_, fun n hpos hout => ?_⟩ <;>
      simp [hn, he, hr, hp, hnot]
    omega
  · have hnot : ∀ r, ¬ d.ToolGives cwd h s path r := fun r ⟨_, _, _, hf', _⟩ => by
      rw [hf] at hf'
      cases hf'
    obtain ⟨hn, he, hr⟩ := needs_of_launch hp
    refine ⟨?_, ?_, ?_, ?_, ?_, fun n hpos hout => ?_⟩ <;>
      simp [hn, he, hr, hp, hf, hnot]
    omega
  -- once the tool runs, its process gives one answer
  · obtain ⟨tool, file, hp, hf, -⟩ := id hg
    obtain ⟨hn, he, hr⟩ := needs_of_launch hp
    refine ⟨?_, ?_, ?_, ?_, ?_, fun n hpos hout => ?_⟩ <;>
      simp [hn, he, hr, hp, hf, hg.iff]
    omega
  · obtain ⟨tool, file, hp, hf, -⟩ := id hg
    obtain ⟨hn, he, hr⟩ := needs_of_launch hp
    refine ⟨?_, ?_, ?_, ?_, ?_, fun n hpos hout => ?_⟩ <;>
      simp [hn, he, hr, hp, hf, hg.iff, hw]
    omega
  · obtain ⟨tool, file, hp, hf, -⟩ := id hg
    obtain ⟨hn, he, hr⟩ := needs_of_launch hp
    cases ending with
    | exited m =>
      refine ⟨?_, ?_, ?_, ?_, ?_, fun n hpos hout => ?_⟩ <;>
        simp [hn, he, hr, hp, hf, hg.iff, hw] <;> omega
    | signalled sig =>
      refine ⟨?_, ?_, ?_, ?_, ?_, fun n hpos hout => ?_⟩ <;>
        simp [hn, he, hr, hp, hf, hg.iff, hw]
      omega

/-- Sealing a file in a call's world stops cancelled exactly when the tool is found and the run
is cancelled before the tool's slot is taken, or while the tool runs; a file that needs no
sealing gets `0` and no tool starts; and a code of at least zero means the file needed no
sealing or the tool exited with status 0 and was waited for, while each negative code names its
cause: an empty tool path, a tool not found, a tool that would not start, a file with no absolute
path, a tool killed by a signal or whose wait failed, or the tool's exit status, except that exit
statuses 10 to 13 give the codes of the four failures before it. -/
theorem sealing_codes_name_their_causes (w : SealWorld) :
    ((d.seal cwd h s path w).2 = .cancelled ↔
      (∃ tool, d.sealPlan cwd h s path = .launch tool) ∧
        (w.cancelledBeforeSlot = true ∨
          w.cancelledWhileRunning = true ∧ ∃ ending, d.ToolGives cwd h s path (.ok ending))) ∧
    (s.needsEncryption path = false → d.seal cwd h s path w = (d, .code 0)) ∧
    ∀ c, (d.seal cwd h s path w).2 = .code c →
      (0 ≤ c ↔ s.needsEncryption path = false ∨
        d.ToolGives cwd h s path (.ok (.exited 0)) ∧ w.waitFails = false) ∧
      (c = notConfigured ↔
        (s.needsEncryption path = true ∧ (Text.trim s.toolPath).isEmpty = true) ∨
          d.ToolGives cwd h s path (.ok (.exited 10)) ∧ w.waitFails = false) ∧
      (c = toolMissing ↔
        (s.needsEncryption path = true ∧ (Text.trim s.toolPath).isEmpty = false ∧
          resolveTool d cwd h (Text.trim s.toolPath) = none) ∨
          d.ToolGives cwd h s path (.ok (.exited 11)) ∧ w.waitFails = false) ∧
      (c = launchFailed ↔
        (∃ e, d.ToolGives cwd h s path (.error e)) ∨
          d.ToolGives cwd h s path (.ok (.exited 12)) ∧ w.waitFails = false) ∧
      (c = unexpectedFault ↔
        (∃ tool, d.sealPlan cwd h s path = .launch tool ∧ absolutePath cwd path = none) ∨
          (∃ ending, d.ToolGives cwd h s path (.ok ending) ∧ w.waitFails = true) ∨
          (∃ sig, d.ToolGives cwd h s path (.ok (.signalled sig))) ∧ w.waitFails = false ∨
          d.ToolGives cwd h s path (.ok (.exited 13)) ∧ w.waitFails = false) ∧
      (∀ n : Nat, 0 < n → n < 10 ∨ 13 < n →
        (c = -n ↔ d.ToolGives cwd h s path (.ok (.exited n)) ∧ w.waitFails = false)) :=
  ⟨seal_eq_cancelled_iff w, fun hn => seal_of_not_needed hn w, fun _ hc => seal_code_says hc⟩

/-- A tool that exits with status 10 gives the code of an empty tool path, though the tool path
is set: here the tool is a script that the shell at `/s` runs. -/
theorem tool_exit_status_ten_reads_as_an_empty_tool_path :
    (Text.trim "/t").isEmpty = false ∧
      (Disk.seal ⟨[(["s"], .file (programImage "sh") 0o755 ⟨0, 0⟩),
          (["t"], .file "#!/s\nexit 10\n".toUTF8 0o755 ⟨0, 0⟩)], ⟨0, 0⟩⟩ [] Host.machine
        { Settings.default with cryptoExtensions := ["x"], toolPath := "/t" } "a.x"
        .calm).2 = .code notConfigured :=
  ⟨by decide +kernel, by cbv⟩

end Disk

end Safekeep
