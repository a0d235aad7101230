import Safekeep.Settings
import Safekeep.Host
import Safekeep.Disk.Ops
import Safekeep.Text.Blank

/-!
# Sealing files with an external tool

A file whose extension is among the settings' encryption extensions is handed to the configured
tool, one run per file. The outcome is a signed code: `0` when the file needs no sealing or the
tool succeeded, and a negative code for each way of failing, checked in this order:

* `-10`: the tool path is empty once blanks are trimmed;
* `-11`: there is no such tool: a path of more than one component, or an absolute one, must
  name a regular file; a bare name is looked up in the directories of the environment's `PATH`,
  and there is none when the environment has no `PATH`;
* then a run cancelled before the tool's slot is taken stops here;
* `-13`: the file has no absolute path;
* `-12`: the tool could not be started (not executable, not a program);
* then a run cancelled while the tool runs kills it and stops;
* `-13`: waiting for the tool's end failed, or the tool was killed by a signal;
* `-c`: the tool exited with status `c ≠ 0`.

The tool gets the file's absolute path (the working directory before a relative path, `.`
components dropped, `..` kept, a final `/` kept) through the argument template: the template is
split at blanks and every `\x7bfile\x7d` in a piece is replaced by the path; an empty template
gives the path alone.

What happens around one call (a cancellation before the slot is taken or while the tool runs, a
failed wait) is a `SealWorld`.
-/

namespace Safekeep

def notConfigured : Int := -10

def toolMissing : Int := -11

def launchFailed : Int := -12

def unexpectedFault : Int := -13

/-- The outcome of sealing a file: a code, `0` or a negative failure code, or the run's
cancellation. -/
inductive SealOutcome
  | code (c : Int)
  | cancelled
  deriving DecidableEq, Repr

/-- The directories of a search path, in order, split at `:`. -/
def searchDirs (path : String) : List String :=
  (path.toList.splitOn ':').map String.ofList

/-- Find the tool: a path of more than one component, or an absolute one, must name a regular
file; a bare name is joined to each directory of the environment's search path in turn. -/
def resolveTool (d : Disk) (cwd : Loc) (h : Host) (tool : String) : Option String :=
  if (Path.components tool).length > 1 ∨ Path.isAbsolute tool then
    if d.isFile cwd tool then some tool else none
  else
    h.searchPath?.bind fun path =>
      (searchDirs path).map (fun dir => Path.join dir tool) |>.find? (d.isFile cwd)

/-- The absolute form of a path: the working directory before a relative path, `.` components
dropped, `..` kept, a final `/` kept; none for an empty path. -/
def absolutePath (cwd : Loc) (p : String) : Option String :=
  if p.isEmpty then none
  else
    let stripped := match Path.components p with
      | .current :: rest => rest
      | cs => cs
    let names : List String := stripped.filterMap fun c => match c with
      | .name s => some s
      | .parent => some ".."
      | _ => none
    let base := if Path.isAbsolute p then [] else cwd
    let body := "/" ++ "/".intercalate (base ++ names)
    some (if p.endsWith "/" ∧ ¬body.endsWith "/" then body ++ "/" else body)

/-- The tool's arguments: the template's pieces with every `\x7bfile\x7d` replaced by the path, or
the path alone when the template has no pieces. -/
def renderArgs (template file : String) : List String :=
  match (Text.words template).map (·.replace "{file}" file) with
  | [] => [file]
  | args => args

def endingCode : Ending → Int
  | .exited 0 => 0
  | .exited c => -(c : Int)
  | .signalled _ => unexpectedFault

/-- What sealing a file comes to before any tool runs: a code already decided, or the tool to
run. -/
inductive SealPlan
  | decided (code : Int)
  | launch (tool : String)
  deriving DecidableEq, Repr

/-- Decide what sealing a file needs: no tool for a file that needs no sealing (`0`), none for an
empty tool path (`-10`) or a missing tool (`-11`), else the tool found. -/
def Disk.sealPlan (d : Disk) (cwd : Loc) (h : Host) (s : Settings) (path : String) : SealPlan :=
  if ¬s.needsEncryption path then .decided 0
  else
    let tool := Text.trim s.toolPath
    if tool.isEmpty then .decided notConfigured
    else
      match resolveTool d cwd h tool with
      | none => .decided toolMissing
      | some tool => .launch tool

/-- How starting the tool went, once its slot is taken: refused before it ran (no absolute path,
`-13`, or the tool would not start, `-12`), or run to its end, with the code of that end. -/
inductive Launch
  | refused (code : Int)
  | ran (code : Int)
  deriving DecidableEq, Repr

/-- Run the tool on a file: the disk after it, and how it went. -/
def Disk.sealLaunch (d : Disk) (cwd : Loc) (h : Host) (s : Settings) (tool path : String) :
    Disk × Launch :=
  match absolutePath cwd path with
  | none => (d, .refused unexpectedFault)
  | some file =>
    match h.start d cwd h.env tool (tool :: renderArgs s.argsTemplate file) with
    | (d', .ok ending) => (d', .ran (endingCode ending))
    | (d', .error _) => (d', .refused launchFailed)

/-- What one sealing call meets from outside: whether the run's token is cancelled before the
tool's slot is taken, whether it is cancelled while the tool runs, and whether waiting for the
tool's end fails. -/
structure SealWorld where
  cancelledBeforeSlot : Bool
  cancelledWhileRunning : Bool
  waitFails : Bool
  deriving DecidableEq, Repr

/-- A call that nothing disturbs. -/
def SealWorld.calm : SealWorld := ⟨false, false, false⟩

/-- Seal a file, from a working directory: the disk after the tool ran, and the outcome. -/
def Disk.seal (d : Disk) (cwd : Loc) (h : Host) (s : Settings) (path : String) (w : SealWorld) :
    Disk × SealOutcome :=
  match d.sealPlan cwd h s path with
  | .decided code => (d, .code code)
  | .launch tool =>
    if w.cancelledBeforeSlot then (d, .cancelled)
    else
      match d.sealLaunch cwd h s tool path with
      | (d', .refused code) => (d', .code code)
      | (d', .ran code) =>
        if w.cancelledWhileRunning then (d', .cancelled)
        else if w.waitFails then (d', .code unexpectedFault)
        else (d', .code code)

end Safekeep
