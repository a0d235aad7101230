import Safekeep.Shell.Syntax
import Safekeep.Disk.Ops

/-!
# Shell scripts: the running shell

A running shell works on a *machine* it shares with every process it starts: the disk, the
input streams open on it (bytes and how far they have been read), the output buffers that
collect what a pipeline's writer or a command substitution writes, and the next process number.

The shell itself has a working directory, variables (each with a value, or none when it is
unset but marked, and flags for export and read-only), the positional parameters, its name
(`$0`, which prefixes its diagnostics), the status of the last command, its process number,
its functions, its options, its table of file descriptors, the line it is running (and the line
of the function it is inside, which makes `$LINENO` count from there), the saved variables of
the functions it is inside, its traps, the process number of the last command sent to the
background, how many loops it is inside, the status of the last command substitution of the
command being expanded, the statuses of the background commands that have ended, where
`getopts` stands in its arguments, the working directory as the script named it (links kept),
the file creation mask, and the process numbers of its own process and of the processes waiting
for it (a subshell is a process of its own, while `$$` stays that of the script's shell).

A descriptor points nowhere (`null`: what is written is lost and nothing is read), at an input
stream, at an output buffer, or at a file written at its end. A diagnostic goes to descriptor 2
as `name: line: message`.
-/

namespace Safekeep.Shell

/-- A variable: its value (none when it is unset but marked), and whether it is exported or
read-only. -/
structure Var where
  value : Option String
  exported : Bool
  readonly : Bool
  deriving Inhabited

/-- The shell's options, set with `set -e` and the like. -/
structure Options where
  errexit : Bool
  noglob : Bool
  nounset : Bool
  xtrace : Bool
  verbose : Bool
  noexec : Bool
  noclobber : Bool
  allexport : Bool
  deriving Inhabited

def Options.none : Options := ⟨false, false, false, false, false, false, false, false⟩

/-- An input stream's bytes, how far they have been read, and whether they come from a regular
file (rather than a pipe). -/
structure Stream where
  data : ByteArray
  pos : Nat
  regular : Bool

/-- What a file descriptor refers to. -/
inductive Port
  -- Nothing: what is written is lost, and nothing is read.
  | null
  -- An input stream of the machine.
  | source (id : Nat)
  -- An output buffer of the machine.
  | sink (id : Nat)
  -- A file, written at its end.
  | file (loc : Loc)
  deriving DecidableEq, Inhabited

/-- The machine shared by a shell and the processes it starts: the disk, the input streams,
the output buffers, the next stream or buffer number, the next process number, and the signals
sent to processes that are waiting for a child (process number and signal). -/
structure Sys where
  disk : Disk
  streams : List (Nat × Stream)
  sinks : List (Nat × ByteArray)
  fresh : Nat
  nextPid : Nat
  signals : List (Nat × Nat)

/-- A running shell. -/
structure Interp where
  sys : Sys
  cwd : Loc
  vars : List (String × Var)
  params : List String
  arg0 : String
  status : Nat
  pid : Nat
  funcs : List (String × Cmd)
  opts : Options
  fds : List (Nat × Port)
  line : Nat
  funcLine : Nat
  frames : List (List (String × Option Var))
  traps : List (Nat × String)
  lastBg : Option Nat
  loops : Nat
  substStatus : Option Nat
  jobs : List (Nat × Nat)
  optIndex : Nat
  optOff : Option Nat
  logical : String
  mask : Nat
  lineage : List Nat

/-- The separators of fields when `IFS` is unset. -/
def defaultIfs : String := " \t\n"

namespace Sys

def write (s : Sys) (p : Port) (bytes : ByteArray) : Sys :=
  match p with
  | .sink id => { s with sinks := s.sinks.map fun (k, b) => if k = id then (k, b ++ bytes) else (k, b) }
  | .file loc => { s with disk := s.disk.appendAt loc bytes }
  | _ => s

def openStream (s : Sys) (data : ByteArray) (regular : Bool) : Sys × Nat :=
  ({ s with streams := (s.fresh, ⟨data, 0, regular⟩) :: s.streams, fresh := s.fresh + 1 }, s.fresh)

def openSink (s : Sys) : Sys × Nat :=
  ({ s with sinks := (s.fresh, ByteArray.empty) :: s.sinks, fresh := s.fresh + 1 }, s.fresh)

def takeSink (s : Sys) (id : Nat) : Sys × ByteArray :=
  let bytes := ((s.sinks.find? (·.1 == id)).map (·.2)).getD ByteArray.empty
  ({ s with sinks := s.sinks.filter (·.1 != id) }, bytes)

def dropStream (s : Sys) (id : Nat) : Sys := { s with streams := s.streams.filter (·.1 != id) }

def unread (s : Sys) (id : Nat) : ByteArray :=
  match s.streams.find? (·.1 == id) with
  | some (_, st) => st.data.extract st.pos st.data.size
  | none => ByteArray.empty

def isRegular (s : Sys) (id : Nat) : Bool :=
  match s.streams.find? (·.1 == id) with
  | some (_, st) => st.regular
  | none => false

def advance (s : Sys) (id n : Nat) : Sys :=
  { s with streams := s.streams.map fun (k, st) => if k = id then (k, { st with pos := st.pos + n }) else (k, st) }

def newPid (s : Sys) : Sys × Nat := ({ s with nextPid := s.nextPid + 1 }, s.nextPid)

def takeSignal (s : Sys) (pid : Nat) : Sys × Option Nat :=
  match s.signals.find? (·.1 == pid) with
  | some (_, sig) => ({ s with signals := s.signals.filter (·.1 != pid) }, some sig)
  | none => (s, none)

end Sys

namespace Interp

def disk (sh : Interp) : Disk := sh.sys.disk

def self (sh : Interp) : Nat := sh.lineage.headD sh.pid

def withDisk (sh : Interp) (d : Disk) : Interp := { sh with sys := { sh.sys with disk := d } }

def cell? (sh : Interp) (name : String) : Option Var := (sh.vars.find? (·.1 == name)).map (·.2)

def var? (sh : Interp) (name : String) : Option String := (sh.cell? name).bind (·.value)

def putCell (sh : Interp) (name : String) (v : Var) : Interp :=
  if sh.vars.any (·.1 == name) then
    { sh with vars := sh.vars.map fun (n, w) => if n = name then (n, v) else (n, w) }
  else { sh with vars := sh.vars ++ [(name, v)] }

/-- Set a variable, keeping its flags (and exporting it under `set -a`); a read-only variable
refuses with the message. -/
def assign (sh : Interp) (name value : String) : Except String Interp :=
  match sh.cell? name with
  | some v =>
    if v.readonly then .error (name ++ ": is read only")
    else .ok (sh.putCell name { v with value := some value, exported := v.exported || sh.opts.allexport })
  | none => .ok (sh.putCell name ⟨some value, sh.opts.allexport, false⟩)

def setVar (sh : Interp) (name value : String) : Interp :=
  match sh.assign name value with
  | .ok sh => sh
  | .error _ => sh

/-- Unset a variable; a read-only one refuses with the message. -/
def unsetVar (sh : Interp) (name : String) : Except String Interp :=
  match sh.cell? name with
  | some v =>
    if v.readonly then .error (name ++ ": is read only")
    else .ok { sh with vars := sh.vars.filter (·.1 != name) }
  | none => .ok sh

def environment (sh : Interp) : List (String × String) :=
  sh.vars.filterMap fun (n, v) => if v.exported then v.value.map (n, ·) else none

def ifs (sh : Interp) : String := (sh.var? "IFS").getD defaultIfs

/-- The line number `$LINENO` shows: counted from the function's first line inside one. -/
def lineNo (sh : Interp) : Nat := if sh.funcLine > 0 then sh.line + 1 - sh.funcLine else sh.line

def optionLetters (sh : Interp) : String :=
  let o := sh.opts
  String.ofList ([(o.errexit, 'e'), (o.noglob, 'f'), (o.noexec, 'n'), (o.xtrace, 'x'),
    (o.verbose, 'v'), (o.nounset, 'u'), (o.noclobber, 'C'), (o.allexport, 'a')].filterMap
    fun (on, c) => if on then some c else none)

/-- The value of a parameter: a variable, a positional parameter or a special one. -/
def param? (sh : Interp) (name : String) : Option String :=
  if name = "#" then some (toString sh.params.length)
  else if name = "?" then some (toString sh.status)
  else if name = "$" then some (toString sh.pid)
  else if name = "0" then some sh.arg0
  else if name = "-" then some sh.optionLetters
  else if name = "@" ∨ name = "*" then
    if sh.params.isEmpty then none else some (" ".intercalate sh.params)
  else if name = "!" then sh.lastBg.map toString
  else if name = "LINENO" ∧ (sh.cell? "LINENO").isNone then some (toString sh.lineNo)
  else if name.all Char.isDigit then
    match name.toNat? with
    | some n => if n = 0 then some sh.arg0 else sh.params[n - 1]?
    | none => none
  else sh.var? name

def port? (sh : Interp) (fd : Nat) : Option Port := (sh.fds.find? (·.1 == fd)).map (·.2)

def setPort (sh : Interp) (fd : Nat) (p : Port) : Interp :=
  { sh with fds := (fd, p) :: sh.fds.filter (·.1 != fd) }

def closePort (sh : Interp) (fd : Nat) : Interp := { sh with fds := sh.fds.filter (·.1 != fd) }

def emit (sh : Interp) (fd : Nat) (bytes : ByteArray) : Interp :=
  match sh.port? fd with
  | some p => { sh with sys := sh.sys.write p bytes }
  | none => sh

def say (sh : Interp) (fd : Nat) (s : String) : Interp := sh.emit fd s.toUTF8

/-- A diagnostic of the shell: `name: line: message` on descriptor 2. -/
def complain (sh : Interp) (msg : String) : Interp :=
  sh.say 2 (sh.arg0 ++ ": " ++ toString sh.line ++ ": " ++ msg ++ "\n")

def pending (sh : Interp) (fd : Nat) : ByteArray :=
  match sh.port? fd with
  | some (.source id) => sh.sys.unread id
  | _ => ByteArray.empty

def consume (sh : Interp) (fd n : Nat) : Interp :=
  match sh.port? fd with
  | some (.source id) => { sh with sys := sh.sys.advance id n }
  | _ => sh

end Interp

/-- How a command ends the work around it. -/
inductive Flow
  -- It finished; the next command runs.
  | next
  -- `break n`: leave `n` loops.
  | brk (n : Nat)
  -- `continue n`: go on with the `n`th loop around.
  | cont (n : Nat)
  -- `return`: leave the function or sourced file.
  | ret
  -- The shell exits with its status.
  | exit
  -- The shell's process is killed by a signal.
  | killed (sig : Nat)
  deriving DecidableEq, Repr

/-- What running a command leaves: the shell, and how the command ended the work around it. -/
structure Ran where
  sh : Interp
  flow : Flow

def Ran.done (sh : Interp) (status : Nat) : Ran := ⟨{ sh with status }, .next⟩

def Ran.quit (sh : Interp) (status : Nat) : Ran := ⟨{ sh with status }, .exit⟩

end Safekeep.Shell
