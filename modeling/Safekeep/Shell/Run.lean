import Safekeep.Shell.Parse
import Safekeep.Shell.Expand
import Safekeep.Shell.Builtin
import Safekeep.Shell.Tools
import Safekeep.Shell.TextTools
import Safekeep.Text.Utf8
import Safekeep.Host

/-!
# Shell scripts: running them, and starting programs

## 1. Starting a program

A program is started from a path (read from the working directory, links followed) with its
arguments and environment. The path must name a regular file with an execute bit, else it fails
with `access`; a missing one fails with `noEntry`. A file that is an executable image runs the
system program it names; a file starting with `#!` runs the interpreter named on that line (with
the rest of the line as one more argument, when there is any), giving it the script's path and
the arguments; any other file fails with `noExec`. A started program ends with an exit status
(taken modulo 256) or by a signal. Every process shares the machine: the disk, and the streams
and buffers its descriptors point at.

## 2. Running a script

The shell reads a script one complete command at a time and runs each; a syntax error ends the
script with status 2 when it is reached. `exit` ends the script with its status, a signal sent
to the shell's own process ends it by that signal; otherwise its status is the last command's.
Before the shell exits (but not when a signal kills it) the action set by `trap ... EXIT` runs.

A simple command expands its words, then opens its redirections, then expands its assignments.
Its first field names a function, else a builtin, else a program found on `PATH` (a name with a
`/` is used as it is): a missing program gives status 127, one that may not run 126, one killed
by a signal 128 plus the signal; a file that is not a program runs as a script of the shell.
Assignments before a special builtin stay; before a function, another builtin or a program they
hold for that command only. Without a command word the assignments set variables and the status
is that of the last command substitution (0 without one). A failed expansion ends the script
with status 2; a redirection that fails makes the status 2 (and ends the script before a special
builtin).

Subshells, command substitutions, background commands and the commands of a pipeline run with
a copy of the shell, which they change for themselves only; they share the machine. A pipeline
runs its commands in order, each reading what the one before wrote. A background command runs
to its end at once, with its input from nowhere.

Under `set -e`, a simple command, pipeline or subshell that fails ends the script, unless its
status is being tested: in the condition of `if`, `while` or `until`, after `!`, or before
`&&` or `||`.
-/

namespace Safekeep.Shell

/-! ## 1. Starting a program -/

/-- The interpreter line of a script starting with `#!`: the interpreter and its optional
argument. -/
def interpreterLine (data : ByteArray) : Option (String × Option String) :=
  let bytes := data.toList
  if bytes.take 2 = [35, 33] then
    let line := (bytes.drop 2).takeWhile (· ≠ 10)
    let text := Text.Utf8.lossy line
    let cs := text.toList.dropWhile fun c => c = ' ' || c = '\t'
    let interp := cs.takeWhile fun c => c ≠ ' ' && c ≠ '\t'
    let rest := (cs.drop interp.length).dropWhile fun c => c = ' ' || c = '\t'
    let rest := (rest.reverse.dropWhile fun c => c = ' ' || c = '\t').reverse
    some (String.ofList interp, if rest.isEmpty then none else some (String.ofList rest))
  else none

def executable (mode : Nat) : Bool := mode &&& 0o111 ≠ 0

def firstPid : Nat := 4242

/-- The fuel of one started program: how deep its commands may nest and how many times a loop
may turn. -/
def runFuel : Nat := 1000000

/-- The variables of a shell starting with an environment: the environment (exported), then
`PATH` unless it has one, `IFS` set to its default, the prompts, `OPTIND`, `PPID` and `PWD`
(exported). -/
def startVars (env : List (String × String)) (ppid : Nat) (pwd : String) : List (String × Var) :=
  let imported : List (String × Var) := env.map fun (n, v) => (n, ⟨some v, true, false⟩)
  let put (vs : List (String × Var)) (n v : String) (keep : Bool) : List (String × Var) :=
    match vs.find? (·.1 == n) with
    | some (_, old) =>
      if keep then vs else vs.map fun (k, x) => if k = n then (k, { old with value := some v }) else (k, x)
    | none => vs ++ [(n, ⟨some v, false, false⟩)]
  let vs := put imported "PATH" searchPath true
  let vs := put vs "IFS" defaultIfs false
  let vs := put vs "PS1" "# " true
  let vs := put vs "PS2" "> " true
  let vs := put vs "PS4" "+ " true
  let vs := put vs "OPTIND" "1" false
  let vs := put vs "PPID" (toString ppid) false
  let vs := put vs "PWD" pwd false
  vs.map fun (n, v) => if n = "PWD" then (n, { v with exported := true }) else (n, v)

/-- A new shell process on the machine of another: the same working directory, descriptors and
file creation mask, the given environment, name, parameters, options and process number. -/
def Interp.spawn (parent : Interp) (pid : Nat) (env : List (String × String)) (arg0 : String)
    (params : List String) (opts : Options) : Interp where
  sys := parent.sys
  cwd := parent.cwd
  vars := startVars env parent.self parent.cwd.text
  params := params
  arg0 := arg0
  status := 0
  pid := pid
  funcs := []
  opts := opts
  fds := parent.fds
  line := 0
  funcLine := 0
  frames := []
  traps := []
  lastBg := none
  loops := 0
  substStatus := none
  jobs := []
  optIndex := 1
  optOff := none
  logical := parent.cwd.text
  mask := parent.mask
  lineage := pid :: parent.lineage

/-- The process that starts the first program: its descriptors point nowhere. -/
def Interp.host (sys : Sys) (cwd : Loc) : Interp where
  sys := sys
  cwd := cwd
  vars := []
  params := []
  arg0 := "sh"
  status := 0
  pid := firstPid - 1
  funcs := []
  opts := Options.none
  fds := [(0, .null), (1, .null), (2, .null)]
  line := 0
  funcLine := 0
  frames := []
  traps := []
  lastBg := none
  loops := 0
  substStatus := none
  jobs := []
  optIndex := 1
  optOff := none
  logical := cwd.text
  mask := 0o022
  lineage := []

/-- A program's call: the disk, the working directory, the arguments, the environment, and the
input not read yet on descriptor 0. -/
def Interp.call (sh : Interp) (args : List String) (env : List (String × String)) : Call :=
  let regular := match sh.port? 0 with
    | some (.source id) => sh.sys.isRegular id
    | _ => false
  ⟨sh.disk, sh.cwd, args, env, sh.pending 0, regular⟩

/-- What a program leaves on the machine: its disk, its input read when it read it, its output
written where its descriptors point. -/
def Interp.absorb (sh : Interp) (d : Done) : Sys :=
  let sh := sh.withDisk d.disk
  let sh := if d.reads then sh.consume 0 (sh.pending 0).size else sh
  (d.out.foldl (fun sh (fd, bytes) => sh.emit fd bytes) sh).sys

def echoTool (c : Call) : Done := c.finish [(1, ⟨(echoUtility c.args).toArray⟩)] 0

/-- The `printf` program: warnings on descriptor 2, then the output. -/
def printfTool (c : Call) : Done :=
  let args := match c.args with
    | "--" :: rest => rest
    | args => args
  match args with
  | [] => c.finish [complaint "printf: missing operand",
      complaint "Try 'printf --help' for more information."] 1
  | fmt :: rest =>
    let p := printfWith .utility fmt rest
    c.finish (p.warnings.map (fun w => complaint ("printf: " ++ w)) ++ [(1, ⟨p.out.toArray⟩)]) p.status

/-- The `test` and `[` programs. -/
def testTool (bracket : Bool) (c : Call) : Done :=
  let name := if bracket then "[" else "test"
  if bracket ∧ c.args.getLast? ≠ some "]" then c.finish [complaint "[: missing ']'"] 2
  else
    let args := if bracket then c.args.dropLast else c.args
    match testEval (worldOf c.disk c.cwd) args with
    | .ok b => c.finish [] (if b then 0 else 1)
    | .error m => c.finish [complaint (name ++ ": " ++ m)] 2

/-- The `sleep` program: time does not pass here. -/
def sleepTool (c : Call) : Done :=
  if c.args.isEmpty then
    c.finish [complaint "sleep: missing operand", complaint "Try 'sleep --help' for more information."] 1
  else c.finish [] 0

/-- The system programs that need nothing of the shell. -/
def utilityOf? (prog : String) : Option (Call → Done) :=
  match prog with
  | "true" => some fun c => c.finish [] 0
  | "false" => some fun c => c.finish [] 1
  | "echo" => some echoTool
  | "printf" => some printfTool
  | "test" => some (testTool false)
  | "[" => some (testTool true)
  | "sleep" => some sleepTool
  | "rm" => some rmTool
  | "mkdir" => some mkdirTool
  | "rmdir" => some rmdirTool
  | "touch" => some touchTool
  | "cat" => some catTool
  | "cp" => some cpTool
  | "mv" => some mvTool
  | "ln" => some lnTool
  | "chmod" => some chmodTool
  | "ls" => some lsTool
  | "basename" => some basenameTool
  | "dirname" => some dirnameTool
  | "readlink" => some readlinkTool
  | "pwd" => some pwdTool
  | "printenv" => some printenvTool
  | "wc" => some wcTool
  | "tr" => some trTool
  | "head" => some headTool
  | "tail" => some tailTool
  | "cut" => some cutTool
  | "sort" => some sortTool
  | "uniq" => some uniqTool
  | "tee" => some teeTool
  | "rev" => some revTool
  | "yes" => some yesTool
  | "seq" => some seqTool
  | "expr" => some exprTool
  | _ => none

/-- A program's diagnostics name it as it was called: its name at the start of a line on
descriptor 2, and in the hint to ask for help, becomes the name it was started by. -/
def renameDiagnostics (prog called : String) (out : List (Nat × ByteArray)) : List (Nat × ByteArray) :=
  if prog = called then out
  else out.map fun (fd, bytes) =>
    if fd ≠ 2 then (fd, bytes)
    else
      let text := Text.Utf8.lossy bytes.toList
      let text := if text.startsWith (prog ++ ": ") then called ++ ": " ++ String.ofList (text.toList.drop (prog.length + 2)) else text
      (fd, (text.replace ("Try '" ++ prog ++ " ") ("Try '" ++ called ++ " ")).toUTF8)

/-- Where the search path finds a program to run: none when no directory holds a regular file
of that name; else the first such file, from the first one on, that may run (none of them:
the access failure). -/
def Interp.locate (sh : Interp) (name : String) : Option (Except Errno String) :=
  let paths := sh.pathDirs.map (inDir · name)
  let from_ := paths.dropWhile (!sh.isRegular ·)
  match from_ with
  | [] => none
  | _ =>
    let runnable (p : String) : Bool := match sh.disk.stat sh.cwd p with
      | .ok s => s.kind = .file ∧ executable s.mode
      | .error _ => false
    match from_.find? runnable with
    | some p => some (.ok p)
    | none => some (.error .access)

def overlay (env : List (String × String)) (assigns : List (String × String)) : List (String × String) :=
  assigns.foldl (fun env (n, v) =>
    if env.any (·.1 == n) then env.map fun (k, x) => if k = n then (k, v) else (k, x)
    else env ++ [(n, v)]) env

/-! ## 2. Running a script -/

def redirFault (creating : Bool) (path : String) (e : Errno) : String :=
  let why := if e = .noEntry ∨ e = .notDir then
      (if creating then "Directory nonexistent" else "No such file")
    else e.text
  (if creating then "cannot create " else "cannot open ") ++ path ++ ": " ++ why

/-- Why redirections could not be opened: an expansion failed (which ends the script), or a file
or descriptor could not be opened (the shell so far and the message). -/
inductive RedirFail
  | expand (e : ExpandError)
  | refuse (sh : Interp) (msg : String)

/-- Open redirections in order, each pointing its descriptor somewhere. -/
def openRedirs (run : Substituter) (sh : Interp) : List Redir → Except RedirFail Interp
  | [] => .ok sh
  | r :: rs =>
    match expandOne run sh r.target with
    | .error e => .error (.expand e)
    | .ok (sh, path) =>
      match r.kind with
      | .here =>
        let (sys, id) := sh.sys.openStream path.toUTF8 false
        openRedirs run ({ sh with sys }.setPort r.fd (.source id)) rs
      | .write | .append =>
        match sh.disk.openWrite sh.cwd path (r.kind = .write) with
        | .ok (d, loc) => openRedirs run ((sh.withDisk d).setPort r.fd (.file loc)) rs
        | .error e => .error (.refuse sh (redirFault true path e))
      | .read =>
        match sh.disk.locate sh.cwd path, sh.disk.fileBytes sh.cwd path with
        | .ok loc, .ok b =>
          let (sys, id) := sh.sys.openStream b (loc ≠ nullDevice)
          openRedirs run ({ sh with sys }.setPort r.fd (.source id)) rs
        | _, .error .isDir =>
          let (sys, id) := sh.sys.openStream ByteArray.empty false
          openRedirs run ({ sh with sys }.setPort r.fd (.source id)) rs
        | _, .error e => .error (.refuse sh (redirFault false path e))
        | .error e, _ => .error (.refuse sh (redirFault false path e))
      | .readWrite =>
        match sh.disk.openWrite sh.cwd path false with
        | .ok (d, loc) =>
          let sh := sh.withDisk d
          if r.fd = 0 then
            let b := (d.fileBytes sh.cwd path).toOption.getD ByteArray.empty
            let (sys, id) := sh.sys.openStream b (loc ≠ nullDevice)
            openRedirs run ({ sh with sys }.setPort 0 (.source id)) rs
          else openRedirs run (sh.setPort r.fd (.file loc)) rs
        | .error e => .error (.refuse sh (redirFault true path e))
      | .dup =>
        if path = "-" then openRedirs run (sh.closePort r.fd) rs
        else if ¬path.isEmpty ∧ path.all Char.isDigit then
          let m := path.toNat?.getD 0
          match sh.port? m with
          | some p => openRedirs run (sh.setPort r.fd p) rs
          | none => .error (.refuse sh (path ++ ": Bad file descriptor"))
        else .error (.expand ⟨sh, "Bad fd number", false⟩)

def restoreFds (saved : List (Nat × Port)) (redirs : List Redir) (sh : Interp) : Interp :=
  redirs.foldl (fun sh r =>
    match saved.find? (·.1 == r.fd) with
    | some (_, p) => sh.setPort r.fd p
    | none => sh.closePort r.fd) sh

/-- Expand the values of assignments. -/
def expandAssigns (run : Substituter) (sh : Interp) :
    List (String × Word) → Except ExpandError (Interp × List (String × String))
  | [] => .ok (sh, [])
  | (n, w) :: rest => do
    let (sh, v) ← expandOne run sh w
    let (sh, more) ← expandAssigns run sh rest
    .ok (sh, (n, v) :: more)

def isDeclaration (w : Word) : Bool :=
  match w.plain? with
  | some n => n = "export" ∨ n = "readonly" ∨ n = "local"
  | none => false

/-- Expand the words of a simple command; after `export`, `readonly` or `local` a word that is
an assignment expands as one, without splitting or path names. -/
def expandArgs (run : Substituter) (sh : Interp) (words : List Word) :
    Except ExpandError (Interp × List String) :=
  match words with
  | w :: rest =>
    if isDeclaration w then do
      let (sh, head) ← expandWords run sh [w]
      let (sh, tail) ← rest.foldlM (fun (acc : Interp × List String) x => do
        let (sh, fs) := acc
        match assignment? x with
        | some (n, v) => do
          let (sh, t) ← expandOne run sh v
          pure (sh, fs ++ [n ++ "=" ++ t])
        | none => do
          let (sh, more) ← expandWords run sh [x]
          pure (sh, fs ++ more)) (sh, [])
      .ok (sh, head ++ tail)
    else expandWords run sh words
  | [] => .ok (sh, [])

/-- Set variables in order, stopping at one that is read-only. -/
def assignAll (sh : Interp) (exported : Bool) : List (String × String) → Except (Interp × String) Interp
  | [] => .ok sh
  | (n, v) :: rest =>
    match sh.assign n v with
    | .ok sh' =>
      let sh' := if exported then
          match sh'.cell? n with
          | some c => sh'.putCell n { c with exported := true }
          | none => sh'
        else sh'
      assignAll sh' exported rest
    | .error m => .error (sh, m)

def Interp.saveCells (sh : Interp) (names : List String) : List (String × Option Var) :=
  names.map fun n => (n, sh.cell? n)

def Interp.restoreCells (sh : Interp) (saved : List (String × Option Var)) : Interp :=
  saved.reverse.foldl (fun sh (n, c) =>
    match c with
    | some v => sh.putCell n v
    | none => { sh with vars := sh.vars.filter (·.1 != n) }) sh

/-- Under `set -x`, write the command about to run to the error output it had before its
redirections. -/
def traceCmd (sh : Interp) (saved : List (Nat × Port)) (assigns : List (String × String))
    (fields : List String) : Interp :=
  if ¬sh.opts.xtrace then sh
  else
    let text := (sh.var? "PS4").getD "" ++
      " ".intercalate (assigns.map (fun (n, v) => n ++ "=" ++ v) ++ fields) ++ "\n"
    let t := { sh with fds := saved }.say 2 text
    { sh with sys := t.sys }

/-- The end of the fuel: the script stops as after an error. -/
def exhausted (sh : Interp) : Ran := Ran.quit (sh.complain "nesting too deep") 2

def errexit (tested : Bool) (r : Ran) : Ran :=
  if r.flow = .next ∧ r.sh.status ≠ 0 ∧ r.sh.opts.errexit ∧ ¬tested then { r with flow := .exit }
  else r

/-- A failed expansion: its message, then the end of the script with status 2, or the death of
the process by a floating point trap. -/
def expandFailed (e : ExpandError) : Ran :=
  let sh := e.shell.complain e.message
  if e.crash then ⟨sh, .killed 8⟩ else Ran.quit sh 2

def endingStatus : Ending → Nat
  | .exited c => c
  | .signalled s => 128 + s

/-- Whether some case patterns match a word: patterns are expanded one by one until one
matches. -/
def caseMatch (run : Substituter) (sh : Interp) (subject : String) :
    List Word → Except ExpandError (Interp × Bool)
  | [] => .ok (sh, false)
  | p :: rest => do
    let (sh, g) ← expandGlob run sh p
    if globMatch g subject.toList then .ok (sh, true) else caseMatch run sh subject rest

def scriptText (data : ByteArray) : String := Text.Utf8.lossy data.toList

/-- A copy of the shell for a subshell, a process of its own: traps that run actions are reset,
ignored ones stay. -/
def Interp.subshell (sh : Interp) : Interp :=
  let (sys, p) := sh.sys.newPid
  { sh with sys, lineage := p :: sh.lineage, traps := sh.traps.filter (·.2 == "") }

/-- The shell's note that a child it waited for was killed by a signal (not for an interrupt or
a broken pipe). -/
def Interp.reportSignal (sh : Interp) (sig : Nat) : Interp :=
  if sig = 2 ∨ sig = 13 then sh else sh.say 2 (signalText sig ++ "\n")

/-- The signal a `kill` argument names after its dash, and the arguments after the options. -/
inductive KillPlan
  | list (args : List String)
  | send (sig : Nat) (pids : List String)
  | fail (msg : String)

/-- Read the options of `kill`. -/
def killPlan (args : List String) : KillPlan :=
  let usage := "Usage: kill [-s sigspec | -signum | -sigspec] [pid | job]... or\nkill -l [exitstatus]"
  match args with
  | [] => .fail usage
  | "-l" :: rest => .list rest
  | "-s" :: sig :: rest =>
    match signalOf? sig with
    | some n => if rest.isEmpty then .fail usage else .send n rest
    | none => .fail ("invalid signal number or name: " ++ sig)
  | "--" :: rest => if rest.isEmpty then .fail usage else .send 15 rest
  | a :: rest =>
    if a.startsWith "-" ∧ a.length > 1 then
      match signalFrom? 1 (String.ofList (a.toList.drop 1)) with
      | some n => if rest.isEmpty then .fail usage else .send n rest
      | none => .fail ("Illegal option " ++ String.ofList (a.toList.take 2))
    else .send 15 args

/-- `kill -l`: the names of the signals, or the name of one given by number or exit status. -/
def killList (sh : Interp) : List String → Ran
  | [] => Ran.done (sh.say 1 (String.join (signalTable.map fun (n, _, _) => n ++ "\n"))) 0
  | a :: _ =>
    match countArg? a with
    | some n =>
      let n := if n > 128 then n - 128 else n
      if 0 < n ∧ n < signalCount then Ran.done (sh.say 1 (signalName n ++ "\n")) 0
      else Ran.done (sh.complain ("kill: invalid signal number or exit status: " ++ a)) 2
    | none => Ran.done (sh.complain ("kill: Illegal number: " ++ a)) 2

/-- Send a signal to processes by number: the shell after it, the status, and whether the
shell's own process was among them; or the error of a malformed number. A signal to a process
waiting for this one waits on the machine until that process runs again; the background
commands have ended but can still be signalled (a signal that ends a process makes their status
128 plus the signal), and so can the first process; other processes do not exist. -/
def killSend (sh : Interp) (sig : Nat) (pids : List String) : Except (Interp × String) (Interp × Nat × Bool) :=
  pids.foldl (fun acc p =>
    acc.bind fun (sh, st, own) =>
      let (neg, digits) := match p.toList with
        | '-' :: ds => (true, String.ofList ds)
        | _ => (false, p)
      match countArg? digits with
      | none => .error (sh, "Illegal number: " ++ p)
      | some n =>
        if n = sh.self ∨ n = 0 then .ok (sh, st, own || sig ≠ 0)
        else if sh.lineage.contains n then
          let sys := if sig = 0 then sh.sys else { sh.sys with signals := sh.sys.signals ++ [(n, sig)] }
          .ok ({ sh with sys }, st, own)
        else if ¬neg ∧ (n = 1 ∨ sh.jobs.any (·.1 == n)) then
          let jobs := if sig ≠ 0 ∧ signalEnds sig then
              sh.jobs.map fun (j, s) => if j = n then (j, 128 + sig) else (j, s)
            else sh.jobs
          .ok ({ sh with jobs }, st, own)
        else .ok (sh.complain "kill: No such process\n", 1, own)) (.ok (sh, 0, false))

/-- Read the options of the shell program: the options, whether `-c` was given, and the words
after the options; or the error of an unknown option. -/
def shellOptions : Nat → Options → Bool → List String → Except String (Options × Bool × List String)
  | 0, o, c, rest => .ok (o, c, rest)
  | k + 1, o, c, rest =>
    match rest with
    | "--" :: more => .ok (o, c, more)
    | "-" :: more => .ok (o, c, more)
    | a :: more =>
      match a.toList with
      | sign :: letters =>
        if (sign = '-' ∨ sign = '+') ∧ ¬letters.isEmpty then
          let step := letters.foldl (fun (acc : Except String (Options × Bool)) l =>
            acc.bind fun (o, c) =>
              if l = 'c' then .ok (o, true)
              else if l = 's' then .ok (o, c)
              else match o.put l (sign = '-') with
                | some o => .ok (o, c)
                | none => .error ("Illegal option " ++ String.singleton sign ++ String.singleton l)) (.ok (o, c))
          match step with
          | .ok (o, c) => shellOptions k o c more
          | .error m => .error m
        else .ok (o, c, rest)
      | [] => .ok (o, c, rest)
    | [] => .ok (o, c, [])

mutual

/-- Run a command; `tested` when its status is being tested, which `set -e` leaves alone. A
signal that reached the shell's process meanwhile is handled after it. -/
def runCmd : Nat → Bool → Cmd → Interp → Ran
  | 0, _, _, sh => exhausted sh
  | fuel + 1, tested, c, sh =>
    let r := runCommand fuel tested c sh
    match r.flow with
    | .killed _ => r
    | _ =>
      match r.sh.sys.takeSignal r.sh.self with
      | (_, none) => r
      | (sys, some sig) => deliver fuel sig { r with sh := { r.sh with sys } }

/-- Handle a signal that reached the shell's own process: its trap action runs (the status
kept), an ignored one does nothing, and any other that ends a process ends the shell. -/
def deliver : Nat → Nat → Ran → Ran
  | 0, _, r => r
  | fuel + 1, sig, r =>
    match r.sh.traps.find? (·.1 == sig) with
    | some (_, action) =>
      if sig = 9 then ⟨r.sh, .killed 9⟩
      else if action.isEmpty then r
      else
        let t := runText fuel false action 1 r.sh
        match t.flow with
        | .next | .ret => { r with sh := { t.sh with status := r.sh.status } }
        | _ => t
    | none => if signalEnds sig then ⟨r.sh, .killed sig⟩ else r

/-- Run a command of any kind. -/
def runCommand : Nat → Bool → Cmd → Interp → Ran
  | 0, _, _, sh => exhausted sh
  | fuel + 1, tested, c, sh =>
    match c with
    | .simple line assigns words redirs =>
      errexit tested (runSimple fuel tested assigns words redirs { sh with line })
    | .pipe cmds bang =>
      let r := match cmds with
        | [single] => runCmd fuel (tested || bang) single sh
        | _ => runPipe fuel (tested || bang) cmds none sh
      if bang then
        match r.flow with
        | .next => Ran.done r.sh (if r.sh.status = 0 then 1 else 0)
        | _ => r
      else errexit tested r
    | .andOr first rest => runAndOr fuel tested rest (runCmd fuel true first sh)
    | .seq cmds => runSeq fuel tested cmds sh
    | .background body => runBackground fuel body sh
    | .forIn line var items body =>
      let sh := { sh with line }
      let values : Except ExpandError (Interp × List String) := match items with
        | some ws => expandWords (substitute fuel) sh ws
        | none => .ok (sh, sh.params)
      match values with
      | .error e => expandFailed e
      | .ok (sh', vs) =>
        let r := runFor fuel tested var vs body 0 { sh' with loops := sh.loops + 1 }
        { r with sh := { r.sh with loops := sh.loops } }
    | .caseOf line subject arms =>
      let sh := { sh with line }
      match expandOne (substitute fuel) sh subject with
      | .error e => expandFailed e
      | .ok (sh, text) => runCase fuel tested text arms sh
    | .ifThen branches otherwise => runIf fuel tested branches otherwise sh
    | .loop untilLoop cond body =>
      let r := runWhile fuel tested untilLoop cond body 0 { sh with loops := sh.loops + 1 }
      { r with sh := { r.sh with loops := sh.loops } }
    | .group body subshell redirs =>
      match openRedirs (substitute fuel) sh redirs with
      | .error (.expand e) => expandFailed e
      | .error (.refuse sh' msg) => Ran.done (restoreFds sh.fds redirs (sh'.complain msg)) 2
      | .ok sh' =>
        let r := if subshell then errexit tested (runSubshell fuel true tested body sh')
          else runCmd fuel tested body sh'
        { r with sh := restoreFds sh.fds redirs r.sh }
    | .defun name line body =>
      Ran.done { sh with funcs := (name, .defun name line body) :: sh.funcs.filter (·.1 != name) } 0

/-- Run commands one after another, until one ends the work around it. -/
def runSeq : Nat → Bool → List Cmd → Interp → Ran
  | 0, _, _, sh => exhausted sh
  | fuel + 1, tested, cmds, sh =>
    match cmds with
    | [] => Ran.done sh 0
    | [c] => runCmd fuel tested c sh
    | c :: rest =>
      let r := runCmd fuel tested c sh
      match r.flow with
      | .next => runSeq fuel tested rest r.sh
      | _ => r

/-- Run the rest of an and-or list after what ran so far: a command after `&&` runs when the
status is 0, one after `||` when it is not. -/
def runAndOr : Nat → Bool → List (Bool × Cmd) → Ran → Ran
  | 0, _, _, r => exhausted r.sh
  | fuel + 1, tested, rest, r =>
    match r.flow, rest with
    | .next, (isAnd, c) :: more =>
      let go := if isAnd then r.sh.status = 0 else r.sh.status ≠ 0
      if go then runAndOr fuel tested more (runCmd fuel (tested || ¬more.isEmpty) c r.sh)
      else runAndOr fuel tested more r
    | _, _ => r

/-- Run the commands of a pipeline, each in a subshell reading what the one before wrote. -/
def runPipe : Nat → Bool → List Cmd → Option Nat → Interp → Ran
  | 0, _, _, _, sh => exhausted sh
  | fuel + 1, tested, cmds, input, sh =>
    let sh1 := match input with
      | some id => sh.setPort 0 (.source id)
      | none => sh
    match cmds with
    | [] => Ran.done sh 0
    | [c] =>
      let r := runSubshell fuel true tested c sh1
      { r with sh := { r.sh with fds := sh.fds } }
    | c :: rest =>
      let (sys, k) := sh1.sys.openSink
      let r := runSubshell fuel true tested c ({ sh1 with sys }.setPort 1 (.sink k))
      let (sys, out) := r.sh.sys.takeSink k
      let (sys, id) := sys.openStream out false
      runPipe fuel tested rest (some id) { sh with sys }

/-- Run a command in a subshell: its changes to the shell stay in it, the machine is shared,
and the status is how it ended (after its own `EXIT` action); one killed by a signal is noted
when `report`. -/
def runSubshell : Nat → Bool → Bool → Cmd → Interp → Ran
  | 0, _, _, _, sh => exhausted sh
  | fuel + 1, report, tested, c, sh =>
    let r := runCmd fuel tested c sh.subshell
    match leaveShell fuel r with
    | (sys, .signalled s) =>
      let sh := { sh with sys }
      Ran.done (if report then sh.reportSignal s else sh) (128 + s)
    | (sys, ending) => Ran.done { sh with sys } (endingStatus ending)

/-- Run a command in the background: to its end at once, in a subshell reading from nowhere;
its process number is `$!` and its status is kept for `wait`. -/
def runBackground : Nat → Cmd → Interp → Ran
  | 0, _, sh => exhausted sh
  | fuel + 1, body, sh =>
    let (sys, pid) := sh.sys.newPid
    let sh := { sh with sys }
    let r := runSubshell fuel false false body (sh.setPort 0 .null)
    Ran.done { sh with sys := r.sh.sys, lastBg := some pid,
                       jobs := (pid, r.sh.status) :: sh.jobs.filter (·.1 != pid) } 0

/-- Run the first branch whose condition succeeds, else the last part; status 0 when nothing
runs. -/
def runIf : Nat → Bool → List (Cmd × Cmd) → Option Cmd → Interp → Ran
  | 0, _, _, _, sh => exhausted sh
  | fuel + 1, tested, branches, otherwise, sh =>
    match branches with
    | [] =>
      match otherwise with
      | some c => runCmd fuel tested c sh
      | none => Ran.done sh 0
    | (cond, body) :: more =>
      let r := runCmd fuel true cond sh
      match r.flow with
      | .next =>
        if r.sh.status = 0 then runCmd fuel tested body r.sh
        else runIf fuel tested more otherwise r.sh
      | _ => r

/-- Turn a `while` (or `until`) loop, `status` being the last status of its body. -/
def runWhile : Nat → Bool → Bool → Cmd → Cmd → Nat → Interp → Ran
  | 0, _, _, _, _, _, sh => exhausted sh
  | fuel + 1, tested, untilLoop, cond, body, status, sh =>
    let r := runCmd fuel true cond sh
    match r.flow with
    | .brk n => if n ≤ 1 then Ran.done r.sh status else ⟨{ r.sh with status }, .brk (n - 1)⟩
    | .cont n =>
      if n ≤ 1 then runWhile fuel tested untilLoop cond body status r.sh
      else ⟨{ r.sh with status }, .cont (n - 1)⟩
    | .next =>
      let go := if untilLoop then r.sh.status ≠ 0 else r.sh.status = 0
      if ¬go then Ran.done r.sh status
      else
        let b := runCmd fuel tested body r.sh
        match b.flow with
        | .next => runWhile fuel tested untilLoop cond body b.sh.status b.sh
        | .brk n => if n ≤ 1 then Ran.done b.sh b.sh.status else ⟨b.sh, .brk (n - 1)⟩
        | .cont n =>
          if n ≤ 1 then runWhile fuel tested untilLoop cond body b.sh.status b.sh
          else ⟨b.sh, .cont (n - 1)⟩
        | _ => b
    | _ => r

/-- Run the body of a `for` loop for each value, `status` being the last status of the body. -/
def runFor : Nat → Bool → String → List String → Cmd → Nat → Interp → Ran
  | 0, _, _, _, _, _, sh => exhausted sh
  | fuel + 1, tested, var, values, body, status, sh =>
    match values with
    | [] => Ran.done sh status
    | v :: rest =>
      match sh.assign var v with
      | .error m => Ran.quit (sh.complain m) 2
      | .ok sh =>
        let b := runCmd fuel tested body sh
        match b.flow with
        | .next => runFor fuel tested var rest body b.sh.status b.sh
        | .brk n => if n ≤ 1 then Ran.done b.sh b.sh.status else ⟨b.sh, .brk (n - 1)⟩
        | .cont n =>
          if n ≤ 1 then runFor fuel tested var rest body b.sh.status b.sh
          else ⟨b.sh, .cont (n - 1)⟩
        | _ => b

/-- Run the first arm of a `case` with a pattern matching the word; status 0 when none does. -/
def runCase : Nat → Bool → String → List (List Word × Cmd) → Interp → Ran
  | 0, _, _, _, sh => exhausted sh
  | fuel + 1, tested, subject, arms, sh =>
    match arms with
    | [] => Ran.done sh 0
    | (pats, body) :: more =>
      match caseMatch (substitute fuel) sh subject pats with
      | .error e => expandFailed e
      | .ok (sh, true) => runCmd fuel tested body sh
      | .ok (sh, false) => runCase fuel tested subject more sh

/-- Run a simple command: expand its words, open its redirections, expand its assignments,
then run it (or, without a command word, make the assignments). -/
def runSimple : Nat → Bool → List (String × Word) → List Word → List Redir → Interp → Ran
  | 0, _, _, _, _, sh => exhausted sh
  | fuel + 1, tested, assigns, words, redirs, sh =>
    let run := substitute fuel
    match expandArgs run { sh with substStatus := none } words with
    | .error e => expandFailed e
    | .ok (sh, fields) =>
      let saved := sh.fds
      let special := match fields with
        | name :: _ => specialBuiltins.contains name && !sh.funcs.any (·.1 == name)
        | [] => false
      match openRedirs run sh redirs with
      | .error (.expand e) => expandFailed e
      | .error (.refuse sh' msg) =>
        let sh' := restoreFds saved redirs (sh'.complain msg)
        if special then Ran.quit sh' 2 else Ran.done sh' 2
      | .ok shR =>
        match expandAssigns run shR assigns with
        | .error e => expandFailed e
        | .ok (shA, values) =>
          let shT := traceCmd shA saved values fields
          let r := match fields with
            | [] =>
              match assignAll shT false values with
              | .error (sh, m) => Ran.quit (sh.complain m) 2
              | .ok sh => Ran.done sh (sh.substStatus.getD 0)
            | name :: args => invoke fuel tested false name args values shT
          if fields = ["exec"] then r else { r with sh := restoreFds saved redirs r.sh }

/-- Run a command by name: a function (unless `noFuncs`), a builtin, or a program. -/
def invoke : Nat → Bool → Bool → String → List String → List (String × String) → Interp → Ran
  | 0, _, _, _, _, _, sh => exhausted sh
  | fuel + 1, tested, noFuncs, name, args, assigns, sh =>
    let defn := if noFuncs then none else sh.funcs.find? (·.1 == name)
    match defn with
    | some (_, .defun _ line body) =>
      let saved := sh.saveCells (assigns.map (·.1))
      match assignAll sh true assigns with
      | .error (sh, m) => Ran.quit (sh.complain m) 2
      | .ok sh' =>
        let r := runFunction fuel tested line body args sh'
        { r with sh := r.sh.restoreCells saved }
    | _ =>
      if specialBuiltins.contains name then
        match assignAll sh (name = "exec") assigns with
        | .error (sh, m) => Ran.quit (sh.complain m) 2
        | .ok sh => runBuiltin fuel tested (!noFuncs) name args sh
      else if regularBuiltins.contains name then
        let saved := sh.saveCells (assigns.map (·.1))
        match assignAll sh false assigns with
        | .error (sh, m) => Ran.quit (sh.complain m) 2
        | .ok sh' =>
          let r := runBuiltin fuel tested false name args sh'
          { r with sh := r.sh.restoreCells saved }
      else runExternal fuel false "" name args assigns sh

/-- Call a function: the arguments become the positional parameters, `local` variables are put
back at the end, and `return` ends it. -/
def runFunction : Nat → Bool → Nat → Cmd → List String → Interp → Ran
  | 0, _, _, _, _, sh => exhausted sh
  | fuel + 1, tested, line, body, args, outer =>
    let sh := { outer with params := args, funcLine := line, loops := 0, frames := [] :: outer.frames,
                           optIndex := 1, optOff := none }
    let r := runCmd fuel tested body sh
    let sh := r.sh.popFrame
    let sh := { sh with params := outer.params, funcLine := outer.funcLine, loops := outer.loops,
                        optIndex := outer.optIndex, optOff := outer.optOff }
    match r.flow with
    | .exit => ⟨sh, .exit⟩
    | .killed s => ⟨sh, .killed s⟩
    | _ => ⟨sh, .next⟩

/-- Run a builtin; an error of a `special` one ends the script. -/
def runBuiltin : Nat → Bool → Bool → String → List String → Interp → Ran
  | 0, _, _, _, _, sh => exhausted sh
  | fuel + 1, tested, special, name, args, sh =>
    let outcome (o : Outcome) : Ran := match o with
      | .ok sh st => Ran.done sh st
      | .fail sh m =>
        let sh := sh.complain (name ++ ": " ++ m)
        if special then Ran.quit sh 2 else Ran.done sh 2
    if name = ":" ∨ name = "true" then Ran.done sh 0
    else if name = "false" then Ran.done sh 1
    else if name = "exit" then
      match args with
      | [] => Ran.quit sh sh.status
      | a :: _ =>
        match countArg? a with
        | some n => Ran.quit sh n
        | none => outcome (.fail sh ("Illegal number: " ++ a))
    else if name = "return" then
      match args with
      | [] => ⟨sh, .ret⟩
      | a :: _ =>
        match countArg? a with
        | some n => ⟨{ sh with status := n }, .ret⟩
        | none => outcome (.fail sh ("Illegal number: " ++ a))
    else if name = "break" ∨ name = "continue" then
      let go (n : Nat) : Ran :=
        let n := min n sh.loops
        if n = 0 then Ran.done sh 0
        else ⟨{ sh with status := 0 }, if name = "break" then .brk n else .cont n⟩
      match args with
      | [] => go 1
      | a :: _ =>
        match countArg? a with
        | some n => if n = 0 then outcome (.fail sh ("Illegal number: " ++ a)) else go n
        | none => outcome (.fail sh ("Illegal number: " ++ a))
    else if name = "eval" then runText fuel tested (" ".intercalate args) 1 sh
    else if name = "." then
      match args with
      | [] => Ran.done sh 0
      | file :: _ =>
        let path := if file.contains '/' then some file else sh.findInPath file
        match path with
        | none => outcome (.fail sh (file ++ ": not found"))
        | some p =>
          match sh.disk.fileBytes sh.cwd p with
          | .error e => outcome (.fail sh (redirFault false p e))
          | .ok data =>
            let r := runText fuel false (scriptText data) 1 sh
            match r.flow with
            | .ret => ⟨r.sh, .next⟩
            | _ => r
    else if name = "exec" then
      match args with
      | [] => Ran.done sh 0
      | prog :: rest =>
        let r := runExternal fuel true "exec: " prog rest [] sh
        match r.flow with
        | .next => Ran.quit r.sh r.sh.status
        | _ => r
    else if name = "kill" then killBuiltin fuel sh args
    else if name = "command" then
      let args := match args with
        | "-p" :: rest => rest
        | "--" :: rest => rest
        | _ => args
      match args with
      | "-v" :: rest => outcome (commandV sh false rest)
      | "-V" :: rest => outcome (commandV sh true rest)
      | prog :: rest => invoke fuel tested true prog rest [] sh
      | [] => Ran.done sh 0
    else if name = "set" then outcome (setBuiltin sh args)
    else if name = "shift" then outcome (shiftBuiltin sh args)
    else if name = "export" then outcome (exportBuiltin sh false args)
    else if name = "readonly" then outcome (exportBuiltin sh true args)
    else if name = "unset" then outcome (unsetBuiltin sh args)
    else if name = "local" then outcome (localBuiltin sh args)
    else if name = "trap" then outcome (trapBuiltin sh args)
    else if name = "times" then Ran.done (sh.say 1 "0m0.000000s 0m0.000000s\n0m0.000000s 0m0.000000s\n") 0
    else if name = "cd" ∨ name = "chdir" then outcome (cdBuiltin sh args)
    else if name = "pwd" then outcome (pwdBuiltin sh args)
    else if name = "echo" then outcome (echoOut sh args)
    else if name = "printf" then outcome (printfOut sh args)
    else if name = "test" then outcome (testBuiltin sh false args)
    else if name = "[" then outcome (testBuiltin sh true args)
    else if name = "read" then outcome (readBuiltin sh args)
    else if name = "umask" then outcome (umaskBuiltin sh args)
    else if name = "type" then outcome (typeBuiltin sh args)
    else if name = "getopts" then outcome (getoptsBuiltin sh args)
    else if name = "wait" then outcome (waitBuiltin sh args)
    else Ran.done sh 0

/-- `kill`: send a signal to processes. One sent to the shell's own process runs its trap
action, is ignored, or ends the shell; the background commands have ended but can still be
signalled; any other process does not exist. -/
def killBuiltin : Nat → Interp → List String → Ran
  | 0, sh, _ => exhausted sh
  | fuel + 1, sh, args =>
    match killPlan args with
    | .fail m => Ran.done (sh.complain ("kill: " ++ m)) 2
    | .list rest => killList sh rest
    | .send sig pids =>
      match killSend sh sig pids with
      | .error (sh, m) => Ran.done (sh.complain ("kill: " ++ m)) 2
      | .ok (sh, status, false) => Ran.done sh status
      | .ok (sh, status, true) => deliver fuel sig (Ran.done sh status)

/-- Run a program found on the search path (a name with a `/` as it is), with assignments
added to its environment; `replace` when it replaces the shell (`exec`), whose messages start
with `lead`. -/
def runExternal : Nat → Bool → String → String → List String → List (String × String) → Interp → Ran
  | 0, _, _, _, _, _, sh => exhausted sh
  | fuel + 1, replace, lead, name, args, assigns, sh =>
    let env := overlay sh.environment assigns
    let target : Option (Except Errno String) :=
      if name.contains '/' then some (.ok name) else sh.locate name
    let fail (sh : Interp) (e : Errno) : Ran :=
      let (msg, st) := match e with
        | .noEntry => ("not found", 127)
        | .notDir => ("not found", 127)
        | .access => ("Permission denied", 126)
        | e => (e.text, 2)
      Ran.done (sh.complain (lead ++ name ++ ": " ++ msg)) st
    match target with
    | none => fail sh .noEntry
    | some (.error e) => fail sh e
    | some (.ok path) =>
      let (sys, pid) := if replace then (sh.sys, sh.pid) else sh.sys.newPid
      let sh := { sh with sys }
      let ended (sys : Sys) (e : Ending) : Ran :=
        match e with
        | .signalled s =>
          if replace then ⟨{ sh with sys }, .killed s⟩ else Ran.done ({ sh with sys }.reportSignal s) (128 + s)
        | .exited c => Ran.done { sh with sys } c
      match execProgram fuel sh pid path (name :: args) env with
      | (sys, .ok e) => ended sys e
      | (sys, .error .noExec) =>
        -- a file that is not a program runs as a script of the shell
        match execProgram fuel { sh with sys } pid "/bin/sh" ("/bin/sh" :: path :: args) env with
        | (sys, .ok e) => ended sys e
        | (sys, .error e) => fail { sh with sys } e
      | (sys, .error e) => fail { sh with sys } e

/-- Start the program at a path with its arguments (the first being its own name) and
environment, as the process `pid` on the machine of a shell: the machine after it, and how it
ended or why it could not start. -/
def execProgram : Nat → Interp → Nat → String → List String → List (String × String) →
    Sys × Except Errno Ending
  | 0, sh, _, _, _, _ => (sh.sys, .error .loop)
  | fuel + 1, sh, pid, path, argv, env =>
    match sh.disk.resolve sh.cwd path true with
    | .error e => (sh.sys, .error e)
    | .ok (.absent _ _ _) => (sh.sys, .error .noEntry)
    | .ok (.found _ (.dir _)) => (sh.sys, .error .access)
    | .ok (.found _ (.link _)) => (sh.sys, .error .loop)
    | .ok (.found _ (.file data mode _)) =>
      if ¬executable mode then (sh.sys, .error .access)
      else
        match imageProgram? data with
        | some prog =>
          let (sys, e) := runImage fuel sh pid prog argv env
          (sys, .ok e)
        | none =>
          match interpreterLine data with
          | some (interp, opt) =>
            if interp.isEmpty then (sh.sys, .error .noExec)
            else execProgram fuel sh pid interp ([interp] ++ opt.toList ++ [path] ++ argv.drop 1) env
          | none => (sh.sys, .error .noExec)

/-- Run a system program as the process `pid`. -/
def runImage : Nat → Interp → Nat → String → List String → List (String × String) → Sys × Ending
  | 0, sh, _, _, _, _ => (sh.sys, .exited 2)
  | fuel + 1, sh, pid, prog, argv, env =>
    let args := argv.drop 1
    if prog = "sh" ∨ prog = "dash" then runShellImage fuel sh pid argv env
    else if prog = "env" then
      -- leading assignments join the environment; the rest is a program to run
      let (clear, rest) := match args with
        | "-i" :: more => (true, more)
        | "-" :: more => (true, more)
        | _ => (false, args)
      let sets := rest.takeWhile fun a => a.contains '=' ∧ ¬a.startsWith "="
      let cmd := rest.drop sets.length
      let env := overlay (if clear then [] else env) (sets.map splitAssign |>.map fun (n, v) => (n, v.getD ""))
      match cmd with
      | [] =>
        let text := String.join (env.map fun (n, v) => n ++ "=" ++ v ++ "\n")
        ((sh.say 1 text).sys, .exited 0)
      | c :: _ =>
        -- without a search path, programs are looked for in the system's default one
        let env' := if env.any (·.1 == "PATH") then env else env ++ [("PATH", "/bin:/usr/bin")]
        let child := { sh with vars := env'.map fun (n, v) => (n, ⟨some v, true, false⟩) }
        let target : Option (Except Errno String) :=
          if c.contains '/' then some (.ok c) else child.locate c
        match target with
        | some (.ok path) =>
          match execProgram fuel sh pid path cmd env with
          | (sys, .ok e) => (sys, e)
          | (sys, .error e) =>
            let code := if e = .noEntry then 127 else 126
            (({ sh with sys }.say 2 ("env: '" ++ c ++ "': " ++ e.text ++ "\n")).sys, .exited code)
        | some (.error e) =>
          ((sh.say 2 ("env: '" ++ c ++ "': " ++ e.text ++ "\n")).sys, .exited 126)
        | none => ((sh.say 2 ("env: '" ++ c ++ "': No such file or directory\n")).sys, .exited 127)
    else
      match utilityOf? prog with
      | some tool =>
        let done := tool (sh.call args env)
        let done := { done with out := renameDiagnostics prog (argv.headD prog) done.out }
        (sh.absorb done, .exited done.status)
      | none => (sh.sys, .exited 126)

/-- Run the shell program: `sh [-options] -c text [name [arg...]]`, `sh [-options] file
[arg...]`, or `sh` reading its script from its input. -/
def runShellImage : Nat → Interp → Nat → List String → List (String × String) → Sys × Ending
  | 0, sh, _, _, _ => (sh.sys, .exited 2)
  | fuel + 1, sh, pid, argv, env =>
    let arg0 := argv.headD "sh"
    let args := argv.drop 1
    let fail (msg : String) : Sys × Ending :=
      ((sh.say 2 (arg0 ++ ": 0: " ++ msg ++ "\n")).sys, .exited 2)
    match shellOptions (args.length + 1) Options.none false args with
    | .error m => fail m
    | .ok (o, true, rest) =>
      match rest with
      | text :: more =>
        let (name, params) := match more with
          | n :: ps => (n, ps)
          | [] => (arg0, [])
        runScript fuel (sh.spawn pid env name params o) text
      | [] => fail "-c requires an argument"
    | .ok (o, false, rest) =>
      match rest with
      | script :: params =>
        match sh.disk.fileBytes sh.cwd script with
        | .ok data => runScript fuel (sh.spawn pid env script params o) (scriptText data)
        | .error e => fail (redirFault false script e)
      | [] =>
        let input := sh.pending 0
        let sh := sh.consume 0 input.size
        runScript fuel ((sh.spawn pid env arg0 [] o).setPort 0 .null) (scriptText input)

/-- Run the text of a script in this shell (for `eval`, `.` and trap actions), its lines
counted from `first`; a syntax error in it ends the script. -/
def runText : Nat → Bool → String → Nat → Interp → Ran
  | 0, _, _, _, sh => exhausted sh
  | fuel + 1, tested, text, first, sh =>
    let (cmds, err) := Script.parseFrom text first
    let r := runSeq fuel tested cmds sh
    match r.flow, err with
    | .next, some e => Ran.quit ({ r.sh with line := e.line }.complain ("Syntax error: " ++ e.message)) 2
    | _, _ => r

/-- Run a command substitution: the command's text in a subshell whose output is collected; its
status is kept for a command that has no command word. -/
def substitute : Nat → Interp → String → Nat → Interp × ByteArray
  | 0, sh, _, _ => (sh, ByteArray.empty)
  | fuel + 1, sh, src, line =>
    let (sys, k) := sh.sys.openSink
    let child := { sh.subshell with sys }.setPort 1 (.sink k)
    let r := runText fuel false src line child
    let (sys, ending) := leaveShell fuel r
    let (sys, out) := sys.takeSink k
    let sh := { sh with sys, substStatus := some (endingStatus ending) }
    match ending with
    | .signalled s => (sh.reportSignal s, out)
    | _ => (sh, out)

/-- The end of a shell process: unless a signal killed it, the `EXIT` action runs (an `exit`
in it sets the status), and the status is taken modulo 256. -/
def leaveShell : Nat → Ran → Sys × Ending
  | 0, r => (r.sh.sys, .exited (r.sh.status % 256))
  | fuel + 1, r =>
    match r.flow with
    | .killed s => (r.sh.sys, .signalled s)
    | _ =>
      let status := r.sh.status
      match r.sh.traps.find? (·.1 == 0) with
      | some (_, action) =>
        if action.isEmpty then (r.sh.sys, .exited (status % 256))
        else
          let sh := { r.sh with traps := r.sh.traps.filter (·.1 != 0) }
          let t := runText fuel false action 1 sh
          match t.flow with
          | .killed s => (t.sh.sys, .signalled s)
          | .exit => (t.sh.sys, .exited (t.sh.status % 256))
          | _ => (t.sh.sys, .exited (status % 256))
      | none => (r.sh.sys, .exited (status % 256))

/-- Run a script's text in a new shell process: the machine after it, and how it ended. -/
def runScript : Nat → Interp → String → Sys × Ending
  | 0, sh, _ => (sh.sys, .exited 2)
  | fuel + 1, sh, text => leaveShell fuel (runText fuel false text 1 sh)

end

end Safekeep.Shell

namespace Safekeep

open Safekeep.Shell

/-- Start a program from a working directory with an environment: the disk after it and how it
ended, or why it could not start. It reads nothing, and what it writes is lost. -/
def Disk.start (d : Disk) (cwd : Loc) (env : List (String × String)) (path : String)
    (argv : List String) : Disk × Except Errno Ending :=
  let sys : Sys := ⟨d, [], [], 0, firstPid + 1, []⟩
  let (sys, result) := execProgram runFuel (Interp.host sys cwd) firstPid path argv env
  (sys.disk, result)

/-- The environment of the machine: the shell's search path and the superuser's home. -/
def machineEnv : List (String × String) := [("PATH", searchPath), ("HOME", "/root")]

/-- The machine: its environment, the superuser, programs run by this library's shell, and no
failing read or write. -/
def Host.machine : Host := ⟨machineEnv, true, Disk.start, fun _ _ => none⟩

end Safekeep
