import Safekeep.Shell.State
import Safekeep.Shell.Test
import Safekeep.Shell.Printf
import Safekeep.Disk.World

/-!
# Shell scripts: builtins that run no command

The shell's own commands that only look at and change the shell: `set`, `shift`, `export`,
`readonly`, `unset`, `local`, `read`, `cd`, `pwd`, `umask`, `echo`, `printf`, `test` and `[`,
`getopts`, `trap`, `type`, and the small ones that do nothing here (`hash`, `alias`, ...).
Each gives an `Outcome`: the shell after it and its status, or the shell and the message of an
error. An error of a *special* builtin (`set`, `shift`, `export`, `readonly`, `unset`, `local`,
`trap`, ...) ends the script with status 2; an error of another builtin makes its status 2.

A count argument (`exit 3`, `shift 2`) is a decimal number, blanks and a sign allowed around
it, from 0 to the largest 32-bit signed value; anything else is an illegal number.
-/

namespace Safekeep.Shell

/-! ## Signals -/

/-- The signals by name, and whether each ends a process that receives it. -/
def signalTable : List (String × Nat × Bool) :=
  [("HUP", 1, true), ("INT", 2, true), ("QUIT", 3, true), ("ILL", 4, true), ("TRAP", 5, true),
   ("ABRT", 6, true), ("BUS", 7, true), ("FPE", 8, true), ("KILL", 9, true), ("USR1", 10, true),
   ("SEGV", 11, true), ("USR2", 12, true), ("PIPE", 13, true), ("ALRM", 14, true), ("TERM", 15, true),
   ("STKFLT", 16, true), ("CHLD", 17, false), ("CONT", 18, false), ("STOP", 19, false),
   ("TSTP", 20, false), ("TTIN", 21, false), ("TTOU", 22, false), ("URG", 23, false),
   ("XCPU", 24, true), ("XFSZ", 25, true), ("VTALRM", 26, true), ("PROF", 27, true),
   ("WINCH", 28, false), ("IO", 29, true), ("PWR", 30, true), ("SYS", 31, true)]

/-- The number of signals: numbers below it name one. -/
def signalCount : Nat := 65

def upperChar (c : Char) : Char := if 'a' ≤ c ∧ c ≤ 'z' then Char.ofNat (c.toNat - 32) else c

/-- A signal given by number, or by name in any case with or without `SIG`; names start at
`least` (0 lets `EXIT` count). -/
def signalFrom? (least : Nat) (s : String) : Option Nat :=
  if ¬s.isEmpty ∧ s.all Char.isDigit then
    match s.toNat? with
    | some n => if n < signalCount then some n else none
    | none => none
  else
    let up := String.ofList (s.toList.map upperChar)
    let name := if up.startsWith "SIG" then String.ofList (up.toList.drop 3) else up
    if name = "EXIT" then (if least = 0 then some 0 else none)
    else (signalTable.find? (·.1 == name)).map (·.2.1)

def signalOf? (s : String) : Option Nat := signalFrom? 1 s

def signalName (n : Nat) : String :=
  if n = 0 then "EXIT"
  else match signalTable.find? (·.2.1 == n) with
    | some (name, _, _) => name
    | none => toString n

/-- The system's description of a signal. -/
def signalText (n : Nat) : String :=
  match n with
  | 1 => "Hangup" | 2 => "Interrupt" | 3 => "Quit" | 4 => "Illegal instruction"
  | 5 => "Trace/breakpoint trap" | 6 => "Aborted" | 7 => "Bus error"
  | 8 => "Floating point exception" | 9 => "Killed" | 10 => "User defined signal 1"
  | 11 => "Segmentation fault" | 12 => "User defined signal 2" | 13 => "Broken pipe"
  | 14 => "Alarm clock" | 15 => "Terminated" | 16 => "Stack fault" | 17 => "Child exited"
  | 18 => "Continued" | 19 => "Stopped (signal)" | 20 => "Stopped" | 21 => "Stopped (tty input)"
  | 22 => "Stopped (tty output)" | 23 => "Urgent I/O condition" | 24 => "CPU time limit exceeded"
  | 25 => "File size limit exceeded" | 26 => "Virtual timer expired"
  | 27 => "Profiling timer expired" | 28 => "Window changed" | 29 => "I/O possible"
  | 30 => "Power failure" | 31 => "Bad system call"
  | n => "Real-time signal " ++ toString (n - 34)

def signalEnds (n : Nat) : Bool :=
  match signalTable.find? (·.2.1 == n) with
  | some (_, _, ends) => ends
  | none => n ≥ 32

/-! ## Kinds of commands -/

/-- The special builtins: their assignments stay, and their errors end the script. -/
def specialBuiltins : List String :=
  [":", ".", "break", "continue", "eval", "exec", "exit", "export", "local", "readonly", "return",
   "set", "shift", "times", "trap", "unset"]

def regularBuiltins : List String :=
  ["alias", "bg", "cd", "chdir", "command", "echo", "false", "fg", "getopts", "hash", "jobs", "kill",
   "printf", "pwd", "read", "test", "[", "true", "type", "ulimit", "umask", "unalias", "wait"]

def isBuiltin (name : String) : Bool := specialBuiltins.contains name || regularBuiltins.contains name

def reservedWords : List String :=
  ["!", "\x7b", "\x7d", "case", "do", "done", "elif", "else", "esac", "fi", "for", "if", "in", "then",
   "until", "while"]

/-- What a builtin that runs no command leaves: the shell and its status, or the shell and the
message of an error. -/
inductive Outcome
  | ok (sh : Interp) (status : Nat)
  | fail (sh : Interp) (msg : String)

def isCBlank (c : Char) : Bool :=
  c = ' ' || c = '\t' || c = '\n' || c = '\r' || c.toNat = 11 || c.toNat = 12

/-- A count argument: blanks and a sign allowed around a decimal number from 0 to the largest
32-bit signed value. -/
def countArg? (s : String) : Option Nat :=
  let cs := s.toList.dropWhile isCBlank
  let (neg, body) : Bool × List Char := match cs with
    | '-' :: more => (true, more)
    | '+' :: more => (false, more)
    | _ => (false, cs)
  let ds := body.takeWhile Char.isDigit
  if ds.isEmpty ∨ ¬(body.drop ds.length).all isCBlank then none
  else
    let v := (String.ofList ds).toNat?.getD 0
    if neg ∧ v ≠ 0 then none
    else if v > 2147483647 then none
    else some v

def countOrFail (sh : Interp) (s : String) (k : Nat → Outcome) : Outcome :=
  match countArg? s with
  | some n => k n
  | none => .fail sh ("Illegal number: " ++ s)

/-- A text in single quotes, each run of quotes in it put in double quotes. -/
def singleQuote (s : String) : String :=
  let rec go : Nat → List Char → String
    | 0, _ => ""
    | fuel + 1, cs =>
      let plain := cs.takeWhile (· ≠ '\'')
      let rest := cs.drop plain.length
      let quotes := rest.takeWhile (· = '\'')
      let more := rest.drop quotes.length
      "'" ++ String.ofList plain ++ "'" ++
        (if quotes.isEmpty then "" else "\"" ++ String.ofList quotes ++ "\"" ++
          (if more.isEmpty then "" else go fuel more))
  go (s.length + 1) s.toList

def listVars (sh : Interp) (keep : Var → Bool) (render : String → Option String → String) : String :=
  let vs := (sh.vars.filter fun (_, v) => keep v).mergeSort fun a b => !decide (b.1 < a.1)
  String.join (vs.map fun (n, v) => render n v.value ++ "\n")

/-! ## Options and parameters -/

def optionNames : List (String × Char) :=
  [("errexit", 'e'), ("noglob", 'f'), ("ignoreeof", 'I'), ("interactive", 'i'), ("monitor", 'm'),
   ("noexec", 'n'), ("stdin", 's'), ("xtrace", 'x'), ("verbose", 'v'), ("vi", 'V'), ("emacs", 'E'),
   ("noclobber", 'C'), ("allexport", 'a'), ("notify", 'b'), ("nounset", 'u'), ("nolog", '\x00'),
   ("debug", '\x00')]

/-- Set or clear an option by letter; none for a letter that is no option. -/
def Options.put (o : Options) (c : Char) (on : Bool) : Option Options :=
  if c = 'e' then some { o with errexit := on }
  else if c = 'f' then some { o with noglob := on }
  else if c = 'u' then some { o with nounset := on }
  else if c = 'x' then some { o with xtrace := on }
  else if c = 'v' then some { o with verbose := on }
  else if c = 'n' then some { o with noexec := on }
  else if c = 'C' then some { o with noclobber := on }
  else if c = 'a' then some { o with allexport := on }
  else if "IimsVEb".toList.contains c then some o
  else none

def Options.get (o : Options) (c : Char) : Bool :=
  if c = 'e' then o.errexit else if c = 'f' then o.noglob else if c = 'u' then o.nounset
  else if c = 'x' then o.xtrace else if c = 'v' then o.verbose else if c = 'n' then o.noexec
  else if c = 'C' then o.noclobber else if c = 'a' then o.allexport else false

/-- The options as `set -o` (on: a table) or `set +o` (off: commands) lists them. -/
def optionListing (o : Options) (table : Bool) : String :=
  let rows := optionNames.map fun (name, c) =>
    let on := o.get c
    if table then name ++ String.ofList (List.replicate (16 - min 16 name.length) ' ') ++
      (if on then "on" else "off") ++ "\n"
    else "set " ++ (if on then "-o " else "+o ") ++ name ++ "\n"
  (if table then "Current option settings\n" else "") ++ String.join rows

/-- Read the option words of `set`: the options after them and the words left, or the error. -/
def readSetOptions (sh : Interp) : Nat → Options → List String →
    Except String (Options × Option (List String) × String)
  | 0, o, _ => .ok (o, none, "")
  | fuel + 1, o, args =>
    match args with
    | [] => .ok (o, none, "")
    | a :: rest =>
      match a.toList with
      | ['-'] => .ok ({ o with xtrace := false, verbose := false }, if rest.isEmpty then none else some rest, "")
      | ['-', '-'] => .ok (o, some rest, "")
      | sign :: letters =>
        if sign ≠ '-' ∧ sign ≠ '+' then .ok (o, some args, "")
        else
          let on := sign = '-'
          let step : Except String (Options × List String × String) :=
            letters.foldl (fun acc c => acc.bind fun (o, rest, out) =>
              if c = 'o' then
                match rest with
                | name :: more =>
                  match optionNames.find? (·.1 == name) with
                  | some (_, l) => .ok ((o.put l on).getD o, more, out)
                  | none => .error ("Illegal option -o " ++ name)
                | [] => .ok (o, [], out ++ optionListing o on)
              else
                match o.put c on with
                | some o => .ok (o, rest, out)
                | none => .error ("Illegal option " ++ String.singleton sign ++ String.singleton c))
              (.ok (o, rest, ""))
          match step with
          | .error m => .error m
          | .ok (o, rest, out) => do
            let (o, params, more) ← readSetOptions sh fuel o rest
            .ok (o, params, out ++ more)
      | [] => .ok (o, some args, "")

/-- `set`: without arguments list the variables; else set options and, when words follow them,
the positional parameters. -/
def setBuiltin (sh : Interp) (args : List String) : Outcome :=
  match args with
  | [] =>
    .ok (sh.say 1 (listVars sh (·.value.isSome) fun n v => n ++ "=" ++ singleQuote (v.getD ""))) 0
  | _ =>
    match readSetOptions sh (args.length + 1) sh.opts args with
    | .error m => .fail sh m
    | .ok (o, params, out) =>
      let sh := (sh.say 1 out)
      let sh := { sh with opts := o }
      match params with
      | some ps => .ok { sh with params := ps, optIndex := 1, optOff := none } 0
      | none => .ok sh 0

/-- `shift [n]`: drop the first `n` positional parameters. -/
def shiftBuiltin (sh : Interp) (args : List String) : Outcome :=
  let go (n : Nat) : Outcome :=
    if n > sh.params.length then .fail sh "can't shift that many"
    else .ok { sh with params := sh.params.drop n, optIndex := 1, optOff := none } 0
  match args with
  | [] => go 1
  | a :: _ => countOrFail sh a go

def splitAssign (a : String) : String × Option String :=
  match a.splitOn "=" with
  | [n] => (n, none)
  | n :: more => (n, some ("=".intercalate more))
  | [] => (a, none)

/-- `export` and `readonly`: flag variables, setting those given a value; with no names (or
`-p`) list the flagged ones. -/
def exportBuiltin (sh : Interp) (readonly : Bool) (args : List String) : Outcome :=
  let word := if readonly then "readonly" else "export"
  let flagged (v : Var) : Bool := if readonly then v.readonly else v.exported
  let args := match args with
    | "-p" :: rest => rest
    | "--" :: rest => rest
    | _ => args
  match args with
  | [] =>
    .ok (sh.say 1 (listVars sh flagged fun n v =>
      word ++ " " ++ n ++ (match v with
        | some x => "=" ++ singleQuote x
        | none => ""))) 0
  | _ =>
    args.foldl (fun acc a =>
      match acc with
      | .fail sh m => .fail sh m
      | .ok sh st =>
        let (name, value) := splitAssign a
        if ¬isName name then .fail sh (name ++ ": bad variable name")
        else
          let cell := sh.cell? name
          let set (sh : Interp) (v : Var) : Interp :=
            sh.putCell name (if readonly then { v with readonly := true } else { v with exported := true })
          match value, cell with
          | none, some v => .ok (set sh v) st
          | none, none => .ok (set sh ⟨none, false, false⟩) st
          | some x, some v =>
            if v.readonly then .fail sh (name ++ ": is read only")
            else .ok (set sh { v with value := some x }) st
          | some x, none => .ok (set sh ⟨some x, false, false⟩) st) (.ok sh 0)

/-- `unset [-v|-f] name...`: unset variables (or functions). -/
def unsetBuiltin (sh : Interp) (args : List String) : Outcome :=
  let (funcs, names) := match args with
    | "-f" :: rest => (true, rest)
    | "-v" :: rest => (false, rest)
    | _ => (false, args)
  names.foldl (fun acc n =>
    match acc with
    | .fail sh m => .fail sh m
    | .ok sh st =>
      if funcs then .ok { sh with funcs := sh.funcs.filter (·.1 != n) } st
      else if ¬isName n then .fail sh (n ++ ": bad variable name")
      else
        match sh.unsetVar n with
        | .ok sh => .ok sh st
        | .error m => .fail sh m) (.ok sh 0)

/-- `local name[=value]...`: make variables local to the running function, keeping their value
unless one is given. -/
def localBuiltin (sh : Interp) (args : List String) : Outcome :=
  match sh.frames with
  | [] => .fail sh "not in a function"
  | _ =>
    args.foldl (fun acc a =>
      match acc with
      | .fail sh m => .fail sh m
      | .ok sh st =>
        let (name, value) := splitAssign a
        if a = "-" then .ok sh st
        else if ¬isName name then .fail sh (name ++ ": bad variable name")
        else
          let saved := sh.cell? name
          let sh := match sh.frames with
            | f :: more => { sh with frames := ((name, saved) :: f) :: more }
            | [] => sh
          match value with
          | none =>
            match saved with
            | some _ => .ok sh st
            | none => .ok (sh.putCell name ⟨none, false, false⟩) st
          | some x =>
            match sh.assign name x with
            | .ok sh => .ok sh st
            | .error m => .fail sh m) (.ok sh 0)

/-- Put back the variables saved by the innermost function's `local`s. -/
def Interp.popFrame (sh : Interp) : Interp :=
  match sh.frames with
  | [] => sh
  | f :: more =>
    let sh := f.foldl (fun sh (n, saved) =>
      match saved with
      | some v => sh.putCell n v
      | none => { sh with vars := sh.vars.filter (·.1 != n) }) sh
    { sh with frames := more }

/-! ## `read` -/

/-- The characters of a line read: each with whether a backslash protected it from splitting;
without `raw` a backslash protects the next character and a backslash before a line end joins
the lines. Gives the characters, the bytes used, and whether a line end ended them. -/
def readLine (raw : Bool) (input : List UInt8) : List (Char × Bool) × Nat × Bool :=
  let rec go : Nat → List UInt8 → Nat → List (Char × Bool) → List (Char × Bool) × Nat × Bool
    | 0, _, used, acc => (acc, used, false)
    | fuel + 1, bs, used, acc =>
      match bs with
      | [] => (acc, used, false)
      | 10 :: _ => (acc, used + 1, true)
      | 92 :: rest =>
        if raw then go fuel rest (used + 1) (acc ++ [('\\', false)])
        else
          match rest with
          | [] => (acc, used + 1, false)
          | 10 :: more => go fuel more (used + 2) acc
          | b :: more => go fuel more (used + 2) (acc ++ [(Char.ofNat b.toNat, true)])
      | b :: rest => go fuel rest (used + 1) (acc ++ [(Char.ofNat b.toNat, false)])
  let (cs, used, ended) := go (input.length + 1) input 0 []
  -- bytes are read one at a time; the characters are their UTF-8 text
  let bytes : List UInt8 := cs.map fun (c, _) => c.toNat.toUInt8
  let protectedAt := cs.map (·.2)
  match String.fromUTF8? ⟨bytes.toArray⟩ with
  | some s =>
    if s.length = bytes.length then (s.toList.zip protectedAt, used, ended)
    else (s.toList.map (·, false), used, ended)
  | none => (cs, used, ended)

/-- Split the characters of a line read among `n` variables (`n ≥ 1`): fields at the `IFS`
characters not protected, the last variable taking the rest of the line with the white space at
its ends removed (and a single separator ending it, when the rest is one field). -/
def readSplit (ifs : List Char) (cs : List (Char × Bool)) (n : Nat) : List String :=
  let isSep (p : Char × Bool) : Bool := ¬p.2 ∧ ifs.contains p.1
  let isWs (p : Char × Bool) : Bool := isSep p ∧ isIfsBlankChar p.1
  let dropWs (cs : List (Char × Bool)) := cs.dropWhile isWs
  let text (cs : List (Char × Bool)) := String.ofList (cs.map (·.1))
  let rec go : Nat → List (Char × Bool) → List String
    | 0, cs => [text cs]
    | k + 1, cs =>
      let cs := dropWs cs
      if k = 0 then
        let rest := (dropWs cs.reverse).reverse
        -- a rest that is one field and a separator keeps only the field
        let field := rest.takeWhile (!isSep ·)
        let after := rest.drop field.length
        match after with
        | [p] => if isSep p ∧ ¬isWs p then [text field] else [text rest]
        | _ => [text rest]
      else
        let field := cs.takeWhile (!isSep ·)
        let after := cs.drop field.length
        let after := match dropWs after with
          | p :: more => if isSep p ∧ ¬isWs p then dropWs more else dropWs after
          | [] => []
        text field :: go k after
  let fields := go n cs
  fields ++ List.replicate (n - fields.length) ""
where
  isIfsBlankChar (c : Char) : Bool := c = ' ' || c = '\t' || c = '\n'

/-- `read [-r] name...`: read a line from descriptor 0 and split it among the variables; status
1 when the input ended before a line end. -/
def readBuiltin (sh : Interp) (args : List String) : Outcome :=
  let rec opts : Nat → Bool → List String → Except String (Bool × List String)
    | 0, raw, args => .ok (raw, args)
    | fuel + 1, raw, args =>
      match args with
      | "-r" :: rest => opts fuel true rest
      | "-p" :: _ :: rest => opts fuel raw rest
      | "--" :: rest => .ok (raw, rest)
      | a :: rest =>
        if a.startsWith "-" ∧ a.length > 1 then
          if a.toList.drop 1 |>.all (· = 'r') then opts fuel true rest
          else .error ("Illegal option " ++ String.ofList (a.toList.take 2))
        else .ok (raw, a :: rest)
      | [] => .ok (raw, [])
  match opts (args.length + 1) false args with
  | .error m => .fail sh m
  | .ok (raw, names) =>
    if names.isEmpty then .fail sh "arg count"
    else
      let input := (sh.pending 0).toList
      let (cs, used, ended) := readLine raw input
      let sh := sh.consume 0 used
      let values := readSplit sh.ifs.toList cs names.length
      let r := (names.zip values).foldl (fun (acc : Except String Interp) (n, v) =>
        acc.bind fun sh => sh.assign n v) (.ok sh)
      match r with
      | .ok sh => .ok sh (if ended then 0 else 1)
      | .error m => .fail sh m

/-! ## Directories -/

def normalPath (p : String) : String :=
  let parts := (p.splitOn "/").foldl (fun acc c =>
    if c = "" ∨ c = "." then acc
    else if c = ".." then acc.dropLast
    else acc ++ [c]) []
  "/" ++ "/".intercalate parts

/-- `cd [dir]`: change the working directory (`HOME` without an operand, `OLDPWD` for `-`,
which is also printed), keeping the path as named in `PWD`. -/
def cdBuiltin (sh : Interp) (args : List String) : Outcome :=
  let args := match args with
    | "-L" :: rest => rest
    | "-P" :: rest => rest
    | "--" :: rest => rest
    | _ => args
  let (target, print) := match args with
    | [] => ((sh.var? "HOME").getD "", false)
    | "-" :: _ => ((sh.var? "OLDPWD").getD "", true)
    | d :: _ => (d, false)
  let target := if target.isEmpty then "." else target
  let logical := if target.startsWith "/" then normalPath target else normalPath (sh.logical ++ "/" ++ target)
  match sh.disk.resolve sh.cwd target true with
  | .ok (.found loc (.dir _)) =>
    let old := sh.logical
    let sh := { sh with cwd := loc, logical }
    let sh := (sh.setVar "OLDPWD" old).setVar "PWD" logical
    .ok (if print then sh.say 1 (logical ++ "\n") else sh) 0
  | _ => .fail sh ("can't cd to " ++ target)

/-- `pwd`: print the working directory as named (`-P`: as it is on the disk). -/
def pwdBuiltin (sh : Interp) (args : List String) : Outcome :=
  if args.contains "-P" then .ok (sh.say 1 (sh.cwd.text ++ "\n")) 0
  else .ok (sh.say 1 (sh.logical ++ "\n")) 0

/-- `umask [mask]`: print the file creation mask in octal, or set it. -/
def umaskBuiltin (sh : Interp) (args : List String) : Outcome :=
  match args with
  | [] =>
    let digits := (Nat.toDigits 8 sh.mask)
    .ok (sh.say 1 (String.ofList (List.replicate (4 - min 4 digits.length) '0' ++ digits) ++ "\n")) 0
  | "-S" :: _ =>
    let part (who : String) (shift : Nat) : String :=
      let bits := (sh.mask >>> shift) &&& 7
      who ++ "=" ++ (if bits &&& 4 = 0 then "r" else "") ++ (if bits &&& 2 = 0 then "w" else "") ++
        (if bits &&& 1 = 0 then "x" else "")
    .ok (sh.say 1 (part "u" 6 ++ "," ++ part "g" 3 ++ "," ++ part "o" 0 ++ "\n")) 0
  | m :: _ =>
    if ¬m.isEmpty ∧ m.all fun c => '0' ≤ c ∧ c ≤ '7' then
      .ok { sh with mask := (m.toList.foldl (fun acc c => acc * 8 + (c.toNat - 48)) 0) &&& 0o777 } 0
    else .fail sh ("Illegal mode: " ++ m)

/-! ## Output -/

/-- `echo`: its arguments joined by blanks, with escapes. -/
def echoOut (sh : Interp) (args : List String) : Outcome :=
  .ok (sh.emit 1 ⟨(echoBuiltin args).toArray⟩) 0

/-- `printf format [arg...]`: warnings first, then the output. -/
def printfOut (sh : Interp) (args : List String) : Outcome :=
  let args := match args with
    | "--" :: rest => rest
    | _ => args
  match args with
  | [] => .fail sh "usage: printf format [arg ...]"
  | fmt :: rest =>
    if fmt.startsWith "-" ∧ fmt.length > 1 then
      .fail sh ("Illegal option " ++ String.ofList (fmt.toList.take 2))
    else
      let p := printfWith .builtin fmt rest
      let sh := p.warnings.foldl (fun sh w => sh.complain ("printf: " ++ w)) sh
      .ok (sh.emit 1 ⟨p.out.toArray⟩) p.status

/-! ## `test` -/

/-- What `test` sees of the disk, for a process running as the superuser. -/
def worldOf (d : Disk) (cwd : Loc) : TestWorld where
  file op p :=
    let st := d.stat cwd p
    let exists_ : Bool := match st with
      | .ok _ => true
      | .error _ => false
    let isNull : Bool := match d.locate cwd p with
      | .ok loc => loc == nullDevice
      | .error _ => false
    let has (f : Stat → Bool) : Bool := match st with
      | .ok s => f s
      | .error _ => false
    if op = "-e" then exists_
    else if op = "-f" then has fun s => s.kind == .file && !isNull
    else if op = "-d" then has fun s => s.kind == .dir
    else if op = "-c" then isNull
    else if op = "-s" then has fun s => s.size > 0
    else if op = "-h" ∨ op = "-L" then
      match d.lstat cwd p with
      | .ok s => s.kind == .link
      | .error _ => false
    else if op = "-r" ∨ op = "-w" ∨ op = "-O" ∨ op = "-G" then exists_
    else if op = "-x" then has fun s => s.kind == .dir || s.mode &&& 0o111 != 0
    else if op = "-u" then has fun s => s.mode &&& 0o4000 != 0
    else if op = "-g" then has fun s => s.mode &&& 0o2000 != 0
    else if op = "-k" then has fun s => s.mode &&& 0o1000 != 0
    else false
  compare op a b :=
    match d.stat cwd a, d.stat cwd b with
    | .ok x, .ok y =>
      let newer (x y : Stat) : Bool :=
        x.mtime.secs > y.mtime.secs || (x.mtime.secs == y.mtime.secs && x.mtime.nanos > y.mtime.nanos)
      if op = "-nt" then newer x y
      else if op = "-ot" then newer y x
      else
        match d.locate cwd a, d.locate cwd b with
        | .ok la, .ok lb => la == lb
        | _, _ => false
    | _, _ => false

/-- `test` and `[`: 0 when the expression holds, 1 when not, an error when it is malformed. -/
def testBuiltin (sh : Interp) (bracket : Bool) (args : List String) : Outcome :=
  let w := worldOf sh.disk sh.cwd
  let body := if bracket then
      if args.getLast? = some "]" then some args.dropLast else none
    else some args
  match body with
  | none => .fail sh "missing ]"
  | some args =>
    match testEval w args with
    | .ok b => .ok sh (if b then 0 else 1)
    | .error m => .fail sh m

/-! ## `getopts` -/

/-- `getopts optstring name [arg...]`: the next option of the arguments (the positional
parameters by default) into `name`, its value into `OPTARG`, the next index into `OPTIND`;
status 1 when the options are over. -/
def getoptsBuiltin (sh : Interp) (args : List String) : Outcome :=
  match args with
  | optstr :: var :: given =>
    let words := if given.isEmpty then sh.params else given
    -- an index set by the script starts over
    let (ind, off) := match (sh.var? "OPTIND").bind String.toNat? with
      | some n => if n = sh.optIndex then (sh.optIndex, sh.optOff) else (n, none)
      | none => (1, none)
    let (ind, off) := if ind > words.length + 1 then (1, none) else (ind, off)
    let spec := optstr.toList
    let silent := spec.head? = some ':'
    -- the text left of the current word, when inside one
    let inside : Option (List Char) := match off with
      | some o =>
        if ind ≤ 1 then none
        else match words[ind - 2]? with
          | some w => if o ≤ w.length ∧ o < w.length then some (w.toList.drop o) else none
          | none => none
      | none => none
    let start : Option (List Char × Nat) := match inside with
      | some cs => some (cs, ind)
      | none =>
        match words[ind - 1]? with
        | some w =>
          match w.toList with
          | '-' :: c :: more =>
            if c = '-' ∧ more.isEmpty then none else some (c :: more, ind + 1)
          | _ => none
        | none => none
    let finish (sh : Interp) (ind : Nat) (off : Option Nat) (c : String) (status : Nat) : Outcome :=
      let sh := sh.setVar "OPTIND" (toString ind)
      let sh := { sh with optIndex := ind, optOff := off }
      match sh.assign var c with
      | .ok sh => .ok sh status
      | .error m => .fail sh m
    match start with
    | none =>
      let next := match words[ind - 1]? with
        | some "--" => ind + 1
        | _ => ind
      finish sh next none "?" 1
    | some (c :: more, next) =>
      let word := (words[next - 2]?).getD ""
      let offAfter (rest : List Char) : Option Nat :=
        if rest.isEmpty then none else some (word.length - rest.length)
      match spec.drop (if silent then 1 else 0) |>.findIdx? (· = c) with
      | none =>
        if silent then
          finish (sh.setVar "OPTARG" (String.singleton c)) next (offAfter more) "?" 0
        else
          let sh := sh.say 2 ("Illegal option -" ++ String.singleton c ++ "\n")
          let sh := match sh.unsetVar "OPTARG" with
            | .ok s => s
            | .error _ => sh
          finish sh next (offAfter more) "?" 0
      | some i =>
        let spec' := spec.drop (if silent then 1 else 0)
        if c ≠ ':' ∧ spec'[i + 1]? = some ':' then
          if ¬more.isEmpty then finish (sh.setVar "OPTARG" (String.ofList more)) next none (String.singleton c) 0
          else
            match words[next - 1]? with
            | some a => finish (sh.setVar "OPTARG" a) (next + 1) none (String.singleton c) 0
            | none =>
              if silent then finish (sh.setVar "OPTARG" (String.singleton c)) next none ":" 0
              else
                let sh := sh.say 2 ("No arg for -" ++ String.singleton c ++ " option\n")
                let sh := match sh.unsetVar "OPTARG" with
                  | .ok s => s
                  | .error _ => sh
                finish sh next none "?" 0
        else finish (sh.setVar "OPTARG" "") next (offAfter more) (String.singleton c) 0
    | some ([], next) => finish sh next none "?" 1
  | _ => .fail sh "Usage: getopts optstring var [arg]"

/-! ## Traps -/

/-- `trap [action] signal...`: set the action run when a signal arrives (`-` resets it, an empty
one ignores the signal, `EXIT` is the end of the script); without arguments list the traps. -/
def trapBuiltin (sh : Interp) (args : List String) : Outcome :=
  match args with
  | [] =>
    let lines := (sh.traps.mergeSort fun a b => a.1 ≤ b.1).map fun (n, act) =>
      "trap -- " ++ singleQuote act ++ " " ++ signalName n ++ "\n"
    .ok (sh.say 1 (String.join lines)) 0
  | first :: rest =>
    let (action, sigs) : Option String × List String :=
      if rest.isEmpty ∨ (signalFrom? 1 first).isSome then (none, args)
      else if first = "-" then (none, rest)
      else (some first, rest)
    sigs.foldl (fun acc s =>
      match acc with
      | .fail sh m => .fail sh m
      | .ok sh st =>
        match signalFrom? 0 s with
        | none => .ok (sh.complain ("trap: " ++ s ++ ": bad trap")) 1
        | some n =>
          let others := sh.traps.filter (·.1 != n)
          match action with
          | some a => .ok { sh with traps := others ++ [(n, a)] } st
          | none => .ok { sh with traps := others } st) (.ok sh 0)

/-! ## Finding commands -/

/-- The directories of the search path (an empty one being the working directory). -/
def Interp.pathDirs (sh : Interp) : List String := ((sh.var? "PATH").getD "").splitOn ":"

def inDir (dir name : String) : String :=
  if dir.isEmpty then name else dir ++ "/" ++ name

def Interp.isRegular (sh : Interp) (p : String) : Bool :=
  match sh.disk.stat sh.cwd p with
  | .ok s => s.kind = .file
  | .error _ => false

/-- Where the search path finds a command: the first directory holding a regular file of that
name. -/
def Interp.findInPath (sh : Interp) (name : String) : Option String :=
  (sh.pathDirs.map (inDir · name)).find? sh.isRegular

/-- How a command name reads: a function, a builtin (special or not), a reserved word, a
program at a path, or nothing. -/
def Interp.describe (sh : Interp) (name : String) : Option String :=
  if reservedWords.contains name then some (name ++ " is a shell keyword")
  else if sh.funcs.any (·.1 == name) then some (name ++ " is a shell function")
  else if specialBuiltins.contains name then some (name ++ " is a special shell builtin")
  else if regularBuiltins.contains name then some (name ++ " is a shell builtin")
  else if name.contains '/' then
    if sh.isRegular name then some (name ++ " is " ++ name) else none
  else (sh.findInPath name).map fun p => name ++ " is " ++ p

/-- `type name...`: how each name reads as a command. -/
def typeBuiltin (sh : Interp) (args : List String) : Outcome :=
  args.foldl (fun acc n =>
    match acc with
    | .fail sh m => .fail sh m
    | .ok sh st =>
      match sh.describe n with
      | some d => .ok (sh.say 1 (d ++ "\n")) st
      | none => .ok (sh.say 1 (n ++ ": not found\n")) 127) (.ok sh 0)

/-- `command -v name`: the name of a builtin, function or reserved word, or the path of a
program; status 127 when there is none. -/
def commandV (sh : Interp) (verbose : Bool) (args : List String) : Outcome :=
  args.foldl (fun acc n =>
    match acc with
    | .fail sh m => .fail sh m
    | .ok sh st =>
      if verbose then
        match sh.describe n with
        | some d => .ok (sh.say 1 (d ++ "\n")) st
        | none => .ok (sh.say 1 (n ++ ": not found\n")) 127
      else if reservedWords.contains n ∨ sh.funcs.any (·.1 == n) ∨ isBuiltin n then
        .ok (sh.say 1 (n ++ "\n")) st
      else
        let found := if n.contains '/' then (if sh.isRegular n then some n else none) else sh.findInPath n
        match found with
        | some p => .ok (sh.say 1 (p ++ "\n")) st
        | none => .ok sh 127) (.ok sh 0)

/-- `wait [pid...]`: the status of the background command with the last process number given
(127 for one that is not a child), 0 without arguments. -/
def waitBuiltin (sh : Interp) (args : List String) : Outcome :=
  args.foldl (fun acc a =>
    match acc with
    | .fail sh m => .fail sh m
    | .ok sh _ =>
      match a.toNat? with
      | some pid =>
        match sh.jobs.find? (·.1 == pid) with
        | some (_, st) => .ok sh st
        | none => .ok sh 127
      | none => .fail sh ("Illegal number: " ++ a)) (.ok sh 0)

end Safekeep.Shell
