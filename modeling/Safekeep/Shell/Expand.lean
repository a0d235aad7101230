import Safekeep.Shell.State
import Safekeep.Shell.Pattern
import Safekeep.Shell.Arith

/-!
# Shell scripts: expansions

A word expands part by part. Literal text stays; a parameter gives its value (an unset one gives
nothing, or fails under `set -u`); a command substitution gives what its command wrote, line
ends at the end removed; an arithmetic expansion gives its value in decimal; a tilde prefix gives
a home directory. How a command substitution runs is a parameter here (`Substituter`): the shell
that runs commands passes itself in.

Unquoted results of expansions are split into fields at the characters of `IFS` (blank, tab and
line end when it is unset): white space among them is dropped at the ends and runs of it count
as one separator, while each other separator, together with the white space around it, ends a
field, so that two in a row leave an empty field between them; an empty `IFS` splits nothing.
Quoted results are kept whole, and a quoted empty text still makes a field. `"$@"` gives each
positional parameter as a field of its own (none when there are none), `"$*"` all of them in one
field joined by the first character of `IFS`. Unquoted, both join the parameters by that
character and split the result; with an empty `IFS` each parameter that is not empty is a field
of its own.

After splitting, a field with an unquoted `*`, `?` or `[` is a pattern for path names: it is
replaced by the paths that match it, in byte order, a name starting with `.` matching only a
pattern that starts with `.`; with no match it stays as it is.

Assignments, `case` words, redirection targets and here-documents expand into one text without
splitting or path names; patterns expand into characters that remember their quoting.
-/

namespace Safekeep.Shell

/-- How a command substitution runs: the shell, the command's source text and first line give
the shell after it and what the command wrote. -/
abbrev Substituter := Interp → String → Nat → Interp × ByteArray

/-- Why an expansion failed: the shell at that point, the message, and whether the failure kills
the process (an arithmetic trap) rather than ending the script with status 2. -/
structure ExpandError where
  shell : Interp
  message : String
  crash : Bool

def isIfsBlank (c : Char) : Bool := c = ' ' || c = '\t' || c = '\n'

/-- Fields being built: those finished, the current one (characters with their quoting), whether
the current one exists yet, and whether the last separator was white space. -/
structure Fields where
  done : List (List (Char × Bool))
  cur : List (Char × Bool)
  live : Bool
  gap : Bool

namespace Fields

def empty : Fields := ⟨[], [], false, false⟩

def addQuoted (f : Fields) (s : String) : Fields :=
  { f with cur := f.cur ++ s.toList.map (·, true), live := true, gap := false }

def addPlain (f : Fields) (s : String) : Fields :=
  if s.isEmpty then f else { f with cur := f.cur ++ s.toList.map (·, false), live := true, gap := false }

def cut (f : Fields) : Fields := ⟨f.done ++ [f.cur], [], false, false⟩

/-- Add one character of an unquoted expansion, splitting at the separators `ifs`. -/
def splitChar (ifs : List Char) (f : Fields) (c : Char) : Fields :=
  if ¬ifs.contains c then { f with cur := f.cur ++ [(c, false)], live := true, gap := false }
  else if isIfsBlank c then
    if f.live then { f.cut with gap := true } else f
  else if f.live then f.cut
  else if f.gap then { f with gap := false }
  else f.cut

/-- Add an unquoted expansion, split at the separators (or, when not splitting, kept whole). -/
def addSplit (split : Bool) (ifs : String) (f : Fields) (s : String) : Fields :=
  if split then s.toList.foldl (splitChar ifs.toList) f else f.addPlain s

def finish (f : Fields) : List (List (Char × Bool)) := if f.live then f.done ++ [f.cur] else f.done

end Fields

def fieldText (cs : List (Char × Bool)) : String := String.ofList (cs.map (·.1))

/-- What a command substitution gives: the output as text, line ends at the end removed. -/
def substText (out : ByteArray) : String :=
  let cs := (String.fromUTF8? out).getD (String.ofList (out.toList.map fun b => Char.ofNat b.toNat))
  String.ofList (cs.toList.reverse.dropWhile (· = '\n')).reverse

def homeOf (sh : Interp) (user : String) : Option String :=
  if user.isEmpty then (sh.var? "HOME").bind fun h => if h.isEmpty then none else some h
  else if user = "root" then some "/root"
  else none

/-- How a word is being expanded: whether unquoted expansions are split into fields, and
whether the part stands inside the word of a conditional expansion (where unquoted literal
text is split too). -/
structure ExpandMode where
  split : Bool
  inner : Bool

mutual

/-- Expand the parts of a word into fields. -/
def expandParts (run : Substituter) : Nat → Interp → ExpandMode → Fields → Word →
    Except ExpandError (Interp × Fields)
  | 0, sh, _, _, _ => .error ⟨sh, "expansion too deep", false⟩
  | fuel + 1, sh, mode, f, ps =>
    match ps with
    | [] => .ok (sh, f)
    | p :: rest => do
      let (sh, f) ← expandPart run fuel sh mode f p
      expandParts run fuel sh mode f rest

/-- Expand one part into fields. -/
def expandPart (run : Substituter) : Nat → Interp → ExpandMode → Fields → Part →
    Except ExpandError (Interp × Fields)
  | 0, sh, _, _, _ => .error ⟨sh, "expansion too deep", false⟩
  | fuel + 1, sh, mode, f, p =>
    let ifs := sh.ifs
    let add (q : Bool) (f : Fields) (s : String) : Fields :=
      if q then f.addQuoted s else Fields.addSplit mode.split ifs f s
    let joiner : String := match ifs.toList with
      | c :: _ => String.singleton c
      | [] => ""
    match p with
    | .text s true => .ok (sh, f.addQuoted s)
    | .text s false => .ok (sh, if mode.inner then add false f s else f.addPlain s)
    | .tilde user =>
      match homeOf sh user with
      | some h => .ok (sh, f.addQuoted h)
      | none => .ok (sh, f.addPlain ("~" ++ user))
    | .param "@" true =>
      if mode.split then
        match sh.params with
        | [] => .ok (sh, f)
        | a :: more => .ok (sh, more.foldl (fun f x => f.cut.addQuoted x) (f.addQuoted a))
      else .ok (sh, f.addQuoted (joiner.intercalate sh.params))
    | .param "*" true => .ok (sh, f.addQuoted (joiner.intercalate sh.params))
    | .param "@" false | .param "*" false =>
      if mode.split ∧ ifs.isEmpty then
        match sh.params.filter (· ≠ "") with
        | [] => .ok (sh, f)
        | a :: more => .ok (sh, more.foldl (fun f x => f.cut.addPlain x) (f.addPlain a))
      else .ok (sh, add false f (joiner.intercalate sh.params))
    | .param name q =>
      match sh.param? name with
      | some v => .ok (sh, add q f v)
      | none =>
        if sh.opts.nounset ∧ name ≠ "!" then .error ⟨sh, name ++ ": parameter not set", false⟩
        else .ok (sh, if q then { f with live := true } else f)
    | .length name q =>
      match sh.param? name with
      | some v => .ok (sh, add q f (toString v.utf8ByteSize))
      | none =>
        if sh.opts.nounset then .error ⟨sh, name ++ ": parameter not set", false⟩
        else .ok (sh, add q f "0")
    | .trim name suffix longest pat q => do
      let (sh, chars) ← expandPattern run fuel sh pat
      let g := Glob.ofChars chars
      match sh.param? name with
      | some v =>
        let r := if suffix then trimSuffix g v.toList longest else trimPrefix g v.toList longest
        .ok (sh, add q f (String.ofList r))
      | none =>
        if sh.opts.nounset then .error ⟨sh, name ++ ": parameter not set", false⟩
        else .ok (sh, if q then { f with live := true } else f)
    | .alt name how colon word q =>
      let v := sh.param? name
      let missing := match v with
        | none => true
        | some s => colon && s.isEmpty
      let inner : ExpandMode := { mode with inner := true }
      -- a quoted expansion makes a field even when it gives nothing
      let mark (f : Fields) : Fields := if q then { f with live := true } else f
      match how with
      | .useDefault =>
        if missing then do
          let (sh, f) ← expandParts run fuel sh inner f word
          .ok (sh, mark f)
        else .ok (sh, add q f (v.getD ""))
      | .useAlt =>
        if missing then .ok (sh, mark f)
        else do
          let (sh, f) ← expandParts run fuel sh inner f word
          .ok (sh, mark f)
      | .assign =>
        if missing then do
          let (sh, text) ← expandText run fuel sh word
          if isName name then
            match sh.assign name text with
            | .ok sh => .ok (sh, add q f text)
            | .error m => .error ⟨sh, m, false⟩
          else .error ⟨sh, name ++ ": bad variable name", false⟩
        else .ok (sh, add q f (v.getD ""))
      | .require =>
        if missing then do
          let (sh, text) ← expandText run fuel sh word
          let msg := if word.isEmpty then
              "parameter not set" ++ (if colon then " or null" else "")
            else text
          .error ⟨sh, name ++ ": " ++ msg, false⟩
        else .ok (sh, add q f (v.getD ""))
    | .malformed => .error ⟨sh, "Bad substitution", false⟩
    | .subst src line q =>
      let (sh', out) := run sh src line
      .ok (sh', add q f (substText out))
    | .arith w q => do
      let (sh, text) ← expandText run fuel sh w
      match evalArith (sh.var? ·) text with
      | .ok (v, assigned) =>
        let sh' := assigned.foldl (fun (acc : Except String Interp) (n, x) =>
          acc.bind fun s => s.assign n (toString x.toInt)) (.ok sh)
        match sh' with
        | .ok sh => .ok (sh, add q f (toString v.toInt))
        | .error m => .error ⟨sh, m, false⟩
      | .error e => .error ⟨sh, e.message text, e = .overflowTrap⟩

def expandText (run : Substituter) : Nat → Interp → Word → Except ExpandError (Interp × String)
  | 0, sh, _ => .error ⟨sh, "expansion too deep", false⟩
  | fuel + 1, sh, w => do
    let (sh, f) ← expandParts run fuel sh ⟨false, false⟩ Fields.empty w
    .ok (sh, fieldText f.cur)

/-- Expand a word into a pattern: characters with their quoting. -/
def expandPattern (run : Substituter) : Nat → Interp → Word → Except ExpandError (Interp × List (Char × Bool))
  | 0, sh, _ => .error ⟨sh, "expansion too deep", false⟩
  | fuel + 1, sh, w => do
    let (sh, f) ← expandParts run fuel sh ⟨false, false⟩ Fields.empty w
    .ok (sh, f.cur)

end

mutual
def Part.weight : Part → Nat
  | .trim _ _ _ w _ => 1 + wordWeight w
  | .alt _ _ _ w _ => 1 + wordWeight w
  | .arith w _ => 1 + wordWeight w
  | _ => 1

def wordWeight : Word → Nat
  | [] => 1
  | p :: ps => p.weight + wordWeight ps
end

/-- The fuel an expansion of a word needs: enough for every part at every depth. -/
def Word.budget (w : Word) : Nat := 4 * (wordWeight w + 4)

/-! ## Path names -/

def hasPattern (cs : List (Char × Bool)) : Bool :=
  cs.any fun (c, q) => ¬q ∧ (c = '*' ∨ c = '?' ∨ c = '[')

/-- Cut a field into the components of a path at its slashes. -/
def pathComponents (cs : List (Char × Bool)) : List (List (Char × Bool)) :=
  let rec go : Nat → List (Char × Bool) → List (List (Char × Bool))
    | 0, _ => []
    | fuel + 1, cs =>
      let comp := cs.takeWhile (·.1 ≠ '/')
      match cs.drop comp.length with
      | [] => [comp]
      | _ :: rest => comp :: go fuel rest
  go (cs.length + 1) cs

def joinPath (dir name : String) : String :=
  if dir.isEmpty then name else if dir.endsWith "/" then dir ++ name else dir ++ "/" ++ name

def dirNames (d : Disk) (cwd : Loc) (path : String) : List String :=
  match d.resolve cwd (if path.isEmpty then "." else path) true with
  | .ok (.found loc (.dir _)) => [".", ".."] ++ (d.children loc).map (·.1)
  | _ => []

/-- The paths below `dir` that the components match. -/
def globWalk (d : Disk) (cwd : Loc) : Nat → String → List (List (Char × Bool)) → List String
  | 0, _, _ => []
  | fuel + 1, dir, comps =>
    match comps with
    | [] => [dir]
    | comp :: rest =>
      if ¬hasPattern comp then
        let path := joinPath dir (fieldText (comp.filter fun (c, q) => q ∨ c ≠ '\\'))
        if rest.isEmpty then
          match d.lstat cwd path with
          | .ok _ => [path]
          | .error _ => []
        else globWalk d cwd fuel path rest
      else
        let g := Glob.ofChars comp
        let dotOk := match comp with
          | ('.', _) :: _ => true
          | _ => false
        let names := (dirNames d cwd dir).filter fun n =>
          (dotOk || !n.startsWith ".") && globMatch g n.toList
        let sorted := names.mergeSort fun a b => !decide (b < a)
        sorted.flatMap fun n =>
          let path := joinPath dir n
          if rest.isEmpty then [path]
          else if d.isDir cwd path then globWalk d cwd fuel path rest
          else []

def globPaths (d : Disk) (cwd : Loc) (cs : List (Char × Bool)) : List String :=
  let comps := pathComponents cs
  match comps with
  | [] :: rest => globWalk d cwd (rest.length + 2) "/" rest
  | _ => globWalk d cwd (comps.length + 2) "" comps

def expandPath (sh : Interp) (cs : List (Char × Bool)) : List String :=
  if sh.opts.noglob ∨ ¬hasPattern cs then [fieldText cs]
  else
    match globPaths sh.disk sh.cwd cs with
    | [] => [fieldText cs]
    | ps => ps

/-! ## Whole words -/

/-- Expand words into fields, with path names. -/
def expandWords (run : Substituter) (sh : Interp) : List Word → Except ExpandError (Interp × List String)
  | [] => .ok (sh, [])
  | w :: ws => do
    let (sh, f) ← expandParts run w.budget sh ⟨true, false⟩ Fields.empty w
    let fields := f.finish.flatMap (expandPath sh)
    let (sh, rest) ← expandWords run sh ws
    .ok (sh, fields ++ rest)

def expandOne (run : Substituter) (sh : Interp) (w : Word) : Except ExpandError (Interp × String) :=
  expandText run w.budget sh w

def expandGlob (run : Substituter) (sh : Interp) (w : Word) : Except ExpandError (Interp × List Glob) := do
  let (sh, cs) ← expandPattern run w.budget sh w
  .ok (sh, Glob.ofChars cs)

end Safekeep.Shell
