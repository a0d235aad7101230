import Safekeep.Disk.Ops

/-!
# Shell scripts: file utilities

The small programs a tool script calls on files: `rm`, `mkdir`, `rmdir`, `touch`, `cat`, `cp`,
`mv`, `ln`, `chmod`, `ls`, `basename`, `dirname`, `readlink`, `pwd`, `printenv`, `sleep`, `true`
and `false`. Each is given a `Call` (the disk, the working directory, its arguments, its
environment and its input) and gives a `Done` (the disk after it, what it wrote to descriptors
1 and 2 in order, its status, and whether it read its input). Diagnostics are written to
descriptor 2 in the utilities' usual wording, prefixed by the program's name.
-/

namespace Safekeep.Shell

/-- What a program is given: the disk, the working directory, its arguments, its environment,
its input, and whether the input is a regular file (rather than a pipe or nothing). -/
structure Call where
  disk : Disk
  cwd : Loc
  args : List String
  env : List (String × String)
  input : ByteArray
  inputRegular : Bool

/-- What a program leaves: the disk, its output chunks by descriptor, its status, and whether
it read its input. -/
structure Done where
  disk : Disk
  out : List (Nat × ByteArray)
  status : Nat
  reads : Bool

def bytesOf (s : String) : ByteArray := s.toUTF8

def complaint (s : String) : Nat × ByteArray := (2, bytesOf (s ++ "\n"))

/-- A usage error: the diagnostic, then the hint to ask for help. -/
def usageFault (tool msg : String) : List (Nat × ByteArray) :=
  [complaint (tool ++ ": " ++ msg), complaint ("Try '" ++ tool ++ " --help' for more information.")]

def Call.finish (c : Call) (out : List (Nat × ByteArray)) (status : Nat) : Done :=
  ⟨c.disk, out, status, false⟩

/-- Split leading options (`-xyz` bundles, ended by `--` or the first operand) from operands. -/
def splitOptions : List String → List Char × List String
  | [] => ([], [])
  | "--" :: rest => ([], rest)
  | a :: rest =>
    if a.startsWith "-" ∧ a.length > 1 then
      let (opts, ops) := splitOptions rest
      (a.toList.drop 1 ++ opts, ops)
    else ([], a :: rest)

def eachOperand (d : Disk) (ops : List String) (step : Disk → String → Disk × Option String) : Done :=
  ops.foldl (fun acc p =>
    match step acc.disk p with
    | (d', none) => { acc with disk := d' }
    | (d', some msg) => ⟨d', acc.out ++ [complaint msg], 1, false⟩) ⟨d, [], 0, false⟩

def Call.read (c : Call) (p : String) : Except Errno ByteArray :=
  if p = "-" then .ok c.input else c.disk.fileBytes c.cwd p

/-- `rm`: remove files; `-r` removes directories with their contents, `-f` ignores missing
files. -/
def rmTool (c : Call) : Done :=
  let d := c.disk
  let cwd := c.cwd
  let (opts, ops) := splitOptions c.args
  let force := opts.contains 'f'
  let recursive := opts.contains 'r' || opts.contains 'R'
  if ops.isEmpty then
    if force then c.finish [] 0 else c.finish (usageFault "rm" "missing operand") 1
  else
    eachOperand d ops fun d p =>
      match d.lstat cwd p with
      | .error e =>
        if force ∧ e = .noEntry then (d, none)
        else (d, some ("rm: cannot remove '" ++ p ++ "': " ++ e.text))
      | .ok s =>
        if s.kind = .dir then
          if recursive then
            match d.removeDirAll cwd p with
            | .ok d' => (d', none)
            | .error e => (d, some ("rm: cannot remove '" ++ p ++ "': " ++ e.text))
          else (d, some ("rm: cannot remove '" ++ p ++ "': Is a directory"))
        else
          match d.removeFile cwd p with
          | .ok d' => (d', none)
          | .error e => (d, some ("rm: cannot remove '" ++ p ++ "': " ++ e.text))

/-- `mkdir`: make directories; `-p` makes parents and accepts existing ones. -/
def mkdirTool (c : Call) : Done :=
  let (opts, ops) := splitOptions c.args
  let parents := opts.contains 'p'
  if ops.isEmpty then c.finish (usageFault "mkdir" "missing operand") 1
  else
    eachOperand c.disk ops fun d p =>
      match (if parents then d.createDirAll c.cwd p else d.mkdir c.cwd p) with
      | .ok d' => (d', none)
      | .error e => (d, some ("mkdir: cannot create directory '" ++ p ++ "': " ++ e.text))

/-- `rmdir`: remove empty directories. -/
def rmdirTool (c : Call) : Done :=
  let (_, ops) := splitOptions c.args
  if ops.isEmpty then c.finish (usageFault "rmdir" "missing operand") 1
  else
    eachOperand c.disk ops fun d p =>
      match d.removeDir c.cwd p with
      | .ok d' => (d', none)
      | .error e => (d, some ("rmdir: failed to remove '" ++ p ++ "': " ++ e.text))

/-- `touch`: create missing files, and stamp existing ones with the clock. -/
def touchTool (c : Call) : Done :=
  let (_, ops) := splitOptions c.args
  if ops.isEmpty then c.finish [complaint "touch: missing file operand"] 1
  else
    eachOperand c.disk ops fun d p =>
      match d.stat c.cwd p with
      | .ok _ =>
        match d.setMtime c.cwd p d.now with
        | .ok d' => (d', none)
        | .error e => (d, some ("touch: cannot touch '" ++ p ++ "': " ++ e.text))
      | .error _ =>
        match d.openWrite c.cwd p false with
        | .ok (d', _) => (d', none)
        | .error e => (d, some ("touch: cannot touch '" ++ p ++ "': " ++ e.text))

/-- Split bytes at a separator: the pieces between separators, the last one possibly empty. -/
def splitBytes (sep : UInt8) (bs : List UInt8) : List (List UInt8) :=
  let rec go : List UInt8 → List UInt8 → List (List UInt8) → List (List UInt8)
    | [], cur, acc => (cur.reverse :: acc).reverse
    | b :: rest, cur, acc => if b = sep then go rest [] (cur.reverse :: acc) else go rest (b :: cur) acc
  go bs [] []


/-- How `cat` shows its input: number all lines (`-n`) or the lines that are not empty (`-b`),
squeeze runs of empty lines (`-s`), mark line ends with `$` (`-E`), tabs as `^I` (`-T`), other
control bytes in `^` and `M-` notation (`-v`); `-A` is `-vET`, `-e` is `-vE`, `-t` is `-vT`. -/
structure CatShow where
  number : Bool
  nonblank : Bool
  squeeze : Bool
  ends : Bool
  tabs : Bool
  visible : Bool

/-- The options of `cat` as how it shows its input; none for a letter it does not know. -/
def CatShow.ofLetters (cs : List Char) : Except Char CatShow :=
  cs.foldlM (fun (o : CatShow) c =>
    if c = 'n' then .ok { o with number := true }
    else if c = 'b' then .ok { o with nonblank := true }
    else if c = 's' then .ok { o with squeeze := true }
    else if c = 'E' then .ok { o with ends := true }
    else if c = 'T' then .ok { o with tabs := true }
    else if c = 'v' then .ok { o with visible := true }
    else if c = 'A' then .ok { o with visible := true, ends := true, tabs := true }
    else if c = 'e' then .ok { o with visible := true, ends := true }
    else if c = 't' then .ok { o with visible := true, tabs := true }
    else if c = 'u' then .ok o
    else .error c) ⟨false, false, false, false, false, false⟩

def visibleByte (b : UInt8) : List UInt8 :=
  let low (b : UInt8) : List UInt8 :=
    if b < 32 then [94, b + 64] else if b = 127 then [94, 63] else [b]
  if b ≥ 128 then [77, 45] ++ low (b - 128) else low b

/-- Where `cat` stands in its output: the next line number, whether it is at the start of a
line, and whether the line before was empty (at the start: whether the last two were). -/
structure CatState where
  line : Nat
  atStart : Bool
  blank : Bool

/-- Show some bytes as `cat` does, from where it stands. -/
def CatShow.render (o : CatShow) (st : CatState) (bs : List UInt8) : CatState × List UInt8 :=
  let numbered (n : Nat) : List UInt8 :=
    let t := toString n
    (String.ofList (List.replicate (6 - min 6 t.length) ' ') ++ t ++ "\t").toUTF8.toList
  let lines := splitBytes 10 bs
  let count := lines.length
  let (st, out) := lines.zipIdx.foldl (fun (acc : CatState × List UInt8) (l, i) =>
    let (st, out) := acc
    let ended := i + 1 < count
    if l.isEmpty ∧ ¬ended then (st, out)
    else
      let empty := st.atStart ∧ l.isEmpty
      if empty ∧ o.squeeze ∧ st.blank then ({ st with atStart := true }, out)
      else
        let lead := if st.atStart ∧ (o.number ∨ o.nonblank) ∧ ¬(o.nonblank ∧ l.isEmpty) then numbered st.line else []
        let st' := if lead.isEmpty then st else { st with line := st.line + 1 }
        let body := l.flatMap fun b =>
          if b = 9 then (if o.tabs then [94, 73] else [9])
          else if o.visible then visibleByte b else [b]
        let tail := if ended then (if o.ends then [36, 10] else [10]) else []
        ({ line := st'.line, atStart := ended, blank := if ended then empty else st.blank },
          out ++ lead ++ body ++ tail)) (st, [])
  (st, out)

/-- `cat`: the bytes of files in order (`-` or no operand: the input), shown as its options
ask. -/
def catTool (c : Call) : Done :=
  let (letters, ops) := splitOptions c.args
  match CatShow.ofLetters letters with
  | .error ch => c.finish (usageFault "cat" ("invalid option -- '" ++ String.singleton ch ++ "'")) 1
  | .ok o =>
    let plain := letters.all (· = 'u')
    let ops := if ops.isEmpty then ["-"] else ops
    let (acc, _) := ops.foldl (fun (acc, st) p =>
      let acc := if p = "-" then { acc with reads := true } else acc
      match c.read p with
      | .ok b =>
        if plain then ({ acc with out := acc.out ++ [(1, b)] }, st)
        else
          let (st, bytes) := o.render st b.toList
          ({ acc with out := acc.out ++ [(1, ⟨bytes.toArray⟩)] }, st)
      | .error e =>
        ({ acc with out := acc.out ++ [complaint ("cat: " ++ p ++ ": " ++ e.text)], status := 1 }, st))
      ((⟨c.disk, [], 0, false⟩ : Done), (⟨1, true, false⟩ : CatState))
    acc

/-- Where a file copied or moved to `target` lands: inside it when it is a directory. -/
def landing (d : Disk) (cwd : Loc) (source target : String) : String :=
  if d.isDir cwd target then Path.join target ((Path.fileName? source).getD source) else target

/-- `cp`: copy files' bytes and permission bits, into a directory when the last operand is
one. -/
def cpTool (c : Call) : Done :=
  let (_, ops) := splitOptions c.args
  match ops.reverse with
  | dst :: srcs@(_ :: _) =>
    let srcs := srcs.reverse
    if srcs.length > 1 ∧ ¬c.disk.isDir c.cwd dst then
      c.finish [complaint ("cp: target '" ++ dst ++ "': Not a directory")] 1
    else
      eachOperand c.disk srcs fun d src =>
        let dst := landing d c.cwd src dst
        match d.stat c.cwd src, d.fileBytes c.cwd src with
        | .ok s, .ok bytes =>
          match d.writeFile c.cwd dst bytes with
          | .ok d' =>
            match d'.setMode c.cwd dst s.mode with
            | .ok d'' => (d'', none)
            | .error _ => (d', none)
          | .error e => (d, some ("cp: cannot create regular file '" ++ dst ++ "': " ++ e.text))
        | .ok _, .error _ => (d, some ("cp: -r not specified; omitting directory '" ++ src ++ "'"))
        | .error e, _ => (d, some ("cp: cannot stat '" ++ src ++ "': " ++ e.text))
  | [_] => c.finish [complaint ("cp: missing destination file operand after '" ++ ops.headD "" ++ "'")] 1
  | [] => c.finish [complaint "cp: missing file operand"] 1

/-- `mv`: rename entries, into a directory when the last operand is one. -/
def mvTool (c : Call) : Done :=
  let (_, ops) := splitOptions c.args
  match ops.reverse with
  | dst :: srcs@(_ :: _) =>
    eachOperand c.disk srcs.reverse fun d src =>
      let dst := landing d c.cwd src dst
      match d.resolve c.cwd src false, d.resolve c.cwd dst false with
      | .ok (.found a _), .ok (.found b _) => (d.relocate a b, none)
      | .ok (.found a _), .ok (.absent dir name _) => (d.relocate a (dir ++ [name]), none)
      | .ok (.absent _ _ _), _ => (d, some ("mv: cannot stat '" ++ src ++ "': No such file or directory"))
      | .error e, _ => (d, some ("mv: cannot stat '" ++ src ++ "': " ++ e.text))
      | _, .error e => (d, some ("mv: cannot move '" ++ src ++ "' to '" ++ dst ++ "': " ++ e.text))
  | [_] => c.finish [complaint ("mv: missing destination file operand after '" ++ ops.headD "" ++ "'")] 1
  | [] => c.finish [complaint "mv: missing file operand"] 1

/-- `ln -s`: make a symbolic link (other links are made as copies of the file). -/
def lnTool (c : Call) : Done :=
  let (opts, ops) := splitOptions c.args
  let force := opts.contains 'f'
  match ops with
  | [target, name] =>
    let name := if c.disk.isDir c.cwd name then Path.join name ((Path.fileName? target).getD target) else name
    let d := if force then (c.disk.removeFile c.cwd name).toOption.getD c.disk else c.disk
    if opts.contains 's' then
      match d.symlink c.cwd target name with
      | .ok d' => ⟨d', [], 0, false⟩
      | .error e => c.finish [complaint ("ln: failed to create symbolic link '" ++ name ++ "': " ++ e.text)] 1
    else
      match d.fileBytes c.cwd target, d.stat c.cwd name with
      | .ok bytes, .error _ =>
        match d.writeFile c.cwd name bytes with
        | .ok d' => ⟨d', [], 0, false⟩
        | .error e => c.finish [complaint ("ln: failed to create hard link '" ++ name ++ "': " ++ e.text)] 1
      | .ok _, .ok _ => c.finish [complaint ("ln: failed to create hard link '" ++ name ++ "': File exists")] 1
      | .error e, _ => c.finish [complaint ("ln: failed to access '" ++ target ++ "': " ++ e.text)] 1
  | _ => c.finish [complaint "ln: missing file operand"] 1

def octalMode? (s : String) : Option Nat :=
  if s.isEmpty then none
  else s.toList.foldl (fun acc c => acc.bind fun n =>
    if '0' ≤ c ∧ c ≤ '7' then some (8 * n + (c.toNat - 48)) else none) (some 0)

/-- The bits a symbolic mode clause such as `u+x`, `go-w` or `a=r` gives a mode. -/
def symbolicMode (mode : Nat) (clause : String) : Option Nat :=
  let cs := clause.toList
  let who := cs.takeWhile fun c => c = 'u' || c = 'g' || c = 'o' || c = 'a'
  match cs.drop who.length with
  | op :: perms =>
    if ¬(op = '+' ∨ op = '-' ∨ op = '=') ∨ ¬perms.all (fun c => c = 'r' || c = 'w' || c = 'x') then none
    else
      let all := who.isEmpty ∨ who.contains 'a'
      let mask := (if all ∨ who.contains 'u' then 0o700 else 0) + (if all ∨ who.contains 'g' then 0o070 else 0) +
        (if all ∨ who.contains 'o' then 0o007 else 0)
      let bits := (if perms.contains 'r' then 0o444 else 0) + (if perms.contains 'w' then 0o222 else 0) +
        (if perms.contains 'x' then 0o111 else 0)
      let bits := bits &&& mask
      some (if op = '+' then mode ||| bits
        else if op = '-' then mode &&& (0o7777 ^^^ bits)
        else (mode &&& (0o7777 ^^^ mask)) ||| bits)
  | [] => none

/-- `chmod`: set permission bits, in octal or as comma-separated symbolic clauses. -/
def chmodTool (c : Call) : Done :=
  match c.args with
  | mode :: ops =>
    if ops.isEmpty then c.finish (usageFault "chmod" ("missing operand after '" ++ mode ++ "'")) 1
    else
      eachOperand c.disk ops fun d p =>
        match d.stat c.cwd p with
        | .error e => (d, some ("chmod: cannot access '" ++ p ++ "': " ++ e.text))
        | .ok s =>
          let newMode : Option Nat :=
            match octalMode? mode with
            | some m => some m
            | none => (mode.splitOn ",").foldl (fun acc cl => acc.bind (symbolicMode · cl)) (some s.mode)
          match newMode with
          | some m =>
            match d.setMode c.cwd p m with
            | .ok d' => (d', none)
            | .error e => (d, some ("chmod: changing permissions of '" ++ p ++ "': " ++ e.text))
          | none => (d, some ("chmod: invalid mode: '" ++ mode ++ "'"))
  | [] => c.finish (usageFault "chmod" "missing operand") 1

/-- `ls`: the names in directories (hidden ones left out unless `-a`), or the names of files,
one a line. -/
def lsTool (c : Call) : Done :=
  let (opts, ops) := splitOptions c.args
  let ops := if ops.isEmpty then ["."] else ops
  let all := opts.contains 'a'
  let (files, dirs) := ops.partition fun p => ¬c.disk.isDir c.cwd p
  let missing := files.filter fun p => (c.disk.lstat c.cwd p).toOption.isNone
  let files := files.filter fun p => (c.disk.lstat c.cwd p).toOption.isSome
  let errs := missing.map fun p => complaint ("ls: cannot access '" ++ p ++ "': No such file or directory")
  let fileOut := String.join ((files.mergeSort fun a b => decide (a ≤ b)).map (· ++ "\n"))
  let headers := ops.length > 1
  let dirOut := (dirs.mergeSort fun a b => decide (a ≤ b)).map fun p =>
    let names := match c.disk.resolve c.cwd p true with
      | .ok (.found loc _) => (c.disk.children loc).map (·.1)
      | _ => []
    let names := if all then [".", ".."] ++ names else names.filter fun n => ¬n.startsWith "."
    (if headers then p ++ ":\n" else "") ++ String.join (names.map (· ++ "\n"))
  let body := fileOut ++ (if fileOut.isEmpty ∨ dirOut.isEmpty then "" else "\n") ++ "\n".intercalate dirOut
  c.finish (errs ++ (if body.isEmpty then [] else [(1, bytesOf body)])) (if missing.isEmpty then 0 else 2)

/-- The last name of a path, trailing slashes ignored (`/` for a path of slashes only). -/
def baseName (p : String) : String :=
  let cs := p.toList.reverse.dropWhile (· = '/')
  if cs.isEmpty then (if p.isEmpty then "" else "/")
  else String.ofList (cs.takeWhile (· ≠ '/')).reverse

/-- The directory part of a path: `.` when there is none. -/
def dirName (p : String) : String :=
  let cs := p.toList.reverse.dropWhile (· = '/')
  if cs.isEmpty then (if p.startsWith "/" then "/" else ".")
  else
    let rest := (cs.dropWhile (· ≠ '/'))
    if rest.isEmpty then "."
    else
      let dir := String.ofList (rest.dropWhile (· = '/')).reverse
      if dir.isEmpty then "/" else dir

/-- `basename`: the last name of a path, without a suffix when one is given. -/
def basenameTool (c : Call) : Done :=
  match c.args with
  | [p] => c.finish [(1, bytesOf (baseName p ++ "\n"))] 0
  | [p, suffix] =>
    let b := baseName p
    let b := if b ≠ suffix ∧ b.endsWith suffix then String.ofList (b.toList.take (b.length - suffix.length)) else b
    c.finish [(1, bytesOf (b ++ "\n"))] 0
  | [] => c.finish (usageFault "basename" "missing operand") 1
  | _ :: _ :: x :: _ => c.finish (usageFault "basename" ("extra operand '" ++ x ++ "'")) 1

/-- `dirname`: the directory part of each path. -/
def dirnameTool (c : Call) : Done :=
  if c.args.isEmpty then c.finish (usageFault "dirname" "missing operand") 1
  else c.finish [(1, bytesOf (String.join (c.args.map fun p => dirName p ++ "\n")))] 0

/-- `readlink`: the target of a symbolic link. -/
def readlinkTool (c : Call) : Done :=
  let (_, ops) := splitOptions c.args
  match ops with
  | [p] =>
    match c.disk.resolve c.cwd p false with
    | .ok (.found _ (.link t)) => c.finish [(1, bytesOf (t ++ "\n"))] 0
    | _ => c.finish [] 1
  | _ => c.finish (usageFault "readlink" "missing operand") 1

/-- `pwd`: the working directory. -/
def pwdTool (c : Call) : Done := c.finish [(1, bytesOf (c.cwd.text ++ "\n"))] 0

/-- `printenv`: the environment, or the values of the variables named. -/
def printenvTool (c : Call) : Done :=
  match c.args with
  | [] => c.finish [(1, bytesOf (String.join (c.env.map fun (n, v) => n ++ "=" ++ v ++ "\n")))] 0
  | names =>
    let found := names.filterMap fun n => (c.env.find? (·.1 == n)).map (·.2)
    c.finish [(1, bytesOf (String.join (found.map (· ++ "\n"))))] (if found.length = names.length then 0 else 1)

end Safekeep.Shell
