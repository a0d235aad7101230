import Safekeep.Path

/-!
# Disks

A disk is data: a list of entries, each a location (the names on the way from the root `/`)
holding a directory, a regular file (bytes, permission bits and a modification time) or a
symbolic link (a target path). The root is always a directory and has no entry of its own.

## 1. Failures

File operations fail with the usual system error numbers; each has its message and number.

## 2. Finding what a path names

A path is read component by component from the root (absolute paths) or from the working
directory: `.` stays, `..` goes up (the root is its own parent), a name looks into the current
directory. A symbolic link met on the way is replaced by its target, read from the directory
holding the link; one in last place is followed only when asked. At most 40 links are followed.
A name missing in last place leaves the directory it would go in, a missing name elsewhere or a
file before more components is a fault. A path ending in `/` must name a directory, and so must
a link in last place whose target ends in `/`; such a slash inside the path means nothing.
-/

namespace Safekeep

/-! ## 1. Failures -/

/-- Why a file operation failed. -/
inductive Errno
  | noEntry
  | exists
  | notDir
  | isDir
  | loop
  | invalid
  | notEmpty
  | noExec
  | access
  deriving DecidableEq, Repr

namespace Errno

/-- The system's number for a failure. -/
def code : Errno → Nat
  | .noEntry => 2
  | .exists => 17
  | .notDir => 20
  | .isDir => 21
  | .loop => 40
  | .invalid => 22
  | .notEmpty => 39
  | .noExec => 8
  | .access => 13

/-- The system's description of a failure. -/
def text : Errno → String
  | .noEntry => "No such file or directory"
  | .exists => "File exists"
  | .notDir => "Not a directory"
  | .isDir => "Is a directory"
  | .loop => "Too many levels of symbolic links"
  | .invalid => "Invalid argument"
  | .notEmpty => "Directory not empty"
  | .noExec => "Exec format error"
  | .access => "Permission denied"

/-- A failure as reported: its description and its number. -/
def message (e : Errno) : String := e.text ++ " (os error " ++ toString e.code ++ ")"

end Errno

/-! ## Entries -/

/-- A modification time: seconds since the epoch and nanoseconds. -/
structure FileTime where
  secs : Int
  nanos : Nat
  deriving DecidableEq, Repr

/-- What a location of a disk holds. -/
inductive Node
  -- A directory with its permission bits.
  | dir (mode : Nat)
  -- A regular file.
  | file (data : ByteArray) (mode : Nat) (mtime : FileTime)
  -- A symbolic link.
  | link (target : String)

instance : Inhabited Node := ⟨.dir 0o755⟩

/-- Nodes are equal when they are of one kind with equal fields, file contents compared byte by
byte. -/
instance : DecidableEq Node
  | .dir m, .dir m' => decidable_of_iff (m = m') (by simp)
  | .file data mode mtime, .file data' mode' mtime' =>
    have : Decidable (data = data') := ByteArray.instDecidableEq data data'
    decidable_of_iff (data = data' ∧ mode = mode' ∧ mtime = mtime') (by simp)
  | .link t, .link t' => decidable_of_iff (t = t') (by simp)
  | .dir _, .file .. => isFalse fun h => Node.noConfusion h
  | .dir _, .link _ => isFalse fun h => Node.noConfusion h
  | .file .., .dir _ => isFalse fun h => Node.noConfusion h
  | .file .., .link _ => isFalse fun h => Node.noConfusion h
  | .link _, .dir _ => isFalse fun h => Node.noConfusion h
  | .link _, .file .. => isFalse fun h => Node.noConfusion h

abbrev Loc := List String

def nullDevice : Loc := ["dev", "null"]

/-- The text of a location: `/` and its names joined by `/`. -/
def Loc.text (l : Loc) : String := "/" ++ "/".intercalate l

/-- Whether one location comes before another: name by name, a location before those below it. -/
def Loc.le : Loc → Loc → Bool
  | [], _ => true
  | _ :: _, [] => false
  | a :: as, b :: bs => if a = b then Loc.le as bs else decide (a < b)

/-- A disk: its entries and the time its clock shows for every change. -/
structure Disk where
  nodes : List (Loc × Node)
  now : FileTime
  deriving DecidableEq

/-- What a path names. -/
inductive Place
  -- An entry (the root counts as a directory).
  | found (loc : Loc) (node : Node)
  -- Nothing yet, though the directory it would go in exists; `wantsDir` when the path asks for a
  -- directory there.
  | absent (dir : Loc) (name : String) (wantsDir : Bool)
  deriving DecidableEq

def pieces (p : String) : List String :=
  ((p.toList.splitOn '/').map String.ofList).filter (· ≠ "")

namespace Disk

def get? (d : Disk) (loc : Loc) : Option Node :=
  if loc = [] then some (.dir 0o755) else (d.nodes.find? (·.1 == loc)).map (·.2)

def set (d : Disk) (loc : Loc) (n : Node) : Disk :=
  if d.nodes.any (·.1 == loc) then
    { d with nodes := d.nodes.map fun e => if e.1 == loc then (loc, n) else e }
  else { d with nodes := d.nodes ++ [(loc, n)] }

def eraseTree (d : Disk) (loc : Loc) : Disk :=
  { d with nodes := d.nodes.filter fun e => !(loc.isPrefixOf e.1) }

def isDirAt (d : Disk) (loc : Loc) : Bool :=
  match d.get? loc with
  | some (.dir _) => true
  | _ => false

def children (d : Disk) (loc : Loc) : List (String × Node) :=
  let below := d.nodes.filterMap fun e =>
    if loc.isPrefixOf e.1 ∧ e.1.length = loc.length + 1 then e.1.getLast?.map fun n => (n, e.2) else none
  below.mergeSort fun a b => decide (a.1 ≤ b.1)

/-! ## 2. Finding what a path names -/

/-- A bound on the components a walk may read: those of the path, plus those of every link
target for each of the 40 links it may follow. -/
def walkBudget (d : Disk) (p : String) : Nat :=
  let linkParts := (d.nodes.map fun e => match e.2 with
    | .link t => (pieces t).length + 1
    | _ => 0).foldr (· + ·) 0
  (pieces p).length + 41 * (linkParts + 1) + 2

/-- Walk the components `parts` from the directory `cur`, with `links` more links allowed. -/
def walk (d : Disk) : Nat → Nat → Loc → List String → Bool → Bool → Except Errno Place
  | 0, _, _, _, _, _ => .error .loop
  | fuel + 1, links, cur, parts, followLast, mustDir =>
    match parts with
    | [] => .ok (.found cur ((d.get? cur).getD (.dir 0o755)))
    | "." :: rest => d.walk fuel links cur rest followLast mustDir
    | ".." :: rest => d.walk fuel links cur.dropLast rest followLast mustDir
    | name :: rest =>
      let child := cur ++ [name]
      match d.get? child with
      | none => if rest.isEmpty then .ok (.absent cur name mustDir) else .error .noEntry
      | some (.dir _) => d.walk fuel links child rest followLast mustDir
      | some (.file data mode mtime) =>
        if rest.isEmpty then
          if mustDir then .error .notDir else .ok (.found child (.file data mode mtime))
        else .error .notDir
      | some (.link t) =>
        if rest.isEmpty ∧ ¬followLast then .ok (.found child (.link t))
        else if links = 0 then .error .loop
        else if t = "" then .error .noEntry
        else
          d.walk fuel (links - 1) (if Path.isAbsolute t then [] else cur) (pieces t ++ rest) followLast
            (mustDir || rest.isEmpty && t.endsWith "/")

/-- What a path names, read from the working directory `cwd`; a link in last place is followed
when `followLast` holds. -/
def resolve (d : Disk) (cwd : Loc) (p : String) (followLast : Bool) : Except Errno Place :=
  if p = "" then .error .noEntry
  else if ¬Path.isAbsolute p ∧ ¬d.isDirAt cwd then .error .noEntry
  else
    let mustDir := p.endsWith "/"
    d.walk (d.walkBudget p) 40 (if Path.isAbsolute p then [] else cwd) (pieces p) (followLast || mustDir) mustDir

end Disk

end Safekeep
