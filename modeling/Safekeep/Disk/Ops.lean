import Safekeep.Disk.Basic

/-!
# File operations

The operations a program performs on a disk, each given the working directory it runs in. They
follow the system's rules: reading a directory fails with `isDir`, creating a file truncates an
existing one, creating a directory over any entry fails with `exists`, and so on. Every change
to a file stamps it with the disk's clock. New directories get mode `0o755`, new files `0o644`.

Creating a directory with its parents first tries the directory alone; only when its parent is
missing are the parents created, from the top. A path that ends up a directory, whoever made it,
counts as created.
-/

namespace Safekeep

/-- The kinds of entries. -/
inductive Kind
  | dir
  | file
  | link
  deriving DecidableEq, Repr

/-- What the system tells about an entry. -/
structure Stat where
  kind : Kind
  size : Nat
  mode : Nat
  mtime : FileTime
  deriving DecidableEq, Repr

def Node.stat : Node → Stat
  | .dir mode => ⟨.dir, 4096, mode, ⟨0, 0⟩⟩
  | .file data mode mtime => ⟨.file, data.size, mode, mtime⟩
  | .link t => ⟨.link, t.utf8ByteSize, 0o777, ⟨0, 0⟩⟩

namespace Disk

def stat (d : Disk) (cwd : Loc) (p : String) : Except Errno Stat := do
  match ← d.resolve cwd p true with
  | .found _ n => .ok n.stat
  | .absent _ _ _ => .error .noEntry

def lstat (d : Disk) (cwd : Loc) (p : String) : Except Errno Stat := do
  match ← d.resolve cwd p false with
  | .found _ n => .ok n.stat
  | .absent _ _ _ => .error .noEntry

def isDir (d : Disk) (cwd : Loc) (p : String) : Bool :=
  match d.stat cwd p with
  | .ok s => s.kind = .dir
  | .error _ => false

def isFile (d : Disk) (cwd : Loc) (p : String) : Bool :=
  match d.stat cwd p with
  | .ok s => s.kind = .file
  | .error _ => false

/-- The location a path names, following links; it need not exist yet. -/
def locate (d : Disk) (cwd : Loc) (p : String) : Except Errno Loc := do
  match ← d.resolve cwd p true with
  | .found loc _ => .ok loc
  | .absent dir name _ => .ok (dir ++ [name])

def fileBytes (d : Disk) (cwd : Loc) (p : String) : Except Errno ByteArray := do
  match ← d.resolve cwd p true with
  | .found _ (.file data _ _) => .ok data
  | .found _ _ => .error .isDir
  | .absent _ _ _ => .error .noEntry

def mkdir (d : Disk) (cwd : Loc) (p : String) : Except Errno Disk := do
  match ← d.resolve cwd p false with
  | .found _ _ => .error .exists
  | .absent dir name _ => .ok (d.set (dir ++ [name]) (.dir 0o755))

/-- Create a directory and the missing directories above it; `fuel` bounds the depth. -/
def createDirAllWith (d : Disk) (cwd : Loc) : Nat → String → Except Errno Disk
  | 0, _ => .error .noEntry
  | fuel + 1, p =>
    if p = "" then .ok d
    else
      match d.mkdir cwd p with
      | .ok d' => .ok d'
      | .error .noEntry =>
        match Path.parent? p with
        | none => .error .noEntry
        | some q => do
          let d' ← d.createDirAllWith cwd fuel q
          match d'.mkdir cwd p with
          | .ok d'' => .ok d''
          | .error e => if d'.isDir cwd p then .ok d' else .error e
      | .error e => if d.isDir cwd p then .ok d else .error e

def createDirAll (d : Disk) (cwd : Loc) (p : String) : Except Errno Disk :=
  d.createDirAllWith cwd ((pieces p).length + 2) p

/-- Open a file for writing, creating it when missing (following a link in last place) unless the
path asks for a directory there, and truncating it when asked; gives the file's location. -/
def openWrite (d : Disk) (cwd : Loc) (p : String) (truncate : Bool) : Except Errno (Disk × Loc) := do
  match ← d.resolve cwd p true with
  | .found loc (.file data mode mtime) =>
    if truncate then .ok (d.set loc (.file ByteArray.empty mode d.now), loc)
    else .ok (d.set loc (.file data mode mtime), loc)
  | .found _ (.dir _) => .error .isDir
  | .found _ (.link _) => .error .loop
  | .absent dir name wantsDir =>
    if wantsDir then .error .isDir
    else .ok (d.set (dir ++ [name]) (.file ByteArray.empty 0o644 d.now), dir ++ [name])

/-- Add bytes at the end of the file at a location; the null device keeps nothing. -/
def appendAt (d : Disk) (loc : Loc) (bytes : ByteArray) : Disk :=
  if bytes.isEmpty ∨ loc = nullDevice then d
  else
    match d.get? loc with
    | some (.file data mode _) => d.set loc (.file (data ++ bytes) mode d.now)
    | _ => d

/-- Write a whole file: create or truncate it, then write the bytes. -/
def writeFile (d : Disk) (cwd : Loc) (p : String) (bytes : ByteArray) : Except Errno Disk := do
  let (d, loc) ← d.openWrite cwd p true
  .ok (d.appendAt loc bytes)

/-- Append bytes to a file, creating it when missing. -/
def appendFile (d : Disk) (cwd : Loc) (p : String) (bytes : ByteArray) : Except Errno Disk := do
  let (d, loc) ← d.openWrite cwd p false
  .ok (d.appendAt loc bytes)

def setMtime (d : Disk) (cwd : Loc) (p : String) (t : FileTime) : Except Errno Disk := do
  match ← d.resolve cwd p true with
  | .found loc (.file data mode _) => .ok (d.set loc (.file data mode t))
  | .found _ _ => .ok d
  | .absent _ _ _ => .error .noEntry

/-- Give what a path names permission bits, following links. -/
def setMode (d : Disk) (cwd : Loc) (p : String) (mode : Nat) : Except Errno Disk := do
  match ← d.resolve cwd p true with
  | .found loc (.file data _ mtime) => .ok (d.set loc (.file data mode mtime))
  | .found [] _ => .ok d
  | .found loc (.dir _) => .ok (d.set loc (.dir mode))
  | .found _ (.link _) => .ok d
  | .absent _ _ _ => .error .noEntry

/-- Remove a file or link (not a directory). -/
def removeFile (d : Disk) (cwd : Loc) (p : String) : Except Errno Disk := do
  match ← d.resolve cwd p false with
  | .found _ (.dir _) => .error .isDir
  | .found loc _ => .ok (d.eraseTree loc)
  | .absent _ _ _ => .error .noEntry

def removeDir (d : Disk) (cwd : Loc) (p : String) : Except Errno Disk := do
  match ← d.resolve cwd p false with
  | .found [] _ => .error .access
  | .found loc (.dir _) => if (d.children loc).isEmpty then .ok (d.eraseTree loc) else .error .notEmpty
  | .found _ _ => .error .notDir
  | .absent _ _ _ => .error .noEntry

/-- Remove a directory with everything in it; a link is removed itself, a file is refused. -/
def removeDirAll (d : Disk) (cwd : Loc) (p : String) : Except Errno Disk := do
  match ← d.resolve cwd p false with
  | .found [] _ => .error .access
  | .found loc (.dir _) => .ok (d.eraseTree loc)
  | .found loc (.link _) => .ok (d.eraseTree loc)
  | .found _ _ => .error .notDir
  | .absent _ _ _ => .error .noEntry

def relocate (d : Disk) (src dst : Loc) : Disk :=
  let moved := d.nodes.filterMap fun e =>
    if src.isPrefixOf e.1 then some (dst ++ e.1.drop src.length, e.2) else none
  let kept := (d.eraseTree dst).eraseTree src
  { kept with nodes := kept.nodes ++ moved }

def symlink (d : Disk) (cwd : Loc) (target p : String) : Except Errno Disk := do
  match ← d.resolve cwd p false with
  | .found _ _ => .error .exists
  | .absent dir name _ => .ok (d.set (dir ++ [name]) (.link target))

end Disk

end Safekeep
