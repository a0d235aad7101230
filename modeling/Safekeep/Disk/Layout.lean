import Safekeep.Disk.Ops

/-!
# Laying out files

A layout lists entries to create under a directory: directories, links, and files with their
bytes, optional permission bits and an optional modification time (1000000000 seconds when none
is given). Each entry's parent directories are created first. A path is read from the directory
the layout is planted in, so an absolute path may point anywhere.
-/

namespace Safekeep

/-- What a layout entry creates. -/
inductive Sprout
  | dir
  | link (target : String)
  | bytes (data : ByteArray)

/-- One entry of a layout. -/
structure Seed where
  path : String
  what : Sprout
  mode : Option Nat
  mtime : Option FileTime

/-- The modification time of an entry that gives none. -/
def Seed.defaultTime : FileTime := ⟨1000000000, 0⟩

namespace Disk

/-- Create one layout entry, reading its path from `base`. -/
def plant (d : Disk) (base : Loc) (s : Seed) : Except Errno Disk := do
  let d ← match Path.parent? s.path with
    | some q => d.createDirAll base q
    | none => pure d
  let d ← match s.what with
    | .dir => d.createDirAll base s.path
    | .link t => d.symlink base t s.path
    | .bytes b => d.writeFile base s.path b
  let d ← match s.mode with
    | some m => d.setMode base s.path m
    | none => pure d
  match s.what with
  | .link _ => pure d
  | _ => d.setMtime base s.path (s.mtime.getD Seed.defaultTime)

def plantAll (d : Disk) (base : Loc) : List Seed → Except Errno Disk
  | [] => .ok d
  | s :: rest => do
    let d ← d.plant base s
    plantAll d base rest

end Disk

end Safekeep
