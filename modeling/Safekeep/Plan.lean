import Safekeep.Disk.Ops
import Safekeep.Job.Basic
import Safekeep.Settings
import Safekeep.Host

/-!
# Planning a job

A plan lists the files of a job's source tree to copy, each a `Transfer` from the source file to
the same relative path under the target directory. The tree is walked depth first with the
entries of each directory by name; only regular files count (links are not followed, except a
link that is the source directory itself). A differential job leaves out a file when the target
path names a regular file (following links) with the same modification time and, unless the file
is encrypted after its copy, the same size. Priority files come first; otherwise the walk's
order is kept.

The walk lists each directory it enters, and reads the metadata of each regular file; both need
the host's leave (`Host.mayList`, and `Host.maySearch` on the directory holding the entry). The
first refusal in walk order fails the plan with nothing planned: a directory that cannot be
listed is reported against the source, a file whose metadata cannot be read against the file.

The target path is the target directory's text joined with the file's path relative to the
source directory, as written, so `d/./e` stays `d/./e/x`.
-/

namespace Safekeep

open Safekeep.Json

/-- One file to copy. -/
structure Transfer where
  source : String
  target : String
  size : Nat
  priority : Bool
  large : Bool
  encrypt : Bool
  deriving DecidableEq, Repr

def Transfer.toValue (t : Transfer) : Value :=
  Value.object [("source_path", .str t.source), ("target_path", .str t.target),
    ("size_bytes", Value.nat t.size), ("is_priority", .bool t.priority), ("is_large", .bool t.large),
    ("needs_encryption", .bool t.encrypt)]

/-- Why a job cannot be planned: the source is not a directory, or the walk below the source
`path` failed on `failed`. -/
inductive PlanError
  | sourceNotFound (path : String)
  | enumeration (path failed : String) (e : Errno)
  deriving DecidableEq, Repr

def PlanError.message : PlanError → String
  | .sourceNotFound p => "source directory not found: " ++ p
  | .enumeration p f e => "failed to enumerate " ++ p ++ ": IO error for operation on " ++ f ++ ": " ++
      e.message

/-- Where a walk failed: listing a directory, or reading a file's metadata. -/
inductive WalkFault
  | listing (path : String) (e : Errno)
  | metadata (path : String) (e : Errno)
  deriving DecidableEq, Repr

namespace Disk

/-- The regular files below a directory in walk order, each with its path (the directory's
text joined with its relative path) and its names below the directory; `fuel` bounds the depth. -/
def walkFiles (d : Disk) : Nat → Loc → String → List String → List (String × List String × Stat)
  | 0, _, _, _ => []
  | fuel + 1, loc, text, rel => (d.children loc).flatMap fun (name, n) =>
    let path := Path.join text name
    match n with
    | .dir _ => d.walkFiles fuel (loc ++ [name]) path (rel ++ [name])
    | .file .. => [(path, rel ++ [name], n.stat)]
    | .link _ => []

/-- The first refusal a walk below a directory of permission bits `mode` meets, in walk order:
the directory itself may not be listed, or an entry's directory may not be searched (a directory
entry is then not opened, a file's metadata not read), or a directory below may not be listed. -/
def walkFault? (d : Disk) (h : Host) : Nat → Loc → Nat → String → Option WalkFault
  | 0, _, _, _ => none
  | fuel + 1, loc, mode, text =>
    if !h.mayList mode then some (.listing text .access)
    else (d.children loc).findSome? fun (name, n) =>
      let path := Path.join text name
      match n with
      | .dir m => if !h.maySearch mode then some (.listing path .access)
        else d.walkFault? h fuel (loc ++ [name]) m path
      | .file .. => if !h.maySearch mode then some (.metadata path .access) else none
      | .link _ => none

def isUnchanged (d : Disk) (cwd : Loc) (source : Stat) (target : String) (encrypted : Bool) : Bool :=
  match d.stat cwd target with
  | .ok t => t.kind = .file ∧ (encrypted ∨ source.size = t.size) ∧ source.mtime = t.mtime
  | .error _ => false

/-- The plan of a job. -/
def plan (d : Disk) (cwd : Loc) (h : Host) (s : Settings) (job : Job) :
    Except PlanError (List Transfer) :=
  match d.resolve cwd job.source true with
  | .ok (.found loc (.dir mode)) =>
    match d.walkFault? h (d.nodes.length + 1) loc mode job.source with
    | some (.listing p e) => .error (.enumeration job.source p e)
    | some (.metadata p e) => .error (.enumeration p p e)
    | none =>
      let files := d.walkFiles (d.nodes.length + 1) loc job.source []
      let units := files.filterMap fun (path, rel, st) =>
        let target := Path.join job.target ("/".intercalate rel)
        let encrypt := s.needsEncryption path
        if job.kind = .differential ∧ d.isUnchanged cwd st target encrypt then none
        else some { source := path, target, size := st.size, priority := s.isPriority path,
                    large := s.isLarge st.size, encrypt }
      .ok (units.filter (·.priority) ++ units.filter (!·.priority))
  | _ => .error (.sourceNotFound job.source)

end Disk

end Safekeep
