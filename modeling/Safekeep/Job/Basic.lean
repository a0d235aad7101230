import Safekeep.Json.Shape

/-!
# Backup jobs

A backup job copies the files under a source directory to the same relative paths under a target
directory. A full job copies every file; a differential job only the files that are new or
changed relative to the target.

In JSON a job is an object with `id` (32-bit unsigned), `name`, `source_directory`,
`target_directory` and `type` (`full` or `differential`), written in that order.
-/

namespace Safekeep

open Safekeep.Json

/-- Which files a job copies. -/
inductive BackupKind
  | full
  | differential
  deriving DecidableEq, Repr

def BackupKind.name : BackupKind → String
  | .full => "full"
  | .differential => "differential"

/-- A configured backup job. -/
structure Job where
  id : Nat
  name : String
  source : String
  target : String
  kind : BackupKind
  deriving DecidableEq, Repr

namespace Job

/-- What a job looks like in JSON. -/
def shape : Shape :=
  .record "BackupJob" false [
    ("id", .u32),
    ("name", .string),
    ("source_directory", .path),
    ("target_directory", .path),
    ("type", .variants ["full", "differential"])]

def ofChecked (v : Value) : Job where
  id := ((v.get "id").asNat?).getD 0
  name := ((v.get "name").asStr?).getD ""
  source := ((v.get "source_directory").asStr?).getD ""
  target := ((v.get "target_directory").asStr?).getD ""
  kind := if (v.get "type").asStr? = some "differential" then .differential else .full

def ofValue (v : Value) : Except Fault Job := (shape.decode v).map ofChecked

def members (j : Job) : List (String × Value) :=
  [("id", Value.nat j.id), ("name", .str j.name), ("source_directory", .str j.source),
   ("target_directory", .str j.target), ("type", .str j.kind.name)]

def toValue (j : Job) : Value := .obj j.members

end Job

end Safekeep
