import Safekeep.Job.Basic
import Safekeep.Json.Read
import Safekeep.Disk.Ops

/-!
# Job catalogs

A catalog holds the configured jobs, at most one per id, ordered by id. It is built from a list
of jobs, refusing the first job whose id an earlier job already has. It is stored as a JSON array
of jobs, written with two-space indentation and no final line feed; a catalog file that does not
exist reads as an empty catalog.
-/

namespace Safekeep

open Safekeep.Json

/-- The configured jobs, ordered by id, ids distinct. -/
structure Catalog where
  jobs : List Job
  deriving DecidableEq, Repr

/-- Why a catalog could not be built, read or written. -/
inductive CatalogError
  -- Two jobs have this id.
  | duplicate (id : Nat)
  -- The stored text is not a list of jobs.
  | json (f : Failure)
  -- A file operation on this path failed.
  | io (path : String) (e : Errno)

def CatalogError.message : CatalogError → String
  | .duplicate id => "duplicate job id " ++ toString id
  | .json f => f.text
  | .io path e => "i/o error on " ++ path ++ ": " ++ e.message

def insertById (j : Job) : List Job → List Job
  | [] => [j]
  | k :: rest => if j.id < k.id then j :: k :: rest else k :: insertById j rest

namespace Catalog

def empty : Catalog := ⟨[]⟩

/-- Add jobs one by one; a job whose id is taken is refused. -/
def addAll (c : Catalog) : List Job → Except CatalogError Catalog
  | [] => .ok c
  | j :: rest =>
    if c.jobs.any (·.id = j.id) then .error (.duplicate j.id)
    else addAll ⟨insertById j c.jobs⟩ rest

def ofJobs (jobs : List Job) : Except CatalogError Catalog := empty.addAll jobs

def ids (c : Catalog) : List Nat := c.jobs.map (·.id)

def find? (c : Catalog) (id : Nat) : Option Job := c.jobs.find? (·.id = id)

def text (c : Catalog) : String := (Value.arr (c.jobs.map Job.toValue)).pretty

def ofBytes (bytes : ByteArray) : Except CatalogError Catalog :=
  match readBytes (.seq Job.shape) bytes with
  | .error f => .error (.json f)
  | .ok v => ofJobs (((v.asArr?).getD []).map Job.ofChecked)

end Catalog

namespace Disk

/-- Read a catalog file; a missing file is an empty catalog. -/
def loadCatalog (d : Disk) (cwd : Loc) (path : String) : Except CatalogError Catalog :=
  match d.fileBytes cwd path with
  | .error .noEntry => .ok Catalog.empty
  | .error e => .error (.io path e)
  | .ok bytes => Catalog.ofBytes bytes

/-- Write a catalog file, creating its directory first. -/
def saveCatalog (d : Disk) (cwd : Loc) (path : String) (c : Catalog) : Disk × Except CatalogError Unit :=
  let parents : Except CatalogError Disk := match Path.parent? path with
    | some q => (d.createDirAll cwd q).mapError (CatalogError.io q)
    | none => .ok d
  match parents with
  | .error e => (d, .error e)
  | .ok d =>
    match d.writeFile cwd path c.text.toUTF8 with
    | .ok d' => (d', .ok ())
    | .error e => (d, .error (.io path e))

end Disk

end Safekeep
