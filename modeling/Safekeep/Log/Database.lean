import Safekeep.Log.Table
import Safekeep.Disk.Ops
import Safekeep.Text.Quoted
import Safekeep.Text.Utf8

/-!
# Opening the log database

A database is named by an address: an optional scheme `sqlite://` or `sqlite:` (repeated
schemes are all dropped), the database, and optional parameters after the first `?`. The
database `:memory:` is a private database in memory; any other is a file path with `%XX`
escapes, relative to the working directory. Parameters are `key=value` pairs joined by `&`, with
`+` for a blank and `%XX` escapes: `mode` is `ro` (read only), `rw`, `rwc` or `memory`; `cache`
is `private` or `shared`; `immutable` is `true`, `1`, `false` or `0`; `vfs` takes any value. Any
other key or value is refused.

Opening first makes the directory above the path (the address without a leading `sqlite://`),
unless the address mentions `:memory:` anywhere; a failure there is a file error on that
directory. A file database is then created empty when missing, unless read-only. An empty file
is an empty database; a file with bytes in it, written as this library writes files, is not a
database.
-/

namespace Safekeep

/-- Where a database lives and how it is opened. -/
structure Address where
  -- The file, or none for a database in memory.
  file : Option String
  readOnly : Bool
  deriving DecidableEq, Repr

namespace Address

def mentions (s part : String) : Bool := (s.splitOn part).length ≠ 1

/-- A text without every leading copy of a prefix. -/
def dropPrefixes (pre : List Char) (cs : List Char) : List Char :=
  if h : pre ≠ [] ∧ pre.isPrefixOf cs then
    have hp : pre.length ≠ 0 := by simpa using h.1
    have hl : pre.length ≤ cs.length := (List.isPrefixOf_iff_prefix.mp h.2).length_le
    dropPrefixes pre (cs.drop pre.length)
  else cs
termination_by cs.length
decreasing_by simp only [List.length_drop]; omega

def hexValue (b : UInt8) : Option Nat :=
  if 48 ≤ b ∧ b ≤ 57 then some (b.toNat - 48)
  else if 65 ≤ b ∧ b ≤ 70 then some (b.toNat - 55)
  else if 97 ≤ b ∧ b ≤ 102 then some (b.toNat - 87)
  else none

/-- Bytes with every `%XX` escape replaced by the byte it spells; a `%` without two hex digits
stays. -/
def unescape : List UInt8 → List UInt8
  | [] => []
  | 37 :: a :: b :: rest =>
    match hexValue a, hexValue b with
    | some x, some y => (16 * x + y).toUInt8 :: unescape rest
    | _, _ => 37 :: unescape (a :: b :: rest)
  | c :: rest => c :: unescape rest

/-- The text of a form field: `+` is a blank, escapes are replaced, bad UTF-8 becomes U+FFFD. -/
def formText (bs : List UInt8) : String :=
  Text.Utf8.lossy (unescape (bs.map fun b => if b = 43 then 32 else b))

def formPairs (params : String) : List (String × String) :=
  ((params.toUTF8.toList.splitOn 38).filter (· ≠ [])).map fun piece =>
    let key := piece.takeWhile (· ≠ 61)
    let value := (piece.dropWhile (· ≠ 61)).drop 1
    (formText key, formText value)

/-- An address as its parameters change it: the file (or none in memory) and read-only. -/
def applyParam (a : Except TableError Address) (kv : String × String) : Except TableError Address := do
  let a ← a
  let (key, value) := kv
  let badValue := TableError.configuration ("unknown value " ++ Text.quote value ++ " for `" ++ key ++ "`")
  if key = "mode" then
    if value = "ro" then .ok { a with readOnly := true }
    else if value = "rw" ∨ value = "rwc" then .ok a
    else if value = "memory" then .ok { a with file := none }
    else .error badValue
  else if key = "cache" then
    if value = "private" ∨ value = "shared" then .ok a else .error badValue
  else if key = "immutable" then
    if value = "true" ∨ value = "1" ∨ value = "false" ∨ value = "0" then .ok a else .error badValue
  else if key = "vfs" then .ok a
  else .error (.configuration ("unknown query parameter `" ++ key ++ "` while parsing connection URL"))

/-- Read an address. -/
def parse (url : String) : Except TableError Address := do
  let rest := dropPrefixes "sqlite:".toList (dropPrefixes "sqlite://".toList url.toList)
  let database := String.ofList (rest.takeWhile (· ≠ '?'))
  let params := if rest.contains '?' then some (String.ofList ((rest.dropWhile (· ≠ '?')).drop 1)) else none
  let base : Address ← if database = ":memory:" then .ok ⟨none, false⟩
    else
      let bytes := unescape database.toUTF8.toList
      match Text.Utf8.fault bytes with
      | some f => .error (.configuration (Text.Utf8.faultMessage f))
      | none => .ok ⟨some ((String.fromUTF8? (ByteArray.mk bytes.toArray)).getD ""), false⟩
  match params with
  | none => .ok base
  | some p => (formPairs p).foldl applyParam (.ok base)

end Address

/-- Why a log database could not be opened. -/
inductive OpenError
  -- The directory above the database could not be made.
  | io (path : String) (e : Errno)
  -- The database refused.
  | table (e : TableError)

def OpenError.message : OpenError → String
  | .io p e => "i/o error on " ++ p ++ ": " ++ e.message
  | .table e => e.message

/-- Open the log database at an address, from the working directory `cwd`. -/
def Disk.openLog (d : Disk) (cwd : Loc) (url : String) : Disk × Except OpenError LogStore :=
  let made : Except OpenError Disk :=
    if Address.mentions url ":memory:" then .ok d
    else
      let path := if url.startsWith "sqlite://" then String.ofList (url.toList.drop 9) else url
      match Path.parent? path with
      | none => .ok d
      | some dir => (d.createDirAll cwd dir).mapError (OpenError.io dir)
  match made with
  | .error e => (d, .error e)
  | .ok d =>
    match Address.parse url with
    | .error e => (d, .error (.table e))
    | .ok ⟨none, ro⟩ => (d, .ok (LogStore.fresh ro))
    | .ok ⟨some file, ro⟩ =>
      match d.resolve cwd file true with
      | .ok (.found _ (.file data _ _)) => (d, .ok ⟨ro, data.isEmpty, none⟩)
      | .ok (.absent _ _ _) =>
        if ro then (d, .error (.table .cannotOpen))
        else
          match d.openWrite cwd file false with
          | .ok (d', _) => (d', .ok (LogStore.fresh false))
          | .error _ => (d, .error (.table .cannotOpen))
      | _ => (d, .error (.table .cannotOpen))

end Safekeep
