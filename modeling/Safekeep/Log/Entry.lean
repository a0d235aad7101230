import Safekeep.Json.Read
import Safekeep.Time.Rfc3339

/-!
# Log entries

A log entry records one file of a run: when, for which job, from where to where, its size, how
long the copy and the encryption took (a negative time is a failure code) and an optional error
message.

In JSON an entry is an object with the camel-case fields `timestamp` (RFC 3339), `backupName`,
`sourcePath`, `targetPath`, `fileSizeBytes` (64-bit unsigned), `transferTimeMs` and
`cryptingTimeMs` (64-bit signed) and an optional `errorMessage`. It is written with the fields in
that order, the timestamp in UTC with the fewest of 0, 3, 6 or 9 fraction digits, and without
`errorMessage` when there is none.
-/

namespace Safekeep

open Safekeep.Json Safekeep.Time

/-- One file's record. -/
structure LogEntry where
  timestamp : Instant
  backupName : String
  sourcePath : String
  targetPath : String
  fileSize : Nat
  transferMs : Int
  cryptingMs : Int
  errorMessage : Option String
  deriving DecidableEq, Repr

namespace LogEntry

/-- A timestamp in JSON: a text that reads as RFC 3339. -/
def stampShape : Shape :=
  .text "an RFC 3339 formatted date and time string" fun s =>
    match parseStamp s with
    | .ok _ => none
    | .error e => some e.message

/-- The fields of an entry in JSON, in writing order. -/
def fields : List (String × Shape) := [
  ("timestamp", stampShape),
  ("backupName", .string),
  ("sourcePath", .path),
  ("targetPath", .path),
  ("fileSizeBytes", .u64),
  ("transferTimeMs", .i64),
  ("cryptingTimeMs", .i64),
  ("errorMessage", .opt .string)]

def shape : Shape := .record "LogEntry" false fields

/-- An entry from a value already checked against `shape`. -/
def ofChecked (v : Value) : LogEntry where
  timestamp := match v.get "timestamp" with
    | .str s => match parseStamp s with
      | .ok t => t
      | .error _ => .ofSeconds 0
    | _ => .ofSeconds 0
  backupName := ((v.get "backupName").asStr?).getD ""
  sourcePath := ((v.get "sourcePath").asStr?).getD ""
  targetPath := ((v.get "targetPath").asStr?).getD ""
  fileSize := ((v.get "fileSizeBytes").asNat?).getD 0
  transferMs := ((v.get "transferTimeMs").asInt?).getD 0
  cryptingMs := ((v.get "cryptingTimeMs").asInt?).getD 0
  errorMessage := (v.get "errorMessage").asStr?

def ofValue (v : Value) : Except Fault LogEntry := (shape.decode v).map ofChecked

def ofText (s : String) : Except Failure LogEntry := (readBytes shape s.toUTF8).map ofChecked

/-- The members of an entry in writing order. -/
def members (e : LogEntry) : List (String × Value) :=
  [("timestamp", .str e.timestamp.text),
   ("backupName", .str e.backupName),
   ("sourcePath", .str e.sourcePath),
   ("targetPath", .str e.targetPath),
   ("fileSizeBytes", Value.nat e.fileSize),
   ("transferTimeMs", Value.int e.transferMs),
   ("cryptingTimeMs", Value.int e.cryptingMs)] ++
  match e.errorMessage with
  | some m => [("errorMessage", .str m)]
  | none => []

/-- An entry as a JSON value (members sorted by key). -/
def toValue (e : LogEntry) : Value := Value.object e.members

def toText (e : LogEntry) : String := (Value.obj e.members).compact

end LogEntry

end Safekeep
