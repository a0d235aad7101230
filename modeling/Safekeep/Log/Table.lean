import Safekeep.Log.Entry

/-!
# The log table

A database table of log entries. A row keeps the entry's fields as its columns hold them: the
timestamp as RFC 3339 text in UTC with the offset `+00:00`, the file size as a 64-bit signed
integer (so sizes of 2^63 and above wrap below zero), the times and the message as they are.
Rows are numbered in the order they are added.

Reading rows back gives the newest first, those of one job only, at most `limit` of them (a
negative limit sets none). A size reads back as at least zero. A timestamp is read back from its
text in the strict RFC 3339 form, which wants a year of four digits: the text of a year before 0
or after 9999 has a sign in front and is refused, and the reader then takes the current time
instead.

A table exists only once it has been created; until then adding a row fails, and so does
reading. Creating it again changes nothing. A database opened read-only refuses every change,
and a file that is not a database refuses everything.
-/

namespace Safekeep

open Safekeep.Time

/-- Why the database refused a request. -/
inductive TableError
  -- The address of the database is malformed.
  | configuration (text : String)
  -- The table has not been created.
  | noTable
  -- The database file cannot be opened.
  | cannotOpen
  -- The database was opened read-only.
  | readOnly
  -- The file is not a database.
  | notDatabase
  deriving DecidableEq, Repr

def TableError.message : TableError → String
  | .configuration t => "error with configuration: " ++ t
  | .noTable => "error returned from database: (code: 1) no such table: backup_logs"
  | .cannotOpen => "error returned from database: (code: 14) unable to open database file"
  | .readOnly => "error returned from database: (code: 8) attempt to write a readonly database"
  | .notDatabase => "error returned from database: (code: 26) file is not a database"

/-- One stored log entry. -/
structure Row where
  backupName : String
  stamp : Instant
  sourcePath : String
  targetPath : String
  size : Int
  transferMs : Int
  cryptingMs : Int
  errorMessage : Option String
  deriving DecidableEq, Repr

namespace Row

/-- A 64-bit word read as a signed integer. -/
def signed (n : Nat) : Int := Int.bmod n (Nat.pow 2 64)

/-- The row that stores an entry. -/
def ofEntry (e : LogEntry) : Row where
  backupName := e.backupName
  stamp := e.timestamp
  sourcePath := e.sourcePath
  targetPath := e.targetPath
  size := signed e.fileSize
  transferMs := e.transferMs
  cryptingMs := e.cryptingMs
  errorMessage := e.errorMessage

/-- The timestamp column's text. -/
def stampText (r : Row) : String := r.stamp.textWith "+00:00"

/-- The timestamp as it reads back: the column's text read in the strict RFC 3339 form. -/
def readStamp? (r : Row) : Option Instant := parseStrictStamp r.stampText

/-- The entry a row reads back as, `now` standing in for an unreadable timestamp. -/
def entryAt (r : Row) (now : Instant) : LogEntry where
  timestamp := r.readStamp?.getD now
  backupName := r.backupName
  sourcePath := r.sourcePath
  targetPath := r.targetPath
  fileSize := (max r.size 0).toNat
  transferMs := r.transferMs
  cryptingMs := r.cryptingMs
  errorMessage := r.errorMessage

end Row

/-- A log database: whether it may change, whether its file is a database at all, and the table
(oldest row first) once created. -/
structure LogStore where
  readOnly : Bool
  valid : Bool
  rows : Option (List Row)
  deriving DecidableEq, Repr

namespace LogStore

def fresh (readOnly : Bool) : LogStore := ⟨readOnly, true, none⟩

/-- Create the table unless it exists. -/
def migrate (s : LogStore) : Except TableError LogStore :=
  if ¬s.valid then .error .notDatabase
  else
    match s.rows with
    | some _ => .ok s
    | none => if s.readOnly then .error .readOnly else .ok { s with rows := some [] }

def append (s : LogStore) (e : LogEntry) : Except TableError LogStore :=
  if ¬s.valid then .error .notDatabase
  else
    match s.rows with
    | none => .error .noTable
    | some rows => if s.readOnly then .error .readOnly else .ok { s with rows := some (rows ++ [Row.ofEntry e]) }

/-- Add an entry, keeping the database as it was when that fails. -/
def record (s : LogStore) (e : LogEntry) : LogStore :=
  match s.append e with
  | .ok s' => s'
  | .error _ => s

/-- The newest rows of one job, at most `limit` of them unless it is negative. -/
def recent (s : LogStore) (name : String) (limit : Int) : Except TableError (List Row) :=
  if ¬s.valid then .error .notDatabase
  else
    match s.rows with
    | none => .error .noTable
    | some rows =>
      let mine := rows.reverse.filter (·.backupName == name)
      .ok (if limit < 0 then mine else mine.take limit.toNat)

end LogStore

end Safekeep
