import Safekeep.Log.Entry
import Safekeep.Disk.Ops

/-!
# Daily log files

A daily log keeps the entries of each UTC day in `<dir>/<YYYY-MM-DD>.jsonl`, one compact JSON
entry per line. Appending creates the directory and the file when missing; a failed append is
dropped, though the directories created before the failure stay.
-/

namespace Safekeep

def dailyPath (dir : String) (e : LogEntry) : String :=
  Path.join dir (e.timestamp.date.text ++ ".jsonl")

def dailyLine (e : LogEntry) : ByteArray := (e.toText ++ "\n").toUTF8

/-- Append an entry to its daily file under `dir`. -/
def Disk.appendDaily (d : Disk) (cwd : Loc) (dir : String) (e : LogEntry) : Disk :=
  match d.createDirAll cwd dir with
  | .error _ => d
  | .ok d =>
    match d.appendFile cwd (dailyPath dir e) (dailyLine e) with
    | .ok d' => d'
    | .error _ => d

end Safekeep
