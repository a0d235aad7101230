import Safekeep.Text.Blank
import Safekeep.Text.Lower

/-!
# Watching for a business process

Process names are compared trimmed and lower-cased, with a final `.exe` dropped, so `Calc.EXE`
names `calc`. An empty name names no process.
-/

namespace Safekeep

def normalizeProcessName (name : String) : String :=
  let n := Text.lower (Text.trim name)
  if n.endsWith ".exe" then String.ofList (n.toList.take (n.length - 4)) else n

def isRunning (table : List String) (name : String) : Bool :=
  let wanted := normalizeProcessName name
  wanted ≠ "" ∧ table.any fun p => normalizeProcessName p = wanted

end Safekeep
