import Safekeep.Path
import Safekeep.Text.Blank
import Safekeep.Json.Shape

/-!
# Settings

The engine's settings: which file extensions go first, which are sealed by the encryption tool
after the copy, the size from which a file counts as large, the business process whose presence
pauses every transfer, and the encryption tool with its argument template.

Settings are written as a JSON object in which every field may be left out. Normalizing them
trims, strips leading dots from and lower-cases every extension, drops the ones left empty, and
trims the business process name. A path is a priority file (or needs encryption) when its
lower-cased extension is in the priority set (or the crypto set); a size is large when the
threshold is not zero and the size reaches it.
-/

namespace Safekeep

open Safekeep.Json

def insertSorted (s : String) : List String → List String
  | [] => [s]
  | t :: rest => if s < t then s :: t :: rest else if s = t then t :: rest else t :: insertSorted s rest

def textSet (xs : List String) : List String := xs.foldl (fun acc x => insertSorted x acc) []

/-- The engine's settings. Extension sets are sorted lists without repeats. -/
structure Settings where
  priorityExtensions : List String
  cryptoExtensions : List String
  largeFileThreshold : Nat
  businessProcessName : String
  monitorEnabled : Bool
  checkIntervalMs : Nat
  toolPath : String
  argsTemplate : String
  deriving DecidableEq, Repr

namespace Settings

/-- No extensions, a threshold of 100 MiB, no business process, a check every second, no tool,
and the template that passes the file alone. -/
def default : Settings where
  priorityExtensions := []
  cryptoExtensions := []
  largeFileThreshold := 104857600
  businessProcessName := ""
  monitorEnabled := false
  checkIntervalMs := 1000
  toolPath := ""
  argsTemplate := "{file}"

instance : Inhabited Settings := ⟨default⟩

/-- What settings look like in JSON: every field may be left out. -/
def shape : Shape :=
  .record "GeneralSettings" true [
    ("priority_extensions", .seq .string),
    ("crypto_extensions", .seq .string),
    ("large_file_threshold_bytes", .u64),
    ("business_process_name", .string),
    ("enable_business_monitor", .bool),
    ("business_check_interval_ms", .u64),
    ("crypto_tool_path", .string),
    ("crypto_tool_args_template", .string)]

/-- Settings from a value already checked against `shape`; a missing field keeps its default. -/
def ofChecked (v : Value) : Settings :=
  let texts (k : String) : List String :=
    match v.field? k with
    | some (.arr xs) => textSet (xs.filterMap Value.asStr?)
    | _ => []
  let natOr (k : String) (d : Nat) : Nat := ((v.field? k).bind Value.asNat?).getD d
  let strOr (k : String) (d : String) : String := ((v.field? k).bind Value.asStr?).getD d
  { priorityExtensions := texts "priority_extensions"
    cryptoExtensions := texts "crypto_extensions"
    largeFileThreshold := natOr "large_file_threshold_bytes" default.largeFileThreshold
    businessProcessName := strOr "business_process_name" ""
    monitorEnabled := ((v.field? "enable_business_monitor").bind Value.asBool?).getD false
    checkIntervalMs := natOr "business_check_interval_ms" default.checkIntervalMs
    toolPath := strOr "crypto_tool_path" ""
    argsTemplate := strOr "crypto_tool_args_template" default.argsTemplate }

def ofValue (v : Value) : Except Fault Settings := (shape.decode v).map ofChecked

/-- One extension normalized: trimmed, leading dots stripped, then lower-cased. -/
def normalizeExtension (e : String) : String :=
  Text.lower (String.ofList ((Text.trim e).toList.dropWhile (· = '.')))

def normalizeSet (xs : List String) : List String :=
  textSet ((xs.map normalizeExtension).filter (· ≠ ""))

def normalized (s : Settings) : Settings :=
  { s with
    priorityExtensions := normalizeSet s.priorityExtensions
    cryptoExtensions := normalizeSet s.cryptoExtensions
    businessProcessName := Text.trim s.businessProcessName }

def hasExtensionIn (xs : List String) (p : String) : Bool :=
  match Path.extensionOf p with
  | some e => xs.contains e
  | none => false

def isPriority (s : Settings) (p : String) : Bool := hasExtensionIn s.priorityExtensions p

def needsEncryption (s : Settings) (p : String) : Bool := hasExtensionIn s.cryptoExtensions p

def isLarge (s : Settings) (size : Nat) : Bool :=
  s.largeFileThreshold > 0 && size ≥ s.largeFileThreshold

/-- The settings as a JSON value, extension sets as sorted lists. -/
def toValue (s : Settings) : Value :=
  Value.object [
    ("priority_extensions", .arr (s.priorityExtensions.map .str)),
    ("crypto_extensions", .arr (s.cryptoExtensions.map .str)),
    ("large_file_threshold_bytes", Value.nat s.largeFileThreshold),
    ("business_process_name", .str s.businessProcessName),
    ("enable_business_monitor", .bool s.monitorEnabled),
    ("business_check_interval_ms", Value.nat s.checkIntervalMs),
    ("crypto_tool_path", .str s.toolPath),
    ("crypto_tool_args_template", .str s.argsTemplate)]

end Settings

end Safekeep
