import Safekeep.Config.Decode
import Safekeep.Settings

/-!
# The engine's configuration

What the engine reads from its configuration: the settings, the jobs file, the log directory,
the kind of log sink and the database address. The three paths default to places under the
user's data directory, which depends on the host; a configuration that does not give one keeps
`none` for it.

Every member may be left out. Settings are a record of their own, and normalized once decoded.
The log sink is one of `jsonl`, `sqlite` and `memory`, spelled in lower case.
-/

namespace Safekeep.Config

/-- Where the engine's log entries go. -/
inductive SinkKind
  -- Daily JSON-lines files under the log directory.
  | jsonl
  -- The log table of a database.
  | sqlite
  -- A ring buffer in memory.
  | memory
  deriving DecidableEq, Repr

def SinkKind.name : SinkKind → String
  | .jsonl => "jsonl"
  | .sqlite => "sqlite"
  | .memory => "memory"

/-- The engine's configuration; a path of `none` is the host's default. -/
structure EngineConfig where
  settings : Settings
  jobsFile : Option String
  logDir : Option String
  logSink : SinkKind
  databaseUrl : Option String
  deriving Repr

namespace EngineConfig

def default : EngineConfig := ⟨Settings.default, none, none, .jsonl, none⟩

/-- The fields of the settings record. -/
def settingsFields : List (Field Settings) := [
  ⟨"priority_extensions", fun v s => v.toTexts.map fun xs => { s with priorityExtensions := textSet xs }⟩,
  ⟨"crypto_extensions", fun v s => v.toTexts.map fun xs => { s with cryptoExtensions := textSet xs }⟩,
  ⟨"large_file_threshold_bytes", fun v s => v.toWord.map fun n => { s with largeFileThreshold := n }⟩,
  ⟨"business_process_name", fun v s => v.toText.map fun t => { s with businessProcessName := t }⟩,
  ⟨"enable_business_monitor", fun v s => v.toFlag.map fun b => { s with monitorEnabled := b }⟩,
  ⟨"business_check_interval_ms", fun v s => v.toWord.map fun n => { s with checkIntervalMs := n }⟩,
  ⟨"crypto_tool_path", fun v s => v.toText.map fun t => { s with toolPath := t }⟩,
  ⟨"crypto_tool_args_template", fun v s => v.toText.map fun t => { s with argsTemplate := t }⟩]

def decodeSettings (v : Item) : Except DecodeError Settings :=
  decodeRecord "GeneralSettings" settingsFields Settings.default v

def sinkKinds : List (String × SinkKind) := [("jsonl", .jsonl), ("sqlite", .sqlite), ("memory", .memory)]

def fields : List (Field EngineConfig) := [
  ⟨"settings", fun v c => (decodeSettings v).map fun s => { c with settings := s }⟩,
  ⟨"jobs_file", fun v c => v.toText.map fun t => { c with jobsFile := some t }⟩,
  ⟨"log_dir", fun v c => v.toText.map fun t => { c with logDir := some t }⟩,
  ⟨"log_sink", fun v c => (decodeVariant "LogSinkKind" sinkKinds v).map fun k => { c with logSink := k }⟩,
  ⟨"database_url", fun v c => v.toText.map fun t => { c with databaseUrl := some t }⟩]

def decode (root : Item) : Except DecodeError EngineConfig :=
  (decodeRecord "Config" fields default root).map fun c => { c with settings := c.settings.normalized }

end EngineConfig

end Safekeep.Config
