import Safekeep.Config.Load
import Safekeep.Disk.World
import Safekeep.Job.Catalog
import Safekeep.Selection
import Safekeep.Run.Batch
import Safekeep.Shell.Run
import Safekeep.Log.Daily

/-!
# The command line

`backup-engine [--config PATH] COMMAND` where the command is `list` (print the configured jobs)
or `run SELECTION` (run the selected jobs). The option may stand before or after the command,
also as `--config=PATH`.

The configuration is read as `Config.loadConfig` does, from the files a path (or the default name)
may lead to and the `BACKUP_` variables of the environment. The job file is the configured one, or
`jobs.json` in the program's data directory (`$XDG_DATA_HOME/backup-engine`, or
`$HOME/.local/share/backup-engine`).

A run resolves the selection against the configured ids and runs the jobs with
`Orchestrator.runMany` on a disk value, with the environment and the user it finds, the library's
shell to start the encryption tool, and no answer from the business probe. Its log entries go to
the daily files of the log directory when the sink is JSON lines. It prints one line per
requested job and exits with the report's code; what the run changed on the disk (directories
made, files written, files removed) is then done on the machine's. The outer layer reads files by
name and has no directory listing, so the disk a run sees holds the files it was able to read.

## 1. Arguments

## 2. Output

## 3. A run
-/

namespace Safekeep.Cli

/-! ## 1. Arguments -/

/-- What the command line asks for. -/
inductive Command
  -- Run the jobs of a selection text.
  | run (selection : String)
  -- List the configured jobs.
  | list
  deriving DecidableEq, Repr

/-- A parsed command line: the configuration path, if given, and the command. -/
structure Invocation where
  config : Option String
  command : Command
  deriving DecidableEq, Repr

/-- Why a command line was refused. -/
inductive CliError
  | noCommand
  | unknownCommand (name : String)
  | noSelection
  | noConfigValue
  | unexpected (arg : String)
  deriving DecidableEq, Repr

def usage : String :=
  "Usage: backup-engine [OPTIONS] <COMMAND>\n\n" ++
  "Commands:\n  run   Run jobs: \"1-3\", \"1;3\", \"all\"\n  list  List configured jobs\n\n" ++
  "Options:\n  --config <PATH>  Configuration file (defaults to ./backup-engine.* when present)"

/-- The message of a refused command line, followed by the usage. -/
def CliError.message (e : CliError) : String :=
  let head := match e with
    | .noCommand => "error: a subcommand is required"
    | .unknownCommand n => "error: unrecognized subcommand '" ++ n ++ "'"
    | .noSelection => "error: the following required arguments were not provided:\n  <SELECTION>"
    | .noConfigValue => "error: a value is required for '--config <PATH>' but none was supplied"
    | .unexpected a => "error: unexpected argument '" ++ a ++ "' found"
  head ++ "\n\n" ++ usage

/-- The arguments after the program name: the `--config` option (the last one given) and the
other words, in order. -/
def splitOptions : List String → Except CliError (Option String × List String)
  | [] => .ok (none, [])
  | ["--config"] => .error .noConfigValue
  | "--config" :: p :: rest => do
    let (c, words) ← splitOptions rest
    .ok (c.orElse fun _ => some p, words)
  | a :: rest => do
    let (c, words) ← splitOptions rest
    if a.startsWith "--config=" then .ok (c.orElse fun _ => some (String.ofList (a.toList.drop 9)), words)
    else .ok (c, a :: words)

/-- Read a command line (without the program name). -/
def parseArgs (args : List String) : Except CliError Invocation := do
  let (config, words) ← splitOptions args
  match words with
  | [] => .error .noCommand
  | ["list"] => .ok ⟨config, .list⟩
  | "list" :: extra :: _ => .error (.unexpected extra)
  | ["run"] => .error .noSelection
  | ["run", sel] => .ok ⟨config, .run sel⟩
  | "run" :: _ :: extra :: _ => .error (.unexpected extra)
  | other :: _ => .error (.unknownCommand other)

/-- The variables of an environment block: `NAME=value` entries separated by NUL characters. -/
def environmentOf (block : String) : List (String × String) :=
  ((block.splitOn "\x00").filter (· ≠ "")).filterMap fun entry =>
    match entry.splitOn "=" with
    | name :: rest => if name.isEmpty then none else some (name, "=".intercalate rest)
    | [] => none

def dataDir (env : List (String × String)) : String :=
  let base := match env.lookup "XDG_DATA_HOME" with
    | some d => if Path.isAbsolute d then d else (env.lookup "HOME").getD "." ++ "/.local/share"
    | none => (env.lookup "HOME").getD "." ++ "/.local/share"
  base ++ "/backup-engine"

def jobsPath (c : Config.EngineConfig) (env : List (String × String)) : String :=
  c.jobsFile.getD (dataDir env ++ "/jobs.json")

/-- The disk a command works on: the machine's, with the given files (absolute paths and their
bytes) placed in it; a file that cannot be placed is left out. -/
def hostDisk (cwd : Loc) (files : List (String × ByteArray)) : Disk :=
  files.foldl (fun d (path, bytes) =>
    let placed : Except Errno Disk := do
      let d ← match Path.parent? path with
        | some dir => d.createDirAll [] dir
        | none => .ok d
      d.writeFile [] path bytes
    placed.toOption.getD d) (Disk.machine cwd)

/-! ## 2. Output -/

def padLeft (width : Nat) (s : String) : String :=
  String.ofList (List.replicate (width - s.length) ' ') ++ s

def padRight (width : Nat) (s : String) : String :=
  s ++ String.ofList (List.replicate (width - s.length) ' ')

def kindLabel : BackupKind → String
  | .full => "Full"
  | .differential => "Differential"

/-- A job's line in a listing: id, name, kind, source and target. -/
def listLine (j : Job) : String :=
  padLeft 4 (toString j.id) ++ "  " ++ padRight 24 j.name ++ " " ++ kindLabel j.kind ++ "  " ++
    j.source ++ " -> " ++ j.target

/-- A failure to load the configuration or the jobs, as the program reports it: what failed,
then the cause on its own line. -/
def loadReport (e : Config.LoadError) : String :=
  "Error: " ++ e.context ++ "\n\nCaused by:\n    " ++ e.cause

def selectionReport (e : SelectionError) : String :=
  "Error: invalid job selection: " ++ e.message

def catalogReport (e : CatalogError) : String :=
  "Error: " ++ e.message

/-! ## 3. A run -/

def logPath (c : Config.EngineConfig) (env : List (String × String)) : String :=
  c.logDir.getD (dataDir env ++ "/logs")

/-- Whether a process status text (as `/proc/self/status` has it) is the superuser's: its real
user id is 0. -/
def isSuperuser (status : String) : Bool :=
  (status.splitOn "\n").any fun line =>
    match (Text.words line) with
    | "Uid:" :: uid :: _ => uid = "0"
    | _ => false

/-- The machine a run meets from the command line: its environment, whether it runs as the
superuser, and the library's shell to start programs. -/
def hostOf (env : List (String × String)) (superuser : Bool) : Host :=
  ⟨env, superuser, Disk.start, fun _ _ => none⟩

/-- A job's line in the printed report. -/
def outcomeLine (line : JobReport) : String :=
  "job " ++ toString line.jobId ++ ": " ++
    match line.outcome with
    | .completed t f => "completed (" ++ toString t ++ " transferred, " ++ toString f ++ " failed)"
    | .failed reason => "failed (" ++ reason ++ ")"
    | .cancelled => "cancelled"
    | .skipped r => "skipped (" ++ r.text ++ ")"

/-- Run the jobs a selection picks: the disk after the run, its log entries appended to their
daily files when the sink is JSON lines; the report's lines; and the exit code. -/
def runJobs (c : Config.EngineConfig) (env : List (String × String)) (jobs : Catalog) (host : Host)
    (d : Disk) (cwd : Loc) (now : Time.Instant) (sel : Selection) : Disk × List String × Nat :=
  let o : Orchestrator := ⟨c.settings, jobs, false, host⟩
  let (_, d, report) := o.runMany d cwd now [] (sel.resolve jobs.ids)
  let d := match c.logSink with
    | .jsonl => report.logs.foldl (fun d e => d.appendDaily cwd (logPath c env) e) d
    | _ => d
  (d, report.jobs.map outcomeLine, report.exitCode)

/-- What a run changed on a disk, by absolute path: the directories it made, the files it wrote
(new, or with other bytes), and the files it removed. -/
def changes (before after : Disk) : List String × List (String × ByteArray) × List String :=
  let made := after.nodes.filterMap fun (loc, node) =>
    match node, before.nodes.lookup loc with
    | .dir _, some (.dir _) => none
    | .dir _, _ => some loc.text
    | _, _ => none
  let written := after.nodes.filterMap fun (loc, node) =>
    match node, before.nodes.lookup loc with
    | .file new _ _, some (.file old _ _) => if new.data = old.data then none else some (loc.text, new)
    | .file new _ _, _ => some (loc.text, new)
    | _, _ => none
  let removed := before.nodes.filterMap fun (loc, node) =>
    match node, after.nodes.lookup loc with
    | .file _ _ _, none => some loc.text
    | _, _ => none
  (made, written, removed)

end Safekeep.Cli
