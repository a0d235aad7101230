import Safekeep.Cli

/-!
# The program

Reads the command line, the environment block and the files the configuration and the job list
may come from, and prints what `Safekeep.Cli` says; after a run it makes on the machine the
changes the run made on its disk.
-/

/-- The bytes of a file, none when it cannot be read. -/
def readIfPresent (path : String) : IO (Option ByteArray) := do
  try
    pure (some (← IO.FS.readBinFile path))
  catch _ =>
    pure none

/-- Run the command line. -/
def main (args : List String) : IO UInt32 := do
  match Safekeep.Cli.parseArgs args with
  | .error e =>
    IO.eprintln e.message
    return 2
  | .ok inv =>
    let block ← readIfPresent "/proc/self/environ"
    let env := Safekeep.Cli.environmentOf ((block.bind String.fromUTF8?).getD "")
    let cwd := Safekeep.pieces ((← IO.getEnv "PWD").getD "/")
    let source := Safekeep.Config.FileSource.ofPath inv.config
    let mut files : List (String × ByteArray) := []
    for path in source.paths cwd do
      if let some bytes ← readIfPresent path then files := files ++ [(path, bytes)]
    let disk := Safekeep.Cli.hostDisk cwd files
    match Safekeep.Config.loadConfig disk cwd inv.config env with
    | .error e =>
      IO.eprintln (Safekeep.Cli.loadReport e)
      return 1
    | .ok config =>
      let jobsPath := Safekeep.Cli.jobsPath config env
      let disk := match ← readIfPresent (Safekeep.Path.join (Safekeep.Loc.text cwd) jobsPath) with
        | some bytes => Safekeep.Cli.hostDisk cwd (files ++ [(Safekeep.Path.join (Safekeep.Loc.text cwd) jobsPath, bytes)])
        | none => disk
      match disk.loadCatalog cwd jobsPath with
      | .error e =>
        IO.eprintln (Safekeep.Cli.catalogReport e)
        return 1
      | .ok jobs =>
        match inv.command with
        | .list =>
          for job in jobs.jobs do
            IO.println (Safekeep.Cli.listLine job)
          return 0
        | .run text =>
          match Safekeep.Selection.parse text with
          | .error e =>
            IO.eprintln (Safekeep.Cli.selectionReport e)
            return 1
          | .ok sel =>
            let status ← readIfPresent "/proc/self/status"
            let superuser := Safekeep.Cli.isSuperuser ((status.bind String.fromUTF8?).getD "")
            let host := Safekeep.Cli.hostOf env superuser
            let now := Safekeep.Time.Instant.ofParts Safekeep.clockNow.secs Safekeep.clockNow.nanos
            let (after, lines, code) := Safekeep.Cli.runJobs config env jobs host disk cwd now sel
            let (made, written, removed) := Safekeep.Cli.changes disk after
            for dir in made do
              IO.FS.createDirAll dir
            for (path, bytes) in written do
              IO.FS.writeBinFile path bytes
            for path in removed do
              try IO.FS.removeFile path catch _ => pure ()
            for line in lines do
              IO.println line
            return code.toUInt32
