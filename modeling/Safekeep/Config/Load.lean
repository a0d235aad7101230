import Safekeep.Config.Engine
import Safekeep.Config.Env
import Safekeep.Config.Format.Ini
import Safekeep.Config.Format.Json
import Safekeep.Config.Format.Json5
import Safekeep.Config.Format.Ron
import Safekeep.Config.Format.Toml
import Safekeep.Config.Format.Yaml
import Safekeep.Disk.Ops

/-!
# Loading the configuration

The configuration is a file overlaid by the environment.

## 1. Finding the file

A file is looked up by name from the working directory. When a regular file of that name exists,
its extension chooses the format (`toml`, `json`, `yaml` or `yml`, `ini`, `ron`, `json5`), and a
file of any other extension is refused. Otherwise the name is tried with each registered
extension in its place, and the first regular file found is read in that extension's format.
A file that must exist and is not found is a failure; one that need not is then simply absent.
The file's origin, named by error messages, is its path relative to the working directory.

## 2. Merging and decoding

The file's members and then the environment's are set into an empty tree at the keys their names
read as (see `Config.Tree`); the members of that tree are set again into a fresh one, which is
decoded into the engine's configuration. Failing to find, read or parse the file is a read
failure; a tree that does not decode is an invalid configuration.
-/

namespace Safekeep.Config

/-! ## 1. Finding the file -/

/-- The formats a configuration file may be written in. -/
inductive Format
  | toml
  | json
  | yaml
  | ini
  | ron
  | json5
  deriving DecidableEq, Repr

namespace Format

def all : List Format := [.toml, .json, .yaml, .ini, .ron, .json5]

/-- The file extensions of a format. -/
def extensions : Format → List String
  | .toml => ["toml"]
  | .json => ["json"]
  | .yaml => ["yaml", "yml"]
  | .ini => ["ini"]
  | .ron => ["ron"]
  | .json5 => ["json5"]

def ofExtension (ext : String) : Option Format := all.find? fun f => f.extensions.contains ext

end Format

/-- The top-level members of a file's text in a format, or the reader's message. -/
def Format.read (f : Format) (origin : String) (text : String) :
    Except String (List (String × Item)) :=
  match f with
  | .json => readJsonFile origin text
  | .toml => readTomlFile origin text
  | .yaml => Yaml.readYamlFile origin text
  | .ini => readIniFile origin text
  | .ron => readRonFile origin text
  | .json5 => readJson5File origin text

def defaultConfigName : String := "backup-engine"

/-- A configuration file to read, and whether it must exist. -/
structure FileSource where
  name : String
  required : Bool

/-- The path a file is looked for at with a registered extension: the extension follows the file
name's own, which is kept, so that `engine.local` is looked for as `engine.local.toml` and a name
without an extension as `name.toml`. -/
def withSearchExtension (path ext : String) : String :=
  Path.withExtension path (match Path.extension? path with
    | some own => own ++ "." ++ ext
    | none => ext)

/-- The file a name leads to, with its format. -/
def findFile (d : Disk) (cwd : Loc) (name : String) : Except String (String × Format) :=
  let path := Path.join (Loc.text cwd) name
  if d.isFile cwd path then
    match Format.ofExtension ((Path.extension? path).getD "") with
    | some f => .ok (path, f)
    | none => .error ("configuration file \"" ++ path ++ "\" is not of a registered file format")
  else
    let tries := Format.all.flatMap fun f => f.extensions.map fun ext => (withSearchExtension path ext, f)
    match tries.find? fun t => d.isFile cwd t.1 with
    | some t => .ok t
    | none => .error ("configuration file \"" ++ name ++ "\" not found")

/-- The text of a file. -/
def readText (d : Disk) (cwd : Loc) (path : String) : Except String String :=
  match d.fileBytes cwd path with
  | .error e => .error e.message
  | .ok bytes =>
    match String.fromUTF8? bytes with
    | some s => .ok s
    | none => .error "stream did not contain valid UTF-8"

/-- Every path a file source may be read from, from a working directory: its name, then its name
with each registered extension added. -/
def FileSource.paths (f : FileSource) (cwd : Loc) : List String :=
  let path := Path.join (Loc.text cwd) f.name
  path :: Format.all.flatMap fun fmt => fmt.extensions.map (withSearchExtension path ·)

/-- The file source of a path given by the user (which must exist), or else the default file
(which need not). -/
def FileSource.ofPath : Option String → FileSource
  | some p => ⟨p, true⟩
  | none => ⟨defaultConfigName, false⟩

/-- The members a file source gives: none when a file that need not exist cannot be found or
read; a parse failure's message names the file's origin. -/
def FileSource.collect (f : FileSource) (d : Disk) (cwd : Loc) :
    Except String (List (String × Item)) :=
  let found : Except String (String × Format × String) := do
    let (path, fmt) ← findFile d cwd f.name
    let text ← readText d cwd path
    .ok (path, fmt, text)
  match found with
  | .error e => if f.required then .error e else .ok []
  | .ok (path, fmt, text) =>
    let origin := (Path.relativeTo path (Loc.text cwd)).getD path
    (fmt.read origin text).mapError (· ++ " in " ++ origin)

/-! ## 2. Merging and decoding -/

/-- Why the configuration does not load. -/
inductive LoadError
  -- The file could not be found, read or parsed.
  | read (text : String)
  -- The merged settings do not decode.
  | invalid (e : DecodeError)
  deriving DecidableEq, Repr

/-- What failed: reading the sources, or decoding them. -/
def LoadError.context : LoadError → String
  | .read _ => "failed to read configuration"
  | .invalid _ => "invalid configuration"

def LoadError.cause : LoadError → String
  | .read t => t
  | .invalid e => e.text

/-- The message of a load failure: what failed, then why. -/
def LoadError.message (e : LoadError) : String := e.context ++ ": " ++ e.cause

def mergeSources (fileEntries envs : List (String × Item)) : Item :=
  let inner := layer (layer Item.emptyTable fileEntries) envs
  layer Item.emptyTable inner.members

/-- Load the engine's configuration from a file path (which must exist) or else from the default
file (which need not), overlaid by the environment's variables. -/
def loadConfig (d : Disk) (cwd : Loc) (path : Option String) (env : List (String × String)) :
    Except LoadError EngineConfig := do
  let file := FileSource.ofPath path
  let entries ← (file.collect d cwd).mapError .read
  (EngineConfig.decode (mergeSources entries (envEntries env))).mapError .invalid

end Safekeep.Config
