import Safekeep.Cli
import Safekeep.Config.Decode
import Safekeep.Config.Engine
import Safekeep.Config.Env
import Safekeep.Config.Format.Ini
import Safekeep.Config.Format.Json
import Safekeep.Config.Format.Json5
import Safekeep.Config.Format.Ron
import Safekeep.Config.Format.Toml
import Safekeep.Config.Format.TomlLex
import Safekeep.Config.Format.Yaml
import Safekeep.Config.Format.YamlParse
import Safekeep.Config.Format.YamlScan
import Safekeep.Config.Load
import Safekeep.Config.Tree
import Safekeep.Copy
import Safekeep.Disk.Basic
import Safekeep.Disk.Layout
import Safekeep.Disk.Listing
import Safekeep.Disk.Ops
import Safekeep.Disk.World
import Safekeep.Gate
import Safekeep.Gate.Session
import Safekeep.Job.Basic
import Safekeep.Job.Catalog
import Safekeep.Job.Outcome
import Safekeep.Json.Fault
import Safekeep.Json.Read
import Safekeep.Json.Shape
import Safekeep.Json.Value
import Safekeep.Log.Daily
import Safekeep.Log.Database
import Safekeep.Log.Entry
import Safekeep.Log.Ring
import Safekeep.Log.Table
import Safekeep.Main
import Safekeep.Monitor
import Safekeep.Number.Decimal
import Safekeep.Number.Nearest
import Safekeep.Number.Precision
import Safekeep.Number.Printed
import Safekeep.Number.Shortest
import Safekeep.Path
import Safekeep.Plan
import Safekeep.Progress.Basic
import Safekeep.Progress.Board
import Safekeep.Proofs.Arguments
import Safekeep.Proofs.Disk.Append
import Safekeep.Proofs.Disk.Copy
import Safekeep.Proofs.Disk.Write
import Safekeep.Proofs.Gate.Basic
import Safekeep.Proofs.Gate.Session
import Safekeep.Proofs.Job.Catalog
import Safekeep.Proofs.Json.Compact
import Safekeep.Proofs.Json.ReadBack
import Safekeep.Proofs.Log.Daily
import Safekeep.Proofs.Log.Entry
import Safekeep.Proofs.Log.Ring
import Safekeep.Proofs.Log.Table
import Safekeep.Proofs.Planning
import Safekeep.Proofs.Run.Accounting
import Safekeep.Proofs.Run.Entries
import Safekeep.Proofs.Run.Gates
import Safekeep.Proofs.Run.Invariant
import Safekeep.Proofs.Run.Journal
import Safekeep.Proofs.Run.Monitor
import Safekeep.Proofs.Run.Progress
import Safekeep.Proofs.Run.Publish
import Safekeep.Proofs.Run.Report
import Safekeep.Proofs.Run.RunnerStep
import Safekeep.Proofs.Run.Scenario
import Safekeep.Proofs.Run.Sealing
import Safekeep.Proofs.Run.Settle
import Safekeep.Proofs.Run.Timeline
import Safekeep.Proofs.Run.Token
import Safekeep.Proofs.Seal
import Safekeep.Proofs.Selection
import Safekeep.Proofs.Settings
import Safekeep.Proofs.Text.Lower
import Safekeep.Proofs.Time.Stamp
import Safekeep.Run.Batch
import Safekeep.Run.Runner
import Safekeep.Seal
import Safekeep.Selection
import Safekeep.Settings
import Safekeep.Shell.Arith
import Safekeep.Shell.Builtin
import Safekeep.Shell.Expand
import Safekeep.Shell.Lex
import Safekeep.Shell.Parse
import Safekeep.Shell.Pattern
import Safekeep.Shell.Printf
import Safekeep.Shell.Run
import Safekeep.Shell.State
import Safekeep.Shell.Syntax
import Safekeep.Shell.Test
import Safekeep.Shell.TextTools
import Safekeep.Shell.Tools
import Safekeep.Text.Blank
import Safekeep.Text.Category
import Safekeep.Text.Extend
import Safekeep.Text.Lower
import Safekeep.Text.Printable
import Safekeep.Text.Quoted
import Safekeep.Text.Utf8
import Safekeep.Time.Instant
import Safekeep.Time.Rfc3339
