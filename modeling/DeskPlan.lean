import DeskPlan.Apply.Report
import DeskPlan.Apply.Run
import DeskPlan.Blueprint.Basic
import DeskPlan.Blueprint.Candidate
import DeskPlan.Blueprint.Diagnosis
import DeskPlan.Blueprint.Selection
import DeskPlan.Blueprint.Store
import DeskPlan.Command.Applying
import DeskPlan.Command.Checking
import DeskPlan.Command.Completion
import DeskPlan.Command.Configuring
import DeskPlan.Command.Listing
import DeskPlan.Command.Options
import DeskPlan.Command.Reply
import DeskPlan.Command.Request
import DeskPlan.Command.Run
import DeskPlan.Command.Template
import DeskPlan.Command.Verifying
import DeskPlan.Command.Workspace
import DeskPlan.Desktop.Snapshot
import DeskPlan.Desktop.Store
import DeskPlan.Files.Path
import DeskPlan.Files.Tree
import DeskPlan.Geometry.Rect
import DeskPlan.Json.Decode
import DeskPlan.Json.Fault
import DeskPlan.Json.Node
import DeskPlan.Json.Schema
import DeskPlan.Json.Token
import DeskPlan.Json.Value
import DeskPlan.Layout.Target
import DeskPlan.Log.Event
import DeskPlan.Log.Filter
import DeskPlan.Main
import DeskPlan.Monitor.Basic
import DeskPlan.Monitor.Check
import DeskPlan.Monitor.Location
import DeskPlan.NameMap
import DeskPlan.Number.Checked
import DeskPlan.Number.FloatText
import DeskPlan.Number.Ranged
import DeskPlan.Number.Reading
import DeskPlan.Number.Shortest
import DeskPlan.Pattern.Cache
import DeskPlan.Pattern.CharSet
import DeskPlan.Pattern.Regex
import DeskPlan.Pattern.Syntax
import DeskPlan.Proofs.Apply.Accounting
import DeskPlan.Proofs.Apply.DryRun
import DeskPlan.Proofs.Apply.Reach
import DeskPlan.Proofs.Apply.Run
import DeskPlan.Proofs.Apply.Snapshot
import DeskPlan.Proofs.Apply.UnknownTarget
import DeskPlan.Proofs.Apply.Verified
import DeskPlan.Proofs.Blueprint.CachedPatterns
import DeskPlan.Proofs.Blueprint.Diagnosis
import DeskPlan.Proofs.Blueprint.Discovery
import DeskPlan.Proofs.Blueprint.FirstMatch
import DeskPlan.Proofs.Blueprint.NumericFilter
import DeskPlan.Proofs.Blueprint.Selection
import DeskPlan.Proofs.Blueprint.Store
import DeskPlan.Proofs.Blueprint.Taskbar
import DeskPlan.Proofs.Command.Agreement
import DeskPlan.Proofs.Command.Choosing
import DeskPlan.Proofs.Command.Configuring
import DeskPlan.Proofs.Command.Reply
import DeskPlan.Proofs.Command.Response
import DeskPlan.Proofs.Command.Template
import DeskPlan.Proofs.Document
import DeskPlan.Proofs.Files.Listing
import DeskPlan.Proofs.Files.Path
import DeskPlan.Proofs.Files.Tree
import DeskPlan.Proofs.Geometry.Overflow
import DeskPlan.Proofs.Geometry.Points
import DeskPlan.Proofs.Geometry.Rect
import DeskPlan.Proofs.Json.Line
import DeskPlan.Proofs.Json.Record
import DeskPlan.Proofs.Json.Tree
import DeskPlan.Proofs.Json.Words
import DeskPlan.Proofs.Layout.Box
import DeskPlan.Proofs.Layout.Centring
import DeskPlan.Proofs.Layout.FixedPoint
import DeskPlan.Proofs.Layout.Target
import DeskPlan.Proofs.Monitor.Authoring
import DeskPlan.Proofs.Monitor.Choice
import DeskPlan.Proofs.Monitor.Comparison
import DeskPlan.Proofs.Monitor.Issues
import DeskPlan.Proofs.Monitor.Location
import DeskPlan.Proofs.Monitor.OneToOne
import DeskPlan.Proofs.NameMap
import DeskPlan.Proofs.Pattern.Literal
import DeskPlan.Proofs.Pattern.Search
import DeskPlan.Proofs.Script.Exposed
import DeskPlan.Proofs.Script.Failure
import DeskPlan.Proofs.Script.Interpreter
import DeskPlan.Proofs.Script.Scope
import DeskPlan.Proofs.Settings.Change
import DeskPlan.Proofs.Settings.Store
import DeskPlan.Proofs.Sorting
import DeskPlan.Proofs.Text.Blank
import DeskPlan.Proofs.Text.Distance
import DeskPlan.Proofs.Text.Replace
import DeskPlan.Proofs.Window.Order
import DeskPlan.Script.Arithmetic
import DeskPlan.Script.Builtin
import DeskPlan.Script.Engine
import DeskPlan.Script.Eval
import DeskPlan.Script.Interpreter
import DeskPlan.Script.Lexer
import DeskPlan.Script.Machine
import DeskPlan.Script.Parser
import DeskPlan.Script.Session
import DeskPlan.Script.Syntax
import DeskPlan.Script.Token
import DeskPlan.Script.Value
import DeskPlan.Settings.Basic
import DeskPlan.Settings.Store
import DeskPlan.Text.Account
import DeskPlan.Text.Blank
import DeskPlan.Text.Case
import DeskPlan.Text.CaseTable
import DeskPlan.Text.CharRange
import DeskPlan.Text.Distance
import DeskPlan.Text.PrintableTable
import DeskPlan.Text.Quoted
import DeskPlan.Text.Replace
import DeskPlan.Text.WordTable
import DeskPlan.Window.Basic
import DeskPlan.Window.Order
