import Stencil.ByteSize
import Stencil.Calendar
import Stencil.Coercion
import Stencil.CommandLine.Arguments
import Stencil.CommandLine.Command
import Stencil.CommandLine.Starter
import Stencil.Config
import Stencil.Config.File
import Stencil.Elapsed
import Stencil.Engine
import Stencil.Engine.Choice
import Stencil.EngineOptions
import Stencil.Failure
import Stencil.FileTree.Atomic
import Stencil.FileTree.Basic
import Stencil.FileTree.Resolve
import Stencil.FileTree.Write
import Stencil.Glob
import Stencil.Ignore
import Stencil.Jinja.Argument
import Stencil.Jinja.Evaluation
import Stencil.Jinja.Expression
import Stencil.Jinja.Filter
import Stencil.Jinja.Format
import Stencil.Jinja.Function
import Stencil.Jinja.Library
import Stencil.Jinja.Machine
import Stencil.Jinja.Operation
import Stencil.Jinja.Read
import Stencil.Jinja.Reader
import Stencil.Jinja.Test
import Stencil.Jinja.Token
import Stencil.Jinja.Tree
import Stencil.Jinja.Value
import Stencil.Json.Expect
import Stencil.Json.Printer
import Stencil.Json.Reader
import Stencil.Json.Value
import Stencil.KeyMap
import Stencil.Locator
import Stencil.Lockfile.Cache
import Stencil.Lockfile.Document
import Stencil.Lockfile.Fingerprint
import Stencil.Main
import Stencil.Marker
import Stencil.Moment
import Stencil.Number.Binary64
import Stencil.Number.Decimal
import Stencil.Number.Double
import Stencil.Number.Power
import Stencil.Number.Rounded
import Stencil.Number.Shortest
import Stencil.Outcome
import Stencil.Path
import Stencil.Proofs.Coercion
import Stencil.Proofs.CommandLine.DocumentFaults
import Stencil.Proofs.Config.Definitions
import Stencil.Proofs.Config.Fragments
import Stencil.Proofs.Config.Settings
import Stencil.Proofs.Engine.Form
import Stencil.Proofs.Engine.LineEnd
import Stencil.Proofs.FileTree.Agreement
import Stencil.Proofs.FileTree.Ancestors
import Stencil.Proofs.FileTree.AtomicWrite
import Stencil.Proofs.FileTree.Below
import Stencil.Proofs.FileTree.Continuation
import Stencil.Proofs.FileTree.CutOff
import Stencil.Proofs.FileTree.FailedReplacement
import Stencil.Proofs.FileTree.Lookup
import Stencil.Proofs.FileTree.Overwrite
import Stencil.Proofs.FileTree.Passage
import Stencil.Proofs.FileTree.ReadBack
import Stencil.Proofs.FileTree.Replacement
import Stencil.Proofs.FileTree.Resolution
import Stencil.Proofs.FileTree.Respelling
import Stencil.Proofs.FileTree.Target
import Stencil.Proofs.FileTree.WriteAll
import Stencil.Proofs.Glob
import Stencil.Proofs.Glob.Ending
import Stencil.Proofs.Jinja.Insertion
import Stencil.Proofs.Json.Grammar
import Stencil.Proofs.Json.Tokens
import Stencil.Proofs.KeyMap
import Stencil.Proofs.Locator
import Stencil.Proofs.Locator.Pointer
import Stencil.Proofs.Lockfile.Cache
import Stencil.Proofs.Lockfile.Commits
import Stencil.Proofs.Lockfile.Document
import Stencil.Proofs.Lockfile.Fingerprint
import Stencil.Proofs.Lockfile.Format
import Stencil.Proofs.Lockfile.RoundTrip
import Stencil.Proofs.Lockfile.Staging
import Stencil.Proofs.Marker
import Stencil.Proofs.Marker.Literal
import Stencil.Proofs.Marker.Sibling
import Stencil.Proofs.Number.Nearest
import Stencil.Proofs.Number.Rounding
import Stencil.Proofs.Path
import Stencil.Proofs.Path.Order
import Stencil.Proofs.Path.Parent
import Stencil.Proofs.Regex.Advance
import Stencil.Proofs.Regex.Classes
import Stencil.Proofs.Regex.Group
import Stencil.Proofs.Regex.Literal
import Stencil.Proofs.Resolution.FirstFailure
import Stencil.Proofs.Resolution.Started
import Stencil.Proofs.Run.Atomicity
import Stencil.Proofs.Run.Children
import Stencil.Proofs.Run.Completion
import Stencil.Proofs.Run.Confinement
import Stencil.Proofs.Run.CutOff
import Stencil.Proofs.Run.History
import Stencil.Proofs.Run.Idempotence
import Stencil.Proofs.Run.Inputs
import Stencil.Proofs.Run.Keys
import Stencil.Proofs.Run.Ledger
import Stencil.Proofs.Run.LockfileContents
import Stencil.Proofs.Run.OutputsLeft
import Stencil.Proofs.Run.Products
import Stencil.Proofs.Run.Recovery
import Stencil.Proofs.Run.Refinement
import Stencil.Proofs.Run.Reordering
import Stencil.Proofs.Run.Settled
import Stencil.Proofs.Run.Siblings
import Stencil.Proofs.Run.Surroundings
import Stencil.Proofs.Run.Templates
import Stencil.Proofs.Run.Untrusted
import Stencil.Proofs.Selection
import Stencil.Proofs.Selection.Lines
import Stencil.Proofs.Selection.Order
import Stencil.Proofs.Selection.Spelling
import Stencil.Proofs.Tera.Insertion
import Stencil.Proofs.Text.ByteOrder
import Stencil.Proofs.Text.Cut
import Stencil.Proofs.Text.Trim
import Stencil.Proofs.Variable
import Stencil.Regex.Basic
import Stencil.Regex.CharClass
import Stencil.Regex.Interval
import Stencil.Regex.Property
import Stencil.Regex.Reader
import Stencil.Regex.Size
import Stencil.Report
import Stencil.Resolution
import Stencil.Run
import Stencil.Script.Arithmetic
import Stencil.Script.Builtin
import Stencil.Script.Condition
import Stencil.Script.Edit
import Stencil.Script.Execution
import Stencil.Script.Expression
import Stencil.Script.Field
import Stencil.Script.Filter
import Stencil.Script.Format
import Stencil.Script.Pattern
import Stencil.Script.Program
import Stencil.Script.Reader
import Stencil.Script.Source
import Stencil.Script.Tree
import Stencil.Script.World
import Stencil.Selection
import Stencil.Tera.Alone
import Stencil.Tera.Evaluation
import Stencil.Tera.Filter
import Stencil.Tera.Grammar
import Stencil.Tera.Test
import Stencil.Tera.Tree
import Stencil.Tera.Value
import Stencil.Tera.Way
import Stencil.Text.Age
import Stencil.Text.Blank
import Stencil.Text.Case
import Stencil.Text.Category
import Stencil.Text.Cluster
import Stencil.Text.Cut
import Stencil.Text.Distance
import Stencil.Text.Escaped
import Stencil.Text.Feature
import Stencil.Text.Markup
import Stencil.Text.Percent
import Stencil.Text.Property
import Stencil.Text.Script
import Stencil.Text.ScriptExtension
import Stencil.Text.Slug
import Stencil.Text.Table
import Stencil.Text.Utf8
import Stencil.TimeZone
import Stencil.TimeZone.Names
import Stencil.Variable
import Stencil.Yaml.Document
import Stencil.Yaml.Event
import Stencil.Yaml.Scalar
import Stencil.Yaml.Token
