import Configurator.Answer
import Configurator.Builder
import Configurator.CommandLine
import Configurator.Config
import Configurator.Dialogue
import Configurator.Dialogue.Console
import Configurator.Dialogue.Prepared
import Configurator.Discovery
import Configurator.Document
import Configurator.Elapsed
import Configurator.Error
import Configurator.Fault
import Configurator.Feature
import Configurator.Host.Disk
import Configurator.Host.Executable
import Configurator.Host.Kernel
import Configurator.Host.Schedule
import Configurator.Host.Signal
import Configurator.Host.Work
import Configurator.Invocation
import Configurator.Kind
import Configurator.Log.Event
import Configurator.Log.Expression
import Configurator.Log.Expression.Reader
import Configurator.Log.Filter
import Configurator.Log.Pattern
import Configurator.Machine
import Configurator.Main
import Configurator.Outcome
import Configurator.Path
import Configurator.Profile
import Configurator.Program
import Configurator.Proofs.Container.Members
import Configurator.Proofs.Dialogue.Correspondence
import Configurator.Proofs.Dialogue.Lines
import Configurator.Proofs.Dialogue.Profile
import Configurator.Proofs.Dialogue.Reading
import Configurator.Proofs.Dialogue.Recording
import Configurator.Proofs.Discovery.Exact
import Configurator.Proofs.Discovery.Found
import Configurator.Proofs.Discovery.Order
import Configurator.Proofs.Path.Components
import Configurator.Proofs.Plan.Order
import Configurator.Proofs.Plan.Outcome
import Configurator.Proofs.Sources.Exclusion
import Configurator.Proofs.Sources.Gathering
import Configurator.Proofs.Tree.Contents
import Configurator.Proofs.Workspace.Resolution
import Configurator.Shell.Alias
import Configurator.Shell.Arithmetic
import Configurator.Shell.Brace
import Configurator.Shell.Builtin
import Configurator.Shell.Condition
import Configurator.Shell.Directory
import Configurator.Shell.Expand
import Configurator.Shell.Field
import Configurator.Shell.Format
import Configurator.Shell.Fraction
import Configurator.Shell.Glob
import Configurator.Shell.Grammar
import Configurator.Shell.Jobs
import Configurator.Shell.Line
import Configurator.Shell.Operand
import Configurator.Shell.Options
import Configurator.Shell.Process
import Configurator.Shell.Question
import Configurator.Shell.Reader
import Configurator.Shell.Redirect
import Configurator.Shell.Run
import Configurator.Shell.Script
import Configurator.Shell.Settle
import Configurator.Shell.Signal
import Configurator.Shell.Simple
import Configurator.Shell.State
import Configurator.Shell.Variables
import Configurator.SortedSet
import Configurator.Sources
import Configurator.Text.Alphanumeric
import Configurator.Text.Blank
import Configurator.Text.ControlSequence
import Configurator.Text.Extending
import Configurator.Text.Pieces
import Configurator.Text.Quoted
import Configurator.Text.Raw
import Configurator.Text.Unprintable
import Configurator.Tool.Amount
import Configurator.Tool.Basic
import Configurator.Tool.Calculate
import Configurator.Tool.Edit
import Configurator.Tool.Expression
import Configurator.Tool.Files
import Configurator.Tool.Lines
import Configurator.Tool.Listing
import Configurator.Tool.Mode
import Configurator.Tool.Moment
import Configurator.Tool.Name
import Configurator.Tool.Print
import Configurator.Tool.Quote
import Configurator.Tool.Search
import Configurator.Tool.Start
import Configurator.Tool.Table
import Configurator.Tool.Translate
import Configurator.Tool.View
import Configurator.Tree
import Configurator.Utf8
import Configurator.Workspace
import Configurator.Proofs.Dialogue.Rehearsal
import Configurator.Proofs.Workspace.Making
import Configurator.Proofs.Program.Stage
import Configurator.Proofs.Program.Course
import Configurator.Proofs.Program.Effects
import Configurator.Proofs.Program.Status
import Configurator.Proofs.Path.Joining
import Configurator.Proofs.Plan.Relocation
import Configurator.Proofs.Dialogue.Limit
import Configurator.Proofs.Dialogue.Accounting
import Configurator.Proofs.Plan.Steps
import Configurator.Proofs.Program.DryRun
import Configurator.Proofs.Path.Respelling
import Configurator.Proofs.Sources.Difference
import Configurator.Proofs.Config.Adjusting
import Configurator.Proofs.Plan.Meaning
import Configurator.Proofs.Invocation.Tokens
import Configurator.Proofs.Document.Json
import Configurator.Proofs.Document.Reading
import Configurator.Proofs.Program.Shown
import Configurator.Proofs.Text.Boundary
import Configurator.Proofs.Text.Lenient
import Configurator.Proofs.Sources.Collecting
import Configurator.Proofs.Sources.Endings
import Configurator.Proofs.Dialogue.Rounds
import Configurator.Proofs.Plan.Tokens
import Configurator.Proofs.Text.Words
import Configurator.Proofs.Dialogue.Answers
import Configurator.Proofs.Config.Parts
import Configurator.Proofs.Invocation.Splitting
import Configurator.Proofs.Elapsed.Reading
import Configurator.Proofs.Text.Quoting
import Configurator.Proofs.Kind.Message
import Configurator.Proofs.CommandLine.Items
import Configurator.Proofs.CommandLine.Wording
