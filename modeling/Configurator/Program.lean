/-
A whole run of the tool, from its arguments, its standard input and the file system around it to what
it prints, its exit status, the file system afterwards and what the system was asked to start. The run
is a chain of stages; the first one that fails ends it with a message and status 1. Whatever runs the
compiler is a parameter; a run on the machine is the run with the machine as runner.
-/
import Configurator.CommandLine
import Configurator.Dialogue.Console
import Configurator.Document
import Configurator.Log.Filter
import Configurator.Machine

namespace Configurator.Program

/-! ## Input and result -/

/-- What a run starts from. -/
structure Surroundings where
  args : List String
  input : Bytes := []
  /-- The text of the log filter in the environment, if it is set. -/
  logFilter : Option String := none
  workspace : Workspace
  deriving Repr

/-- Why a run stopped short. -/
inductive Failure where
  | directoryUnknown (directory : Path) (fault : Fault)
  | directoryRefused (directory : Path) (fault : Fault)
  | unanswered (cause : PromptError)
  | unplanned (cause : BuildError)
  | noOutputDirectory (fault : Fault)
  | notRun (cause : BuildError)
  deriving DecidableEq, Repr

/-- What a run leaves behind. -/
structure Report where
  exit : Nat
  /-- Why the run stopped short, if it did. -/
  failure : Option Failure
  output : Bytes
  /-- What the run noted, filtered or not. -/
  journal : List Log.Event
  /-- Everything on standard error: remarks about the log filter, the log lines that pass, what
  programs wrote, the message, and what programs wrote later. -/
  errors : Bytes
  workspace : Workspace
  /-- What the system was asked to start. -/
  started : List Machine.Command
  deriving Repr

/-- How a run ends: its command line is refused, or it leaves a report. -/
inductive Conclusion where
  | refused (fault : CommandLine.UsageFault)
  | finished (report : Report)
  deriving Repr

/-! ## Stages -/

/-- The cause behind an unanswered question, where there is one. -/
def promptCause : PromptError → String
  | .closed => ""
  | .stream fault => ": " ++ fault.text

/-- The cause behind a build error, where there is one. -/
def buildCause : BuildError → String
  | .start _ detail => ": " ++ detail
  | _ => ""

/-- The message of a failure: what was tried, what went wrong, and the cause behind it. -/
def Failure.message : Failure → String
  | directoryUnknown directory fault =>
    "Failed to resolve directory " ++ directory.display ++ ": " ++ fault.text
  | directoryRefused directory fault =>
    "Failed to change to directory " ++ directory.display ++ ": " ++ fault.text
  | unanswered cause => cause.message ++ promptCause cause
  | unplanned cause => "Failed to plan build: " ++ cause.message ++ buildCause cause
  | noOutputDirectory fault =>
    "Failed to create " ++ Profile.outputDirectory ++ ": " ++ fault.text
  | notRun cause => "Build failed: " ++ cause.message ++ buildCause cause

/-- Everything that a run changes while it goes on. -/
structure State where
  /-- The whole input. -/
  input : Bytes
  console : Console
  workspace : Workspace
  trace : Machine.Trace := {}
  /-- What was printed besides the dialogue, which comes first. -/
  printed : Bytes := []

/-- A stage of a run: it changes the state and may fail. -/
abbrev Stage := ExceptT Failure (StateM State)

/-- Notes an event. -/
def note (event : Log.Event) : Stage Unit := do
  modify (fun s => { s with console := { s.console with journal := s.console.journal ++ [event] } })

/-- Prints a line. -/
def printLine (line : String) : Stage Unit := do
  modify (fun s => { s with printed := s.printed ++ Utf8.bytes (line ++ "\n") })

/-- The event of a changed working directory. -/
def directoryChanged (directory : Path) : Log.Event where
  level := .debug
  area := .program
  message := "changed working directory"
  fields := [("directory", directory.display)]

/-- The event of answers that come from a stream. -/
def readingLines : Log.Event where
  level := .debug
  area := .terminal
  message := "stdin is not a terminal; reading answers line by line"

/-- Changes to the directory that the options name. -/
def enterDirectory : Option String → Stage Unit
  | none => pure ()
  | some text => do
    let s ← get
    let path := Path.ofString text
    match s.workspace.follow path with
    | .error fault => throw (.directoryUnknown path fault)
    | .ok ⟨names, .leaf _⟩ => throw (.directoryRefused (Workspace.absolute names) .notDirectory)
    | .ok ⟨names, .dir _⟩ =>
      set { s with workspace := { s.workspace with here := names } }
      note (directoryChanged (Workspace.absolute names))

/-- Finds out what to build; none when the user quits. -/
def chooseProfile (args : List String) : Stage (Option Profile) := do
  note readingLines
  let s ← get
  let (result, console) := (Dialogue.resolveProfile args).run.run s.console
  set { s with console := console }
  match result with
  | .ok profile => pure profile
  | .error cause => throw (.unanswered cause)

/-- Plans the build. -/
def makePlan (config : Config) (profile : Profile) : Stage Invocation := do
  let s ← get
  let plan := Plan.make s.workspace config profile
  plan.events.forM note
  match plan.invocation with
  | .ok i => pure i
  | .error cause => throw (.unplanned cause)

/-- The plan for other programs. -/
def planDocument (profile : Profile) (i : Invocation) : Document := ⟨[
  ("argv", .list i.argv),
  ("flags", .list profile.flags),
  ("output", .text profile.outputFile),
  ("profile", .text profile.kind.name),
  ("sources", .list i.sources)]⟩

/-- The plan for a reader. -/
def planLines (profile : Profile) (i : Invocation) : List String := [
  "  Profile: " ++ profile.kind.name,
  "  Output: " ++ profile.outputFile,
  "  Sources: " ++ toString i.sources.length,
  i.display]

/-- Prints the plan. -/
def printPlan (profile : Profile) (i : Invocation) : Format → Stage Unit
  | .json => printLine (planDocument profile i).render
  | .text => (planLines profile i).forM printLine

/-- Makes the directory of everything that is built. -/
def makeOutputDirectory : Stage Unit := do
  let s ← get
  match s.workspace.ensureDirectory (Utf8.bytes Profile.outputDirectory) with
  | .ok ws => set { s with workspace := ws }
  | .error fault => throw (.noOutputDirectory fault)

/-- How many bytes of input are fetched at a time. -/
def fetchSize : Nat := 8192

/-- The input that was not fetched to answer questions; the compiler may read it. -/
def unfetched (input unread : Bytes) : Bytes :=
  let read := input.length - unread.length
  input.drop (fetchSize * ((read + fetchSize - 1) / fetchSize))

/-- Runs the compiler. -/
def runCompiler (runner : Runner Machine.Trace) (i : Invocation) : Stage Outcome := do
  let s ← get
  let (result, ws, trace) := runner.run i s.workspace
    { s.trace with input := unfetched s.input s.console.unread }
  set { s with
    workspace := ws
    trace := { trace with output := [] }
    printed := s.printed ++ trace.output }
  match result with
  | .ok outcome => pure outcome
  | .error cause => throw (.notRun cause)

/-- The exit status of a run and, if the compiler failed, the message about it. -/
structure Verdict where
  exit : Nat
  complaint : Option String := none

/-- Reports how the compiler ended. -/
def report (profile : Profile) (outcome : Outcome) : Stage Verdict := do
  if outcome.success then
    printLine ("✓ Built " ++ profile.outputFile ++ " in " ++ outcome.elapsed.text)
    return ⟨0, none⟩
  else
    match outcome.code with
    | some code =>
      return ⟨outcome.failureStatus, some ("Compiler exited with status " ++ toString code)⟩
    | none => return ⟨outcome.failureStatus, some "Compiler was terminated by a signal"⟩

/-- Builds a profile, or shows how it would be built. -/
def build (runner : Runner Machine.Trace) (config : Config) (options : CommandLine.Options)
    (profile : Profile) : Stage Verdict := do
  let i ← makePlan config profile
  if options.dryRun then
    printPlan profile i options.planFormat
    return ⟨0, none⟩
  else
    if profile.echoes then printLine i.display
    makeOutputDirectory
    let outcome ← runCompiler runner i
    report profile outcome

/-- Finds out what to build, and builds it. -/
def command (runner : Runner Machine.Trace) (config : Config) (options : CommandLine.Options) :
    Stage Verdict := do
  match ← chooseProfile options.args with
  | none =>
    printLine "• Nothing built"
    return ⟨0, none⟩
  | some profile => build runner config options profile

/-- All stages of a run. -/
def stages (runner : Runner Machine.Trace) (config : Config) (options : CommandLine.Options) :
    Stage Verdict := do
  enterDirectory options.directory
  command runner config options

/-! ## The whole run -/

/-- The log filter of a run: everything down to debug when the options ask for it, else what the
environment says, else errors only. -/
def filterOf (options : CommandLine.Options) (logFilter : Option String) : Log.Filter :=
  if options.verbose then .upTo .debug
  else
    match logFilter with
    | some text => .parse text
    | none => .errorsOnly

/-- The remarks about a log filter that counts. -/
def remarksOf (options : CommandLine.Options) (logFilter : Option String) : List String :=
  if options.verbose then [] else Log.Filter.remarks (logFilter.getD "")

/-- A failure's or complaint's line on standard error. -/
def complaintLine (message : String) : String := "✗ " ++ message ++ "\n"

/-- The exit status and the message of the result of all stages. -/
def verdictOf : Except Failure Verdict → Verdict
  | .ok verdict => verdict
  | .error failure => ⟨1, some failure.message⟩

/-- Why all stages stopped short, if they did. -/
def failureOf : Except Failure Verdict → Option Failure
  | .ok _ => none
  | .error failure => some failure

/-- The state in which a run begins. -/
def State.initial (s : Surroundings) : State where
  input := s.input
  console := { unread := s.input }
  workspace := s.workspace

/-- A run by a configuration. -/
def executeWith (runner : Runner Machine.Trace) (config : Config) (options : CommandLine.Options)
    (s : Surroundings) : Report :=
  let (result, last) := (stages runner config options).run.run (.initial s)
  let verdict := verdictOf result
  let record := last.console.journal.map .event ++ last.trace.record
  let passes := (filterOf options s.logFilter).passes
  { exit := verdict.exit
    failure := failureOf result
    output := last.console.written ++ last.printed ++ last.trace.lateOutput
    journal := record.filterMap Log.Entry.event?
    errors := Utf8.bytes (String.join ((remarksOf options s.logFilter).map (· ++ "\n"))) ++
      record.flatMap (Log.Entry.bytes passes) ++
      Utf8.bytes ((verdict.complaint.map complaintLine).getD "") ++ last.trace.lateErrors
    workspace := last.workspace
    started := last.trace.started }

/-- A run whose command line was understood; the options make the configuration. -/
def execute (runner : Runner Machine.Trace) (options : CommandLine.Options) (s : Surroundings) :
    Report :=
  executeWith runner options.config options s

/-- A report of a run that prints a fixed text and does nothing. -/
def printOnly (text : String) (s : Surroundings) : Report where
  exit := 0
  failure := none
  output := Utf8.bytes text
  journal := []
  errors := []
  workspace := s.workspace
  started := []

/-- The whole run with a given runner of programs. -/
def runWith (runner : Runner Machine.Trace) (s : Surroundings) : Conclusion :=
  match CommandLine.parse s.args with
  | .ok options => .finished (execute runner options s)
  | .error .help => .finished (printOnly CommandLine.helpText s)
  | .error .version => .finished (printOnly CommandLine.versionText s)
  | .error (.fault fault) => .refused fault

/-- The variables that the compiler gets to see. -/
def environment (s : Surroundings) : List (String × String) :=
  Machine.environment ++ [("NO_COLOR", "1")] ++ (s.logFilter.map ("RUST_LOG", ·)).toList

/-- The whole run on the machine. -/
def run (s : Surroundings) : Conclusion := runWith (Machine.runner (environment s)) s

end Configurator.Program
