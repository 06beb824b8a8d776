/-
What running commands has to do with processes: ending them, becoming other programs, and taking what a command
prints. Everything that runs commands takes what runs a task as a parameter.
-/
import Configurator.Shell.Options
import Configurator.Shell.Redirect

namespace Configurator.Shell

open Host

/-- What is to be run. -/
inductive Task where
  /-- A command; `final` tells whether the process ends with it. -/
  | command (command : Command) (final : Bool)
  /-- The lines of a script up to its last line. More of them may be read by a descriptor; `final` tells
  whether the process ends with the script. -/
  | script (feed : Option Nat) (last : Nat) (source : Source) (final : Bool)
  /-- The turns of a loop that are left, with the status of the last one. -/
  | turns (until_ : Bool) (condition body : Command) (status : Nat)

/-- The task of running a text as a script whose first line has a number. -/
def Task.ofText (text : String) (line : Nat) (final : Bool) : Task :=
  let source := sourceAt line text.toList
  .script none (Reader.lastLine source) source final

namespace Run

def pathOf (s : State) : Bytes := Raw.bytes ((s.lookup "PATH").getD "")

/-- Whether a command is none. -/
def isNothing : Command → Bool
  | .nothing => true
  | _ => false

section Processes

variable (again : Task → Action Unit)

/-! ## Processes -/

/-- Ends the process: what is set for its end is done first. -/
def leave : Action Unit := do
  let s ← get
  let status := match s.halt with
    | some (.ended status) => status
    | some .failed => 2
    | _ => s.status
  match s.traps.lookup 0 with
  | none => Work.exit status
  | some action =>
    set { s with
      halt := none
      status := status
      kept := some status
      traps := s.traps.filter (fun (n, _) => n ≠ 0)
      context := none
      guarded := false }
    again (.ofText action 1 false)
    match (← get).halt with
    | some (.ended status) => Work.exit status
    | some .failed => Work.exit 2
    | _ => Work.exit status

/-- Runs a command as the last thing that the process does. -/
def runAndLeave (command : Command) : Action Unit := do
  again (.command command true)
  leave again

/-- Makes a descriptor lead where another one leads, which is closed. -/
def move (source target : Nat) : Action Unit := do
  unless source = target do
    let _ ← Work.attemptChange (·.duplicate source target)
    Work.close source

/-- What a command prints, without the line ends behind it. The status of the command is kept apart. -/
def substitute (command : Command) : Action String := do
  if isNothing command then
    modify (fun s => { s with substituted := some s.status })
    return ""
  let (reading, writing) ← Work.system (fun k =>
    let (k, sides) := k.makePipe
    (sides, k))
  let child ← Jobs.start .front (do
    Work.close reading
    move writing 1
    modify (fun s => { s with guarded := false })
    runAndLeave again command)
  let place ← Jobs.add [child]
  Work.close writing
  let bytes := match ← Work.readAll reading with
    | .ok bytes => bytes
    | .error _ => .empty
  Work.close reading
  let status ← Jobs.conclude place
  modify (fun s => { s with substituted := some status })
  let text := (Raw.ofArray bytes).toList.filter (· ≠ '\x00')
  return String.ofList (text.reverse.dropWhile (· = '\n')).reverse

/-! ## Programs -/

/-- The variables that programs get to see. -/
def visible (s : State) : List (String × String) :=
  (Variables.inTable 39 (s.bindings.filter (fun (_, v) => v.exported))).filterMap (fun (name, v) =>
    v.value.map (name, ·))

/-- What starting the program with a name comes to. -/
def findProgram (s : State) (name : String) (operands : List String) (k : Kernel) :
    Except Fault Executable.Launch :=
  Executable.findOrScript k Executable.shellPath (fun _ => true) (pathOf s) (Raw.bytes name) (operands.map Raw.bytes)

/-- What is said when a program cannot be started, and the status. -/
def refusal (name : String) : Fault → String × Nat
  | .noEntry | .notDirectory | .nameTooLong | .linkLoop => (name ++ ": not found", 127)
  | fault => (name ++ ": " ++ fault.words, 126)

/-- Runs the program with a name, in place of the shell if that is `final`. -/
def program (final : Bool) (name : String) (operands : List String) : Action Unit := do
  let s ← get
  match ← Work.look (findProgram s name operands) with
  | .ok launch =>
    unless name.toList.contains '/' do modify (·.noteLocated name)
    let environment := visible s
    if final then Work.become launch environment
    else
      let child ← Jobs.start .front (Work.become launch environment)
      let place ← Jobs.add [child]
      setStatus (← Jobs.conclude place)
  | .error fault =>
    let (text, status) := refusal name fault
    complain text
    setStatus status

/-! ## Texts -/

/-- How deep texts that are run may stand in one another. -/
def depthLimit : Nat := 10000

/-- Runs a task inside the current command; complaints name its context. A text without commands
succeeds. -/
def runInside (context : String) (guarded : Bool) (task : Task) : Action Unit := do
  let before ← get
  if depthLimit ≤ before.depth then Work.finish (.killed Signal.memory)
  set { before with context := some context, ran := false, guarded := guarded, depth := before.depth + 1 }
  again task
  modify (fun s => { s with
    context := before.context
    ran := before.ran
    guarded := before.guarded
    depth := before.depth
    status := if s.ran || s.halt.isSome then s.status else 0 })

/-- Opens a script, where the script itself does not see it. -/
def openScript (path : String) : Action (Except String Nat) := do
  match ← Redirect.openInput path with
  | .error text => return .error text
  | .ok number => return .ok (← Work.system (Redirect.hide number))

/-- Writes what a command of the shell has left to be written; tells why that was not possible. -/
def flush : Action (Option Fault) := do
  let text := (← get).unwritten
  if text = "" then return none
  modify (fun s => { s with unwritten := "" })
  match ← Work.write 1 (Raw.toArray text) with
  | .ok () => return none
  | .error fault => return some fault

end Processes

end Run

end Configurator.Shell
