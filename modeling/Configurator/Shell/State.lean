/-
A running script between two commands: its arguments and variables, its options, what it does on signals
and the processes beside it.
-/
import Configurator.Shell.Script
import Configurator.Host.Work

namespace Configurator.Shell

open Host

/-- Why the commands that follow are not run. -/
inductive Halt where
  /-- The script ends with a status. -/
  | ended (status : Nat)
  /-- Loops are left. -/
  | broken (levels : Nat)
  /-- Loops go on with their next turn. -/
  | continued (levels : Nat)
  /-- A function is left; `told` tells whether its status was told. -/
  | returned (told : Bool)
  /-- The shell gives up because of a fault. -/
  | failed
  deriving DecidableEq, Repr

/-- A variable, which may be without a value. -/
structure Variable where
  value : Option String := none
  /-- Whether programs get to see it. -/
  exported : Bool := false
  /-- Whether it keeps its value. -/
  fixed : Bool := false
  /-- The values of an array, which has no other value. -/
  elements : Option (List String) := none
  deriving DecidableEq, Repr

/-- The value that counts where one is asked for: of an array the first. -/
def Variable.single (v : Variable) : Option String :=
  match v.elements with
  | some elements => elements.head?
  | none => v.value

/-- What gets back its value when a function is left. -/
inductive Saved where
  | value (name : String) (was : Variable)
  | options (letters : List Char)
  deriving DecidableEq, Repr

/-- Whether what follows in a function or a file is not run. -/
def Halt.leavesFunction : Halt → Bool
  | returned _ => true
  | _ => false

/-- Processes that a shell has started together. -/
structure Job where
  /-- The place in the table of jobs, counted from one. -/
  place : Nat
  /-- The processes, each with how it ended, if it has. -/
  members : List (Nat × Option Ending) := []
  /-- Whether its end has been waited for. -/
  waited : Bool := false
  deriving DecidableEq, Repr

def Job.isDone (j : Job) : Bool := j.members.all (fun (_, ending) => ending.isSome)

/-- The status that an end leads to. -/
def statusOf : Ending → Nat
  | .exited status => status
  | .killed signal => 128 + signal

/-- The status of a job: that of its last process. -/
def Job.status (j : Job) : Nat := ((j.members.getLast?.bind Prod.snd).map statusOf).getD 0

/-- A script between two commands. -/
structure State where
  /-- The name under which the script was started. -/
  program : String
  args : List String
  bindings : List (String × Variable) := []
  /-- What other words stand for where a command begins, the latest last. -/
  aliases : List (String × String) := []
  functions : List (String × Command) := []
  /-- The names of the programs whose places are known. -/
  located : List String := []
  status : Nat := 0
  /-- The number of the process that was started as a shell. -/
  process : Nat := 0
  /-- The status with which the script ends unless another is told, while something is done on a signal or
  at the end. -/
  kept : Option Nat := none
  /-- What is to be written when the current command of the shell has ended. -/
  unwritten : String := ""
  halt : Option Halt := none
  /-- The letters of the options that are switched on. -/
  options : List Char := []
  /-- Whether a failure is looked at by a condition. -/
  guarded : Bool := false
  /-- The status of the last command that ran to find the words of the current one. -/
  substituted : Option Nat := none
  line : Nat := 0
  /-- The line that reading has come to. -/
  reached : Nat := 0
  /-- Whether a text that is run has had a command. -/
  ran : Bool := false
  /-- The command of the shell that is at work, or the file whose text is run, as complaints name it. -/
  context : Option String := none
  /-- How many loops the current command stands in. -/
  loops : Nat := 0
  /-- How many functions the current command stands in. -/
  calls : Nat := 0
  /-- How many texts that are run stand in one another. -/
  depth : Nat := 0
  /-- What gets back its value when the current function is left, the latest first. -/
  locals : Option (List Saved) := none
  /-- The working directory as it was reached, links included. -/
  directory : String := ""
  /-- What is to be done on a signal, or at the end, which has number 0. -/
  traps : List (Nat × String) := []
  /-- The signals that were to be ignored when the shell was started. -/
  ignored : List Nat := []
  /-- The processes beside the shell, the latest first. -/
  jobs : List Job := []
  /-- The last process that was started to run beside the script. -/
  beside : Option Nat := none
  /-- The descriptor by which the script is read. -/
  script : Option Nat := none
  dialect : Dialect := .plain

abbrev Action := Work State

namespace State

def has (s : State) (letter : Char) : Bool := s.options.contains letter

/-- Whether a failure ends the script. -/
def strict (s : State) : Bool := s.has 'e'

/-- Whether a variable without a value ends the script. -/
def careful (s : State) : Bool := s.has 'u'

/-- Whether commands are shown before they run. -/
def tracing (s : State) : Bool := s.has 'x'

/-- Whether names of files are left as they are. -/
def literal (s : State) : Bool := s.has 'f'

def named (s : State) (name : String) : Variable := (s.bindings.lookup name).getD {}

def isRich (s : State) : Bool := s.dialect = .rich

def lookup (s : State) (name : String) : Option String := (s.named name).single

/-- Sets a variable as a whole; one about which there is nothing to know is forgotten. Where programs are
has to be found out anew when the search path changes. -/
def put (s : State) (name : String) (v : Variable) : State :=
  let others := s.bindings.filter (fun (n, _) => n ≠ name)
  { s with
    bindings := if v = {} then others else (name, v) :: others
    located := if name = "PATH" then [] else s.located }

/-- Gives a variable a value. -/
def assign (s : State) (name value : String) : State :=
  let v := s.named name
  s.put name { v with value := value, elements := none, exported := v.exported || s.has 'a' }

/-- Gives a variable that programs get to see a value. -/
def provide (s : State) (name value : String) : State :=
  s.put name { s.named name with value := some value, exported := true }

/-- Notes that the place of a program is known. -/
def noteLocated (s : State) (name : String) : State :=
  { s with located := if s.located.contains name then s.located else s.located ++ [name] }

end State

/-! ## Small actions -/

/-- Writes a text to the output when the current command of the shell has ended. -/
def print (text : String) : Action Unit := modify (fun s => { s with unwritten := s.unwritten ++ text })

def warn (text : String) : Action Unit := Work.say 2 text

def setStatus (status : Nat) : Action Unit := modify (fun s => { s with status := status })

/-- Ends the script. -/
def endWith (status : Nat) : Action Unit := modify (fun s => { s with halt := some (.ended status) })

/-- What stands in front of a complaint about the current line. -/
def State.front (s : State) : String :=
  s.program ++ (if s.isRich then ": line " else ": ") ++ toString s.line ++ ": "

/-- Writes a complaint about the current line. -/
def complain (text : String) : Action Unit := do
  let s ← get
  warn (s.front ++ (s.context.map (· ++ ": ")).getD "" ++ text ++ "\n")

/-- Defines a function. -/
def State.define (s : State) (name : String) (body : Command) : State :=
  { s with functions := (name, body) :: s.functions.filter (fun (n, _) => n ≠ name) }

def atLine (line : Nat) : Action Unit := modify (fun s => { s with line := line })

def giveUp : Action Unit := modify (fun s => { s with halt := some .failed, status := 2 })

/-- Writes a complaint and gives up. -/
def abort (text : String) : Action Unit := do
  complain text
  giveUp

def isGoing : Action Bool := do return (← get).halt.isNone

/-- Does something for each of some things, as long as nothing keeps it from that. -/
def forEach {α : Type} (things : List α) (each : α → Action Unit) : Action Unit :=
  Work.each (fun thing => do if ← isGoing then each thing) things

end Configurator.Shell
