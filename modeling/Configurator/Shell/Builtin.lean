/-
The commands that are part of the shell and do not run other commands. A fault of one that belongs to
the language itself ends the script; any other fault is a status.
-/
import Configurator.Shell.Alias
import Configurator.Shell.Condition
import Configurator.Shell.Directory
import Configurator.Shell.Line
import Configurator.Shell.Options
import Configurator.Shell.Signal

namespace Configurator.Shell.Builtin

open Host

/-! ## Control -/

/-- Leaves loops, or goes on with their next turn. -/
def leaveLoops (halt : Nat → Halt) (operands : List String) : Action Unit :=
  Operand.withFirst operands 1 (fun n => do
    let s ← get
    if n = 0 then abort ("Illegal number: " ++ operands.head?.getD "")
    else set { s with halt := if s.loops = 0 then none else some (halt (min n s.loops)), status := 0 })

/-- Leaves a function. -/
def leaveFunction (operands : List String) : Action Unit := do
  Operand.withFirst operands (← get).status (fun n =>
    modify (fun s => { s with halt := some (.returned !operands.isEmpty), status := n }))

/-- Ends the script. -/
def exit (operands : List String) : Action Unit := do
  let s ← get
  Operand.withFirst operands (s.kept.getD s.status) endWith

/-! ## Printing and testing -/

/-- Writes a text and succeeds. -/
def succeed (text : String) : Action Unit := do
  print text
  setStatus 0

/-- Writes texts, as the dialect does that. -/
def echo (operands : List String) : Action Unit := do
  succeed (if (← get).isRich then Format.echoByOptions operands else Format.echo operands)

/-- Writes what a format and operands give; in the rich dialect a directive can ask for a text that a script can
take for a word. -/
def printf (operands : List String) : Action Unit :=
  Operand.withOptions "" operands (fun _ words => do
    match words with
    | [] => abort "usage: printf format [arg ...]"
    | format :: words =>
      let quote := if (← get).isRich then some Operand.backslashed else none
      let (text, complaints, status) := Format.printf { quote := quote } format words
      print text
      forEach (complaints.map Prod.snd) complain
      setStatus status)

/-- Tests a condition. -/
def test (operands : List String) : Action Unit := do
  match ← Work.look (fun k => Condition.holds k operands) with
  | .ok value => setStatus (if value then 0 else 1)
  | .error text => abort text

/-- Tests a condition between brackets. -/
def bracket (operands : List String) : Action Unit :=
  if operands.getLast? = some "]" then test operands.dropLast else abort "missing ]"

/-! ## The table -/

/-- The command with a name. -/
def find? (name : String) : Option (List String → Action Unit) :=
  match name with
  | ":" | "true" => some (fun _ => setStatus 0)
  | "false" => some (fun _ => setStatus 1)
  | "echo" => some echo
  | "printf" => some printf
  | "test" => some test
  | "[" => some bracket
  | "pwd" => some Directory.present
  | "cd" | "chdir" => some Directory.change
  | "umask" => some Directory.restrict
  | "read" => some Line.readInto
  | "set" => some Options.assign
  | "shift" => some Options.shift
  | "local" => some Variables.keepLocal
  | "export" => some Variables.exportAll
  | "readonly" => some Variables.fixAll
  | "unset" => some Variables.unset
  | "alias" => some Alias.set
  | "kill" => some Signal.send
  | "trap" => some Signal.trap
  | "wait" => some Jobs.wait
  | "exit" => some exit
  | "return" => some leaveFunction
  | "break" => some (leaveLoops .broken)
  | "continue" => some (leaveLoops .continued)
  | _ => none

/-- Whether a command belongs to the language itself. -/
def isSpecial (name : String) : Bool := specialCommands.contains name

end Configurator.Shell.Builtin
