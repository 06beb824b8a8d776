/-
Signals: sending them and setting what is to be done on them.
-/
import Configurator.Shell.Jobs

namespace Configurator.Shell.Signal

open Host

/-! ## Names and numbers -/

def endName : String := "EXIT"

/-- The name of a signal, or of the end of the script. -/
def nameOf (number : Nat) : String :=
  if number = 0 then endName else (Host.Signal.names[number - 1]?).getD (toString number)

def ofDigits? (word : String) : Option Nat := (Operand.digits? word).filter (· ≤ Host.Signal.greatest)

/-- The number of the signal that a word names, by its number or its name. -/
def ofWord? (word : String) : Option Nat :=
  match ofDigits? word with
  | some number => some number
  | none => (Host.Signal.names.findIdx? (· = String.ofList (word.toList.map Char.toUpper))).map (· + 1)

/-- The number of the signal, or of the end of the script, that a word names. -/
def ofWordOrEnd? (word : String) : Option Nat :=
  if String.ofList (word.toList.map Char.toUpper) = endName then some 0 else ofWord? word

/-! ## Sending -/

/-- Complains that there is no such process. -/
def missProcess : Action Unit := do
  complain "No such process\n"
  setStatus 1

/-- Sends a signal to a process. -/
def sendTo (number process : Nat) : Action Unit := do
  if ← Work.look (·.exists? process) then
    Work.change (·.signal number process)
    Work.breathe
  else missProcess

/-- Sends a signal to processes. There are no groups of processes that a script could reach. -/
def sendAll (number : Nat) (targets : List String) : Action Unit := do
  setStatus 0
  forEach targets (fun target => do
    match target.toList with
    | '-' :: group => Operand.withNumber (String.ofList group) (fun _ => missProcess)
    | _ => Operand.withNumber target (sendTo number))

/-- Shows the name of a signal, given by its number or by the status it leads to, or all names. -/
def showNames : List String → Action Unit
  | [] => do
    print "0\n"
    forEach Host.Signal.names (fun name => print (name ++ "\n"))
    setStatus 0
  | operand :: _ =>
    Operand.withNumber operand (fun n => do
      let number := if n > 128 then n - 128 else n
      if 1 ≤ number && number ≤ Host.Signal.greatest then
        print (nameOf number ++ "\n")
        setStatus 0
      else abort ("invalid signal number or exit status: " ++ operand))

/-- A fault in the use of the command that sends signals. -/
def misuse : Action Unit :=
  abort "Usage: kill [-s sigspec | -signum | -sigspec] [pid | job]... or\nkill -l [exitstatus]"

/-- Sends a signal. -/
def send (operands : List String) : Action Unit :=
  let signal? := match (operands.head?.getD "").toList with
    | '-' :: name => ofWord? (String.ofList name)
    | _ => none
  match signal? with
  | some number => if operands.length < 2 then misuse else sendAll number (operands.drop 1)
  | none =>
    Operand.withOptions "ls:" operands (fun given words =>
      let list := given.any (fun (c, _) => c = 'l')
      let chosen := (given.filter (fun (c, _) => c = 's')).map (fun (_, name) => (name, ofWord? name))
      match chosen.find? (fun (_, number) => number.isNone) with
      | some (name, _) => abort ("invalid signal number or name: " ++ name)
      | none =>
        match (chosen.getLast?.bind Prod.snd) with
        | some number => if list || words.isEmpty then misuse else sendAll number words
        | none =>
          if list then showNames words
          else if words.isEmpty then misuse
          else sendAll 15 words)

/-! ## Traps -/

/-- Shows what is to be done on signals. -/
def showTraps : Action Unit := do
  let traps := (← get).traps.mergeSort (fun a b => decide (a.1 ≤ b.1))
  forEach traps (fun (number, action) =>
    print ("trap -- " ++ Operand.quoted action ++ " " ++ nameOf number ++ "\n"))
  setStatus 0

/-- Lets the process take note of the signals on which something is to be done, and ignore those on which
nothing is to be done. Those that were ignored from the start stay so. -/
def heed : Action Unit := do
  let s ← get
  let known := s.traps.filter (fun (number, _) => number ≠ 0 && !s.ignored.contains number)
  let noted := (known.filter (fun (_, action) => action ≠ "")).map Prod.fst
  let unheard := (known.filter (fun (_, action) => action = "")).map Prod.fst
  Work.change (·.modifySelf (fun p => { p with noted := noted, ignored := s.ignored ++ unheard }))

/-- Sets what is to be done on the signals that words name, up to the first that names none. -/
def setTraps (action : Option String) : List String → Action Unit
  | [] => setStatus 0
  | word :: rest =>
    match ofWordOrEnd? word with
    | none => do
      warn ("trap: " ++ word ++ ": bad trap\n")
      setStatus 1
    | some number => do
      modify (fun s =>
        let others := s.traps.filter (fun (n, _) => n ≠ number)
        { s with traps := (action.map ((number, ·))).toList ++ others })
      heed
      setTraps action rest

/-- Sets what is to be done on signals, or shows it. A hyphen, or nothing, in place of what is to be done
takes it back. -/
def trap (operands : List String) : Action Unit :=
  Operand.withOptions "" operands (fun _ words =>
    match words with
    | [] => showTraps
    | [word] => setTraps none [word]
    | action :: rest =>
      if (ofDigits? action).isSome then setTraps none words
      else setTraps (if action = "-" then none else some action) rest)

end Configurator.Shell.Signal
