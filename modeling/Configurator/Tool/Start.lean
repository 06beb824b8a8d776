/-
Tools that start other programs, with other variables or with arguments from the input, and the one that waits.
-/
import Configurator.Tool.Amount

namespace Configurator.Tool.Start

open Host

/-! ## Starting -/

/-- What starting a program comes to. -/
def launchOf (environment : List (String × String)) (name : String) (args : List String) (k : Kernel) :
    Except Fault Executable.Launch :=
  let path := (environment.lookup "PATH").getD "/bin:/usr/bin"
  Executable.findOrScript k Executable.shellPath (fun _ => true) (Raw.bytes path) (Raw.bytes name) (args.map Raw.bytes)

def refusal (fault : Fault) : Nat := if fault = .noEntry then 127 else 126

/-- Runs a program and waits for its end; `prepare` is done in the new process first. -/
def run (c : Call) (prepare : Action Unit) (name : String) (args : List String) : Action (Except Fault Ending) := do
  c.flush
  match ← Work.look (launchOf c.environment name args) with
  | .error fault => return .error fault
  | .ok launch =>
    let _ ← Work.fork (do
      prepare
      Work.become launch c.environment)
    return .ok (((← Work.awaitChild false).map Prod.snd).getD (.exited 0))

/-- Lets the input be empty. -/
def closeInput : Action Unit := do
  match ← Work.openFile "/dev/null" .reading with
  | .ok number =>
    unless number = 0 do
      let _ ← Work.attemptChange (·.duplicate number 0)
      Work.close number
  | .error _ => pure ()

/-! ## Variables -/

/-- Gives a name a value, in its place if it has one and else behind all others. -/
def withBinding (name value : String) (all : List (String × String)) : List (String × String) :=
  if all.any (fun (n, _) => n = name) then all.map (fun (n, v) => (n, if n = name then value else v))
  else all ++ [(name, value)]

def isBlank (c : Char) : Bool := c = ' ' || c = '\t' || c = '\n'

/-- The words of a text. -/
def wordsOf (text : String) : List String :=
  let spaced := text.toList.map (fun c => if isBlank c then ' ' else c)
  ((Text.pieces ' ' spaced).filter (· ≠ [])).map String.ofList

/-- A command line with the text of a first option that is to be split as its first words. -/
def splitFirst : List String → List String
  | [] => []
  | arg :: rest =>
    match arg.toList, rest with
    | ['-', 'S'], text :: rest => wordsOf text ++ rest
    | '-' :: 'S' :: text, rest => wordsOf (String.ofList text) ++ rest
    | _, rest => arg :: rest

/-- Becomes another program with other variables; without a program, shows the variables. -/
def env (c : Call) : Action Unit :=
  let split : Call := { c with args := splitFirst c.args }
  split.withOptions { letters := "i", inOrder := true, status := 125 } (fun o => do
    let bindings := o.operands.takeWhile (fun word => word.toList.contains '=')
    let environment := bindings.foldl (fun all (word : String) =>
      let name := word.toList.takeWhile (· ≠ '=')
      withBinding (String.ofList name) (String.ofList (word.toList.drop (name.length + 1))) all)
      (if o.has 'i' then [] else c.environment)
    match o.operands.drop bindings.length with
    | [] => environment.forM (fun (name, value) => c.print (name ++ "=" ++ value ++ "\n"))
    | name :: args =>
      match ← Work.look (launchOf environment name args) with
      | .ok launch => Work.become launch environment
      | .error fault =>
        c.fault (Quote.name name ++ ": " ++ fault.words) (refusal fault)
        if fault = .noEntry && name.toList.contains ' ' then
          c.report "use -[v]S to pass options in shebang lines")

/-! ## Time -/

/-- The microseconds that a number of seconds spells. -/
def interval? (text : String) : Option Nat :=
  let whole := text.toList.takeWhile Char.isDigit
  match Amount.digits? whole, text.toList.drop whole.length with
  | some seconds, [] => some (seconds * 1000000)
  | some seconds, '.' :: fraction =>
    (Amount.digits? ((fraction ++ List.replicate 6 '0').take 6)).map (seconds * 1000000 + ·)
  | _, _ => none

/-- Waits. -/
def sleep (c : Call) : Action Unit :=
  c.withOptions { least := 1 } (fun o => do
    match o.operands.filter (fun text => (interval? text).isNone) with
    | [] => Work.sleep (o.operands.foldl (fun n text => n + (interval? text).getD 0) 0)
    | bad =>
      bad.dropLast.forM (fun text => c.report ("invalid time interval " ++ Quote.word text))
      c.misuse ("invalid time interval " ++ Quote.word (bad.getLast?.getD "")) 1)

/-! ## Arguments from the input -/

/-- Parts of a list of a length; `fuel` bounds their number. -/
def chunks {α : Type} (size : Nat) : (fuel : Nat) → List α → List (List α)
  | 0, _ | _ + 1, [] => []
  | fuel + 1, items => items.take size :: chunks size fuel (items.drop size)

/-- Runs a program for each group of arguments; gives the status. -/
def eachGroup (c : Call) (name : String) (args : List String) : (status : Nat) → List (List String) → Action Nat
  | status, [] => return status
  | status, words :: rest => do
    match ← run c closeInput name (args ++ words) with
    | .error fault =>
      c.report (name ++ ": " ++ fault.words)
      return refusal fault
    | .ok (.killed signal) =>
      c.report (name ++ ": terminated by signal " ++ toString signal)
      return 125
    | .ok (.exited 255) =>
      c.report (name ++ ": exited with status 255; aborting")
      return 124
    | .ok (.exited code) => eachGroup c name args (if code = 0 then status else 123) rest

/-- Runs a program with arguments from the input. -/
def xargs (c : Call) : Action Unit :=
  c.withOptions { letters := "n:", inOrder := true } (fun o => do
    match ← Work.readAll 0 with
    | .error fault => c.die ("read error: " ++ fault.words) 1
    | .ok bytes =>
      let words := wordsOf (Raw.ofArray bytes)
      let groups ← match o.value? 'n' with
        | none => pure [words]
        | some text =>
          match Amount.digits? text.toList with
          | some 0 => c.misuse "value 0 for -n option should be >= 1" 1
          | some most => pure (if words.isEmpty then [[]] else chunks most words.length words)
          | none => c.misuse ("invalid number \"" ++ text ++ "\" for -n option") 1
      match o.operands with
      | [] => setStatus (← eachGroup c "echo" [] 0 groups)
      | name :: args => setStatus (← eachGroup c name args 0 groups))

end Configurator.Tool.Start
