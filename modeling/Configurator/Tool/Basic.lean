/-
Tools: programs of the machine that do one job. A tool reads its options from its arguments, works, and
ends with a status. What it writes is gathered and written in larger pieces, at the latest when it ends;
what it complains about is written at once. A tool that cannot do part of its work says so, goes on and
fails at the end.
-/
import Configurator.Host.Work
import Configurator.Tool.Quote

namespace Configurator.Tool

open Host

/-! ## Options -/

/-- The options of a tool: its letters, with a colon behind those that take a value. -/
structure Usage where
  letters : String := ""
  /-- Whether options stand before all operands. -/
  inOrder : Bool := false
  /-- The status after a misuse. -/
  status : Nat := 1
  /-- How many operands there are at least, and what they are called. -/
  least : Nat := 0
  operand : String := "operand"

/-- Whether a letter takes a value, if it is an option. -/
def takesValue? (letter : Char) : (letters : List Char) → Option Bool
  | [] => none
  | c :: ':' :: rest => if c = letter then some true else takesValue? letter rest
  | c :: rest => if c = letter then some false else takesValue? letter rest

/-- An option as it was spelled: its letter and its value, if it has one, or what is wrong with it. -/
abbrev Spelled := Except String (Char × String)

/-- The options of a command line in their order, and the operands. -/
structure Options where
  spelled : List Spelled := []
  operands : List String := []

def Options.given (o : Options) : List (Char × String) := o.spelled.filterMap Except.toOption

/-- What is wrong with the first that makes none. -/
def Options.fault? (o : Options) : Option String :=
  o.spelled.findSome? (fun option =>
    match option with
    | .error text => some text
    | .ok _ => none)

def Options.has (o : Options) (letter : Char) : Bool := o.given.any (fun (c, _) => c = letter)

/-- The last value of an option. -/
def Options.value? (o : Options) (letter : Char) : Option String :=
  (o.given.filter (fun (c, _) => c = letter)).getLast?.map Prod.snd

/-- The options that letters of one word spell, and the words behind them. -/
def lettersOf (usage : Usage) : List Char → List String → List Spelled × List String
  | [], rest => ([], rest)
  | c :: more, rest =>
    match takesValue? c usage.letters.toList with
    | none =>
      let (others, rest) := lettersOf usage more rest
      (.error ("invalid option -- '" ++ String.ofList [c] ++ "'") :: others, rest)
    | some false =>
      let (others, rest) := lettersOf usage more rest
      (.ok (c, "") :: others, rest)
    | some true =>
      if more ≠ [] then ([.ok (c, String.ofList more)], rest)
      else
        match rest with
        | value :: rest => ([.ok (c, value)], rest)
        | [] => ([.error ("option requires an argument -- '" ++ String.ofList [c] ++ "'")], rest)

/-- The options and operands that words spell; `fuel` bounds the number of words. -/
def optionsOf (usage : Usage) : (fuel : Nat) → List String → Options
  | 0, _ => {}
  | _ + 1, [] => {}
  | fuel + 1, word :: rest =>
    match word.toList with
    | ['-', '-'] => { operands := rest }
    | '-' :: '-' :: _ =>
      let others := optionsOf usage fuel rest
      { others with spelled := .error ("unrecognized option '" ++ word ++ "'") :: others.spelled }
    | '-' :: c :: more =>
      let (options, rest) := lettersOf usage (c :: more) rest
      let others := optionsOf usage fuel rest
      { others with spelled := options ++ others.spelled }
    | _ =>
      if usage.inOrder then { operands := word :: rest }
      else
        let others := optionsOf usage fuel rest
        { others with operands := word :: others.operands }

/-! ## Work -/

/-- How far a tool has come: its status, and what it has not written yet. -/
structure Progress where
  status : Nat := 0
  unwritten : ByteArray := .empty

abbrev Action := Work Progress

/-- A tool under the name by which it was started, with its arguments and the variables it gets to see. -/
structure Call where
  program : String
  args : List String
  environment : List (String × String) := []

def setStatus (status : Nat) : Action Unit := modify (fun p => { p with status := status })

namespace Call

def report (c : Call) (text : String) : Action Unit := Work.say 2 (c.program ++ ": " ++ text ++ "\n")

/-- Reports a fault and fails at the end. -/
def fault (c : Call) (text : String) (status : Nat) : Action Unit := do
  c.report text
  setStatus status

/-- Writes what was gathered. -/
def flush (c : Call) : Action Unit := do
  let bytes := (← get).unwritten
  if !bytes.isEmpty then
    modify (fun p => { p with unwritten := .empty })
    match ← Work.write 1 bytes with
    | .ok () => pure ()
    | .error fault =>
      c.report ("write error: " ++ fault.words)
      Work.exit 1

/-- Ends the tool. -/
def finish {α : Type} (c : Call) : Action α := do
  c.flush
  Work.exit (← get).status

/-- Reports a fault and ends the tool. -/
def die {α : Type} (c : Call) (text : String) (status : Nat) : Action α := do
  c.fault text status
  c.finish

def hint (c : Call) : String := "\nTry '" ++ c.program ++ " --help' for more information."

def misuse {α : Type} (c : Call) (text : String) (status : Nat) : Action α := c.die (text ++ c.hint) status

/-- How many bytes are gathered before they are written. -/
def gatherSize : Nat := 4096

/-- Writes bytes, at the latest when the tool ends. -/
def emit (c : Call) (bytes : ByteArray) : Action Unit := do
  modify (fun p => { p with unwritten := p.unwritten ++ bytes })
  if gatherSize ≤ (← get).unwritten.size then c.flush

/-- Writes a text, at the latest when the tool ends. -/
def print (c : Call) (text : String) : Action Unit := c.emit (Raw.toArray text)

/-- Does the work of a tool with its options and operands and ends it. -/
def withOptions (c : Call) (usage : Usage) (work : Options → Action Unit) : Action Unit := do
  let o := optionsOf usage (c.args.length + 1) c.args
  match o.fault?, o.operands with
  | some text, _ => c.misuse text usage.status
  | none, operands =>
    if usage.least ≤ operands.length then
      work o
      c.finish
    else c.misuse ("missing " ++ usage.operand) usage.status

end Call

/-! ## Reading -/

def unread (path : String) (fault : Fault) : String := Quote.nameIfNeeded path ++ ": " ++ fault.words

/-- Does something with the file that an operand names, a hyphen naming the input. -/
def Call.withInput (c : Call) (operand : String) (explain : String → Fault → String) (status : Nat)
    (use : Nat → Action Unit) : Action Unit := do
  if operand = "-" then use 0
  else
    match ← Work.openFile operand .reading with
    | .error fault => c.fault (explain operand fault) status
    | .ok number =>
      use number
      Work.close number

/-- Does something with each of the files that operands name, or with the input if there are none. -/
def Call.eachInput (c : Call) (operands : List String) (explain : String → Fault → String) (status : Nat)
    (use : String → Nat → Action Unit) : Action Unit :=
  Work.each (fun operand => c.withInput operand explain status (use operand))
    (if operands.isEmpty then ["-"] else operands)

/-- Does something with each block of bytes that can be read by a descriptor, as long as it says so; gives
the fault that ended it. -/
def eachBlock (number size : Nat) (use : ByteArray → Action Bool) : Action (Option Fault) := do
  go Work.turnLimit
where
  /-- Goes on as long as `fuel` lasts. -/
  go : (fuel : Nat) → Action (Option Fault)
  | 0 => return none
  | fuel + 1 => do
    Work.breathe
    match ← Work.read number size with
    | .error fault => return some fault
    | .ok bytes => if bytes.isEmpty then return none else if ← use bytes then go fuel else return none

/-- How many bytes are read at a time to find lines. -/
def lineBlock : Nat := 4096

/-- The lines of bytes that end, without their ends, and the rest. -/
def linesIn (bytes : ByteArray) : List String × ByteArray :=
  let (lines, start, _) := bytes.foldl (fun (acc : List String × Nat × Nat) b =>
    let (lines, start, i) := acc
    if b = 0x0A then (Raw.ofArray (bytes.extract start i) :: lines, i + 1, i + 1) else (lines, start, i + 1))
    ([], 0, 0)
  (lines.reverse, bytes.extract start bytes.size)

/-- A line of a file. -/
structure FileLine where
  text : String
  /-- Whether the line ends, as only the last line of a file may not. -/
  ended : Bool := true

/-- Does something with each line that can be read by a descriptor, as long as it says so; gives the fault
that ended it. -/
def eachLine (number : Nat) (use : FileLine → Action Bool) : Action (Option Fault) := do
  go Work.turnLimit .empty
where
  /-- Does something with lines, as long as it says so. -/
  through : List String → Action Bool
  | [] => return true
  | line :: rest => do
    Work.breathe
    if ← use ⟨line, true⟩ then through rest else return false
  /-- Goes on behind the beginning of a line, as long as `fuel` lasts. -/
  go : (fuel : Nat) → ByteArray → Action (Option Fault)
  | 0, _ => return none
  | fuel + 1, before => do
    match ← Work.read number lineBlock with
    | .error fault => return some fault
    | .ok bytes =>
      if bytes.isEmpty then
        unless before.isEmpty do
          let _ ← use ⟨Raw.ofArray before, false⟩
        return none
      else
        let (lines, rest) := linesIn (before ++ bytes)
        if ← through lines then go fuel rest else return none

/-- The lines of bytes; the last one need not end. -/
def allLines (bytes : ByteArray) : List FileLine :=
  let (lines, rest) := linesIn bytes
  lines.map (⟨·, true⟩) ++ if rest.isEmpty then [] else [⟨Raw.ofArray rest, false⟩]

end Configurator.Tool
