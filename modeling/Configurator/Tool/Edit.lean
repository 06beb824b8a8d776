/-
Editing lines by an instruction, which may be for some lines only. Every line of the input is taken in turn, and
shown as the instruction leaves it.
-/
import Configurator.Tool.Amount
import Configurator.Tool.Expression

namespace Configurator.Tool.Edit

open Host

/-! ## Instructions -/

/-- The lines that an instruction is for. -/
inductive Address where
  | every
  | line (number : Nat)
  | last
  | expression (expression : Expression)
  deriving DecidableEq, Repr

/-- What an instruction does. -/
inductive Act where
  /-- Puts a text in the place of what an expression matches. -/
  | replace (expression : Expression) (text : String) (everywhere : Bool)
  | print
  | delete
  deriving DecidableEq, Repr

/-- An instruction. -/
structure Instruction where
  address : Address
  act : Act
  deriving DecidableEq, Repr

/-! ## Reading instructions -/

/-- Why an instruction cannot be read, and how many of its characters are left. -/
structure Mistake where
  message : String
  left : Nat

/-- Reads a text up to a delimiter. -/
def upTo (mark : Char) : List Char → Option (String × List Char)
  | [] => none
  | '\\' :: c :: rest =>
    (upTo mark rest).map (fun (text, rest) =>
      ((if c = mark then String.ofList [c] else String.ofList ['\\', c]) ++ text, rest))
  | c :: rest =>
    if c = mark then some ("", rest)
    else (upTo mark rest).map (fun (text, rest) => (String.ofList [c] ++ text, rest))

/-- Reads the lines that an instruction is for. -/
def addressOf : List Char → Except Mistake (Address × List Char)
  | '$' :: rest => .ok (.last, rest)
  | '/' :: rest =>
    match upTo '/' rest with
    | some (text, rest) => .ok (.expression (.ofText text), rest)
    | none => .error ⟨"unterminated address regex", 0⟩
  | text =>
    let digits := text.takeWhile Char.isDigit
    match Amount.digits? digits with
    | some n => .ok (.line n, text.drop digits.length)
    | none => .ok (.every, text)

/-- Reads what an instruction does. -/
def actOf : List Char → Except Mistake (Act × List Char)
  | [] => .error ⟨"missing command", 0⟩
  | 'p' :: rest => .ok (.print, rest)
  | 'd' :: rest => .ok (.delete, rest)
  | 's' :: mark :: rest =>
    match upTo mark rest with
    | none => .error ⟨"unterminated \x60s' command", 0⟩
    | some (source, rest) =>
      match upTo mark rest with
      | none => .error ⟨"unterminated \x60s' command", 0⟩
      | some (text, 'g' :: rest) => .ok (.replace (.ofText source) text true, rest)
      | some (text, rest) => .ok (.replace (.ofText source) text false, rest)
  | c :: rest => .error ⟨"unknown command: \x60" ++ String.ofList [c] ++ "'", rest.length⟩

/-- Reads an instruction. -/
def instructionOf (text : List Char) : Except Mistake Instruction := do
  let (address, rest) ← addressOf text
  let (act, rest) ← actOf rest
  match rest with
  | [] => return ⟨address, act⟩
  | _ :: rest => throw ⟨"extra characters after command", rest.length⟩

/-! ## Working -/

/-- A text with another one in the place of the first match of an expression, or of every match; `fuel` bounds
their number. -/
def replaced (e : Expression) (new : String) (everywhere : Bool) : (fuel : Nat) → List Char → List Char
  | 0, text => text
  | fuel + 1, text =>
    match e.findFrom? 0 text with
    | none => text
    | some (place, length) =>
      let rest := text.drop (place + length)
      text.take place ++ new.toList ++
        if everywhere && length ≠ 0 then replaced e new everywhere fuel rest else rest

/-- Whether an instruction is for a line. -/
def Address.admits (number : Nat) (isLast : Bool) (text : String) : Address → Bool
  | every => true
  | line n => n = number
  | last => isLast
  | expression e => e.matchesIn text

/-- The lines that are shown for a line. -/
def Instruction.shown (i : Instruction) (quiet : Bool) (number : Nat) (isLast : Bool) (text : String) : List String :=
  let whole := if quiet then [] else [text]
  if i.address.admits number isLast text then
    match i.act with
    | .replace e new everywhere =>
      if quiet then [] else [String.ofList (replaced e new everywhere (text.length + 1) text.toList)]
    | .print => text :: whole
    | .delete => []
  else whole

/-- Shows lines as an instruction leaves them. -/
def edit (c : Call) (quiet : Bool) (i : Instruction) (count : Nat) : List (FileLine × Nat) → Action Unit
  | [] => pure ()
  | (line, place) :: rest => do
    Work.breathe
    let shown := i.shown quiet (place + 1) (place + 1 = count) line.text
    unless shown.isEmpty do c.print ("\n".intercalate shown ++ if line.ended then "\n" else "")
    edit c quiet i count rest

/-- The lines of files one after the other. -/
def linesOf (c : Call) : List String → Action (List FileLine)
  | [] => return []
  | file :: rest => do
    let bytes ← if file = "-" then Work.readAll 0 else Work.readFile file
    match bytes with
    | .ok bytes => return allLines bytes ++ (← linesOf c rest)
    | .error fault =>
      c.fault ("can't read " ++ file ++ ": " ++ fault.words) 2
      linesOf c rest

/-- Shows the lines of files as an instruction leaves them. -/
def sed (c : Call) : Action Unit :=
  c.withOptions { letters := "n", least := 1, operand := "script" } (fun o => do
    let text := (o.operands.head?.getD "").toList
    match instructionOf text with
    | .error mistake =>
      c.die ("-e expression #1, char " ++ toString (text.length - mistake.left) ++ ": " ++ mistake.message) 1
    | .ok instruction =>
      let lines ← linesOf c (if o.operands.length = 1 then ["-"] else o.operands.drop 1)
      edit c (o.has 'n') instruction lines.length lines.zipIdx)

end Configurator.Tool.Edit
