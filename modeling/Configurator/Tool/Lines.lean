/-
Tools that work line by line: parts of lines, and lines that are repeated.
-/
import Configurator.Tool.Amount

namespace Configurator.Tool.Lines

open Host

/-! ## Reading -/

/-- Does something with each line of the files that operands name, or of the input. -/
def eachOf (c : Call) (operands : List String) (use : FileLine → Action Bool) : Action Unit :=
  c.eachInput operands unread 1 (fun operand number => do
    (← eachLine number use).forM (fun fault => c.fault (unread operand fault) 1))

/-! ## Parts of lines -/

/-- Ranges of places, counted from one; a range without an end goes on for ever. -/
abbrev Ranges := List (Nat × Option Nat)

/-- Whether a place is in one of some ranges. -/
def isIn (ranges : Ranges) (place : Nat) : Bool :=
  ranges.any (fun (low, high) => low ≤ place && high.all (place ≤ ·))

/-- The ranges that a text spells. -/
def ranges (text : String) : Except String Ranges :=
  let number (digits : List Char) : Except String Nat :=
    match Amount.digits? digits with
    | some 0 => .error "fields are numbered from 1"
    | some n => .ok n
    | none => .error ("invalid field value " ++ Quote.word (String.ofList digits))
  (Text.pieces ',' text.toList).mapM (fun piece => do
    match Text.pieces '-' piece with
    | [digits] => do
      let n ← number digits
      return (n, some n)
    | [low, []] => return (← number low, none)
    | [[], high] => return (1, some (← number high))
    | [low, high] => return (← number low, some (← number high))
    | _ => throw "invalid field range")

/-- The items at places in some ranges. -/
def chosen {α : Type} (ranges : Ranges) (items : List α) : List α :=
  (items.zipIdx.filter (fun (_, i) => isIn ranges (i + 1))).map Prod.fst

/-- Shows parts of lines. -/
def cut (c : Call) : Action Unit :=
  c.withOptions { letters := "d:f:" } (fun o => do
    match o.value? 'f', ((o.value? 'd').getD "\t").toList with
    | none, _ => c.misuse "you must specify a list of bytes, characters, or fields" 1
    | some text, [mark] =>
      match ranges text with
      | .error text => c.misuse text 1
      | .ok ranges =>
        eachOf c o.operands (fun line => do
          let fields := Text.pieces mark line.text.toList
          let shown := if fields.length = 1 then fields else chosen ranges fields
          c.print (String.ofList ([mark].intercalate shown) ++ "\n")
          return true)
    | some _, _ => c.misuse "the delimiter must be a single character" 1)

/-! ## Repeated lines -/

/-- Shows lines that follow one another and are the same only once. -/
def uniq (c : Call) : Action Unit :=
  c.withOptions {} (fun o => do
    let showNew (last : Option String) (line : FileLine) : Action (Option String) := do
      unless last = some line.text do c.print (line.text ++ "\n")
      return some line.text
    c.eachInput (o.operands.take 1) unread 1 (fun operand number => do
      match ← Work.readAll number with
      | .error fault => c.die ("error reading " ++ Quote.name operand ++ ": " ++ fault.words) 1
      | .ok bytes =>
        let _ ← (allLines bytes).foldlM showNew none))

end Configurator.Tool.Lines
