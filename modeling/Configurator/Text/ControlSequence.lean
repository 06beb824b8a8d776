/-
Taking control sequences out of a text. A text that is not written to a terminal loses its escape
sequences, device control strings, operating system commands and single controls; tabs, line feeds,
form feeds and carriage returns stay. Sequences are recognised by the states of a terminal, and
characters are looked at byte by byte where a sequence is open.
-/
import Configurator.Utf8

namespace Configurator.Text

namespace ControlSequence

/-- Where a terminal stands in a sequence. -/
inductive State where
  | ground
  | escape
  | escapeIntermediate
  | csiEntry
  | csiParameter
  | csiIntermediate
  | csiIgnore
  | dcsEntry
  | dcsParameter
  | dcsIntermediate
  | dcsIgnore
  | dcsPassthrough
  | command
  | message
  deriving DecidableEq, Repr

/-- What a terminal does with a byte. -/
inductive Action where
  | print
  | begin
  | execute
  | other
  deriving DecidableEq, Repr

/-- Whether a byte is a control that no sequence treats apart from the others. -/
def isControl (b : UInt8) : Bool := b ≤ 0x17 || b == 0x19 || (0x1C ≤ b && b ≤ 0x1F)

/-- Whether a byte stands between the parts of a sequence. -/
def isIntermediate (b : UInt8) : Bool := 0x20 ≤ b && b ≤ 0x2F

/-- Whether a byte ends a sequence with parameters. -/
def isFinal (b : UInt8) : Bool := 0x40 ≤ b && b ≤ 0x7E

/-- The state behind an escape byte and the byte after it. -/
def afterEscape (b : UInt8) : State :=
  if isIntermediate b then .escapeIntermediate
  else if b = 0x5B then .csiEntry
  else if b = 0x5D then .command
  else if b = 0x50 then .dcsEntry
  else if b = 0x58 || b = 0x5E || b = 0x5F then .message
  else if 0x30 ≤ b && b ≤ 0x7E then .ground
  else .escape

/-- The state behind a byte at the beginning or among the parameters of a control sequence. -/
def afterCsi (state : State) (b : UInt8) : State :=
  if isIntermediate b then .csiIntermediate
  else if 0x30 ≤ b && b ≤ 0x3B then .csiParameter
  else if 0x3C ≤ b && b ≤ 0x3F then (if state = .csiEntry then .csiParameter else .csiIgnore)
  else if isFinal b then .ground
  else state

/-- The state behind a byte at the beginning or among the parameters of a device control string. -/
def afterDcs (state : State) (b : UInt8) : State :=
  if isIntermediate b then .dcsIntermediate
  else if 0x30 ≤ b && b ≤ 0x3B then .dcsParameter
  else if 0x3C ≤ b && b ≤ 0x3F then (if state = .dcsEntry then .dcsParameter else .dcsIgnore)
  else if isFinal b then .dcsPassthrough
  else state

/-- What the ground state does with a byte. -/
def groundAction (b : UInt8) : Action :=
  if isControl b then .execute
  else if 0x20 ≤ b && b ≤ 0x7F then .print
  else if 0xC2 ≤ b && b ≤ 0xF4 then .begin
  else .other

/-- The next state and what is done with a byte. -/
def change (state : State) (b : UInt8) : State × Action :=
  if b = 0x18 || b = 0x1A then (.ground, .execute)
  else if b = 0x1B then (.escape, .other)
  else
    match state with
    | .ground => (.ground, groundAction b)
    | .escape => if isControl b then (.escape, .execute) else (afterEscape b, .other)
    | .escapeIntermediate =>
      if isControl b then (state, .execute)
      else (if 0x30 ≤ b && b ≤ 0x7E then .ground else state, .other)
    | .csiEntry | .csiParameter =>
      if isControl b then (state, .execute) else (afterCsi state b, .other)
    | .csiIntermediate =>
      if isControl b then (state, .execute)
      else if 0x30 ≤ b && b ≤ 0x3F then (.csiIgnore, .other)
      else (if isFinal b then .ground else state, .other)
    | .csiIgnore =>
      if isControl b then (state, .execute) else (if isFinal b then .ground else state, .other)
    | .dcsEntry | .dcsParameter => (if isControl b then state else afterDcs state b, .other)
    | .dcsIntermediate =>
      if 0x30 ≤ b && b ≤ 0x3F then (.dcsIgnore, .other)
      else (if isFinal b then .dcsPassthrough else state, .other)
    | .dcsIgnore | .dcsPassthrough | .message => (if b = 0x9C then .ground else state, .other)
    | .command => (if b = 0x07 then .ground else state, .other)

/-- Whether a byte is kept. -/
def isKept (action : Action) (b : UInt8) : Bool :=
  match action with
  | .print => b ≠ 0x7F
  | .begin => true
  | .execute => b = 0x09 || b = 0x0A || b = 0x0C || b = 0x0D
  | .other => false

/-- What was kept so far, where the terminal stands, and whether the last byte was kept: then the
next one is looked at as on the ground. -/
structure Filter where
  state : State := .ground
  keeping : Bool := false
  kept : List Char := []
  deriving Repr

namespace Filter

/-- Takes one byte of a character that is not on the ground; gives the state behind it. -/
def skip (state : State) (b : UInt8) : State := (change state b).1

/-- Takes a character of one byte. -/
def readByte (f : Filter) (c : Char) (b : UInt8) : Filter :=
  let (onGround, groundAction) := change .ground b
  if f.keeping && isKept groundAction b then { f with kept := f.kept ++ [c] }
  else
    let state := if f.keeping && onGround ≠ .ground then onGround else f.state
    let (next, action) := change state b
    if isKept action b then { state := next, keeping := true, kept := f.kept ++ [c] }
    else { f with state := next, keeping := false }

/-- Takes one character. -/
def read (f : Filter) (c : Char) : Filter :=
  match String.utf8EncodeChar c with
  | [b] => f.readByte c b
  | bytes =>
    if f.keeping || f.state = .ground then { state := .ground, keeping := true, kept := f.kept ++ [c] }
    else { f with state := bytes.foldl skip f.state }

end Filter

end ControlSequence

/-- The text without its control sequences. -/
def stripControls (s : String) : String :=
  String.ofList (s.toList.foldl ControlSequence.Filter.read {}).kept

/-- The first line of a text, without its end. -/
def firstLine (s : String) : String :=
  let line := s.toList.takeWhile (· ≠ '\n')
  if line.length < s.length && line.getLast? = some '\r' then String.ofList line.dropLast
  else String.ofList line

end Configurator.Text
