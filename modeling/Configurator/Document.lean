/-
Documents for other programs: JSON objects whose fields are texts or lists of texts, written one
value a line with two spaces of indentation.
-/

namespace Configurator

/-- The value of a field. -/
inductive Value where
  | text (text : String)
  | list (items : List String)
  deriving DecidableEq, Repr

/-- A document: its fields in the order in which they are written. -/
structure Document where
  fields : List (String × Value)
  deriving DecidableEq, Repr

namespace Document

/-- A code below 256 in two lower case hexadecimal digits. -/
def hexPair (n : Nat) : List Char :=
  let digits := Nat.toDigits 16 n
  if digits.length < 2 then '0' :: digits else digits

/-- How a character is written in a JSON string. -/
def stringChar (c : Char) : List Char :=
  if c = '"' then ['\\', '"']
  else if c = '\\' then ['\\', '\\']
  else if c = '\x08' then ['\\', 'b']
  else if c = '\x0c' then ['\\', 'f']
  else if c = '\n' then ['\\', 'n']
  else if c = '\r' then ['\\', 'r']
  else if c = '\t' then ['\\', 't']
  else if c.toNat < 0x20 then ['\\', 'u', '0', '0'] ++ hexPair c.toNat
  else [c]

/-- A JSON string. -/
def stringLiteral (s : String) : String :=
  String.ofList ('"' :: s.toList.flatMap stringChar ++ ['"'])

/-- A JSON array of strings, its closing bracket indented by two. -/
def arrayLiteral : List String → String
  | [] => "[]"
  | items => "[\n    " ++ ",\n    ".intercalate (items.map stringLiteral) ++ "\n  ]"

/-- The value of a field as JSON. -/
def valueLiteral : Value → String
  | .text text => stringLiteral text
  | .list items => arrayLiteral items

/-- One field of the object. -/
def member (name : String) (value : Value) : String :=
  stringLiteral name ++ ": " ++ valueLiteral value

/-- The document as JSON, without a line end behind it. -/
def render (d : Document) : String :=
  match d.fields with
  | [] => "\x7b\x7d"
  | fields =>
    "\x7b\n  " ++ ",\n  ".intercalate (fields.map (fun (name, value) => member name value)) ++ "\n\x7d"

end Document

end Configurator
