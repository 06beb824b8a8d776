/-
JSON texts and what they say, by the standard. A reader takes a value off the front of a text and leaves what
stands behind it; a text is read if only blanks are left. In a string a character is written as itself, by a
short escape, or by one or two code units of UTF-16, and half of a pair alone is refused, as are bare control
characters. Numbers are kept as they are written, and the members of an object in their order.
-/
import Configurator.Utf8

namespace Configurator

/-- A JSON value. -/
inductive Json where
  | null
  | bool (value : Bool)
  | number (literal : String)
  | string (text : String)
  | array (items : List Json)
  | object (members : List (String × Json))

namespace Json

/-- Whether a character may stand between the parts of a text. -/
def isBlank (c : Char) : Bool := c = ' ' || c = '\t' || c = '\n' || c = '\r'

/-- A text without the blanks in front. -/
def skip (text : List Char) : List Char := text.dropWhile isBlank

/-! ## Strings -/

/-- What is written between quotes: a character, or a code unit of UTF-16 by its number. -/
inductive Piece where
  | char (c : Char)
  | unit (n : Nat)
  deriving DecidableEq, Repr

def hexDigit? (c : Char) : Option Nat :=
  if '0' ≤ c ∧ c ≤ '9' then some (c.toNat - '0'.toNat)
  else if 'a' ≤ c ∧ c ≤ 'f' then some (c.toNat - 'a'.toNat + 10)
  else if 'A' ≤ c ∧ c ≤ 'F' then some (c.toNat - 'A'.toNat + 10)
  else none

/-- The number that hexadecimal digits write. -/
def hexNumber? (digits : List Char) : Option Nat :=
  digits.foldlM (fun n digit => (hexDigit? digit).map (16 * n + ·)) 0

/-- The character that a backslash and a character stand for. -/
def escaped? : Char → Option Char
  | '"' => some '"'
  | '\\' => some '\\'
  | '/' => some '/'
  | 'b' => some '\x08'
  | 'f' => some '\x0c'
  | 'n' => some '\n'
  | 'r' => some '\r'
  | 't' => some '\t'
  | _ => none

/-- What is written up to the closing quote, and what stands behind it. -/
def pieces : List Char → Option (List Piece × List Char)
  | '"' :: rest => some ([], rest)
  | '\\' :: 'u' :: h :: i :: j :: k :: rest => do
    let n ← hexNumber? [h, i, j, k]
    let (others, behind) ← pieces rest
    some (.unit n :: others, behind)
  | '\\' :: e :: rest => do
    let meant ← escaped? e
    let (others, behind) ← pieces rest
    some (.char meant :: others, behind)
  | c :: rest =>
    if c = '\\' || c.toNat < 0x20 then none
    else do
      let (others, behind) ← pieces rest
      some (.char c :: others, behind)
  | [] => none

/-- Whether a code unit is the first half of a pair. -/
def isLeading (n : Nat) : Bool := 0xD800 ≤ n && n ≤ 0xDBFF

/-- Whether a code unit is the second half of a pair. -/
def isTrailing (n : Nat) : Bool := 0xDC00 ≤ n && n ≤ 0xDFFF

/-- The characters that were written, where the first half of a pair may be waiting for the second. -/
def characters? : (first : Option Nat) → List Piece → Option (List Char)
  | none, [] => some []
  | none, .char c :: rest => (characters? none rest).map (c :: ·)
  | none, .unit n :: rest =>
    if isLeading n then characters? (some n) rest
    else if isTrailing n then none
    else (characters? none rest).map (Char.ofNat n :: ·)
  | some n, .unit m :: rest =>
    if isTrailing m then
      (characters? none rest).map (Char.ofNat (0x10000 + (n - 0xD800) * 0x400 + (m - 0xDC00)) :: ·)
    else none
  | some _, _ => none

/-- A string behind its opening quote, and what follows it. -/
def string? (text : List Char) : Option (String × List Char) := do
  let (written, behind) ← pieces text
  let chars ← characters? none written
  some (String.ofList chars, behind)

/-! ## Numbers and words -/

/-- One of some signs, if the text begins with one. -/
def sign (signs : List Char) : List Char → List Char × List Char
  | [] => ([], [])
  | c :: rest => if c ∈ signs then ([c], rest) else ([], c :: rest)

def digits? (text : List Char) : Option (List Char × List Char) :=
  let (digits, rest) := text.span Char.isDigit
  if digits.isEmpty then none else some (digits, rest)

/-- The digits of a whole number, which begins with zero only if it is zero. -/
def whole? : List Char → Option (List Char × List Char)
  | '0' :: rest => some (['0'], rest)
  | text => digits? text

def fraction? : List Char → Option (List Char × List Char)
  | '.' :: rest => (digits? rest).map fun (digits, rest) => ('.' :: digits, rest)
  | text => some ([], text)

def exponent? : List Char → Option (List Char × List Char)
  | [] => some ([], [])
  | c :: rest =>
    if c = 'e' || c = 'E' then
      let (signs, rest) := sign ['+', '-'] rest
      (digits? rest).map fun (digits, rest) => (c :: signs ++ digits, rest)
    else some ([], c :: rest)

/-- A number as it is written, and what follows it. -/
def number? (text : List Char) : Option (String × List Char) := do
  let (minus, rest) := sign ['-'] text
  let (whole, rest) ← whole? rest
  let (fraction, rest) ← fraction? rest
  let (exponent, rest) ← exponent? rest
  some (String.ofList (minus ++ whole ++ fraction ++ exponent), rest)

/-- A value that is written as a word, and what follows it. -/
def word? (text : List Char) : Option (Json × List Char) :=
  [("null", null), ("true", bool true), ("false", bool false)].findSome? fun (word, value) =>
    if word.toList.isPrefixOf text then some (value, text.drop word.length) else none

/-! ## Values -/

section Sequences

variable {α : Type} (element : List Char → Option (α × List Char)) (close : Char)

/-- At most `limit` elements with commas between them, at least one, up to the closing character. -/
def separated : (limit : Nat) → List Char → Option (List α × List Char)
  | 0, _ => none
  | limit + 1, text => do
    let (first, behind) ← element text
    match skip behind with
    | [] => none
    | c :: rest =>
      if c = close then some ([first], rest)
      else if c = ',' then do
        let (others, behind) ← separated limit rest
        some (first :: others, behind)
      else none

/-- The elements behind an opening character; there are never more of them than characters. -/
def sequence (text : List Char) : Option (List α × List Char) :=
  match skip text with
  | [] => none
  | c :: rest => if c = close then some ([], rest) else separated element close text.length text

end Sequences

/-- One member of an object: its name, a colon and its value. -/
def member (value : List Char → Option (Json × List Char)) (text : List Char) :
    Option ((String × Json) × List Char) :=
  match skip text with
  | '"' :: rest => do
    let (name, behind) ← string? rest
    match skip behind with
    | ':' :: rest => do
      let (value, behind) ← value rest
      some ((name, value), behind)
    | _ => none
  | _ => none

/-- A value that is at most `depth` values deep, and what stands behind it. -/
def value : (depth : Nat) → List Char → Option (Json × List Char)
  | 0, _ => none
  | depth + 1, text =>
    match skip text with
    | '"' :: rest => (string? rest).map fun (text, behind) => (string text, behind)
    | '[' :: rest => (sequence (value depth) ']' rest).map fun (items, behind) => (array items, behind)
    | '\x7b' :: rest =>
      (sequence (member (value depth)) '\x7d' rest).map fun (members, behind) => (object members, behind)
    | text => word? text <|> (number? text).map fun (literal, behind) => (number literal, behind)

/-- The value that a text writes; a value is never deeper than its text is long. -/
def read? (text : String) : Option Json := do
  let (value, behind) ← value text.length text.toList
  if (skip behind).isEmpty then some value else none

/-- The value that a text in UTF-8 writes. -/
def ofBytes? (bytes : Bytes) : Option Json := (Utf8.decode? bytes).bind read?

end Json

end Configurator
