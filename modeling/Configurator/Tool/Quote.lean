/-
How tools show names and words in what they report. A name is shown so that a shell would read it back:
in single quotes, in double quotes if it holds a single quote and nothing else that is special, and with
numbers for what cannot be printed. A word is shown in single quotes with backslash forms.
-/
namespace Configurator.Tool.Quote

/-- The letter of the backslash form of a character, if it has one. -/
def letter? : Char → Option Char
  | '\x07' => some 'a'
  | '\x08' => some 'b'
  | '\t' => some 't'
  | '\n' => some 'n'
  | '\x0b' => some 'v'
  | '\x0c' => some 'f'
  | '\r' => some 'r'
  | _ => none

def isPrintable (c : Char) : Bool := ' ' ≤ c && c ≤ '~'

/-- The number of a byte in three octal digits. -/
def octal (c : Char) : List Char :=
  let digit (n : Nat) : Char := Char.ofNat ('0'.toNat + n % 8)
  [digit (c.toNat / 64), digit (c.toNat / 8), digit c.toNat]

/-- A character that cannot be printed, in a backslash form. -/
def escaped (c : Char) : List Char :=
  match letter? c with
  | some letter => ['\\', letter]
  | none => '\\' :: octal c

/-- Whether a character at some place of a name means something to a shell. -/
def isSpecial (isFirst isOnly : Bool) (c : Char) : Bool :=
  " !\"$&()*;<=>[^`|'?\\".toList.contains c || !isPrintable c || (isFirst && (c = '#' || c = '~')) ||
    (isOnly && (c = '\x7b' || c = '\x7d'))

/-- Whether a character means the same in double quotes. -/
def isDoublePlain (isFirst isOnly : Bool) (c : Char) : Bool :=
  isPrintable c && !"!\"$&()*;<=>[^`|?\\".toList.contains c &&
    ((c ≠ '#' && c ≠ '~') || isFirst) && ((c ≠ '\x7b' && c ≠ '\x7d') || isOnly)

/-- What stands between single quotes for a name; `open_` tells whether backslash forms are open. -/
def between (open_ : Bool) : List Char → List Char
  | [] => []
  | c :: rest =>
    if !isPrintable c then (if open_ then [] else ['\'', '$', '\'']) ++ escaped c ++ between true rest
    else if c = '\'' then ['\'', '\\', '\''] ++ between false rest
    else (if open_ then ['\'', '\''] else []) ++ c :: between false rest

/-- A name in quotes. -/
def name (text : String) : String :=
  let chars := text.toList
  let isOnly := chars.length = 1
  let plain := match chars with
    | [] => true
    | c :: rest => isDoublePlain true isOnly c && rest.all (isDoublePlain false false)
  if chars.contains '\'' && plain then "\"" ++ text ++ "\""
  else String.ofList ('\'' :: between false chars ++ ['\''])

/-- A name, in quotes only if it needs them. -/
def nameIfNeeded (text : String) : String :=
  let needed := match text.toList with
    | [] => true
    | c :: rest => isSpecial true rest.isEmpty c || rest.any (isSpecial false false)
  if needed then name text else text

/-- A word in quotes. -/
def word (text : String) : String :=
  let shown (c : Char) : List Char :=
    if c = '\'' || c = '\\' then ['\\', c] else if isPrintable c then [c] else escaped c
  "'" ++ String.ofList (text.toList.flatMap shown) ++ "'"

end Configurator.Tool.Quote
