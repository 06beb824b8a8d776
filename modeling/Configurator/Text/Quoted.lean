/-
Quoted text: a text between double quotes in which a reader can tell every character. The quote and
the backslash take a backslash, line ends, tabs and NUL have short forms, and characters that extend
their neighbour or have no printed form are written by their code point.
-/
import Configurator.Text.Extending
import Configurator.Text.Unprintable

namespace Configurator.Text

/-- The code point of a character as `\u` and, in braces, lower case hexadecimal digits without
leading zeros. -/
def codePointForm (c : Char) : List Char :=
  ['\\', 'u', '\x7b'] ++ Nat.toDigits 16 c.toNat ++ ['\x7d']

/-- How one character is written between the quotes. -/
def quotedChar (c : Char) : List Char :=
  if c = '"' then ['\\', '"']
  else if c = '\\' then ['\\', '\\']
  else if c = '\n' then ['\\', 'n']
  else if c = '\r' then ['\\', 'r']
  else if c = '\t' then ['\\', 't']
  else if c = '\x00' then ['\\', '0']
  else if isExtending c || isUnprintable c then codePointForm c
  else [c]

/-- The text between double quotes. -/
def quoted (s : String) : String :=
  String.ofList ('"' :: s.toList.flatMap quotedChar ++ ['"'])

end Configurator.Text
