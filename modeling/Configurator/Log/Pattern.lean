/-
Values in a log filter. A value is a number, a truth value or a regular expression; here it only
matters whether it can be used.
-/
import Configurator.Log.Expression.Reader

namespace Configurator.Log.Pattern

/-! ## Numbers -/

/-- Takes the decimal digits off the front. -/
def dropDigits (cs : List Char) : List Char := cs.dropWhile Char.isDigit

/-- Whether characters are an exponent, or nothing. -/
def isExponent : List Char → Bool
  | [] => true
  | e :: '+' :: digits => e.toLower = 'e' && digits ≠ [] && digits.all Char.isDigit
  | e :: '-' :: digits => e.toLower = 'e' && digits ≠ [] && digits.all Char.isDigit
  | e :: digits => e.toLower = 'e' && digits ≠ [] && digits.all Char.isDigit

/-- Whether characters are a decimal number without a sign. -/
def isDecimal (cs : List Char) : Bool :=
  match dropDigits cs with
  | '.' :: rest =>
    (cs.head? ≠ some '.' || dropDigits rest ≠ rest) && isExponent (dropDigits rest)
  | rest => rest.length < cs.length && isExponent rest

/-- Whether a text is a number, with a sign or without. -/
def isNumber (text : String) : Bool :=
  let unsigned := match text.toList with
    | '+' :: rest => rest
    | '-' :: rest => rest
    | cs => cs
  isDecimal unsigned || ["inf", "infinity", "nan"].contains (Text.lowerAscii (String.ofList unsigned))

/-! ## Expressions -/

/-- Why a value cannot be used. -/
inductive Fault where
  /-- It is no expression, is nested too deeply, or has a part without a meaning. -/
  | malformed
  /-- It asks for a word boundary between characters of all scripts. -/
  | wordBoundary
  deriving DecidableEq, Repr

/-- What is wrong with a value of a filter, if anything is. -/
def fault? (text : String) : Option Fault :=
  if isNumber text then none
  else
    match Expression.read text with
    | none => some .malformed
    | some alternatives =>
      if Expression.heightOfAlternatives alternatives > nestingLimit then some .malformed
      else
        match Expression.reviewAlternatives {} alternatives with
        | none => some .malformed
        | some review => if review.boundary then some .wordBoundary else none

end Configurator.Log.Pattern
