/-
Regular expressions and where they match. An expression is a row of parts, each of which stands for one
character or, with a star behind it, for as many as there are; it may be tied to the beginning and to the end
of a line. Of the places where it matches in a line the first counts, and of the matches there the longest.
-/
namespace Configurator.Tool

/-- A part of an expression: the character it stands for, none for any, and whether a star follows it. -/
structure Expression.Part where
  char : Option Char
  starred : Bool := false
  deriving DecidableEq, Repr

/-- A regular expression. -/
structure Expression where
  /-- Whether a match begins where the line does. -/
  atStart : Bool
  parts : List Expression.Part
  /-- Whether a match ends where the line does. -/
  atEnd : Bool
  deriving DecidableEq, Repr

namespace Expression

/-! ## Reading -/

/-- Reads the parts of an expression up to its end; whether that is tied to the end of a line comes second. -/
def partsOf : List Char → List Part × Bool
  | [] => ([], false)
  | ['$'] => ([], true)
  | '\\' :: c :: rest => starring (some c) rest
  | '.' :: rest => starring none rest
  | c :: rest => starring (some c) rest
where
  /-- Reads on behind a character. -/
  starring (char : Option Char) : List Char → List Part × Bool
    | '*' :: rest => (partsOf rest).map (⟨char, true⟩ :: ·) id
    | rest => (partsOf rest).map (⟨char, false⟩ :: ·) id

/-- The expression that a text spells. -/
def ofText (text : String) : Expression :=
  match text.toList with
  | '^' :: rest => ⟨true, (partsOf rest).1, (partsOf rest).2⟩
  | chars => ⟨false, (partsOf chars).1, (partsOf chars).2⟩

/-! ## Matching -/

def Part.admits (p : Part) (c : Char) : Bool := p.char.all (· = c)

/-- How many characters the longest match of parts in front of a text takes. -/
def longest? (atEnd : Bool) : List Part → List Char → Option Nat
  | [], text => if atEnd && !text.isEmpty then none else some 0
  | p :: parts, text =>
    if p.starred then many p parts text
    else
      match text with
      | c :: rest => if p.admits c then (longest? atEnd parts rest).map (· + 1) else none
      | [] => none
where
  /-- The same for a part with a star, which takes another character or none, and parts behind it. -/
  many (p : Part) (parts : List Part) : List Char → Option Nat
    | [] => longest? atEnd parts []
    | c :: rest =>
      let further := if p.admits c then (many p parts rest).map (· + 1) else none
      match further, longest? atEnd parts (c :: rest) with
      | some m, some n => some (max m n)
      | further, here => further.or here

/-- Where the first match in a text from a place on begins, and how long it is. -/
def findFrom? (e : Expression) : (place : Nat) → List Char → Option (Nat × Nat)
  | place, [] => (longest? e.atEnd e.parts []).map (place, ·)
  | place, c :: rest =>
    match longest? e.atEnd e.parts (c :: rest) with
    | some length => some (place, length)
    | none => if e.atStart then none else findFrom? e (place + 1) rest

def matchesIn (e : Expression) (line : String) : Bool := (e.findFrom? 0 line.toList).isSome

end Expression

end Configurator.Tool
