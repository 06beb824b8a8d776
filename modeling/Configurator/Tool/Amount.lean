/-
Amounts in the arguments of tools: whole numbers, perhaps behind a sign.
-/
import Configurator.Tool.Basic

namespace Configurator.Tool.Amount

/-- The number that digits spell. -/
def digits? (digits : List Char) : Option Nat :=
  if digits ≠ [] && digits.all Char.isDigit then
    some (digits.foldl (fun n c => 10 * n + (c.toNat - '0'.toNat)) 0)
  else none

/-- An amount with the sign in front of it. -/
structure Signed where
  sign : Option Char
  amount : Nat

/-- The amount that a text spells, perhaps behind a sign. -/
def signed? (text : String) : Option Signed :=
  match text.toList with
  | '-' :: digits => (digits? digits).map (⟨some '-', ·⟩)
  | '+' :: digits => (digits? digits).map (⟨some '+', ·⟩)
  | digits => (digits? digits).map (⟨none, ·⟩)

/-- Fills a text up to a width from the left. -/
def padded (width : Nat) (text : String) : String :=
  String.ofList (List.replicate (width - text.length) ' ') ++ text

end Configurator.Tool.Amount
