/-
Conditions between double brackets, which only the rich dialect has: about files, texts and numbers, with texts
that match patterns.
-/
import Configurator.Shell.Condition
import Configurator.Shell.Expand

namespace Configurator.Shell.Inquiry

open Host

variable (sub : Expand.Substitution)

/-- The value of an operator between two words; a condition that makes no sense is a fault. -/
def binary (operator : String) (first second : Word) : Action Bool := do
  let a ← Expand.text sub first
  if operator = "=" || operator = "==" || operator = "!=" then
    let pattern ← Expand.pattern sub second
    return Glob.fits pattern a.toList == (operator ≠ "!=")
  else
    let b ← Expand.text sub second
    match ← Work.look (fun k => Condition.binary k operator a b) with
    | .ok value => return value
    | .error text =>
      abort text
      return false

/-- The value of a condition. -/
def answer : Question Word → Action Bool
  | .unary operator word => do
    let text ← Expand.text sub word
    return (← Work.look (fun k => Condition.unary k operator text)).toOption.getD false
  | .binary operator first second => binary sub operator first second
  | .negation question => do return !(← answer question)
  | .both first second => do if ← answer first then answer second else return false
  | .either first second => do if ← answer first then return true else answer second

end Configurator.Shell.Inquiry
