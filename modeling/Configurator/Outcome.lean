/-
How a compiler run ended, and the exit status by which the tool passes a failure on. Main statement:
the status of a failure is never zero and always fits a byte.
-/
import Configurator.Elapsed

namespace Configurator

/-- The end of a run: the exit code, or none when a signal ended it, and the time it took. -/
structure Outcome where
  code : Option Int
  elapsed : Elapsed
  deriving DecidableEq, Repr

namespace Outcome

/-- Whether the compiler reported success. -/
def success (o : Outcome) : Bool := o.code = some 0

/-- The exit status for a run that failed: the compiler's own code where a failing status can carry
it, and 1 otherwise. -/
def failureStatus (o : Outcome) : Nat :=
  match o.code with
  | some code => if 1 ≤ code ∧ code ≤ 255 then code.toNat else 1
  | none => 1

theorem failureStatus_bounds (o : Outcome) : 1 ≤ o.failureStatus ∧ o.failureStatus ≤ 255 := by
  unfold failureStatus
  split
  · split <;> omega
  · omega

end Outcome

end Configurator
