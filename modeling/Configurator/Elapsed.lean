/-
Spans of time and their short text: milliseconds below a second, hundredths of a second below a
minute, whole seconds from there on, always cut off and never rounded up.
-/

namespace Configurator

/-- A span of time. -/
structure Elapsed where
  seconds : Nat
  nanoseconds : Nat
  deriving DecidableEq, Repr, Inhabited

namespace Elapsed

/-- The whole milliseconds beyond the last full second. -/
def millisOfSecond (d : Elapsed) : Nat := d.nanoseconds / 1000000

/-- The whole milliseconds of the span. -/
def millis (d : Elapsed) : Nat := d.seconds * 1000 + d.millisOfSecond

/-- A number below one hundred in two digits. -/
def twoDigits (n : Nat) : String := if n < 10 then "0" ++ toString n else toString n

/-- The span as text. -/
def text (d : Elapsed) : String :=
  if 60 ≤ d.seconds then
    toString (d.seconds / 60) ++ "m " ++ toString (d.seconds % 60) ++ "s"
  else if 0 < d.seconds then
    toString d.seconds ++ "." ++ twoDigits (d.millisOfSecond / 10) ++ "s"
  else
    toString d.millisOfSecond ++ "ms"

end Elapsed

end Configurator
