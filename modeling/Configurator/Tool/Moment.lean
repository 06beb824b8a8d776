/-
Moments: how they are written as dates, in universal time. A run has no calendar of its own, so it is taken to
start at one fixed moment.
-/
import Configurator.Tool.Amount

namespace Configurator.Tool.Moment

/-- The moment at which a run starts, in seconds from the beginning of 1970. -/
def origin : Int := 1749988800

/-- How many days there are from the beginning of 1970 to a date. -/
def daysTo (year : Int) (month day : Nat) : Int :=
  let y := if month ≤ 2 then year - 1 else year
  let era := Int.fdiv y 400
  let ofEra := y - era * 400
  let ofYear : Int := (153 * ((month + 9) % 12) + 2) / 5 + day - 1
  era * 146097 + (ofEra * 365 + Int.fdiv ofEra 4 - Int.fdiv ofEra 100 + ofYear) - 719468

def isLeap (year : Nat) : Bool := year % 4 = 0 && (year % 100 ≠ 0 || year % 400 = 0)

/-- How many days a month has. -/
def daysIn (year month : Nat) : Nat :=
  if month = 2 then (if isLeap year then 29 else 28)
  else if [4, 6, 9, 11].contains month then 30 else 31

/-- The time of change that stands for the date which a text spells. -/
def ofText? (text : String) : Option Int :=
  match (Text.pieces '-' text.toList).mapM Amount.digits? with
  | some [year, month, day] =>
    if 1 ≤ month && month ≤ 12 && 1 ≤ day && day ≤ daysIn year month then
      some ((daysTo year month day * 86400 - origin) * 1000000)
    else none
  | _ => none

end Configurator.Tool.Moment
