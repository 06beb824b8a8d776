/-
Numbers with a fraction. Such a number is read from decimal or hexadecimal digits, rounded to as many
binary digits as the machine keeps, and written with a fixed number of decimals or with an exponent. All of
it is exact arithmetic on whole numbers; what lies in the middle goes to the even neighbour.
-/
import Configurator.Shell.Arithmetic

namespace Configurator.Shell.Fraction

/-- A quotient rounded to the nearest whole number, in the middle to the even one. -/
def roundedQuotient (num den : Nat) : Nat :=
  let q := num / den
  let r := 2 * (num % den)
  if r > den || (r = den && q % 2 = 1) then q + 1 else q

/-- A number with a sign. -/
inductive Magnitude where
  /-- A whole number times a power of two. -/
  | finite (mantissa : Nat) (exponent : Int)
  | infinite
  | undefined
  deriving DecidableEq, Repr

/-- A number as the machine keeps it. -/
structure Value where
  negative : Bool := false
  magnitude : Magnitude
  /-- Whether the number that was read is too large or too small to be kept so. -/
  beyond : Bool := false
  deriving DecidableEq, Repr

def zero : Value := { magnitude := .finite 0 0 }

/-- How many binary digits a number has. -/
def digits : Nat := 53

/-- The greatest power of two in a number. -/
def greatestPower : Int := 1023

/-- A quotient as a whole number of at most as many binary digits as there are times a power of two; tells also
whether it is too large, or too small and not exact. -/
def ofQuotient (num den : Nat) : Magnitude × Bool :=
  if num = 0 then (.finite 0 0, false)
  else
    let exponent : Int := max ((num.log2 : Int) - den.log2 - digits) (1 - greatestPower - (digits - 1 : Nat))
    let scaled (e : Int) : Nat :=
      if e < 0 then roundedQuotient (num <<< (-e).toNat) den else roundedQuotient num (den <<< e.toNat)
    let exponent := if scaled exponent ≥ 1 <<< digits then exponent + 1 else exponent
    let mantissa := scaled exponent
    let isExact := if exponent < 0 then num <<< (-exponent).toNat % den = 0 else num % (den <<< exponent.toNat) = 0
    if mantissa.log2 + exponent > greatestPower then (.infinite, true)
    else (.finite mantissa exponent, mantissa < 1 <<< (digits - 1) && !isExact)

/-! ## Reading -/

/-- The exponent behind a letter, and what follows it; without digits there is none. -/
def exponentOf (letter : Char) (text : List Char) : Int × List Char :=
  match text with
  | e :: rest =>
    let (negative, digits) := match rest with
      | '-' :: digits => (true, digits)
      | '+' :: digits => (false, digits)
      | digits => (false, digits)
    let front := digits.takeWhile Char.isDigit
    if e.toLower = letter && front ≠ [] then
      let n := ((Arithmetic.ofDigits 10 front).getD 0)
      (if negative then -n else n, digits.drop front.length)
    else (0, text)
  | [] => (0, [])

/-- The digits in front and behind the point, and what follows them. -/
def digitsOf (base : Nat) (text : List Char) : List Char × List Char × List Char :=
  let whole := text.takeWhile (Arithmetic.isDigitIn base)
  match text.drop whole.length with
  | '.' :: rest =>
    let part := rest.takeWhile (Arithmetic.isDigitIn base)
    if whole = [] && part = [] then ([], [], text) else (whole, part, rest.drop part.length)
  | rest => (whole, [], rest)

/-- How large an exponent may get before the number is zero or infinite whatever its digits. -/
def exponentLimit (digits : Nat) : Int := 5000 + digits

/-- The number at the front of a text without sign, and what follows it, if there is one. -/
def unsigned? (text : List Char) : Option ((Magnitude × Bool) × List Char) :=
  let word (name : String) : Bool := (text.take name.length).map Char.toLower = name.toList
  let read (base : Nat) (letter : Char) (step : Nat) (text : List Char) :
      Option ((Magnitude × Bool) × List Char) :=
    match digitsOf base text with
    | ([], [], _) => none
    | (whole, part, rest) =>
      let (exponent, rest) := exponentOf letter rest
      let value := ((Arithmetic.ofDigits base (whole ++ part)).getD 0).toNat
      let shift := exponent - part.length * (if base = 16 then 4 else 1)
      let magnitude : Magnitude × Bool :=
        if value = 0 then (.finite 0 0, false)
        else if shift > exponentLimit text.length then (.infinite, true)
        else if shift < -exponentLimit text.length then (.finite 0 0, true)
        else if shift < 0 then ofQuotient value (Nat.pow step (-shift).toNat)
        else ofQuotient (value * Nat.pow step shift.toNat) 1
      some (magnitude, rest)
  if word "infinity" then some ((.infinite, false), text.drop 8)
  else if word "inf" then some ((.infinite, false), text.drop 3)
  else if word "nan" then some ((.undefined, false), text.drop 3)
  else
    match text with
    | '0' :: x :: rest =>
      if x = 'x' || x = 'X' then
        match read 16 'p' 2 rest with
        | some found => some found
        | none => some ((.finite 0 0, false), x :: rest)
      else read 10 'e' 10 text
    | _ => read 10 'e' 10 text

/-- The number at the front of a text and what follows it; a text without one is followed by all of
itself. -/
def read (text : List Char) : Value × List Char :=
  let (negative, behind) := match text.dropWhile Arithmetic.isBlank with
    | '-' :: rest => (true, rest)
    | '+' :: rest => (false, rest)
    | rest => (false, rest)
  match unsigned? behind with
  | some ((magnitude, beyond), rest) => (⟨negative, magnitude, beyond⟩, rest)
  | none => (zero, text)

/-! ## Writing -/

/-- A whole number times a power of two and a power of ten, rounded to a whole number. -/
def scaled (mantissa : Nat) (exponent places : Int) : Nat :=
  roundedQuotient (mantissa * Nat.pow 2 exponent.toNat * Nat.pow 10 places.toNat)
    (Nat.pow 2 (-exponent).toNat * Nat.pow 10 (-places).toNat)

/-- A text of digits with at least so many of them. -/
def digitsTo (count n : Nat) : List Char :=
  let digits := Nat.toDigits 10 n
  List.replicate (count - digits.length) '0' ++ digits

/-- Digits with a point before the last `places`; `marked` keeps a point with nothing behind it. -/
def pointed (places : Nat) (marked : Bool) (digits : List Char) : List Char :=
  let whole := digits.take (digits.length - places)
  if places = 0 then (if marked then whole ++ ['.'] else whole)
  else whole ++ '.' :: digits.drop (digits.length - places)

/-- A number with so many decimals. -/
def fixed (places : Nat) (marked : Bool) (mantissa : Nat) (exponent : Int) : List Char :=
  pointed places marked (digitsTo (places + 1) (scaled mantissa exponent places))

/-- The place of the first digit of a number, as long as `fuel` allows: no power of ten above the guess
is beyond the number. -/
def firstPlace (mantissa : Nat) (exponent : Int) : (fuel : Nat) → (guess : Int) → Int
  | 0, guess => guess
  | fuel + 1, guess =>
    let beyond (p : Int) : Bool :=
      mantissa * Nat.pow 2 exponent.toNat * Nat.pow 10 (-p).toNat < Nat.pow 10 p.toNat * Nat.pow 2 (-exponent).toNat
    if beyond guess then firstPlace mantissa exponent fuel (guess - 1)
    else if beyond (guess + 1) then guess
    else firstPlace mantissa exponent fuel (guess + 1)

/-- The exponent of a number written with `places` digits behind the first one, and those digits. -/
def scientificDigits (places mantissa : Nat) (exponent : Int) : Int × List Char :=
  if mantissa = 0 then (0, digitsTo (places + 1) 0)
  else
    let guess : Int := ((mantissa.log2 : Int) + exponent) * 3 / 10
    let place := firstPlace mantissa exponent 200 guess
    let digits := Nat.toDigits 10 (scaled mantissa exponent (places - place))
    if digits.length > places + 1 then (place + 1, digits.take (places + 1)) else (place, digits)

/-- An exponent of at least two digits. -/
def exponentText (letter : Char) (exponent : Int) : List Char :=
  letter :: (if exponent < 0 then '-' else '+') :: digitsTo 2 exponent.natAbs

/-- A number with an exponent. -/
def scientific (letter : Char) (places : Nat) (marked : Bool) (mantissa : Nat) (exponent : Int) :
    List Char :=
  let (place, digits) := scientificDigits places mantissa exponent
  pointed places marked digits ++ exponentText letter place

/-- A number without its sign as a conversion writes it. -/
def write (conversion : Char) (precision : Option Nat) (marked : Bool) (m : Magnitude) : List Char :=
  let places := precision.getD 6
  let text := match m with
    | .infinite => ['i', 'n', 'f']
    | .undefined => ['n', 'a', 'n']
    | .finite mantissa exponent =>
      if conversion.toLower = 'f' then fixed places marked mantissa exponent
      else scientific 'e' places marked mantissa exponent
  if conversion.isUpper then text.map Char.toUpper else text

end Configurator.Shell.Fraction
