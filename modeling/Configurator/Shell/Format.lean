/-
What the two printing commands write: texts with backslash forms, and formats with directives for
texts and numbers.
-/
import Configurator.Shell.Fraction

namespace Configurator.Shell.Format

/-! ## Backslash forms -/

def isOctal (c : Char) : Bool := '0' ≤ c && c ≤ '7'

/-- The character with an octal number of at most `places` digits, and what follows it. -/
def octal (places : Nat) (text : List Char) : Char × List Char :=
  let digits := (text.take places).takeWhile isOctal
  let value := digits.foldl (fun n c => 8 * n + (c.toNat - '0'.toNat)) 0
  (Char.ofNat (value % 256), text.drop digits.length)

/-- The character that a letter stands for behind a backslash. -/
def escape? : Char → Option Char
  | 'a' => some '\x07'
  | 'b' => some '\x08'
  | 'e' => some '\x1b'
  | 'f' => some '\x0c'
  | 'n' => some '\n'
  | 'r' => some '\r'
  | 't' => some '\t'
  | 'v' => some '\x0b'
  | '\\' => some '\\'
  | _ => none

/-- The character with a hexadecimal number of at most two digits, and what follows it. -/
def hexadecimal? (text : List Char) : Option (Char × List Char) :=
  match (text.take 2).takeWhile (Arithmetic.isDigitIn 16) with
  | [] => none
  | digits => some (Char.ofNat (digits.foldl (fun n c => 16 * n + Arithmetic.digitValue c) 0), text.drop digits.length)

/-- A text with its backslash forms replaced, and whether a `\c` ended it; characters can be written by
hexadecimal numbers if the forms are `rich`, and `fuel` bounds the number of steps. -/
def unescape (rich : Bool) : (fuel : Nat) → List Char → List Char × Bool
  | 0, _ => ([], false)
  | _ + 1, [] => ([], false)
  | fuel + 1, '\\' :: c :: rest =>
    let more (front : List Char) (rest : List Char) : List Char × Bool :=
      let (text, ended) := unescape rich fuel rest
      (front ++ text, ended)
    if c = 'c' then ([], true)
    else if c = '0' then
      let (value, rest) := octal 3 rest
      more [value] rest
    else if isOctal c then
      let (value, rest) := octal 3 (c :: rest)
      more [value] rest
    else
      match if rich && c = 'x' then hexadecimal? rest else none, escape? c with
      | some (value, rest), _ => more [value] rest
      | none, some value => more [value] rest
      | none, none => more ['\\', c] rest
  | fuel + 1, c :: rest =>
    let (text, ended) := unescape rich fuel rest
    (c :: text, ended)

/-- The output of `echo`. -/
def echo (operands : List String) : String :=
  let (bare, operands) := match operands with
    | "-n" :: rest => (true, rest)
    | _ => (false, operands)
  let line := (" ".intercalate operands).toList
  let (text, ended) := unescape false (line.length + 1) line
  String.ofList text ++ if bare || ended then "" else "\n"

/-- The output of an `echo` that replaces backslash forms only if its options say so. -/
def echoByOptions (operands : List String) : String :=
  let isFlag (operand : String) : Bool :=
    match operand.toList with
    | '-' :: c :: letters => (c :: letters).all (['n', 'e', 'E'].contains ·)
    | _ => false
  let flags := operands.takeWhile isFlag
  let letters := flags.flatMap (fun flag => flag.toList.drop 1)
  let line := (" ".intercalate (operands.drop flags.length)).toList
  let forms := (letters.filter (· ≠ 'n')).getLast? = some 'e'
  let (text, ended) := if forms then unescape true (line.length + 1) line else (line, false)
  String.ofList text ++ if letters.contains 'n' || ended then "" else "\n"

/-! ## Styles -/

/-- What programs that print by formats differ in. -/
structure Style where
  /-- Whether characters can be written by hexadecimal numbers. -/
  rich : Bool := false
  /-- Whether `\c` ends a format. -/
  ends : Bool := false
  /-- How texts are quoted for a shell, if a directive can ask for that. -/
  quote : Option (String → String) := none
  /-- The complaints about an operand that is no number, is one in part, or is too great. -/
  noNumber : String → String := (· ++ ": expected numeric value")
  partNumber : String → String := (· ++ ": not completely converted")
  beyond : String → String := (· ++ ": Numerical result out of range")
  /-- The complaint about a directive. -/
  noDirective : String → String := (· ++ ": invalid directive")
  /-- The complaint about a format that ends in a directive. -/
  noConversion : String → String := fun _ => "missing format character"
  /-- The status after a directive that makes no sense. -/
  status : Nat := 2

/-! ## Directives -/

/-- A directive of a format. -/
structure Directive where
  left : Bool := false
  plus : Bool := false
  blank : Bool := false
  zero : Bool := false
  marked : Bool := false
  width : Nat := 0
  precision : Option Nat := none
  conversion : Char

/-- Fills a text up to the width of a directive. -/
def Directive.pad (d : Directive) (text : List Char) : List Char :=
  let fill := List.replicate (d.width - text.length) ' '
  if d.left then text ++ fill else fill ++ text

/-- The digits of a number, with at least as many as the precision asks for. -/
def Directive.digits (d : Directive) (base n : Nat) : List Char :=
  let digits := if n = 0 && d.precision = some 0 then [] else Nat.toDigits base n
  List.replicate (d.precision.getD 0 - digits.length) '0' ++ digits

/-- A sign or mark and digits, with zeros between them where the directive asks for zeros. -/
def Directive.number (d : Directive) (sign digits : List Char) : List Char :=
  if d.zero && !d.left && d.precision.isNone then
    sign ++ List.replicate (d.width - sign.length - digits.length) '0' ++ digits
  else d.pad (sign ++ digits)

/-- The sign that a directive writes in front of a number. -/
def Directive.sign (d : Directive) (negative : Bool) : List Char :=
  if negative then ['-'] else if d.plus then ['+'] else if d.blank then [' '] else []

/-- A whole number as a directive writes it. -/
def Directive.integer (d : Directive) (value : Int) : List Char :=
  let natural := (Arithmetic.bits value).toNat
  match d.conversion with
  | 'o' =>
    let digits := d.digits 8 natural
    d.number [] (if d.marked && digits.head? ≠ some '0' then '0' :: digits else digits)
  | 'x' => d.number (if d.marked && natural ≠ 0 then ['0', 'x'] else []) (d.digits 16 natural)
  | 'X' =>
    d.number (if d.marked && natural ≠ 0 then ['0', 'X'] else []) ((d.digits 16 natural).map Char.toUpper)
  | 'u' => d.number [] (d.digits 10 natural)
  | _ => d.number (d.sign (value < 0)) (d.digits 10 value.natAbs)

/-- A number with a fraction as a directive writes it. -/
def Directive.fraction (d : Directive) (value : Fraction.Value) : List Char :=
  let sign := d.sign value.negative
  let text := Fraction.write d.conversion d.precision d.marked value.magnitude
  match value.magnitude with
  | .finite .. => { d with precision := none }.number sign text
  | _ => d.pad (sign ++ text)

def fractionConversions : List Char := ['e', 'E', 'f', 'F']

/-- The complaint about an operand, `behind` of which was left over when it was read as a number. -/
def Style.leftOver? (style : Style) (operand : String) (behind : List Char) : Option String :=
  if behind = [] then none
  else if behind.length = operand.length then some (style.noNumber operand)
  else some (style.partNumber operand)

/-- The number at the front of an operand, and the complaint about it if it is not all of it or goes
beyond the numbers of the machine; a quote makes a number of the character behind it. -/
def numberOf (style : Style) (signed : Bool) (operand : String) : Int × Option String :=
  let text := operand.toList
  match text with
  | '"' :: rest | '\'' :: rest => ((rest.head?.map (fun c => (c.toNat : Int))).getD 0, none)
  | _ =>
    let (negative, digits) := match text.dropWhile Arithmetic.isBlank with
      | '-' :: digits => (true, digits)
      | '+' :: digits => (false, digits)
      | digits => (false, digits)
    let (magnitude, behind) := Arithmetic.constant digits
    let behind := if behind.length = digits.length then text else behind
    let value := if negative then -magnitude else magnitude
    let half : Int := Arithmetic.valueCount / 2
    let (least, most) := if signed then (-half, half - 1) else (1 - Arithmetic.valueCount, Arithmetic.valueCount - 1)
    let kept := if least ≤ value && value ≤ most then value
      else if signed then (if negative then least else most) else most
    let range := if kept = value then none else some (style.beyond operand)
    (kept, (style.leftOver? operand behind).or range)

/-- The number with a fraction at the front of an operand, and the complaint about it. -/
def fractionOf (style : Style) (operand : String) : Fraction.Value × Option String :=
  match operand.toList with
  | '"' :: rest | '\'' :: rest => ({ magnitude := .finite ((rest.head?.map Char.toNat).getD 0) 0 }, none)
  | text =>
    let (value, behind) := Fraction.read text
    let range := if value.beyond then some (style.beyond operand) else none
    (value, (style.leftOver? operand behind).or range)

/-! ## Formats -/

/-- What one pass over a format has written, the operands left, complaints, whether it was ended, and
what made no sense. -/
structure Pass where
  written : List Char := []
  operands : List String
  /-- What is complained about, each with the number of characters that are written before. -/
  complaints : List (Nat × String) := []
  ended : Bool := false
  senseless : Option String := none

/-- Takes the next operand; there is none behind the last. -/
def Pass.next (p : Pass) : String × Pass :=
  (p.operands.head?.getD "", { p with operands := p.operands.tail })

def Pass.write (p : Pass) (text : List Char) : Pass := { p with written := p.written ++ text }

/-- Adds a complaint, if there is one. -/
def Pass.note (p : Pass) (complaint : Option String) : Pass :=
  { p with complaints := p.complaints ++ complaint.toList.map (p.written.length, ·) }

/-- Reads a width or precision, which may be the next operand. -/
def amount (style : Style) (text : List Char) (p : Pass) : Option Int × List Char × Pass :=
  match text with
  | '*' :: rest =>
    let (operand, p) := p.next
    let (value, complaint) := numberOf style true operand
    (some (value.bmod 0x100000000), rest, p.note complaint)
  | _ =>
    let digits := text.takeWhile Char.isDigit
    (if digits = [] then none else Arithmetic.ofDigits 10 digits, text.drop digits.length, p)

/-- The greatest width and precision. -/
def amountLimit : Nat := 0x7FFFFFFF

/-- Follows one directive. -/
def follow (style : Style) (d : Directive) (p : Pass) : Pass :=
  let (operand, p) := p.next
  match d.conversion with
  | 's' => p.write (d.pad (operand.toList.take (d.precision.getD operand.length)))
  | 'c' => p.write (d.pad [operand.toList.head?.getD '\x00'])
  | 'b' =>
    let (text, ended) := unescape false (operand.length + 1) operand.toList
    { p.write (d.pad (text.take (d.precision.getD text.length))) with ended := ended }
  | 'q' => p.write (d.pad ((style.quote.map (· operand)).getD operand).toList)
  | c =>
    if fractionConversions.contains c then
      let (value, complaint) := fractionOf style operand
      (p.note complaint).write (d.fraction value)
    else
      let (value, complaint) := numberOf style (c = 'd' || c = 'i') operand
      (p.note complaint).write (d.integer value)

def conversions : List Char := ['s', 'b', 'c', 'd', 'i', 'u', 'o', 'x', 'X'] ++ fractionConversions

/-- Goes over a format once; `fuel` bounds the number of steps. -/
def pass (style : Style) : (fuel : Nat) → List Char → Pass → Pass
  | 0, _, p => p
  | _ + 1, [], p => p
  | fuel + 1, '\\' :: c :: rest, p =>
    if isOctal c then
      let (value, rest) := octal 3 (c :: rest)
      pass style fuel rest (p.write [value])
    else if style.ends && c = 'c' then { p with ended := true }
    else
      match if style.rich && c = 'x' then hexadecimal? rest else none, escape? c with
      | some (value, rest), _ => pass style fuel rest (p.write [value])
      | none, some value => pass style fuel rest (p.write [value])
      | none, none => pass style fuel (c :: rest) (p.write ['\\'])
  | fuel + 1, '%' :: '%' :: rest, p => pass style fuel rest (p.write ['%'])
  | fuel + 1, '%' :: directive, p =>
    let flags := directive.takeWhile ['-', '+', ' ', '0', '#'].contains
    let (width, rest, p) := amount style (directive.drop flags.length) p
    let (precision, rest, p) := match rest with
      | '.' :: rest =>
        let (precision, rest, p) := amount style rest p
        (some (precision.getD 0), rest, p)
      | _ => (none, rest, p)
    match rest with
    | [] => { p with senseless := some (style.noConversion (String.ofList ('%' :: directive))), ended := true }
    | c :: rest =>
      if conversions.contains c || (c = 'q' && style.quote.isSome) then
        let d : Directive := {
          left := flags.contains '-' || (width.getD 0) < 0
          plus := flags.contains '+'
          blank := flags.contains ' '
          zero := flags.contains '0'
          marked := flags.contains '#'
          width := (width.getD 0).natAbs
          precision := precision.bind (fun n => if n < 0 then none else some n.toNat)
          conversion := c }
        if amountLimit < d.width || amountLimit < d.precision.getD 0 then
          { p with senseless := some "xvsnprintf failed", ended := true }
        else
          let p := follow style d p
          if p.ended then p else pass style fuel rest p
      else
        let text := '%' :: directive.take (directive.length - rest.length)
        { p with senseless := some (style.noDirective (String.ofList text)), ended := true }
  | fuel + 1, c :: rest, p => pass style fuel rest (p.write [c])

/-- Goes over a format as long as it takes operands and there are more; `fuel` bounds the number of
passes. -/
def passes (style : Style) (format : List Char) : (fuel : Nat) → Pass → Pass
  | 0, p => p
  | fuel + 1, p =>
    let after := pass style (2 * format.length + 1) format p
    if after.ended || after.operands = [] || after.operands.length = p.operands.length then after
    else passes style format fuel after

/-- What `printf` writes, its complaints, each with the number of characters before it, and its status. -/
def printf (style : Style) (format : String) (operands : List String) : String × List (Nat × String) × Nat :=
  let last := passes style format.toList (operands.length + 1) { operands := operands }
  (String.ofList last.written, last.complaints ++ last.senseless.toList.map (last.written.length, ·),
    if last.senseless.isSome then style.status else if last.complaints.isEmpty then 0 else 1)

end Configurator.Shell.Format
