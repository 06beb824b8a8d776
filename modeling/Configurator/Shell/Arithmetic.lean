/-
Whole numbers in scripts: the value of an expression with the usual operators, comparisons, variables
and assignments. Values have 64 bits.
-/
import Configurator.Shell.Script

namespace Configurator.Shell.Arithmetic

/-- A token of an expression. -/
inductive Token where
  | number (value : Int)
  | name (name : String)
  | sign (text : String)
  deriving DecidableEq, Repr

/-- The signs of more than one character, longer ones first. -/
def longSigns : List String :=
  ["<<=", ">>=", "<<", ">>", "<=", ">=", "==", "!=", "&&", "||", "+=", "-=", "*=", "/=", "%=",
    "&=", "|=", "^="]

/-- The signs of more than one character in a dialect; the rich one has powers and steps. -/
def longSignsOf : Dialect → List String
  | .plain => longSigns
  | .rich => ["**", "++", "--"] ++ longSigns

/-- Why an expression has no value. -/
inductive Fault where
  /-- Something else should stand at some place. -/
  | expected (what : String)
  | divisionByZero
  /-- The quotient of two numbers is no number of the machine, which ends the process. -/
  | overflow
  /-- A variable does not hold a number. -/
  | noNumber (text : String)
  /-- A variable that keeps its value is given another. -/
  | fixed (name : String)
  deriving DecidableEq, Repr

/-- The message about an expression without a value. -/
def Fault.message (expression : String) : Fault → String
  | expected what => "arithmetic expression: expecting " ++ what ++ ": \"" ++ expression ++ "\""
  | divisionByZero => "arithmetic expression: division by zero: \"" ++ expression ++ "\""
  | overflow => "arithmetic expression: overflow: \"" ++ expression ++ "\""
  | noNumber text => "Illegal number: " ++ text
  | fixed name => name ++ ": is read only"

/-- The value of a digit in some base. -/
def digitValue (c : Char) : Nat :=
  if c.isDigit then c.toNat - '0'.toNat
  else if c.isLower then c.toNat - 'a'.toNat + 10
  else c.toNat - 'A'.toNat + 10

def isDigitIn (base : Nat) (c : Char) : Bool := c.isAlphanum && digitValue c < base

/-- The number that digits spell in a base. -/
def ofDigits (base : Nat) (digits : List Char) : Option Int :=
  if digits.all (isDigitIn base) then
    some (digits.foldl (fun n c => base * n + digitValue c) 0 : Nat)
  else none

/-- The number at the front of a text and what follows it: hexadecimal behind `0x`, octal behind `0`,
else decimal. -/
def constant (text : List Char) : Int × List Char :=
  let read (base : Nat) (text : List Char) : Int × List Char :=
    let digits := text.takeWhile (isDigitIn base)
    ((ofDigits base digits).getD 0, text.drop digits.length)
  match text with
  | '0' :: x :: digit :: rest =>
    if (x = 'x' || x = 'X') && isDigitIn 16 digit then read 16 (digit :: rest)
    else read 8 text
  | '0' :: _ => read 8 text
  | _ => read 10 text

/-- How many values there are. -/
def valueCount : Nat := 0x10000000000000000

/-- The greatest value. -/
def greatest : Int := valueCount / 2 - 1

/-- The tokens of an expression; `fuel` bounds their number. -/
def tokens (dialect : Dialect) : (fuel : Nat) → List Char → List Token
  | 0, _ => []
  | _ + 1, [] => []
  | fuel + 1, c :: rest =>
    if c = ' ' || c = '\t' || c = '\n' then tokens dialect fuel rest
    else if c.isDigit then
      let (value, behind) := constant (c :: rest)
      .number (min value greatest) :: tokens dialect fuel behind
    else if c.isAlpha || c = '_' then
      let isChar (d : Char) : Bool := d.isAlphanum || d = '_'
      .name (String.ofList ((c :: rest).takeWhile isChar)) :: tokens dialect fuel ((c :: rest).dropWhile isChar)
    else
      match (longSignsOf dialect).find? (fun sign => sign.toList.isPrefixOf (c :: rest)) with
      | some sign => .sign sign :: tokens dialect fuel ((c :: rest).drop sign.length)
      | none => .sign (String.ofList [c]) :: tokens dialect fuel rest

/-- How loosely an operator between two operands binds. -/
def looseness? : String → Option Nat
  | "**" => some 0
  | "*" | "/" | "%" => some 1
  | "+" | "-" => some 2
  | "<<" | ">>" => some 3
  | "<" | ">" | "<=" | ">=" => some 4
  | "==" | "!=" => some 5
  | "&" => some 6
  | "^" => some 7
  | "|" => some 8
  | _ => none

/-- Brings a number into 64 bits. -/
def wrap (n : Int) : Int := n.bmod valueCount

def ofBool (b : Bool) : Int := if b then 1 else 0

/-- A number as 64 bits. -/
def bits (n : Int) : UInt64 := UInt64.ofInt n

/-- Divides by a number that is not zero. -/
def divide (operation : Int → Int → Int) (a b : Int) : Except Fault Int :=
  if b = 0 then .error .divisionByZero
  else if greatest < a.tdiv b then .error .overflow
  else .ok (operation a b)

/-- A power of a number in 64 bits; `fuel` bounds the number of squarings. -/
def power : (fuel : Nat) → (base : Int) → (exponent : Nat) → Int
  | 0, _, _ => 1
  | fuel + 1, base, exponent =>
    if exponent = 0 then 1
    else
      let half := power fuel (wrap (base * base)) (exponent / 2)
      if exponent % 2 = 1 then wrap (base * half) else half

/-- The value of an operator. -/
def apply (op : String) (a b : Int) : Except Fault Int :=
  match op with
  | "*" => .ok (wrap (a * b))
  | "/" => divide Int.tdiv a b
  | "%" => divide Int.tmod a b
  | "+" => .ok (wrap (a + b))
  | "-" => .ok (wrap (a - b))
  | "<<" => .ok (wrap (bits a <<< bits b).toNat)
  | ">>" => .ok (a >>> (b % 64).toNat)
  | "<" => .ok (ofBool (a < b))
  | ">" => .ok (ofBool (a > b))
  | "<=" => .ok (ofBool (a ≤ b))
  | ">=" => .ok (ofBool (a ≥ b))
  | "==" => .ok (ofBool (a = b))
  | "!=" => .ok (ofBool (a ≠ b))
  | "&" => .ok (wrap (bits a &&& bits b).toNat)
  | "^" => .ok (wrap (bits a ^^^ bits b).toNat)
  | "|" => .ok (wrap (bits a ||| bits b).toNat)
  | "**" => .ok (power 64 a b.toNat)
  | _ => .error (.expected "primary")

def isBlank (c : Char) : Bool := c = ' ' || ('\t' ≤ c && c ≤ '\r')

/-- The decimal number that a text spells, perhaps with a sign and with blanks around it. -/
def decimal? (text : String) : Option Int :=
  let read (digits : List Char) : Option Int := if digits = [] then none else ofDigits 10 digits
  let bare := ((text.toList.dropWhile isBlank).reverse.dropWhile isBlank).reverse
  let value := match bare with
    | '-' :: digits => (read digits).map (fun n => -n)
    | '+' :: digits => read digits
    | digits => read digits
  value.filter (fun n => wrap n = n)

/-! ## Evaluation -/

/-- The variables of an expression: how they are looked up, and those given a value in it. -/
abbrev Bindings := List (String × String)

/-- The number in a variable, with blanks around it; an unset or blank one is zero. -/
def valueOf (bindings : Bindings) (name : String) : Except Fault Int :=
  let text := (bindings.lookup name).getD ""
  let front := text.toList.dropWhile isBlank
  let (negative, digits) := match front with
    | '-' :: digits => (true, digits)
    | '+' :: digits => (false, digits)
    | digits => (false, digits)
  let (magnitude, behind) := constant digits
  let value := if negative then -magnitude else magnitude
  let isNumber := digits.head?.any Char.isDigit && behind.all isBlank && wrap value = value
  if front = [] then .ok 0 else if isNumber then .ok value else .error (.noNumber text)

/-- The operator in front of the equals sign of an assignment. -/
def assignment? (sign : String) : Option String :=
  if sign = "=" then some ""
  else if ["+=", "-=", "*=", "/=", "%=", "<<=", ">>=", "&=", "|=", "^="].contains sign then
    some (String.ofList sign.toList.dropLast)
  else none

/-- What is known while an expression is evaluated: the variables, those that keep their values, those
that were given one, the latest first, and the tokens that are left. -/
structure Progress where
  bindings : Bindings
  fixed : List String
  assigned : Bindings := []
  tokens : List Token

abbrev Evaluation := StateT Progress (Except Fault)

/-- Reads the next token. -/
def next : Evaluation (Option Token) := do
  let p ← get
  set { p with tokens := p.tokens.tail }
  return p.tokens.head?

/-- Reads the next token if it is a certain sign. -/
def nextIf (sign : String) : Evaluation Bool := do
  if (← get).tokens.head? = some (.sign sign) then
    let _ ← next
    return true
  else return false

/-- The operator that comes next, with its looseness. -/
def nextOperator? : Evaluation (Option (String × Nat)) := do
  match (← get).tokens.head? with
  | some (.sign sign) => return (looseness? sign).map (sign, ·)
  | _ => return none

/-- The number in a variable, as it is now. -/
def current (name : String) : Evaluation Int := do
  let p ← get
  match valueOf (p.assigned ++ p.bindings) name with
  | .ok value => return value
  | .error fault => throw fault

/-- The value of an operator; where it has no effect, the value of the second operand. -/
def applied (live : Bool) (op : String) (a b : Int) : Evaluation Int :=
  if live then
    match apply op a b with
    | .ok value => pure value
    | .error fault => throw fault
  else pure b

/-- The kinds of expressions, from those with an assignment to those without an operator. -/
inductive Rank where
  | assignment
  | alternative
  | disjunction
  | conjunction
  | comparison
  | primary
  /-- What follows an operand: an operator and all that binds more tightly than a looseness. -/
  | rest (first : Int) (bound : Nat)

/-- Evaluates an expression of a rank. What is not `live` is read and has no effect; `fuel` bounds the
depth. -/
def evaluateAt : (fuel : Nat) → (live : Bool) → Rank → Evaluation Int
  | 0, _, _ => throw (.expected "primary")
  | fuel + 1, live, .assignment => do
    match (← get).tokens with
    | .name name :: .sign sign :: rest =>
      match assignment? sign with
      | some op =>
        modify (fun p => { p with tokens := rest })
        let value ← evaluateAt fuel live .assignment
        if live then
          let value ← if op = "" then pure value else applied true op (← current name) value
          if (← get).fixed.contains name then throw (.fixed name)
          modify (fun p => { p with assigned := (name, toString value) :: p.assigned })
          return value
        else return value
      | none => evaluateAt fuel live .alternative
    | _ => evaluateAt fuel live .alternative
  | fuel + 1, live, .alternative => do
    let condition ← evaluateAt fuel live .disjunction
    if ← nextIf "?" then
      let yes ← evaluateAt fuel (live && condition ≠ 0) .assignment
      unless ← nextIf ":" do throw (.expected "':'")
      let no ← evaluateAt fuel (live && condition = 0) .alternative
      return if condition ≠ 0 then yes else no
    else return condition
  | fuel + 1, live, .disjunction => do
    let first ← evaluateAt fuel live .conjunction
    if ← nextIf "||" then
      let second ← evaluateAt fuel (live && first = 0) .disjunction
      return ofBool (first ≠ 0 || second ≠ 0)
    else return first
  | fuel + 1, live, .conjunction => do
    let first ← evaluateAt fuel live .comparison
    if ← nextIf "&&" then
      let second ← evaluateAt fuel (live && first ≠ 0) .conjunction
      return ofBool (first ≠ 0 && second ≠ 0)
    else return first
  | fuel + 1, live, .comparison => do
    let first ← evaluateAt fuel live .primary
    evaluateAt fuel live (.rest first 9)
  | fuel + 1, live, .rest first bound => do
    match ← nextOperator? with
    | none => return first
    | some (op, looseness) =>
      if looseness ≥ bound then return first
      let _ ← next
      let second ← evaluateAt fuel live .primary
      let second ← evaluateAt fuel live (.rest second (max looseness 1))
      evaluateAt fuel live (.rest (← applied live op first second) bound)
  | fuel + 1, live, .primary => do
    match ← next with
    | some (.number value) => return value
    | some (.name name) =>
      let value ← if live then current name else pure 0
      for (sign, step) in [("++", 1), ("--", -1)] do
        if (← nextIf sign) && live then
          modify (fun p => { p with assigned := (name, toString (wrap (value + step))) :: p.assigned })
      return value
    | some (.sign "(") =>
      let value ← evaluateAt fuel live .assignment
      if ← nextIf ")" then return value
      throw (.expected "')'")
    | some (.sign "+") => evaluateAt fuel live .primary
    | some (.sign "-") => return wrap (-(← evaluateAt fuel live .primary))
    | some (.sign "!") => return ofBool ((← evaluateAt fuel live .primary) = 0)
    | some (.sign "~") => return -(← evaluateAt fuel live .primary) - 1
    | _ => throw (.expected "primary")

/-- The value of an expression and the values that it gives to variables, one after the other. -/
def evaluate (dialect : Dialect) (bindings : Bindings) (fixed : List String) (text : String) :
    Except Fault (Int × Bindings) :=
  let ts := tokens dialect (text.length + 1) text.toList
  let start : Progress := { bindings := bindings, fixed := fixed, tokens := ts }
  match (evaluateAt (8 * ts.length + 16) true .assignment).run start with
  | .error fault => .error fault
  | .ok (value, last) =>
    if last.tokens.isEmpty then .ok (value, last.assigned.reverse) else .error (.expected "EOF")

end Configurator.Shell.Arithmetic
