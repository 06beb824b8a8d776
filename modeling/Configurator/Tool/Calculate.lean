/-
Expressions on a command line: whole numbers and the operators between them, each word an argument of its own.
-/
import Configurator.Tool.Amount

namespace Configurator.Tool.Calculate

/-- The whole number that a text spells. -/
def integer? (text : String) : Option Int :=
  match text.toList with
  | '-' :: digits => (Amount.digits? digits).map (fun n => -(n : Int))
  | digits => (Amount.digits? digits).map (fun n => (n : Int))

def isNull (text : String) : Bool := text = "" || integer? text = some 0

/-- The value of two operands and an operator between them. -/
def combined (operator a b : String) : Except String String :=
  match integer? a, integer? b with
  | some m, some n =>
    match operator with
    | "+" => .ok (toString (m + n))
    | "-" => .ok (toString (m - n))
    | "*" => .ok (toString (m * n))
    | _ =>
      if n = 0 then .error "division by zero"
      else .ok (toString (if operator = "/" then Int.tdiv m n else Int.tmod m n))
  | _, _ => .error "non-integer argument"

/-- The operators of each level, the weakest first. -/
def levels : List (List String) := [["+", "-"], ["*", "/", "%"]]

/-- The value of an operand, and the words behind it; `before` is the word in front. -/
def operand (before : String) : List String → Except String (String × List String)
  | [] => .error ("syntax error: missing argument after " ++ Quote.word before)
  | "length" :: text :: rest => .ok (toString text.length, rest)
  | word :: rest => .ok (word, rest)

mutual
/-- The value of an expression whose operators are of some levels, and the words behind it; `fuel` bounds the
number of steps. -/
def level : (fuel : Nat) → (levels : List (List String)) → (before : String) → List String →
    Except String (String × List String)
  | 0, _, before, words | _ + 1, [], before, words => operand before words
  | fuel + 1, operators :: stronger, before, words => do
    let (value, rest) ← level fuel stronger before words
    chain fuel operators stronger value rest

/-- The value of operands one after the other, the first of which has a value. -/
def chain : (fuel : Nat) → (operators : List String) → (stronger : List (List String)) → (value : String) →
    List String → Except String (String × List String)
  | 0, _, _, value, rest => .ok (value, rest)
  | _ + 1, _, _, value, [] => .ok (value, [])
  | fuel + 1, operators, stronger, value, operator :: rest =>
    if operators.contains operator then do
      let (second, rest) ← level fuel stronger operator rest
      chain fuel operators stronger (← combined operator value second) rest
    else .ok (value, operator :: rest)
end

/-- Prints the value of an expression. -/
def expr (c : Call) : Action Unit := do
  if c.args.isEmpty then c.misuse "missing operand" 2
  match level (4 * c.args.length + 4) levels "" c.args with
  | .error text => c.die text 2
  | .ok (_, extra :: _) => c.die ("syntax error: unexpected argument " ++ Quote.word extra) 2
  | .ok (value, []) =>
    c.print (value ++ "\n")
    setStatus (if isNull value then 1 else 0)
    c.finish

end Configurator.Tool.Calculate
