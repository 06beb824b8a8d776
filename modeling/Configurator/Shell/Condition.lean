/-
Conditions that a script can ask for: about files, about texts and about whole numbers, joined by
"not", "and" and "or".
-/
import Configurator.Host.Kernel
import Configurator.Shell.Format
import Configurator.Text.Raw

namespace Configurator.Shell.Condition

open Host

/-! ## Files -/

/-- What is known of what a path leads to, links followed. -/
def infoAt? (k : Kernel) (path : String) : Option Kernel.Info := (k.examine (Raw.bytes path)).toOption

/-- The conditions on one file; whoever asks may read and write everything. -/
def fileTest (k : Kernel) (operator path : String) : Bool :=
  let has (test : Kernel.Info → Bool) : Bool := (infoAt? k path).any test
  match operator with
  | "-e" | "-r" | "-w" | "-O" | "-G" => has (fun _ => true)
  | "-f" => has (·.kind = .file)
  | "-d" => has (·.kind = .directory)
  | "-c" => has (·.kind = .device)
  | "-p" => has (·.kind = .pipe)
  | "-s" => has (0 < ·.size)
  | "-x" => has (fun info => Disk.isExecutable info.mode)
  | "-u" => has (fun info => info.mode &&& 0o4000 ≠ 0)
  | "-g" => has (fun info => info.mode &&& 0o2000 ≠ 0)
  | "-k" => has (fun info => info.mode &&& 0o1000 ≠ 0)
  | "-h" | "-L" => (k.examineItself (Raw.bytes path)).toOption.any (·.kind = .link)
  | _ => false

/-- A comparison of what two paths lead to. -/
def bothAre (k : Kernel) (a b : String) (test : Kernel.Info → Kernel.Info → Bool) : Bool :=
  match infoAt? k a, infoAt? k b with
  | some p, some q => test p q
  | _, _ => false

/-! ## Texts and numbers -/

/-- A text as a whole number. -/
def number (text : String) : Except String Int :=
  match Arithmetic.decimal? text with
  | some n => .ok n
  | none => .error ("Illegal number: " ++ text)

/-- The value of an operator in front of its operand. -/
def unary (k : Kernel) (operator operand : String) : Except String Bool :=
  match operator with
  | "-n" => .ok (operand ≠ "")
  | "-z" => .ok (operand = "")
  | "-t" => (number operand).map (fun _ => false)
  | _ => .ok (fileTest k operator operand)

/-- The value of an operator between its operands. -/
def binary (k : Kernel) (operator a b : String) : Except String Bool :=
  let compared (test : Int → Int → Bool) : Except String Bool := do
    return test (← number a) (← number b)
  match operator with
  | "=" => .ok (a = b)
  | "!=" => .ok (a ≠ b)
  | "<" => .ok (a < b)
  | ">" => .ok (b < a)
  | "-eq" => compared (fun m n => m = n)
  | "-ne" => compared (fun m n => m ≠ n)
  | "-lt" => compared (fun m n => m < n)
  | "-le" => compared (fun m n => m ≤ n)
  | "-gt" => compared (fun m n => m > n)
  | "-ge" => compared (fun m n => m ≥ n)
  | "-ef" => .ok (bothAre k a b (fun p q => p.target = q.target))
  | "-nt" => .ok (bothAre k a b (fun p q => p.modified > q.modified))
  | "-ot" => .ok (bothAre k a b (fun p q => p.modified < q.modified))
  | _ => .ok false

/-! ## Expressions -/

/-- What a word is by its spelling. -/
inductive Sign where
  | unary
  | binary
  | both
  | either
  | negation
  | opening
  | closing
  deriving DecidableEq, Repr

/-- The operators in front of an operand. -/
def unaryOperators : List String := ["-r", "-w", "-x", "-e", "-f", "-d", "-c", "-b", "-p", "-u", "-g", "-k",
  "-s", "-t", "-z", "-n", "-h", "-O", "-G", "-L", "-S"]

/-- The operators between two operands. -/
def binaryOperators : List String := ["=", "!=", "<", ">", "-eq", "-ne", "-ge", "-gt", "-le", "-lt", "-nt",
  "-ot", "-ef"]

/-- What a word is by its spelling, if it is no plain operand. -/
def sign? (word : String) : Option Sign :=
  match word with
  | "!" => some .negation
  | "-a" => some .both
  | "-o" => some .either
  | "(" => some .opening
  | ")" => some .closing
  | word =>
    if unaryOperators.contains word then some .unary
    else if binaryOperators.contains word then some .binary
    else none

section Expressions

variable (k : Kernel) (words : List String)

/-- What the word at a position is, if it is no operand: an operator in front of nothing or of an
operator between operands is one, and so is a parenthesis that opens nothing. -/
def signAt? (i : Nat) : Option Sign :=
  match words[i]?.bind sign?, words[i + 1]? with
  | some .unary, none | some .opening, none => none
  | some .unary, some next =>
    if words[i + 2]?.isSome && sign? next = some .binary then none else some .unary
  | sign, _ => sign

/-- The value of an expression that begins at a position and whose operators bind at least as strongly
as `level` (0 for "or", 1 for "and", 2 for "not", 3 for no such operator), and the position of its last
word; `sign` is what its first word is, and `fuel` bounds the number of steps. -/
def evaluate : (fuel level i : Nat) → (sign : Option Sign) → Except String (Bool × Nat)
  | 0, _, i, _ => .ok (false, i)
  | fuel + 1, 0, i, sign => do
    let (first, i) ← evaluate fuel 1 i sign
    if signAt? words (i + 1) = some .either then
      let (second, i) ← evaluate fuel 0 (i + 2) (signAt? words (i + 2))
      return (first || second, i)
    else return (first, i)
  | fuel + 1, 1, i, sign => do
    let (first, i) ← evaluate fuel 2 i sign
    if signAt? words (i + 1) = some .both then
      let (second, i) ← evaluate fuel 1 (i + 2) (signAt? words (i + 2))
      return (first && second, i)
    else return (first, i)
  | fuel + 1, 2, i, sign => do
    if sign = some .negation then
      let next := if words[i + 1]?.isSome then i + 1 else i
      let (value, i) ← if words[i + 1]?.isSome then evaluate fuel 2 next (signAt? words next)
        else pure (false, i)
      return (!value, i)
    else evaluate fuel 3 i sign
  | fuel + 1, _, i, sign => do
    match words[i]?, sign with
    | none, _ => return (false, i)
    | some _, some .opening =>
      if signAt? words (i + 1) = some .closing then return (false, i + 1)
      let (value, i) ← evaluate fuel 0 (i + 1) (signAt? words (i + 1))
      if signAt? words (i + 1) = some .closing then return (value, i + 1)
      throw "closing paren expected"
    | some operator, some .unary =>
      match words[i + 1]? with
      | some operand => return (← unary k operator operand, i + 1)
      | none => throw (operator ++ ": argument expected")
    | some word, _ =>
      if signAt? words (i + 1) = some .binary then
        let operator := (words[i + 1]?).getD ""
        match words[i + 2]? with
        | some operand => return (← binary k operator word operand, i + 2)
        | none => throw (operator ++ ": argument expected")
      else return (word ≠ "", i)

end Expressions

/-- The value of the expression that all of some words spell; `first` is what the first one is. -/
def evaluateAll (k : Kernel) (words : List String) (first : Option Sign) : Except String Bool := do
  let (value, last) ← evaluate k words (8 * words.length + 8) 0 0 first
  match words[last]?, words[last + 1]? with
  | some word, some _ => throw ((if word = "" then "" else word ++ ": ") ++ "unexpected operator")
  | _, _ => return value

/-- Takes exclamation marks off the front of three or four words, unless an operator in the middle makes
a comparison of three; tells whether there were any. -/
def strip : List String → Bool × List String
  | first :: rest =>
    let isComparison := rest.length = 2 && (rest.head?.bind sign?) = some .binary
    if first = "!" && (rest.length = 2 || rest.length = 3) && !isComparison then (true, (strip rest).2)
    else (false, first :: rest)
  | [] => (false, [])

/-- Whether the condition that words spell holds; no words spell one that does not. Three words with an
operator in the middle are a comparison. Exclamation marks in front of short conditions negate all that
follows once, and parentheses around one or two words are left out. -/
def holds (k : Kernel) (words : List String) : Except String Bool :=
  let (negated, words) := strip words
  let value : Except String Bool :=
    if words.isEmpty then .ok false
    else if words.length = 3 && (words[1]?.bind sign?) = some .binary then evaluateAll k words none
    else if (words.length = 3 || words.length = 4) && words.head? = some "(" && words.getLast? = some ")" then
      evaluateAll k words.tail.dropLast (signAt? words.tail.dropLast 0)
    else evaluateAll k words (signAt? words 0)
  value.map (fun value => value != negated)

end Configurator.Shell.Condition
