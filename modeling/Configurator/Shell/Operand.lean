/-
The operands of the commands that are part of the shell: options, which are letters behind a hyphen,
numbers, and names with values.
-/
import Configurator.Shell.Arithmetic
import Configurator.Shell.State

namespace Configurator.Shell.Operand

/-! ## Options -/

/-- Whether a letter is one of the options that a text lists, and if so whether it takes a value: then
a colon stands behind it. -/
def takesValue? (letter : Char) : (allowed : List Char) → Option Bool
  | [] => none
  | c :: ':' :: rest => if c = letter then some true else takesValue? letter rest
  | c :: rest => if c = letter then some false else takesValue? letter rest

/-- The options of one word, each with its value if it takes one, and the words behind them. -/
def letters (allowed : String) : List Char → List String → Except String (List (Char × String) × List String)
  | [], rest => .ok ([], rest)
  | c :: more, rest =>
    match takesValue? c allowed.toList with
    | none => .error ("Illegal option -" ++ String.ofList [c])
    | some false => (letters allowed more rest).map (fun (others, rest) => ((c, "") :: others, rest))
    | some true =>
      if more ≠ [] then .ok ([(c, String.ofList more)], rest)
      else
        match rest with
        | value :: rest => .ok ([(c, value)], rest)
        | [] => .error ("No arg for -" ++ String.ofList [c] ++ " option")

/-- The options in front of words, and the words behind them; `fuel` bounds the number of words. -/
def optionsIn (allowed : String) :
    (fuel : Nat) → List String → Except String (List (Char × String) × List String)
  | 0, words => .ok ([], words)
  | _ + 1, [] => .ok ([], [])
  | fuel + 1, word :: rest =>
    match word.toList with
    | ['-', '-'] => .ok ([], rest)
    | '-' :: c :: more => do
      let (given, rest) ← letters allowed (c :: more) rest
      let (others, words) ← optionsIn allowed fuel rest
      return (given ++ others, words)
    | _ => .ok ([], word :: rest)

/-- Does the work of a command with its options and the words behind them; what is no option is a
fault. -/
def withOptions (allowed : String) (operands : List String)
    (work : List (Char × String) → List String → Action Unit) : Action Unit :=
  match optionsIn allowed (operands.length + 1) operands with
  | .error text => abort text
  | .ok (given, words) => work given words

/-! ## Numbers -/

/-- The greatest number that can be an operand. -/
def greatest : Nat := 0x7FFFFFFF

/-- A number among the operands of a command. -/
def natural? (text : String) : Option Nat :=
  match Arithmetic.decimal? text with
  | some n => if 0 ≤ n && n ≤ greatest then some n.toNat else none
  | none => none

/-- Does something with the number that an operand spells; anything else is a fault. -/
def withNumber (operand : String) (action : Nat → Action Unit) : Action Unit :=
  match natural? operand with
  | some n => action n
  | none => abort ("Illegal number: " ++ operand)

/-- Does something with the number that the first operand spells, or with the one that stands for
none. -/
def withFirst (operands : List String) (default : Nat) (action : Nat → Action Unit) : Action Unit :=
  match operands with
  | [] => action default
  | operand :: _ => withNumber operand action

/-- A number without sign. -/
def digits? (text : String) : Option Nat :=
  if text ≠ "" && text.toList.all Char.isDigit then text.toNat? else none

/-! ## Names and values -/

/-- The name and the value that an operand spells. -/
def binding (operand : String) : String × Option String :=
  let name := operand.toList.takeWhile (· ≠ '=')
  match operand.toList.dropWhile (· ≠ '=') with
  | [] => (String.ofList name, none)
  | _ :: value => (String.ofList name, some (String.ofList value))

/-- A text between quotes, as it can be read again: single quotes, and double ones around single
quotes. -/
def quoted (text : String) : String :=
  let isQuote (c : Char) : Bool := c = '\''
  let runs := text.toList.splitBy (fun a b => isQuote a == isQuote b)
  let shown (run : List Char) : List Char :=
    if run.all isQuote then '"' :: run ++ ['"'] else '\'' :: run ++ ['\'']
  let front := if text.toList.head?.all isQuote then ['\'', '\''] else []
  String.ofList (front ++ (runs.map shown).flatten)

/-- A text with a backslash in front of every character that means something to the shell. -/
def backslashed (text : String) : String :=
  let isMeta (c : Char) : Bool := " \t\n'\"\\|&;()<>!\x7b\x7d*[]?^$\x60,#~".toList.contains c
  if text = "" then "''" else String.ofList (text.toList.flatMap (fun c => if isMeta c then ['\\', c] else [c]))

end Configurator.Shell.Operand
