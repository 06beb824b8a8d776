/-
Scripts: the command language in which a stand-in for a compiler can be written. A script is a list of
commands; a command has words, and a word is made of stretches that stand for themselves, for the
value of a parameter, for what a command prints or for a number. The language has a plain dialect and a
rich one, which knows arrays, conditions and computations of its own.

The language works on bytes; its texts are texts of bytes.
-/

namespace Configurator.Shell

/-- The dialects of the language. -/
inductive Dialect where
  /-- What every shell understands. -/
  | plain
  /-- What `bash` understands. -/
  | rich
  deriving DecidableEq, Repr

/-! ## Words -/

/-- A piece of a script's text: characters with the numbers of their lines. -/
abbrev Source := List (Char × Nat)

/-- The source that begins on a line. -/
def sourceAt : (line : Nat) → List Char → Source
  | _, [] => []
  | line, c :: rest => (c, line) :: sourceAt (if c = '\n' then line + 1 else line) rest

/-- What a `$` names. -/
inductive Parameter where
  | positional (index : Nat)
  /-- The number of arguments. -/
  | count
  /-- All arguments, one by one. -/
  | all
  /-- All arguments as one text. -/
  | joined
  /-- The number of the process. -/
  | self
  /-- The status of the last command. -/
  | status
  /-- The letters of the options that are switched on. -/
  | options
  | named (name : String)
  deriving DecidableEq, Repr

/-- What happens when a parameter has no value, or when it has one. -/
inductive Fallback where
  | use
  | assign
  | complain
  | replace
  deriving DecidableEq, Repr

/-! ## Parameters of the rich dialect -/

/-- A parameter, or all values of an array. -/
structure Subject where
  parameter : Parameter
  all : Bool := false
  deriving DecidableEq, Repr

/-- What only the rich dialect makes of the values of a parameter. -/
inductive Change (Word : Type) where
  | itself
  | length
  | slice (offset : Word) (length : Option Word)
  | replace (every : Bool) (pattern replacement : Word)
  /-- The first letter, or every letter, becomes a capital or a small one. -/
  | recase (upper every : Bool)

/-- Gives a variable a value. -/
structure Assignment (Word : Type) where
  name : String
  word : Word

/-! ## Redirections -/

/-- What a redirection does. -/
inductive Redirect where
  | input
  | output
  /-- Output to a file that may be there already, whatever the options say. -/
  | overwrite
  | append
  /-- Input from a file that is made if it is not there. -/
  | both
  /-- The text below the command is the input. -/
  | here
  /-- The word itself is the input, as a line. -/
  | line
  | duplicate
  deriving DecidableEq, Repr

/-- A redirection of the stream with a number. -/
structure Redirection (Word : Type) where
  descriptor : Nat
  kind : Redirect
  word : Word

/-- The reserved words. -/
def keywords : List String := ["!", "case", "do", "done", "elif", "else", "esac", "fi", "for", "if", "in",
  "then", "until", "while", "\x7b", "\x7d"]

/-- The reserved words of a dialect. -/
def Dialect.keywords : Dialect → List String
  | plain => Shell.keywords
  | rich => Shell.keywords ++ ["[[", "]]"]

/-- The commands that belong to the language itself. -/
def specialCommands : List String := [":", ".", "break", "continue", "eval", "exec", "exit", "export",
  "local", "readonly", "return", "set", "shift", "trap", "unset"]

/-! ## Commands -/

/-- A condition between double brackets. -/
inductive Question (Word : Type) where
  | unary (operator : String) (word : Word)
  | binary (operator : String) (first second : Word)
  | negation (question : Question Word)
  | both (first second : Question Word)
  | either (first second : Question Word)

/-- A case of a choice. -/
structure Clause (Word Body : Type) where
  patterns : List Word
  body : Body

mutual
/-- A stretch of a word; `quoted` tells whether it stands between quotes. -/
inductive Part where
  | text (text : String) (quoted : Bool)
  | value (parameter : Parameter) (quoted : Bool)
  | length (parameter : Parameter) (quoted : Bool)
  | fallback (parameter : Parameter) (kind : Fallback) (evenEmpty : Bool) (word : List Part)
      (quoted : Bool)
  | trimmed (parameter : Parameter) (back longest : Bool) (pattern : List Part) (quoted : Bool)
  /-- What a command prints. -/
  | output (command : Command) (quoted : Bool)
  | number (expression : List Part) (quoted : Bool)
  /-- A parameter of the rich dialect. -/
  | shaped (subject : Subject) (change : Change (List Part)) (quoted : Bool)
  /-- The values of an array. -/
  | elements (elements : List (List Part))
  /-- A parameter that makes no sense; using it is a fault. -/
  | senseless

/-- A command. -/
inductive Command where
  | nothing
  | simple (line : Nat) (assignments : List (Assignment (List Part))) (words : List (List Part))
      (redirections : List (Redirection (List Part)))
  | negated (command : Command)
  /-- The output of each is the input of the next. -/
  | piped (commands : List Command)
  | both (first second : Command)
  | either (first second : Command)
  | sequence (first second : Command)
  | background (command : Command)
  | subshell (line : Nat) (body : Command) (redirections : List (Redirection (List Part)))
  | branch (condition consequence alternative : Command)
  /-- Repeats the body while the condition succeeds, or until it does. -/
  | loop (until_ : Bool) (condition body : Command)
  /-- Runs the body for each item; without items, for each argument. -/
  | each (line : Nat) (name : String) (items : Option (List (List Part))) (body : Command)
  /-- Runs the body as long as a number is not zero. -/
  | counted (line : Nat) (first condition step : List Part) (body : Command)
  | choice (line : Nat) (word : List Part) (cases : List (Clause (List Part) Command))
  | question (line : Nat) (question : Question (List Part))
  | computation (line : Nat) (expression : List Part)
  | define (name : String) (body : Command)
  /-- Commands between braces, or another command with redirections of its own. -/
  | redirected (line : Nat) (body : Command) (redirections : List (Redirection (List Part)))
end

abbrev Word := List Part

end Configurator.Shell
