/-
The options of the shell, each of which is a letter or a name, and the arguments of a script.
-/
import Configurator.Shell.Variables

namespace Configurator.Shell.Options

/-- The names of the options and their letters. The last two are without a letter that can be typed. -/
def names : List (String × Char) :=
  [("errexit", 'e'), ("noglob", 'f'), ("ignoreeof", 'I'), ("interactive", 'i'), ("monitor", 'm'),
    ("noexec", 'n'), ("stdin", 's'), ("xtrace", 'x'), ("verbose", 'v'), ("vi", 'V'), ("emacs", 'E'),
    ("noclobber", 'C'), ("allexport", 'a'), ("notify", 'b'), ("nounset", 'u'), ("privileged", 'p'),
    ("nolog", '\x01'), ("debug", '\x02')]

/-- Switches an option. -/
def switch (letter : Char) (on : Bool) (s : State) : State :=
  let others := s.options.filter (· ≠ letter)
  { s with options := if on then letter :: others else others }

/-- Switches an option by its letter. The two ways to edit lines exclude each other. -/
def switchLetter (letter : Char) (on : Bool) (s : State) : State :=
  let s := switch letter on s
  if on && letter = 'V' then switch 'E' false s
  else if on && letter = 'E' then switch 'V' false s
  else s

/-- Shows all options, as a table or as the commands that switch them. -/
def showAll (table : Bool) : Action Unit := do
  let s ← get
  if table then print "Current option settings\n"
  names.forM (fun (name, letter) =>
    if table then
      print (name ++ String.ofList (List.replicate (16 - name.length) ' ') ++
        (if s.has letter then "on" else "off") ++ "\n")
    else print ("set " ++ (if s.has letter then "-o " else "+o ") ++ name ++ "\n"))

/-- Switches the options that letters spell and gives the words behind them. The letter `o` is for an
option by its name, which is the next word; without one, all options are shown. -/
def switchLetters (on : Bool) : List Char → List String → Action (List String)
  | [], words => return words
  | letter :: more, words => do
    if (← get).halt.isSome then return words
    else if letter = 'o' then
      match words with
      | [] =>
        showAll on
        switchLetters on more []
      | name :: rest =>
        match names.lookup name with
        | some letter => modify (switch letter on)
        | none => abort ("Illegal option -o " ++ name)
        switchLetters on more rest
    else
      if letter > '\x02' && names.any (fun (_, c) => c = letter) then modify (switchLetter letter on)
      else abort ("Illegal option -" ++ String.ofList [letter])
      switchLetters on more words

/-- Switches the options that words spell and gives the words behind them. Nothing is given where the
options are not ended by a word of their own and no words follow. `fuel` bounds the number of words. -/
def switchAll : (fuel : Nat) → List String → Action (Option (List String))
  | 0, words => return some words
  | fuel + 1, words => do
    match words with
    | [] => return none
    | "--" :: rest => return some rest
    | "-" :: rest =>
      modify (fun s => switch 'x' false (switch 'v' false s))
      return if rest.isEmpty then none else some rest
    | word :: rest =>
      match word.toList with
      | '-' :: letters => switchAll fuel (← switchLetters true letters rest)
      | '+' :: letters => switchAll fuel (← switchLetters false letters rest)
      | _ => return some words

/-- Job control needs a terminal, and there is none. -/
def dropJobControl : Action Unit := do
  if (← get).has 'm' then
    complain "can't access tty; job control turned off"
    modify (switch 'm' false)

def setArguments (args : List String) : Action Unit := modify (fun s => { s with args := args })

/-- Switches options and sets the arguments. -/
def assign (operands : List String) : Action Unit := do
  let words ← switchAll (operands.length + 1) operands
  if (← get).halt.isNone then
    dropJobControl
    words.forM setArguments
    setStatus 0

/-- Drops the first arguments. -/
def shift (operands : List String) : Action Unit :=
  Operand.withFirst operands 1 (fun n => do
    let args := (← get).args
    if args.length < n then abort "can't shift that many"
    else
      setArguments (args.drop n)
      setStatus 0)

end Configurator.Shell.Options
