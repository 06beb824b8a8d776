/-
Reading the commands of scripts. Commands are read one line at a time, as they are run: a fault further
down comes up only when reading gets there. Reserved words are such only where a command can begin. The rich
dialect has more kinds of commands.
-/
import Configurator.Shell.Reader
import Configurator.Text.Pieces

namespace Configurator.Shell.Grammar

open Reader

def closers : List String := ["do", "done", "elif", "else", "esac", "fi", "then", "\x7d"]

/-- Whether a token ends a list of commands. -/
def closes : Token → Bool
  | .word w => (plain? w).any closers.contains
  | .sign text => text = ")" || text = ";;"
  | _ => false

def putBack (t : Token) : Read Unit := modify (fun c => { c with pushed := some t })

/-- Fails at a token that does not belong there. -/
def unexpected {α : Type} (t : Token) (reserved : Bool) (expected : Option String) : Read α :=
  fail (t.name reserved ++ " unexpected" ++
    match expected with
    | some text => " (expecting " ++ text ++ ")"
    | none => "")

/-- A stretch of text at the front of a word, unless it is empty. -/
def prepend (text : List Char) (rest : Word) : Word :=
  if text.isEmpty then rest else .text (String.ofList text) false :: rest

/-- The assignment that a word spells. -/
def assignment? (w : Word) : Option (Assignment Word) :=
  match w with
  | .text text false :: rest =>
    match text.toList.dropWhile (· ≠ '=') with
    | _ :: value =>
      let name := String.ofList (text.toList.takeWhile (· ≠ '='))
      if isName name then some ⟨name, prepend value rest⟩ else none
    | [] => none
  | _ => none

section Commands

variable (list : (required : Bool) → Read Command)

/-- What a token means to the place where it stands. -/
inductive Place where
  /-- A command begins here: reserved words are such, and aliases are replaced. -/
  | beginning
  /-- Only variables and redirections stand before: aliases are replaced. -/
  | prepared
  | inside
  deriving DecidableEq, Repr

/-- The alias that a token is, and its text. The text of an alias does not itself contain that alias. -/
def alias? (place : Place) (c : Cursor) : Token → Option (String × String)
  | .word w =>
    match plain? w with
    | some name =>
      let isReserved := place = .beginning && keywords.contains name
      let isOpen := c.insertions.any (fun i => i.name = name && i.behind ≤ c.source.length)
      if (place ≠ .inside || c.afterBlank) && !isReserved && !isOpen then
        (c.aliases.lookup name).map (name, ·)
      else none
    | none => none
  | _ => none

/-- Puts texts in place of the aliases that tokens are; `fuel` bounds their number. -/
def replaced (place : Place) : (fuel : Nat) → Token → Read Token
  | 0, t => return t
  | fuel + 1, t => do
    let c ← get
    match alias? place c t with
    | none => return t
    | some (name, text) =>
      let insertion : Insertion :=
        ⟨name, c.source.length, text.toList.getLast?.any (fun x => x = ' ' || x = '\t')⟩
      let lines := text.toList.count '\n'
      let behind := c.source.map (Prod.map id (· + lines))
      set { c with
        source := sourceAt c.line text.toList ++ behind
        last := c.last + lines
        insertions := insertion :: c.insertions }
      replaced (if place = .inside then .prepared else place) fuel (← lex list false)

/-- Reads the next token at a place. -/
def nextAt (place : Place) : Read Token := do
  let c ← get
  match c.pushed with
  | some t =>
    set { c with pushed := none }
    return t
  | none =>
    let t ← lex list false
    if c.aliases.isEmpty then return t else replaced list place (c.source.length + c.aliases.length + 1) t

def next : Read Token := nextAt list .inside

/-- Reads the next token at a place that is no line end; `fuel` bounds the number of line ends. -/
def nextBeyond (place : Place) : (fuel : Nat) → Read Token
  | 0 => return .finish
  | fuel + 1 => do
    match ← nextAt list place with
    | .newline => nextBeyond place fuel
    | t => return t

def nextOnLines : Read Token := do nextBeyond list .inside ((← get).source.length + 2)

/-- Reads the next token that is no line end where a command begins. -/
def firstOnLines : Read Token := do nextBeyond list .beginning ((← get).source.length + 2)

def keywordOf (t : Token) : Read (Option String) := do return t.keyword? (← get).dialect

/-- Reads a reserved word. -/
def expectWord (text : String) (t : Token) : Read Unit := do
  unless (← keywordOf t) = some text do unexpected t true (some ("\"" ++ text ++ "\""))

/-! ## Simple commands -/

/-- What the sign of a redirection does. -/
def kindOf : String → Redirect
  | "<" => .input
  | "<>" => .both
  | ">>" => .append
  | ">|" => .overwrite
  | "<&" | ">&" => .duplicate
  | "<<<" => .line
  | _ => .output

/-- Reads what follows the sign of a redirection. -/
def redirection (descriptor : Nat) (sign : String) : Read (Redirection Word) := do
  let isHere := sign = "<<" || sign = "<<-"
  match ← lex list isHere with
  | .word w =>
    if !isHere then return { descriptor := descriptor, kind := kindOf sign, word := w }
    let (mark, quoted) := markOf w
    let c ← get
    let (text, rest, isThere) := takeDocument mark (sign = "<<-") c.source
    set { c with source := rest, exhausted := c.exhausted || !isThere }
    if quoted then return { descriptor := descriptor, kind := .here, word := [.text (textOf text) true] }
    match (document list).run (c.within text c.last) with
    | .ok (w, _) => return { descriptor := descriptor, kind := .here, word := w }
    | .error fault => throw fault
  | t => unexpected t false none

/-- A simple command so far. -/
structure Simple where
  assignments : List (Assignment Word) := []
  words : List Word := []
  redirections : List (Redirection Word) := []

def Simple.command (line : Nat) (s : Simple) : Command := .simple line s.assignments s.words s.redirections

/-- The name of a function that a word can be. -/
def functionName? (w : Word) : Option String :=
  (plain? w).filter (fun text => isName text && !specialCommands.contains text)

/-- Reads the rest of a simple command, or of a function if it begins as one; `fuel` bounds the number
of words. -/
def simpleRest (command : Read Command) : (fuel line : Nat) → Simple → Read Command
  | 0, line, simple => return simple.command line
  | fuel + 1, line, simple => do
    match ← nextAt list (if simple.words.isEmpty then .prepared else .inside) with
    | .word w =>
      match assignment? w, simple.words with
      | some a, [] =>
        simpleRest command fuel line { simple with assignments := simple.assignments ++ [a] }
      | _, _ => simpleRest command fuel line { simple with words := simple.words ++ [w] }
    | .redirect descriptor sign =>
      let r ← redirection list descriptor sign
      simpleRest command fuel line { simple with redirections := simple.redirections ++ [r] }
    | .sign "(" =>
      match simple with
      | ⟨[], [name], []⟩ =>
        match ← next list with
        | .sign ")" =>
          match functionName? name with
          | some text =>
            putBack (← firstOnLines list)
            return .define text (← command)
          | none => fail "Bad function name"
        | t => unexpected t false (some "\")\"")
      | _ =>
        putBack (.sign "(")
        return simple.command line
    | t =>
      putBack t
      return simple.command line

/-! ## Compound commands -/

/-- Reads a conditional behind its first word; `fuel` bounds the number of branches. -/
def branch : (fuel : Nat) → Read Command
  | 0 => return .nothing
  | fuel + 1 => do
    let condition ← list true
    expectWord "then" (← next list)
    let consequence ← list true
    let t ← next list
    match ← keywordOf t with
    | some "elif" => return .branch condition consequence (← branch fuel)
    | some "else" =>
      let alternative ← list true
      expectWord "fi" (← next list)
      return .branch condition consequence alternative
    | _ =>
      expectWord "fi" t
      return .branch condition consequence .nothing

/-- Reads words up to a line end or a semicolon; `fuel` bounds their number. -/
def items : (fuel : Nat) → List Word → Read (List Word)
  | 0, acc => return acc
  | fuel + 1, acc => do
    match ← next list with
    | .word w => items fuel (acc ++ [w])
    | .newline | .sign ";" => return acc
    | t => unexpected t false none

/-- Reads the body of a loop whose first word has been read. -/
def loopBody (first : Token) : Read Command := do
  expectWord "do" first
  let body ← list true
  expectWord "done" (← next list)
  return body

/-- The pieces of an expression between semicolons. -/
def expressionPieces (word : Word) : List Word :=
  let last := word.foldl (fun (acc : List Word × Word) part =>
    match part with
    | .text text quoted =>
      match Text.pieces ';' text.toList with
      | [] => acc
      | first :: rest =>
        let piece (text : List Char) : Word := if text = [] then [] else [.text (String.ofList text) quoted]
        rest.foldl (fun acc text => (acc.1 ++ [acc.2], piece text)) (acc.1, acc.2 ++ piece first)
    | part => (acc.1, acc.2 ++ [part])) ([], [])
  last.1 ++ [last.2]

/-- Whether what follows two opening parentheses ends with two closing ones, as an expression does. One that
does not end is taken for an expression. -/
def isExpression : (depth : Nat) → Source → Bool
  | _, [] => true
  | depth, ('\\', _) :: rest => isExpression depth rest.tail
  | depth, ('(', _) :: rest => isExpression (depth + 1) rest
  | 0, (')', _) :: rest => rest.head?.map Prod.fst = some ')'
  | depth + 1, (')', _) :: rest => isExpression depth rest
  | depth, _ :: rest => isExpression depth rest
termination_by _ source => source.length

/-- Whether the parenthesis that was read begins an expression. -/
def beginsExpression : Read Bool := do
  let c ← get
  match c.dialect, c.source with
  | .rich, ('(', _) :: rest => return isExpression 0 rest
  | _, _ => return false

/-- Reads an expression behind the first of its parentheses. -/
def expression : Read Word := do
  let _ ← take
  parts list {} ((← get).source.length + 1) (.arithmetic 0) []

/-- Reads a loop over items, or one that counts, behind its first word. -/
def each (line : Nat) : Read Command := do
  match ← next list with
  | .word w =>
    match (plain? w).filter isName with
    | some name =>
      let t ← nextOnLines list
      if (← keywordOf t) = some "in" then
        let words ← items list ((← get).source.length + 2) []
        return .each line name (some words) (← loopBody list (← nextOnLines list))
      else
        match t with
        | .sign ";" => return .each line name none (← loopBody list (← nextOnLines list))
        | t => return .each line name none (← loopBody list t)
    | none => fail "Bad for loop variable"
  | t =>
    let begins : Bool := match t with
      | .sign sign => sign = "("
      | _ => false
    if begins && (← beginsExpression) then
      match expressionPieces (← expression list) with
      | [first, condition, step] =>
        let t ← nextOnLines list
        let t ← match t with
          | .sign ";" => nextOnLines list
          | t => pure t
        return .counted line first condition step (← loopBody list t)
      | _ => fail "Bad for loop expression"
    else fail "Bad for loop variable"

/-- Reads the patterns of a case, the first token of which has been read; `fuel` bounds their number. -/
def patterns : (fuel : Nat) → List Word → Token → Read (List Word)
  | 0, acc, _ => return acc
  | fuel + 1, acc, t => do
    let acc := match t with
      | .word w => acc ++ [w]
      | _ => acc
    match ← next list with
    | .sign "|" => patterns fuel acc (← next list)
    | .sign ")" => return acc
    | t => unexpected t false (some "\")\"")

/-- Reads the cases of a choice; `fuel` bounds their number. -/
def cases : (fuel : Nat) → List (Clause Word Command) → Read (List (Clause Word Command))
  | 0, acc => return acc
  | fuel + 1, acc => do
    let t ← nextOnLines list
    if (← keywordOf t) = some "esac" then return acc
    let first ← match t with
      | .sign "(" => next list
      | t => pure t
    let ps ← patterns list ((← get).source.length + 2) [] first
    let body ← list false
    let t ← nextOnLines list
    if (← keywordOf t) = some "esac" then return acc ++ [⟨ps, body⟩]
    match t with
    | .sign ";;" => cases fuel (acc ++ [⟨ps, body⟩])
    | t => unexpected t true (some "\";;\"")

/-- Reads a choice behind its first word. -/
def choice (line : Nat) : Read Command := do
  match ← next list with
  | .word w =>
    expectWord "in" (← nextOnLines list)
    return .choice line w (← cases list ((← get).source.length + 2) [])
  | t => unexpected t false (some "word")

/-- Reads the redirections behind a compound command; `fuel` bounds their number. -/
def redirections : (fuel : Nat) → List (Redirection Word) → Read (List (Redirection Word))
  | 0, acc => return acc
  | fuel + 1, acc => do
    match ← next list with
    | .redirect descriptor sign => redirections fuel (acc ++ [← redirection list descriptor sign])
    | t =>
      putBack t
      return acc

/-- The only command of a list of one. -/
def lone : Command → Command
  | .sequence first .nothing => first
  | command => command

/-- A compound command with the redirections behind it. -/
def redirected (line : Nat) (body : Command) : Read Command := do
  match ← redirections list ((← get).source.length + 2) [] with
  | [] => return body
  | rs => return .redirected line body rs

/-! ## Conditions -/

def questionUnary : List String := ["-d", "-e", "-f", "-h", "-n", "-p", "-r", "-s", "-w", "-x", "-z", "-L"]

def questionBinary : List String := ["=", "==", "!=", "-eq", "-ne", "-lt", "-le", "-gt", "-ge", "-nt", "-ot", "-ef"]

/-- Reads a condition up to the end of what binds as strongly: 0 for "or", 1 for "and", 2 for one that is
joined to nothing. `fuel` bounds the depth and the number of operators. -/
def question : (fuel level : Nat) → Read (Question Word)
  | 0, _ => fail "\"]]\" expected"
  | fuel + 1, 0 => do
    let first ← question fuel 1
    match ← nextOnLines list with
    | .sign "||" => return .either first (← question fuel 0)
    | t =>
      putBack t
      return first
  | fuel + 1, 1 => do
    let first ← question fuel 2
    match ← nextOnLines list with
    | .sign "&&" => return .both first (← question fuel 1)
    | t =>
      putBack t
      return first
  | fuel + 1, _ => do
    match ← nextOnLines list with
    | .sign "(" =>
      let inside ← question fuel 0
      match ← nextOnLines list with
      | .sign ")" => return inside
      | t => unexpected t true (some "\")\"")
    | .word w =>
      let text := (plain? w).getD ""
      if text = "!" then return .negation (← question fuel 2)
      let second ← next list
      match second with
      | .word v =>
        let name := (plain? v).getD ""
        if questionUnary.contains text then return .unary text v
        else if questionBinary.contains name then
          match ← next list with
          | .word other => return .binary name w other
          | t => unexpected t true (some "word")
        else
          putBack second
          return .unary "-n" w
      | t =>
        putBack t
        return .unary "-n" w
    | t => unexpected t true (some "word")

/-! ## Commands -/

/-- Reads a command; `fuel` bounds the number of function heads. -/
def command : (fuel : Nat) → Read Command
  | 0 => return .nothing
  | fuel + 1 => do
    let t ← nextAt list .beginning
    let line := (← get).line
    match t with
    | .sign "(" =>
      if ← beginsExpression then
        return ← redirected list line (.computation line (← expression list))
      let body ← list true
      match ← next list with
      | .sign ")" => return .subshell line body (← redirections list ((← get).source.length + 2) [])
      | t => unexpected t true (some "\")\"")
    | .redirect .. =>
      putBack t
      simpleRest list (command fuel) ((← get).source.length + 2) line {}
    | .word _ =>
      match ← keywordOf t with
      | none =>
        putBack t
        simpleRest list (command fuel) ((← get).source.length + 2) line {}
      | some "if" => redirected list line (← branch list ((← get).source.length + 2))
      | some "for" => redirected list line (← each list line)
      | some "case" => redirected list line (← choice list line)
      | some "while" => redirected list line (← loop false)
      | some "until" => redirected list line (← loop true)
      | some "[[" =>
        let q ← question list ((← get).source.length + 8) 0
        expectWord "]]" (← nextOnLines list)
        redirected list line (.question line q)
      | some "\x7b" =>
        let body ← list true
        expectWord "\x7d" (← next list)
        match lone body, ← redirections list ((← get).source.length + 2) [] with
        | body, [] => return body
        | .subshell line inside _, rs => return .subshell line inside rs
        | body, rs => return .redirected line body rs
      | some _ => unexpected t true none
    | t => unexpected t true none
where
  /-- Reads a loop with a condition behind its first word. -/
  loop (until_ : Bool) : Read Command := do
    let condition ← list true
    return .loop until_ condition (← loopBody list (← next list))

def anyCommand : Read Command := do command list ((← get).source.length + 2)

/-- Reads the rest of a pipe behind a command; `fuel` bounds the number of commands. -/
def pipes : (fuel : Nat) → Command → Read (List Command)
  | 0, first => return [first]
  | fuel + 1, first => do
    match ← next list with
    | .sign "|" =>
      putBack (← firstOnLines list)
      return first :: (← pipes fuel (← anyCommand list))
    | t =>
      putBack t
      return [first]

/-- Reads commands joined by pipes, perhaps behind an exclamation mark; line ends in front are
skipped if that is asked for. -/
def pipeline (beyond : Bool) : Read Command := do
  let t ← if beyond then firstOnLines list else nextAt list .beginning
  let isNegated := (← keywordOf t) = some "!"
  unless isNegated do putBack t
  let first ← anyCommand list
  let all : Command ← match ← pipes list ((← get).source.length + 2) first with
    | [command] => pure command
    | commands => pure (.piped commands)
  return if isNegated then .negated all else all

/-- Reads what follows a pipeline; `fuel` bounds the number of pipelines. -/
def andOr : (fuel : Nat) → Command → Read Command
  | 0, first => return first
  | fuel + 1, first => do
    match ← next list with
    | .sign "&&" => andOr fuel (.both first (← pipeline list true))
    | .sign "||" => andOr fuel (.either first (← pipeline list true))
    | t =>
      putBack t
      return first

/-- Reads pipelines joined by `&&` and `||`. -/
def conditional : Read Command := do
  let first ← pipeline list false
  andOr list ((← get).source.length + 2) first

end Commands

/-- Reads a list of commands up to what ends it, which is put back; where one is required, there is at
least one command unless the source ends. `fuel` bounds the depth and the number of commands. -/
def list : (fuel : Nat) → (required : Bool) → Read Command
  | 0, _ => return .nothing
  | fuel + 1, required => do
    let t ← firstOnLines (list fuel)
    let isOver := match t with
      | .finish => true
      | t => !required && closes t
    putBack t
    if isOver then return .nothing
    let first ← conditional (list fuel)
    match ← next (list fuel) with
    | .sign ";" | .newline => return .sequence first (← list fuel false)
    | .sign "&" => return .sequence (.background first) (← list fuel false)
    | t =>
      putBack t
      return first

/-- Reads the commands of one line; `fuel` bounds their number. -/
def line (sub : (required : Bool) → Read Command) : (fuel : Nat) → Read Command
  | 0 => return .nothing
  | fuel + 1 => do
    match ← nextAt sub .beginning with
    | .newline | .finish => return .nothing
    | t =>
      putBack t
      let first ← conditional sub
      match ← next sub with
      | .sign ";" => return .sequence first (← line sub fuel)
      | .sign "&" => return .sequence (.background first) (← line sub fuel)
      | .newline | .finish => return first
      | t => unexpected t true none

/-- The commands of a line, what follows the line, and whether the end of the source was come to. -/
structure NextLine where
  command : Command
  rest : Source
  exhausted : Bool

/-- Reads the commands of the next line, if there is one, from where reading has come to. -/
def nextLine (start : Cursor) : Except Reader.Fault (Option NextLine) :=
  if start.source.isEmpty then .ok none
  else
    match (line (list (start.source.length + 2)) (start.source.length + 2)).run start with
    | .ok (command, c) => .ok (some ⟨command, c.source, c.exhausted⟩)
    | .error fault => .error fault

end Configurator.Shell.Grammar
