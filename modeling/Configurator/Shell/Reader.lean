/-
Reading the words of scripts. Words are read with their quotes, parameters, numbers and substitutions;
a command inside a word is read together with the word. Where stretches of a word stand decides which
characters are special there and what ends them. The text of a here document is taken out of the lines
below as soon as its mark is read. The rich dialect has more kinds of stretches, signs and parameters.
-/
import Configurator.Shell.Script

namespace Configurator.Shell.Reader

/-- Why a script cannot be read: the line and what is wrong. -/
structure Fault where
  line : Nat
  message : String
  deriving DecidableEq, Repr

/-- A token of a script. -/
inductive Token where
  | word (word : Word)
  | sign (text : String)
  /-- The sign of a redirection, with the number of its stream. -/
  | redirect (descriptor : Nat) (sign : String)
  | newline
  | finish

/-- The text of a word without quotes and parameters. -/
def plain? : Word → Option String
  | [.text text false] => some text
  | _ => none

/-- How a message names a token; reserved words count only where they can stand. -/
def Token.name (reserved : Bool) : Token → String
  | .word w =>
    match plain? w with
    | some text => if reserved && keywords.contains text then "\"" ++ text ++ "\"" else "word"
    | none => "word"
  | .sign text => "\"" ++ text ++ "\""
  | .redirect .. => "redirection"
  | .newline => "newline"
  | .finish => "end of file"

/-- The reserved word of a dialect that a token is. -/
def Token.keyword? (dialect : Dialect) : Token → Option String
  | .word w => (plain? w).filter dialect.keywords.contains
  | _ => none

/-- The text of an alias that stands in the source in place of a word. -/
structure Insertion where
  name : String
  /-- How many characters of the source stand behind the text. -/
  behind : Nat
  /-- Whether the text ends in a blank. -/
  endsBlank : Bool
  deriving DecidableEq, Repr

/-- Where reading has come to. -/
structure Cursor where
  source : Source
  /-- The line behind the last one that ends. -/
  last : Nat
  /-- A token that was read and put back. -/
  pushed : Option Token := none
  /-- What other words stand for where a command begins. -/
  aliases : List (String × String) := []
  insertions : List Insertion := []
  /-- Whether the last token follows the text of an alias that ends in a blank. -/
  afterBlank : Bool := false
  /-- Whether the end of the source was come to. -/
  exhausted : Bool := false
  dialect : Dialect := .plain

abbrev Read := StateT Cursor (Except Fault)

/-- The cursor at the beginning of a source of its own inside another. -/
def Cursor.within (c : Cursor) (source : Source) (last : Nat) : Cursor :=
  { source := source, last := last, aliases := c.aliases, dialect := c.dialect }

/-- The line behind the last one of a source that ends. -/
def lastLine (source : Source) : Nat :=
  (source.getLast?.map (fun (c, line) => if c = '\n' then line + 1 else line)).getD 1

def textOf (source : Source) : String := String.ofList (source.map Prod.fst)

def Cursor.line (c : Cursor) : Nat := (c.source.head?.map Prod.snd).getD c.last

def fail {α : Type} (message : String) : Read α := do throw { line := (← get).line, message := message }

def isRich : Read Bool := do return (← get).dialect = .rich

/-! ## Characters -/

/-- The source without line ends behind a backslash at its front. -/
def joined : Source → Source
  | ('\\', _) :: ('\n', _) :: rest => joined rest
  | source => source

/-- The next character, which is not read. -/
def peek : Read (Option Char) := do
  modify (fun c =>
    let source := joined c.source
    { c with source := source, exhausted := c.exhausted || source.isEmpty })
  return (← get).source.head?.map Prod.fst

/-- Reads the next character. -/
def take : Read (Option Char) := do
  let c ← peek
  modify (fun c => { c with source := c.source.tail })
  return c

/-- Reads the next character as part of a parameter: a line end in it is not counted as one. -/
def takeInside : Read (Option Char) := do
  let c ← take
  if c = some '\n' then
    modify (fun c => { c with
      source := c.source.map (fun (x, line) => (x, line - 1))
      last := c.last - 1 })
  return c

/-- Reads the next character if it is the one expected. -/
def takeIf (c : Char) : Read Bool := do
  if (← peek) = some c then
    let _ ← take
    return true
  else return false

/-- The characters at the front of a source that a test admits, and what follows them. -/
def frontOf (admits : Char → Bool) : Source → List Char × Source
  | ('\\', _) :: ('\n', _) :: rest => frontOf admits rest
  | (c, n) :: rest =>
    if admits c then
      let (front, behind) := frontOf admits rest
      (c :: front, behind)
    else ([], (c, n) :: rest)
  | [] => ([], [])

/-- Reads the characters that a test admits. -/
def takeFront (admits : Char → Bool) : Read (List Char) := do
  let c ← get
  let (front, behind) := frontOf admits c.source
  set { c with source := behind }
  return front

def endsWord (c : Char) : Bool := [' ', '\t', '\n', ';', '&', '|', '<', '>', '(', ')'].contains c

def beginsName (c : Char) : Bool := c.isAlpha || c == '_'

def isNameChar (c : Char) : Bool := c.isAlphanum || c == '_'

/-- Whether a text is the name of a variable. -/
def isName (text : String) : Bool :=
  match text.toList with
  | [] => false
  | c :: rest => beginsName c && rest.all isNameChar

def isSpecial (c : Char) : Bool := ['@', '*', '#', '$', '?', '!', '-'].contains c || c.isDigit

/-- The parameter with a name. -/
def parameterOf (name : List Char) : Parameter :=
  match name with
  | ['@'] => .all
  | ['*'] => .joined
  | ['#'] => .count
  | ['$'] => .self
  | ['?'] => .status
  | ['-'] => .options
  | _ =>
    match (String.ofList name).toNat? with
    | some index => .positional index
    | none => .named (String.ofList name)

/-! ## Words -/

/-- Where the stretches of a word stand. -/
inductive Mode where
  | word
  /-- Between quotes, which may themselves stand between braces. -/
  | quotes (braced : Bool)
  /-- Behind the name of a parameter between braces, outside or inside quotes. -/
  | braces (quoted : Bool)
  /-- In a number, inside so many parentheses. -/
  | arithmetic (depth : Nat)
  /-- In the text of a here document. -/
  | document
  /-- Behind the name of a parameter between braces, up to a sign. -/
  | upTo (stop : Char) (quoted : Bool)
  deriving DecidableEq, Repr

namespace Mode

/-- Whether stretches are quoted. -/
def quoted : Mode → Bool
  | word => false
  | braces quoted | upTo _ quoted => quoted
  | _ => true

/-- Whether stretches stand between braces. -/
def braced : Mode → Bool
  | quotes braced => braced
  | braces _ | upTo .. => true
  | _ => false

/-- What is wrong when the source ends; nothing, if a word may end there. -/
def complaint? (inDocument : Bool) : Mode → Option String
  | word | document => none
  | arithmetic _ => some "Missing '))'"
  | braces false => some "Missing '\x7d'"
  | _ => some (if inDocument then "Missing '\x7d'" else "Unterminated quoted string")

/-- Whether a backslash takes the meaning of a character away; elsewhere it stands for itself. -/
def escapes (mode : Mode) (c : Char) : Bool :=
  !mode.quoted || ['\\', '\x60', '$'].contains c || (c = '"' && mode ≠ .document) ||
    (c = '\x7d' && mode.braced)

end Mode

/-- Adds a character to the stretches of a word, the last of which is the first here. -/
def addChar (c : Char) (quoted : Bool) : List Part → List Part
  | .text text q :: parts =>
    if q = quoted then .text (text.push c) q :: parts else .text (String.ofList [c]) quoted :: .text text q :: parts
  | parts => .text (String.ofList [c]) quoted :: parts

/-- The stretches between quotes. An empty one tells that there is a field, except around the
arguments alone. -/
def quotation (inside : List Part) : List Part :=
  match inside with
  | [.value .all _] => inside
  | [.shaped ⟨_, true⟩ _ _] => inside
  | _ => .text "" true :: inside

/-- Reads up to the next single quote; nothing is special before it. -/
def singleQuoted : Read String := do
  let c ← get
  let inside := c.source.takeWhile (fun (x, _) => x ≠ '\'')
  match c.source.drop inside.length with
  | [] =>
    set { c with source := [] }
    fail "Unterminated quoted string"
  | _ :: behind =>
    set { c with source := behind }
    return textOf inside

/-- The text up to the next backquote and what follows it; a backslash in front of some characters is
left out. -/
def backquoted (quoted : Bool) : Source → Option (List Char × Source)
  | [] => none
  | ('\\', _) :: ('\n', _) :: rest => backquoted quoted rest
  | ('\x60', _) :: rest => some ([], rest)
  | ('\\', _) :: (c, _) :: rest =>
    let kept := if ['\\', '\x60', '$'].contains c || (quoted && c = '"') then [c] else ['\\', c]
    (backquoted quoted rest).map (fun (text, behind) => (kept ++ text, behind))
  | (c, _) :: rest => (backquoted quoted rest).map (fun (text, behind) => (c :: text, behind))

/-- What follows the name between the braces of a parameter. -/
def fallbackOf? : Char → Option Fallback
  | '-' => some .use
  | '=' => some .assign
  | '?' => some .complain
  | '+' => some .replace
  | _ => none

/-- What kind of text is read. -/
structure Setting where
  /-- Whether it is the text of a here document. -/
  document : Bool := false
  /-- Whether it is the mark of one, in which nothing is replaced. -/
  mark : Bool := false

/-- What stands behind the name of a parameter, up to the word that belongs to it. -/
inductive Operation where
  /-- Nothing, and the braces are closed. -/
  | plain
  | length
  | fallback (kind : Fallback) (evenEmpty : Bool)
  | trim (back longest : Bool)
  | slice
  | replace (every : Bool)
  | recase (upper every : Bool)
  /-- Nothing but a colon. -/
  | colon
  | senseless
  deriving DecidableEq, Repr

/-- The operation that only the rich dialect has and that a character begins. -/
def richOperation : Char → Read Operation
  | '/' => do return .replace (← takeIf '/')
  | '^' => do return .recase true (← takeIf '^')
  | ',' => do return .recase false (← takeIf ',')
  | _ => return .senseless

/-- The operation that a character behind a name begins; the character has been read. -/
def operation (c : Option Char) : Read Operation := do
  let rich ← isRich
  match c with
  | some '\x7d' => return .plain
  | some ':' =>
    match ← peek with
    | some c =>
      match if c = '\x7d' then some .colon else (fallbackOf? c).map (Operation.fallback · true) with
      | some operation =>
        let _ ← takeInside
        return operation
      | none =>
        if rich then return .slice
        let _ ← takeInside
        return .senseless
    | none => return .senseless
  | some '#' => return .trim false (← takeIf '#')
  | some '%' => return .trim true (← takeIf '%')
  | some c =>
    match fallbackOf? c with
    | some kind => return .fallback kind false
    | none => if rich then richOperation c else return .senseless
  | none => return .senseless

/-- Reads a name: digits, or the name of a variable. -/
def nameAt (c : Char) : Read (List Char) := takeFront (if c.isDigit then Char.isDigit else isNameChar)

/-- Reads a parameter with a name, in the rich dialect with the sign for all values of an array behind it. -/
def subjectAt (c : Char) : Read Subject := do
  let name ← nameAt c
  let behind := ((← get).source.take 3).map Prod.fst
  if (← isRich) && (behind = ['[', '@', ']'] || behind = ['[', '*', ']']) then
    modify (fun c => { c with source := c.source.drop 3 })
    return ⟨parameterOf name, true⟩
  else return ⟨parameterOf name, false⟩

/-- Reads the parameter between braces and the operation on it, behind the opening brace. -/
def braceHead : Read (Subject × Operation) := do
  let senseless : Subject × Operation := (⟨.count, false⟩, .senseless)
  match ← peek with
  | none | some '\x7d' => return senseless
  | some '#' =>
    let _ ← takeInside
    match ← peek with
    | none => return senseless
    | some c =>
      if isNameChar c then
        let subject ← subjectAt c
        return (subject, if (← peek) = some '\x7d' then .length else .senseless)
      else
        let _ ← takeInside
        if c ≠ '\x7d' && (← peek) = some '\x7d' then
          return (⟨parameterOf [c], false⟩, if isSpecial c then .length else .senseless)
        else return (⟨.count, false⟩, ← operation (some c))
  | some c =>
    if isNameChar c then
      let subject ← subjectAt c
      return (subject, ← operation (← takeInside))
    else
      let _ ← takeInside
      if isSpecial c then return (⟨parameterOf [c], false⟩, ← operation (← takeInside))
      else return senseless

section Parameters

variable (inner : Mode → Read Word) (quoted : Bool)

/-- Reads a word that ends at a sign or at the closing brace, and tells whether it was the sign. -/
def upTo (stop : Char) (quoted : Bool) : Read (Word × Bool) := do
  let word ← inner (.upTo stop quoted)
  if ← takeIf stop then return (word, true)
  let _ ← take
  return (word, false)

/-- Reads a parameter between braces behind the opening one. -/
def parameter : Read Part := do
  let (subject, op) ← braceHead
  let rest : Read Word := inner (.braces quoted)
  match op, subject.all with
  | .plain, false => return .value subject.parameter quoted
  | .plain, true => return .shaped subject .itself quoted
  | .length, false =>
    let _ ← rest
    return .length subject.parameter quoted
  | .length, true =>
    let _ ← rest
    return .shaped subject .length quoted
  | .fallback kind evenEmpty, false => return .fallback subject.parameter kind evenEmpty (← rest) quoted
  | .trim back longest, false => return .trimmed subject.parameter back longest (← inner (.braces false)) quoted
  | .slice, _ =>
    let (offset, more) ← upTo inner ':' quoted
    let length ← if more then some <$> rest else pure none
    return .shaped subject (.slice offset length) quoted
  | .replace every, _ =>
    let (pattern, more) ← upTo inner '/' false
    let replacement ← if more then inner (.braces false) else pure []
    return .shaped subject (.replace every pattern replacement) quoted
  | .recase upper every, _ =>
    let _ ← rest
    return .shaped subject (.recase upper every) quoted
  | .colon, false =>
    let _ ← rest
    return .value subject.parameter quoted
  | _, _ =>
    let _ ← rest
    return .senseless

/-- Skips what stands between the values of an array. -/
def skipBetween : Source → Source
  | (' ', _) :: rest => skipBetween rest
  | ('\t', _) :: rest => skipBetween rest
  | ('\n', _) :: rest => skipBetween rest
  | ('\\', _) :: ('\n', _) :: rest => skipBetween rest
  | source => source

/-- Reads the values of an array up to the closing parenthesis; `fuel` bounds their number. -/
def elements : (fuel : Nat) → List Word → Read (List Word)
  | 0, acc => return acc
  | fuel + 1, acc => do
    modify (fun c => { c with source := skipBetween c.source })
    match ← peek with
    | none => fail "Missing ')'"
    | some ')' =>
      let _ ← take
      return acc
    | some c =>
      if endsWord c then fail ("\"" ++ String.ofList [c] ++ "\" unexpected")
      elements fuel (acc ++ [← inner .word])

end Parameters

section Words

variable (list : (required : Bool) → Read Command) (setting : Setting)

/-- Reads the command of a substitution up to its closing parenthesis. -/
def parenthesized : Read Command := do
  let command ← list false
  match (← get).pushed with
  | some (.sign ")") =>
    modify (fun c => { c with pushed := none })
    return command
  | t => fail ((t.getD .finish).name true ++ " unexpected (expecting \")\")")

/-- Reads the command of a substitution between backquotes: a text of its own, whose lines are counted
from one. -/
def backquote (quoted : Bool) : Read Command := do
  let c ← get
  match backquoted quoted c.source with
  | none =>
    set { c with source := [] }
    fail "EOF in backquote substitution"
  | some (text, behind) =>
    set { c with source := behind }
    let source := sourceAt 1 text
    match (list false).run (c.within source (lastLine source)) with
    | .ok (command, _) => return command
    | .error fault => throw fault

/-- Whether the stretches so far are the front of values of an array: the name that gets them. -/
def isArrayFront (acc : List Part) : Bool :=
  match acc with
  | [.text text false] =>
    match text.toList.reverse with
    | '=' :: name => isName (String.ofList name.reverse)
    | _ => false
  | _ => false

/-- Reads the stretches of a word behind those already read, the last of which is the first here; `fuel`
bounds the number of characters. -/
def parts : (fuel : Nat) → Mode → List Part → Read (List Part)
  | 0, _, acc => return acc.reverse
  | fuel + 1, mode, acc => do
    let quoted := mode.quoted
    match ← peek with
    | none =>
      match mode.complaint? setting.document with
      | some text => fail text
      | none => return acc.reverse
    | some c =>
      if c = '(' && mode = .word && !setting.mark && (← isRich) && isArrayFront acc then
        let _ ← take
        let values ← elements (fun mode => parts fuel mode []) ((← get).source.length + 1) []
        return ← parts fuel mode (.elements values :: acc)
      if mode = .word && endsWord c then return acc.reverse
      match mode with
      | .upTo stop _ => if c = stop || c = '\x7d' then return acc.reverse
      | _ => pure ()
      let _ ← take
      match c, mode with
      | '\\', _ =>
        let next := (← get).source.head?.map Prod.fst
        modify (fun c => { c with source := c.source.tail })
        match next with
        | none => parts fuel mode (addChar '\\' true acc)
        | some next =>
          if mode.escapes next then parts fuel mode (addChar next true acc)
          else parts fuel mode (addChar next true (addChar '\\' true acc))
      | '\'', .word | '\'', .braces false | '\'', .upTo _ false =>
        let inside ← singleQuoted
        parts fuel mode (.text inside true :: acc)
      | '"', .quotes _ => return acc.reverse
      | '"', .word | '"', .braces _ | '"', .upTo .. =>
        let inside ← parts fuel (.quotes mode.braced) []
        parts fuel mode ((quotation inside).reverse ++ acc)
      | '\x7d', .braces _ => return acc.reverse
      | '(', .arithmetic depth => parts fuel (.arithmetic (depth + 1)) (addChar c true acc)
      | ')', .arithmetic (depth + 1) => parts fuel (.arithmetic depth) (addChar c true acc)
      | ')', .arithmetic 0 =>
        if ← takeIf ')' then return acc.reverse else parts fuel mode (addChar c true acc)
      | '\x60', _ =>
        if setting.mark then parts fuel mode (addChar c true acc)
        else
          let command ← backquote list quoted
          parts fuel mode (.output command quoted :: acc)
      | '$', _ =>
        let next ← peek
        match if setting.mark then none else next with
        | some '(' =>
          let _ ← take
          if ← takeIf '(' then
            let expression ← parts fuel (.arithmetic 0) []
            parts fuel mode (.number expression quoted :: acc)
          else
            let command ← parenthesized list
            parts fuel mode (.output command quoted :: acc)
        | some '\x7b' =>
          let _ ← take
          parts fuel mode ((← parameter (fun mode => parts fuel mode []) quoted) :: acc)
        | some d =>
          if beginsName d then
            let name ← takeFront isNameChar
            parts fuel mode (.value (parameterOf name) quoted :: acc)
          else if isSpecial d then
            let _ ← take
            parts fuel mode (.value (parameterOf [d]) quoted :: acc)
          else parts fuel mode (addChar '$' quoted acc)
        | none => parts fuel mode (addChar '$' quoted acc)
      | _, _ => parts fuel mode (addChar c quoted acc)

def word : Read Word := do parts list setting ((← get).source.length + 1) .word []

def document : Read Word := do parts list { document := true } ((← get).source.length + 1) .document []

end Words

/-- The characters of a mark, quotes taken off, and whether there were quotes. -/
def markOf (word : Word) : List Char × Bool :=
  word.foldl (fun (text, quoted) part =>
    match part with
    | .text t q => (text ++ t.toList, quoted || q)
    | _ => (text, quoted)) ([], false)

/-! ## Tokens -/

/-- Skips blanks, comments and line ends behind a backslash. -/
def skipBlanks : Source → Source
  | (' ', _) :: rest => skipBlanks rest
  | ('\t', _) :: rest => skipBlanks rest
  | ('\\', _) :: ('\n', _) :: rest => skipBlanks rest
  | ('#', _) :: rest => rest.dropWhile (fun (c, _) => c ≠ '\n')
  | source => source

/-- Reads the rest of the sign of a redirection behind its first character. -/
def redirectSign (first : Char) : Read String := do
  if first = '>' then
    if ← takeIf '>' then return ">>"
    if ← takeIf '|' then return ">|"
    if ← takeIf '&' then return ">&"
    return ">"
  if ← takeIf '<' then
    if ← takeIf '-' then return "<<-"
    if ← isRich then
      if ← takeIf '<' then return "<<<"
    return "<<"
  if ← takeIf '&' then return "<&"
  if ← takeIf '>' then return "<>"
  return "<"

/-- The stream that the sign of a redirection is about, unless its number is written. -/
def usualStream (sign : String) : Nat := if sign.toList.head? = some '>' then 1 else 0

/-- The stream of a redirection that a word in front of its sign tells. -/
def streamOf? (w : Word) : Option Nat :=
  match (plain? w).map String.toList with
  | some [c] => if c.isDigit then some (c.toNat - '0'.toNat) else none
  | _ => none

/-- Reads the next token from the source; `mark` tells whether the mark of a here document is read. -/
def lex (list : (required : Bool) → Read Command) (mark : Bool) : Read Token := do
  modify (fun c =>
    let behind := skipBlanks c.source
    { c with
      source := behind
      afterBlank := c.insertions.any (fun i =>
        i.endsBlank && i.behind < c.source.length && behind.length ≤ i.behind) })
  let sign (text : String) : Read Token := do
    let _ ← take
    return .sign text
  match ← peek with
  | none => return .finish
  | some '\n' =>
    let _ ← take
    return .newline
  | some '(' => sign "("
  | some ')' => sign ")"
  | some c =>
    if c = '&' || c = '|' || c = ';' then
      let _ ← take
      return .sign (String.ofList (if ← takeIf c then [c, c] else [c]))
    if c = '<' || c = '>' then
      let _ ← take
      let sign ← redirectSign c
      return .redirect (usualStream sign) sign
    let w ← word list { mark := mark }
    match streamOf? w, ← peek with
    | some number, some sign =>
      if sign = '<' || sign = '>' then
        let _ ← take
        return .redirect number (← redirectSign sign)
      else return .word w
    | _, _ => return .word w

/-! ## Here documents -/

/-- Takes the text of a here document out of the lines below the current one; tells also whether its mark
is there. -/
def takeDocument (mark : List Char) (tabs : Bool) (source : Source) : Source × Source × Bool :=
  let here := source.takeWhile (fun (c, _) => c ≠ '\n')
  match source.drop here.length with
  | [] => ([], source, false)
  | lineEnd :: below =>
    let (text, rest, isThere) := gather (below.length + 1) below
    (text, here ++ lineEnd :: rest, isThere)
where
  /-- The lines up to the mark and those behind it; `fuel` bounds their number. -/
  gather : (fuel : Nat) → Source → Source × Source × Bool
  | 0, below => ([], below, false)
  | _ + 1, [] => ([], [], false)
  | fuel + 1, below =>
    let line := below.takeWhile (fun (c, _) => c ≠ '\n')
    let ended := (below.drop line.length).take 1
    let behind := below.drop (line.length + 1)
    let shown := if tabs then line.dropWhile (fun (c, _) => c = '\t') else line
    if shown.map Prod.fst = mark then ([], behind, true)
    else
      let (text, rest, isThere) := gather fuel behind
      (shown ++ ended ++ text, rest, isThere)

end Configurator.Shell.Reader
