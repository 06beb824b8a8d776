/-
Reading regular expressions. Blanks and comments are left out where a flag says so. Groups and
classes are read inside one another as deeply as they may be nested; the rest is a loop over the
characters. What names a class by a property of characters is refused: no such property is known.
-/
import Configurator.Log.Expression
import Configurator.Text.Alphanumeric
import Configurator.Text.Blank

namespace Configurator.Log.Expression

/-! ## Blanks and comments -/

/-- Takes blanks and comments off the front, beginning inside a comment or not. -/
def dropSpace : (inComment : Bool) → List Char → List Char
  | _, [] => []
  | true, c :: rest => dropSpace (c ≠ '\n') rest
  | false, c :: rest =>
    if Text.isBlank c then dropSpace false rest
    else if c = '#' then dropSpace true rest
    else c :: rest

/-- Takes blanks and comments off the front of spaced text. -/
def skip (spaced : Bool) (cs : List Char) : List Char := if spaced then dropSpace false cs else cs

/-- The first character that is neither a blank nor the sign of a comment. -/
def firstMark? : (inComment : Bool) → List Char → Option Char
  | _, [] => none
  | inComment, c :: rest =>
    if Text.isBlank c then firstMark? inComment rest
    else if !inComment && c = '#' then firstMark? true rest
    else some c

/-- The character that decides whether a hyphen before it joins a range. -/
def ahead? (spaced : Bool) (cs : List Char) : Option Char :=
  if spaced then (firstMark? false cs).or cs.head? else cs.head?

/-! ## Escapes -/

/-- The value of a hexadecimal digit. -/
def hexDigit? (c : Char) : Option Nat :=
  if c.isDigit then some (c.toNat - '0'.toNat)
  else if 'a' ≤ c && c ≤ 'f' then some (c.toNat - 'a'.toNat + 10)
  else if 'A' ≤ c && c ≤ 'F' then some (c.toNat - 'A'.toNat + 10)
  else none

/-- Reads a number of hexadecimal digits. -/
def hexDigits (spaced : Bool) : (digits value : Nat) → List Char → Option (Nat × List Char)
  | 0, value, cs => some (value, cs)
  | digits + 1, value, cs =>
    match skip spaced cs with
    | [] => none
    | c :: rest =>
      match hexDigit? c with
      | some d => hexDigits spaced digits (16 * value + d) rest
      | none => none

/-- Reads a letter that is written as a number. -/
def hexLetter (spaced : Bool) (digits : Nat) (cs : List Char) : Option (Expression × List Char) :=
  match hexDigits spaced digits 0 cs with
  | some (value, rest) =>
    if value.isValidChar then some (.letter ⟨Char.ofNat value, digits = 2⟩, rest) else none
  | none => none

/-- The control with a letter of its own. -/
def controlLetter? : Char → Option Char
  | 'a' => some '\x07'
  | 'f' => some '\x0c'
  | 't' => some '\t'
  | 'n' => some '\n'
  | 'r' => some '\r'
  | 'v' => some '\x0b'
  | _ => none

/-- Reads what stands behind a backslash. -/
def escape (spaced : Bool) : List Char → Option (Expression × List Char)
  | [] => none
  | 'x' :: rest => hexLetter spaced 2 rest
  | 'u' :: rest => hexLetter spaced 4 rest
  | 'U' :: rest => hexLetter spaced 8 rest
  | 'd' :: rest | 's' :: rest | 'w' :: rest => some (.shorthand false, rest)
  | 'D' :: rest | 'S' :: rest | 'W' :: rest => some (.shorthand true, rest)
  | 'A' :: rest | 'z' :: rest => some (.position, rest)
  | 'b' :: rest | 'B' :: rest | '<' :: rest | '>' :: rest => some (.wordBoundary, rest)
  | c :: rest =>
    match controlLetter? c with
    | some control => some (.letter ⟨control, false⟩, rest)
    | none =>
      if c.isAlphanum || c.toNat ≥ 0x80 then none else some (.letter ⟨c, false⟩, rest)

/-! ## Classes -/

/-- The names of the classes of ASCII characters. -/
def asciiClasses : List String :=
  ["alnum", "alpha", "ascii", "blank", "cntrl", "digit", "graph", "lower", "print", "punct",
    "space", "upper", "word", "xdigit"]

/-- Reads a named class behind its opening bracket. -/
def namedClass : List Char → Option (Member × List Char)
  | ':' :: rest =>
    let negated := rest.head? = some '^'
    let rest := if negated then rest.tail else rest
    match rest.dropWhile (· ≠ ':') with
    | ':' :: ']' :: behind =>
      if asciiClasses.contains (String.ofList (rest.takeWhile (· ≠ ':'))) then
        some (.named negated, behind)
      else none
    | _ => none
  | _ => none

/-- Reads an end of a range, or what stands alone. -/
def classItem (spaced : Bool) : List Char → Option (Expression × List Char)
  | [] => none
  | '\\' :: rest => escape spaced rest
  | c :: rest => some (.letter ⟨c, false⟩, rest)

/-- Reads a member that is no class with brackets. -/
def classMember (spaced : Bool) (cs : List Char) : Option (Member × List Char) :=
  match classItem spaced cs with
  | none => none
  | some (first, rest) =>
    match first, skip spaced rest with
    | .letter low, '-' :: behind =>
      if ahead? spaced behind = some ']' || ahead? spaced behind = some '-' then
        some (.letter low, '-' :: behind)
      else
        match classItem spaced (skip spaced behind) with
        | some (.letter high, rest) =>
          if low.char ≤ high.char then some (.range low high, rest) else none
        | _ => none
    | .letter l, rest => some (.letter l, rest)
    | .shorthand negated, '-' :: behind =>
      if ahead? spaced behind = some ']' || ahead? spaced behind = some '-' then
        some (.shorthand negated, '-' :: behind)
      else none
    | .shorthand negated, rest => some (.shorthand negated, rest)
    | _, _ => none

/-- Takes hyphens off the front, each with the space behind it, and counts them. -/
def leadingHyphens (spaced : Bool) : (fuel count : Nat) → List Char → Nat × List Char
  | 0, count, cs => (count, cs)
  | fuel + 1, count, cs =>
    match cs with
    | '-' :: rest => leadingHyphens spaced fuel (count + 1) (skip spaced rest)
    | _ => (count, cs)

/-- Reads how a class begins behind its bracket: whether it is negated, and the hyphens or the
closing bracket that are members because they stand first. -/
def classStart (spaced : Bool) (cs : List Char) : Bool × List Member × List Char :=
  let cs := skip spaced cs
  let negated := cs.head? = some '^'
  let cs := if negated then skip spaced cs.tail else cs
  match leadingHyphens spaced cs.length 0 cs with
  | (0, ']' :: rest) => (negated, [.letter ⟨']', false⟩], rest)
  | (count, rest) => (negated, List.replicate count (.letter ⟨'-', false⟩), rest)

/-- Reads the rest of a class that stands in `depth` others, up to its closing bracket. What was read
of it are `parts` and the members of the last part, the latest first; `fuel` bounds the number of
members. -/
def classRest (spaced : Bool) : (fuel depth : Nat) → (parts : List (List Member)) →
    (members : List Member) → List Char → Option (List (List Member) × List Char)
  | 0, _, _, _, _ => none
  | fuel + 1, depth, parts, members, cs =>
    match skip spaced cs with
    | [] => none
    | ']' :: rest => some ((members.reverse :: parts).reverse, rest)
    | '[' :: rest =>
      match namedClass rest with
      | some (m, rest) => classRest spaced fuel depth parts (m :: members) rest
      | none =>
        if depth ≥ nestingLimit then none
        else
          match classStart spaced rest with
          | (negated, first, rest) =>
            match classRest spaced fuel (depth + 1) [] first rest with
            | some (inner, rest) =>
              classRest spaced fuel depth parts (.nested negated inner :: members) rest
            | none => none
    | '&' :: '&' :: rest => classRest spaced fuel depth (members.reverse :: parts) [] rest
    | '-' :: '-' :: rest => classRest spaced fuel depth (members.reverse :: parts) [] rest
    | '~' :: '~' :: rest => classRest spaced fuel depth (members.reverse :: parts) [] rest
    | cs =>
      match classMember spaced cs with
      | some (m, rest) => classRest spaced fuel depth parts (m :: members) rest
      | none => none

/-- Reads a class behind its opening bracket. -/
def bracketedClass (spaced : Bool) (cs : List Char) : Option (Expression × List Char) :=
  match classStart spaced cs with
  | (negated, first, rest) =>
    match classRest spaced (rest.length + 1) 0 [] first rest with
    | some (parts, rest) => some (.bracketed negated parts, rest)
    | none => none

/-! ## Groups -/

/-- What an opening parenthesis begins. -/
inductive Opening where
  /-- A group, perhaps with a name. -/
  | group (name : Option String) (changes : Flags)
  /-- Flags for what follows, not a group. -/
  | flags (changes : Flags)
  deriving DecidableEq, Repr

/-- Reads the name of a group up to the sign that closes it. -/
def groupName (cs : List Char) : Option (String × List Char) :=
  let name := cs.takeWhile (· ≠ '>')
  let fits (c : Char) : Bool := c = '_' || c = '.' || c = '[' || c = ']' || Text.isAlphanumeric c
  match name, cs.dropWhile (· ≠ '>') with
  | first :: others, _ :: rest =>
    if (first = '_' || Text.isAlphabetic first) && others.all fits then
      some (String.ofList name, rest)
    else none
  | _, _ => none

/-- What letters of flags say about one: set, or taken back behind a minus sign. -/
def flag? (letters : List Char) (letter : Char) : Option Bool :=
  if (letters.takeWhile (· ≠ '-')).contains letter then some true
  else if letters.contains letter then some false
  else none

/-- The flags that letters spell: each letter once, at most one minus sign, and that not last. -/
def flags? (letters : List Char) : Option Flags :=
  if letters.all (fun c => ['i', 'm', 's', 'U', 'u', 'R', 'x', '-'].contains c) && letters.Nodup &&
      letters.getLast? ≠ some '-' then
    some ⟨flag? letters 'x', flag? letters 'i', flag? letters 'u'⟩
  else none

/-- Reads what stands behind an opening parenthesis. -/
def groupStart : List Char → Option (Opening × List Char)
  | '?' :: 'P' :: '<' :: rest => (groupName rest).map (fun (name, rest) => (.group name {}, rest))
  | '?' :: '<' :: rest => (groupName rest).map (fun (name, rest) => (.group name {}, rest))
  | '?' :: rest =>
    let letters := (rest.takeWhile (fun c => c ≠ ':' && c ≠ ')'))
    match rest.drop letters.length, flags? letters with
    | ':' :: behind, some changes => some (.group none changes, behind)
    | ')' :: behind, some changes => if letters = [] then none else some (.flags changes, behind)
    | _, _ => none
  | rest => some (.group none {}, rest)

/-! ## Expressions -/

/-- What was read of alternatives. -/
structure Draft where
  /-- The names of all groups so far. -/
  names : List String := []
  /-- Whether blanks and comments are left out. -/
  spaced : Bool := false
  /-- The alternatives before, the latest first. -/
  before : List (List Expression) := []
  /-- The parts of this alternative, the latest first. -/
  parts : List Expression := []

namespace Draft

/-- The draft with one more part. -/
def push (d : Draft) (e : Expression) : Draft := { d with parts := e :: d.parts }

/-- The draft with the beginning of one more alternative. -/
def next (d : Draft) : Draft := { d with before := d.parts.reverse :: d.before, parts := [] }

/-- The draft with a sign of repetition behind the last part. -/
def repeat? (d : Draft) : Option Draft :=
  match d.parts with
  | [] => none
  | e :: parts => e.repeat?.map (fun e => { d with parts := e :: parts })

/-- The alternatives that were read. -/
def alternatives (d : Draft) : List (List Expression) := d.next.before.reverse

end Draft

/-- Reads one part that has no parts of its own. -/
def atom (spaced : Bool) : List Char → Option (Expression × List Char)
  | [] | '\x7b' :: _ => none
  | '[' :: rest => bracketedClass spaced rest
  | '\\' :: rest => escape spaced rest
  | '.' :: rest => some (.anyLetter, rest)
  | '^' :: rest | '$' :: rest => some (.position, rest)
  | c :: rest => some (.letter ⟨c, false⟩, rest)

/-- Reads alternatives inside `depth` groups up to what ends them: a closing parenthesis, or the end
of the text outside groups. `fuel` bounds the number of parts. A question mark directly behind a sign
of repetition belongs to the sign. -/
def readRest : (fuel depth : Nat) → Draft → List Char → Option (Draft × List Char)
  | 0, _, _, _ => none
  | fuel + 1, depth, d, cs =>
    let again (rest : List Char) : Option (Draft × List Char) :=
      match d.repeat? with
      | some d => readRest fuel depth d (if rest.head? = some '?' then rest.tail else rest)
      | none => none
    match skip d.spaced cs with
    | [] => if depth = 0 then some (d, []) else none
    | ')' :: rest => if depth = 0 then none else some (d, rest)
    | '|' :: rest => readRest fuel depth d.next rest
    | '?' :: rest => again rest
    | '*' :: rest => again rest
    | '+' :: rest => again rest
    | '(' :: rest =>
      match groupStart (skip d.spaced rest) with
      | some (.flags changes, rest) =>
        readRest fuel depth
          { d.push (.flags changes) with spaced := changes.spaced.getD d.spaced } rest
      | some (.group name changes, rest) =>
        if depth ≥ nestingLimit || name.any d.names.contains then none
        else
          let inner : Draft := ⟨name.toList ++ d.names, changes.spaced.getD d.spaced, [], []⟩
          match readRest fuel (depth + 1) inner rest with
          | some (inner, rest) =>
            readRest fuel depth
              { d.push (.group changes inner.alternatives) with names := inner.names } rest
          | none => none
      | none => none
    | cs =>
      match atom d.spaced cs with
      | some (e, rest) => readRest fuel depth (d.push e) rest
      | none => none

/-- Reads a whole expression. -/
def read (text : String) : Option (List (List Expression)) :=
  (readRest (text.length + 1) 0 {} text.toList).map (fun (d, _) => d.alternatives)

end Configurator.Log.Expression
