/-
Expanding words. The stretches of a word become a row of items, in which those that come from values are
regions; where fields are wanted the row is cut into them, and fields that are patterns become names of
files. In the rich dialect a word may first stand for several words, and a parameter for several values.
-/
import Configurator.Shell.Arithmetic
import Configurator.Shell.Brace
import Configurator.Shell.Field
import Configurator.Shell.Grammar
import Configurator.Shell.Variables

namespace Configurator.Shell.Expand

open Host

/-- The items of a value. -/
def valueItems (value : String) (quoted : Bool) : List Item :=
  if quoted then value.toList.map (Item.char · true false)
  else .region false :: value.toList.map (Item.char · false true)

/-! ## Home directories -/

/-- The home directory of a user; no name stands for the user who runs the script. -/
def homeOf? (s : State) (user : List Char) : Option String :=
  if user = [] then s.lookup "HOME" else if user = "root".toList then some "/root" else none

/-- A text that begins with a tilde as stretches, the home directory in place of the tilde and the
name of the user. The name ends at a slash, or with the text if it is `closed` there. -/
def homeParts (s : State) (text : List Char) (closed : Bool) : Word :=
  let itself : Word := [.text (String.ofList text) false]
  match text with
  | '~' :: rest =>
    let user := rest.takeWhile (· ≠ '/')
    if user.length = rest.length && !closed then itself
    else
      match homeOf? s user with
      | some home => [.text home true, .text (String.ofList (rest.drop user.length)) false]
      | none => itself
  | _ => itself

/-- A word with a home directory in place of a tilde in front. -/
def tilde (s : State) : Word → Word
  | .text text false :: rest => homeParts s text.toList rest.isEmpty ++ rest
  | word => word

/-- A word with home directories in place of tildes in front and behind colons; `first` tells whether
nothing stands before it. -/
def tildes (s : State) (first : Bool) : Word → Word
  | .text text false :: rest =>
    let pieces := Text.pieces ':' text.toList
    let colon : Word := [.text ":" false]
    let inner := (pieces.drop 1).zipIdx.map (fun (piece, i) =>
      colon ++ homeParts s piece (rest.isEmpty || i + 2 < pieces.length))
    let front := (pieces.head?.getD [])
    let closed := rest.isEmpty || 1 < pieces.length
    (if first then homeParts s front closed else [.text (String.ofList front) false]) ++
      inner.flatten ++ tildes s false rest
  | part :: rest => part :: tildes s false rest
  | [] => []

/-! ## Parameters -/

/-- What stands between arguments that are one text. -/
def separator (s : State) : String :=
  match s.lookup "IFS" with
  | some ifs => String.ofList (ifs.toList.take 1)
  | none => " "

/-- The letters of the options that are switched on, in their order. -/
def optionLetters (s : State) : String := String.ofList ("pubaCEVvxsnmiIfe".toList.filter s.has)

/-- The value of a parameter as one text, if it has one. -/
def lookup (s : State) : Parameter → Option String
  | .positional 0 => some s.program
  | .positional (index + 1) => s.args[index]?
  | .count => some (toString s.args.length)
  | .all | .joined => some ((separator s).intercalate s.args)
  | .self => some (toString s.process)
  | .status => some (toString s.status)
  | .options => some (optionLetters s)
  | .named "!" => s.beside.map toString
  | .named name => s.lookup name

/-- How a complaint names a parameter. -/
def nameOf : Parameter → String
  | .positional index => toString index
  | .count => "#"
  | .all => "@"
  | .joined => "*"
  | .self => "$"
  | .status => "?"
  | .options => "-"
  | .named name => name

/-- The value of a parameter; one without a value ends a careful script. -/
def require (parameter : Parameter) : Action String := do
  let s ← get
  match lookup s parameter with
  | some value => return value
  | none =>
    if s.careful then abort (nameOf parameter ++ ": parameter not set")
    return ""

/-- The items of several values, one by one. -/
def listItems (s : State) (values : List String) (quoted : Bool) : List Item :=
  let between : Item := if quoted || (s.lookup "IFS").isSome then .cut else .char ' ' false true
  let items (value : String) : List Item :=
    if quoted then value.toList.map (Item.char · true false) else value.toList.map (Item.char · false true)
  if values.isEmpty then [] else .region quoted :: List.intercalate [between] (values.map items)

/-! ## Words -/

/-- Where a word stands. -/
structure Place where
  /-- Whether the word is cut into fields. -/
  split : Bool := false
  /-- Whether the word belongs to a parameter and is cut into fields with its value. -/
  inner : Bool := false

/-- The items of the value of a parameter. -/
def parameterItems (place : Place) (parameter : Parameter) (quoted : Bool) : Action (List Item) := do
  if place.split && (parameter = .all || (parameter = .joined && !quoted)) then
    let s ← get
    return listItems s s.args quoted
  else return valueItems (← require parameter) quoted

/-- How what commands print gets into words. -/
abbrev Substitution := Command → Action String

/-! ## Parameters of the rich dialect -/

/-- What a parameter stands for. -/
inductive Worth where
  | one (value : String)
  | many (values : List String)

/-- What a parameter of the rich dialect stands for. -/
def worthOf (s : State) (subject : Subject) : Worth :=
  match subject with
  | ⟨.named name, true⟩ =>
    let v := s.named name
    .many (v.elements.getD v.value.toList)
  | ⟨parameter, _⟩ => .one ((lookup s parameter).getD "")

/-- A parameter whose values are changed one by one. -/
def Worth.map (f : String → String) : Worth → Worth
  | one value => .one (f value)
  | many values => .many (values.map f)

/-- The items of what a parameter stands for. -/
def worthItems (s : State) (place : Place) (quoted : Bool) : Worth → List Item
  | .one value => valueItems value quoted
  | .many values => if place.split then listItems s values quoted else valueItems (" ".intercalate values) quoted

/-- A part of a row, from a place on that counts from the end if it is negative, and so many things or up to a
place from the end. -/
def sliceOf {α : Type} (row : List α) (offset : Int) (length : Option Int) : List α :=
  let size : Int := row.length
  let start := if offset < 0 then offset + size else offset
  if start < 0 || size < start then []
  else
    match length with
    | none => row.drop start.toNat
    | some n => (row.drop start.toNat).take (if 0 ≤ n then n else size + n - start).toNat

/-- A part of what a parameter stands for. -/
def Worth.slice (offset : Int) (length : Option Int) : Worth → Worth
  | one value => .one (String.ofList (sliceOf value.toList offset length))
  | many values => .many (sliceOf values offset length)

/-- A text with its first letter, or all its letters, made capitals or small ones. -/
def recased (upper every : Bool) (text : String) : String :=
  let change (c : Char) : Char := if upper then c.toUpper else c.toLower
  match text.toList with
  | [] => text
  | c :: rest => String.ofList (change c :: if every then rest.map change else rest)

/-! ## Expansion -/

/-- The value of an expression; nothing after a fault. -/
def number? (text : String) : Action (Option Int) := do
  let s ← get
  let bindings := s.bindings.filterMap (fun (name, v) => v.value.map (name, ·))
  let fixed := (s.bindings.filter (fun (_, v) => v.fixed)).map Prod.fst
  match Arithmetic.evaluate s.dialect bindings fixed text with
  | .ok (value, assigned) =>
    forEach assigned (fun (name, value) => Variables.setValue name value)
    return some value
  | .error .overflow =>
    Work.finish (.killed Signal.arithmetic)
    return none
  | .error fault =>
    abort (fault.message text)
    return none

/-- Expands words; `sub` gives what commands print, and `depth` bounds how deep words stand in one
another. -/
def items (sub : Substitution) : (depth : Nat) → Place → Word → Action (List Item)
  | 0, _, _ => return []
  | depth + 1, place, word => do
    let inner (word : Word) : Action (List Item) := items sub depth {} word
    let mut result : List Item := []
    for part in word do
      if (← get).halt.isNone then
        match part with
        | .text text quoted =>
          if quoted then result := result ++ .hold :: text.toList.map (Item.char · true false)
          else if place.inner then result := result ++ valueItems text false
          else result := result ++ text.toList.map (Item.char · false false)
        | .value parameter quoted => result := result ++ (← parameterItems place parameter quoted)
        | .length parameter quoted =>
          let value ← require parameter
          result := result ++ valueItems (toString value.length) quoted
        | .fallback parameter kind evenEmpty word quoted =>
          let s ← get
          let value := lookup s parameter
          let missing := value.isNone || (evenEmpty && value = some "")
          let alternative : Action (List Item) :=
            items sub depth { place with inner := place.split && !quoted } (tilde s word)
          match kind with
          | .replace => if !missing then result := result ++ (← alternative)
          | .use =>
            if missing then result := result ++ (← alternative)
            else result := result ++ (← parameterItems place parameter quoted)
          | .assign =>
            if missing then
              let text := textOf (← inner (tilde s word))
              match parameter with
              | .named name => Variables.setValue name text
              | _ => abort (nameOf parameter ++ ": bad variable name")
            if (← get).halt.isNone then
              result := result ++ (← parameterItems place parameter quoted)
          | .complain =>
            if missing then
              let text := textOf (← inner (tilde s word))
              let unset := if evenEmpty then "parameter not set or null" else "parameter not set"
              abort (nameOf parameter ++ ": " ++ if word.isEmpty then unset else text)
            else result := result ++ (← parameterItems place parameter quoted)
        | .trimmed parameter back longest pattern quoted =>
          let value ← require parameter
          let expanded ← inner (tilde (← get) pattern)
          let elements := Glob.ofMarked (markedOf expanded)
          let cut := if back then Glob.cutBack elements longest value.toList
            else Glob.cutFront elements longest value.toList
          result := result ++ valueItems (String.ofList cut) quoted
        | .output command quoted => result := result ++ valueItems (← sub command) quoted
        | .number expression quoted =>
          match ← number? (textOf (← inner expression)) with
          | some value => result := result ++ valueItems (toString value) quoted
          | none => pure ()
        | .shaped subject change quoted =>
          let s ← get
          let worth := worthOf s subject
          let changed : Worth ← match change with
            | .itself => pure worth
            | .length =>
              match worth with
              | .one value => pure (.one (toString value.length))
              | .many values => pure (.one (toString values.length))
            | .slice offset length => do
              let offset ← number? (textOf (← inner offset))
              let length ← match length with
                | none => pure none
                | some word => do number? (textOf (← inner word))
              pure (worth.slice (offset.getD 0) length)
            | .replace every pattern replacement => do
              let elements := Glob.ofMarked (markedOf (← inner (tilde s pattern)))
              let replacement := (markedOf (← inner (tilde s replacement))).map Prod.fst
              pure (worth.map (fun text =>
                String.ofList (Glob.replace elements every replacement (text.length + 1) text.toList)))
            | .recase upper every => pure (worth.map (recased upper every))
          result := result ++ worthItems s place quoted changed
        | .elements _ => pure ()
        | .senseless => abort "Bad substitution"
    return result

/-- How deep words may stand in one another. -/
def depthLimit : Nat := 100

/-- The one text of a word. -/
def text (sub : Substitution) (word : Word) : Action String := do
  return textOf (← items sub depthLimit {} (tilde (← get) word))

/-- The value that a word gives to a variable. -/
def value (sub : Substitution) (word : Word) : Action String := do
  return textOf (← items sub depthLimit {} (tildes (← get) true word))

/-- The text of a here document. -/
def document (sub : Substitution) (word : Word) : Action String := do
  return textOf (← items sub depthLimit {} word)

/-- The pattern of a word. -/
def pattern (sub : Substitution) (word : Word) : Action (List Glob.Element) := do
  return Glob.ofMarked (markedOf (← items sub depthLimit {} (tilde (← get) word)))

/-- The names of files for each field, or the field itself. -/
def namesFor (found : List Glob.Marked) : Action (List String) := do
  if (← get).literal then return found.map (fun field => String.ofList (field.map Prod.fst))
  else Work.look (fun k => found.flatMap (Glob.paths k))

/-- The fields of a word that stands for one word. -/
def fieldsOne (sub : Substitution) (word : Word) : Action (List String) := do
  let expanded ← items sub depthLimit { split := true } (tilde (← get) word)
  namesFor (fieldsOf (separators (← get)) none expanded)

/-- The fields of words, one after the other, as long as the script goes on. -/
def fieldsAll (sub : Substitution) : List Word → Action (List String)
  | [] => return []
  | word :: rest => do
    let first ← fieldsOne sub word
    if ← isGoing then return first ++ (← fieldsAll sub rest) else return first

/-- The fields of a word, which may stand for several words in the rich dialect. -/
def fields (sub : Substitution) (word : Word) : Action (List String) := do
  fieldsAll sub (if (← get).isRich then Brace.expand word else [word])

end Configurator.Shell.Expand
