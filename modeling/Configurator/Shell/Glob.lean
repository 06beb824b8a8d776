/-
Patterns of the shell. A pattern is a list of characters, each of which stands for itself or, where
it was not quoted, may be a star, a question mark or the beginning of a set. Patterns match whole
texts and select the names of files. A text is matched from front to back with all that may still follow
at once, so no pattern takes long.
-/
import Configurator.Host.Kernel
import Configurator.Text.Raw

namespace Configurator.Shell.Glob

open Host

/-! ## Patterns -/

/-- A character of a pattern and whether it stands for itself. -/
abbrev Marked := List (Char × Bool)

/-- The classes of characters, by their names. -/
def classes : List (String × (Char → Bool)) :=
  let isPrintable (c : Char) : Bool := ' ' ≤ c && c ≤ '~'
  [("alnum", Char.isAlphanum), ("cntrl", fun c => c < ' ' || c = '\x7f'), ("lower", Char.isLower),
    ("space", fun c => c = ' ' || ('\t' ≤ c && c ≤ '\r')), ("alpha", Char.isAlpha), ("digit", Char.isDigit),
    ("print", isPrintable), ("upper", Char.isUpper), ("blank", fun c => c = ' ' || c = '\t'),
    ("graph", fun c => c ≠ ' ' && isPrintable c),
    ("punct", fun c => c ≠ ' ' && isPrintable c && !c.isAlphanum),
    ("xdigit", fun c => c.isDigit || ('a' ≤ c && c ≤ 'f') || ('A' ≤ c && c ≤ 'F'))]

/-- A member of a set. -/
inductive Member where
  | range (low high : Char)
  | named (name : String)
  deriving DecidableEq, Repr

/-- Whether a member of a set stands for a character. -/
def Member.admits (c : Char) : Member → Bool
  | range low high => low ≤ c && c ≤ high
  | named name => ((classes.lookup name).map (· c)).getD false

/-- What one element of a pattern matches. -/
inductive Element where
  | char (c : Char)
  | one
  | any
  | set (negated : Bool) (members : List Member)
  deriving DecidableEq, Repr

/-- The name of a class behind an opening bracket, and what follows it. -/
def className? (pattern : Marked) : Option (String × Marked) :=
  (classes.find? (fun (name, _) =>
    ((":" ++ name ++ ":]").toList.map (·, false)).isPrefixOf pattern)).map
      (fun (name, _) => (name, pattern.drop (name.length + 3)))

/-- Reads the members of a set up to its closing bracket; the first character may be a bracket, and
`fuel` bounds the number of members. -/
def setMembers : (fuel : Nat) → (first : Bool) → Marked → Option (List Member × Marked)
  | 0, _, _ => none
  | _ + 1, _, [] => none
  | fuel + 1, first, (c, q) :: rest =>
    if c = ']' && !q && !first then some ([], rest)
    else
      match if c = '[' && !q then className? rest else none with
      | some (name, behind) =>
        (setMembers fuel false behind).map (fun (members, behind) => (.named name :: members, behind))
      | none =>
        let (high, others) := match rest with
          | ('-', false) :: (high, hq) :: others =>
            if high = ']' && !hq then (c, rest) else (high, others)
          | _ => (c, rest)
        (setMembers fuel false others).map (fun (members, behind) => (.range c high :: members, behind))

/-- The elements of a pattern; `fuel` bounds their number. -/
def elements : (fuel : Nat) → Marked → List Element
  | 0, _ => []
  | _ + 1, [] => []
  | fuel + 1, (c, true) :: rest => .char c :: elements fuel rest
  | fuel + 1, (c, false) :: rest =>
    if c = '*' then .any :: elements fuel rest
    else if c = '?' then .one :: elements fuel rest
    else if c = '[' then
      let negated := rest.head? = some ('!', false) || rest.head? = some ('^', false)
      match setMembers (rest.length + 1) true (if negated then rest.tail else rest) with
      | some (members, behind) => .set negated members :: elements fuel behind
      | none => .char c :: elements fuel rest
    else .char c :: elements fuel rest

def ofMarked (pattern : Marked) : List Element := elements (pattern.length + 1) pattern

/-- Whether a pattern has an element that is not a plain character. -/
def isPattern (pattern : Marked) : Bool :=
  (ofMarked pattern).any (fun element =>
    match element with
    | .char _ => false
    | _ => true)

/-! ## Matching -/

/-- Whether an element other than a star stands for a character. -/
def Element.admits (c : Char) : Element → Bool
  | char d => c = d
  | one => true
  | any => false
  | set negated members => members.any (Member.admits c) != negated

/-- What may follow where a pattern stands: a star may stand for nothing. -/
def openings : List Element → List (List Element)
  | .any :: rest => (.any :: rest) :: openings rest
  | pattern => [pattern]

/-- What may follow behind a character. -/
def behind (c : Char) : List Element → List (List Element)
  | [] => []
  | .any :: rest => openings (.any :: rest)
  | element :: rest => if element.admits c then openings rest else []

/-- Keeps one of several lists of one length. -/
def distinct (patterns : List (List Element)) : List (List Element) :=
  patterns.foldr (fun p others => if others.any (fun q => q.length = p.length) then others else p :: others) []

/-- What may follow behind each beginning of a text, the whole text last. -/
def progress (patterns : List (List Element)) : List Char → List (List (List Element))
  | [] => [patterns]
  | c :: rest => patterns :: progress (distinct (patterns.flatMap (behind c))) rest

/-- Whether a pattern can end where something may follow. -/
def canEnd (patterns : List (List Element)) : Bool := patterns.any List.isEmpty

/-- Whether a pattern matches a whole text. -/
def fits (pattern : List Element) (text : List Char) : Bool :=
  canEnd (text.foldl (fun patterns c => distinct (patterns.flatMap (behind c))) (openings pattern))

/-- The lengths of the beginnings of a text that a pattern matches, from the shortest on. -/
def frontLengths (pattern : List Element) (text : List Char) : List Nat :=
  ((progress (openings pattern) text).zipIdx.filter (fun (patterns, _) => canEnd patterns)).map Prod.snd

/-- Takes off the front of a text what a pattern matches. -/
def cutFront (pattern : List Element) (longest : Bool) (text : List Char) : List Char :=
  let lengths := frontLengths pattern text
  match if longest then lengths.getLast? else lengths.head? with
  | some n => text.drop n
  | none => text

/-- Takes off the back of a text what a pattern matches. -/
def cutBack (pattern : List Element) (longest : Bool) (text : List Char) : List Char :=
  let lengths := (List.range (text.length + 1)).filter (fun n => fits pattern (text.drop n))
  match if longest then lengths.head? else lengths.getLast? with
  | some n => text.take n
  | none => text

/-- Puts something in place of what a pattern matches, the longest text at each place, in the whole text or in
the first place; `fuel` bounds the number of places. -/
def replace (pattern : List Element) (every : Bool) (replacement : List Char) : (fuel : Nat) → List Char → List Char
  | 0, text => text
  | fuel + 1, text =>
    match (frontLengths pattern text).getLast?, text with
    | some (n + 1), text =>
      let rest := text.drop (n + 1)
      replacement ++ if every then replace pattern every replacement fuel rest else rest
    | _, [] => []
    | _, c :: rest => c :: replace pattern every replacement fuel rest

/-! ## Names of files -/

/-- The names in a directory, itself and the one above included, in the order of their bytes. -/
def namesIn (k : Kernel) (directory : String) : List String :=
  match k.disk.resolve k.self.here (Raw.bytes directory) with
  | .ok id =>
    match k.disk.entries? id with
    | some entries =>
      ("." :: ".." :: entries.map (fun (name, _) => Raw.text name)).mergeSort (fun a b => compare a b != .gt)
    | none => []
  | .error _ => []

/-- The parts of a pattern between slashes. -/
def pathParts (pattern : Marked) : List Marked :=
  (Text.pieces '/' (pattern.map Prod.fst)).foldl
    (fun (acc : List Marked × Marked) piece =>
      (acc.1 ++ [acc.2.take piece.length], acc.2.drop (piece.length + 1))) ([], pattern) |>.1

/-- The paths, begun as given, that the parts of a pattern select; `first` tells whether nothing
stands before them. -/
def select (k : Kernel) : (first : Bool) → (before : String) → List Marked → List String
  | _, before, [] => [before]
  | first, before, part :: rest =>
    let start := if first then before else before ++ "/"
    let joined (name : String) : String := start ++ name
    if isPattern part then
      let hidden := part.head?.map Prod.fst = some '.'
      let names := (namesIn k (if start = "" then "." else start)).filter (fun name =>
        (hidden || name.toList.head? ≠ some '.') && fits (ofMarked part) name.toList)
      names.flatMap (fun name =>
        if rest.isEmpty then [joined name]
        else if k.isDirectory (Raw.bytes (joined name)) then select k false (joined name) rest else [])
    else
      let name := String.ofList (part.map Prod.fst)
      if rest.isEmpty then
        match k.examineItself (Raw.bytes (joined name)) with
        | .ok _ => [joined name]
        | .error _ => []
      else select k false (joined name) rest

/-- The names of files that a pattern selects, or the pattern itself if there is none. -/
def paths (k : Kernel) (pattern : Marked) : List String :=
  let found := if isPattern pattern then select k true "" (pathParts pattern) else []
  if found.isEmpty then [String.ofList (pattern.map Prod.fst)] else found

end Configurator.Shell.Glob
