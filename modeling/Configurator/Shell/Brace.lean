/-
Words with lists between braces, which stand for several words: `a{b,c}d` for `abd acd`, and `{1..3}` for
`1 2 3`. What is quoted, or stands for a value, is left as it is.
-/
import Configurator.Shell.Reader

namespace Configurator.Shell.Brace

/-- A piece of a word: a character that may mean something, or any other stretch. -/
inductive Piece where
  | char (c : Char)
  | part (part : Part)

/-- The pieces of a word. -/
def piecesOf (word : Word) : List Piece :=
  word.flatMap (fun part =>
    match part with
    | .text text false => text.toList.map .char
    | part => [.part part])

/-- A word of pieces. A name of a variable goes on in the text behind it. -/
def wordOf (pieces : List Piece) : Word :=
  pieces.foldr (fun piece word =>
    match piece, word with
    | .char c, .text text false :: rest => .text (String.ofList (c :: text.toList)) false :: rest
    | .char c, rest => .text (String.ofList [c]) false :: rest
    | .part (.value (.named name) false), .text text false :: rest =>
      let more := text.toList.takeWhile Reader.isNameChar
      .value (.named (name ++ String.ofList more)) false ::
        .text (String.ofList (text.toList.drop more.length)) false :: rest
    | .part part, rest => part :: rest) []

/-- The character that a piece is. -/
def Piece.char? : Piece → Option Char
  | char c => some c
  | part _ => none

/-- The pieces up to the brace that closes a list, divided at the commas that belong to no inner list, and
what follows; `depth` is the number of inner lists. -/
def inside : (depth : Nat) → List Piece → Option (List (List Piece) × List Piece)
  | _, [] => none
  | depth, piece :: rest =>
    let with_ (depth : Nat) : Option (List (List Piece) × List Piece) :=
      (inside depth rest).map (fun (lists, behind) =>
        match lists with
        | first :: others => ((piece :: first) :: others, behind)
        | [] => ([[piece]], behind))
    match piece.char?, depth with
    | some '\x7b', _ => with_ (depth + 1)
    | some '\x7d', 0 => some ([[]], rest)
    | some '\x7d', depth + 1 => with_ depth
    | some ',', 0 => (inside 0 rest).map (fun (lists, behind) => ([] :: lists, behind))
    | _, _ => with_ depth

/-- A whole number. -/
def integer? (text : List Char) : Option Int :=
  let natural (digits : List Char) : Option Nat :=
    if digits ≠ [] && digits.all Char.isDigit then (String.ofList digits).toNat? else none
  match text with
  | '-' :: digits => (natural digits).map (fun n => -(n : Int))
  | '+' :: digits => (natural digits).map Int.ofNat
  | digits => (natural digits).map Int.ofNat

/-- The numbers from one to another. -/
def steps (first last step : Int) : List Int :=
  let size := step.natAbs
  let count := (last - first).natAbs / size
  let direction : Int := if first ≤ last then size else -size
  (List.range (count + 1)).map (fun i : Nat => first + direction * (i : Int))

/-- A number with as many characters at least. -/
def padded (width : Nat) (n : Int) : List Char :=
  let digits := (toString n.natAbs).toList
  let sign := if n < 0 then ['-'] else []
  sign ++ List.replicate (width - sign.length - digits.length) '0' ++ digits

/-- The texts of a sequence such as `1..5` or `a..e..2`. -/
def sequence? (text : List Char) : Option (List (List Char)) :=
  let ends := ((String.ofList text).splitOn "..").map String.toList
  let stepOf (step : List Char) : Option Int := (integer? step).map (fun n => if n = 0 then 1 else n)
  let make (first last : List Char) (step : Int) : Option (List (List Char)) :=
    match integer? first, integer? last, first, last with
    | some a, some b, _, _ =>
      let isPadded (text : List Char) : Bool :=
        match text with
        | '0' :: _ :: _ | '-' :: '0' :: _ :: _ => true
        | _ => false
      let width := if isPadded first || isPadded last then max first.length last.length else 0
      some ((steps a b step).map (padded width))
    | none, none, [a], [b] =>
      if a.isAlpha && b.isAlpha then
        some ((steps a.toNat b.toNat step).map (fun n => [Char.ofNat n.toNat]))
      else none
    | _, _, _, _ => none
  match ends with
  | [first, last] => make first last 1
  | [first, last, step] => (stepOf step).bind (make first last)
  | _ => none

/-- The text of pieces that are all characters. -/
def textOf? (pieces : List Piece) : Option (List Char) := pieces.mapM Piece.char?

/-- The words that pieces stand for; `fuel` bounds the number of steps. -/
def expandPieces : (fuel : Nat) → List Piece → List (List Piece)
  | 0, pieces => [pieces]
  | _ + 1, [] => [[]]
  | fuel + 1, piece :: rest =>
    let itself : List (List Piece) := (expandPieces fuel rest).map (piece :: ·)
    match piece.char? with
    | some '\x7b' =>
      match inside 0 rest with
      | none => itself
      | some (lists, behind) =>
        let chosen : Option (List (List Piece)) :=
          match lists with
          | [] => none
          | [only] => ((textOf? only).bind sequence?).map (·.map (·.map .char))
          | lists => some (lists.flatMap (expandPieces fuel))
        match chosen with
        | none => itself
        | some chosen =>
          let after := expandPieces fuel behind
          chosen.flatMap (fun front => after.map (front ++ ·))
    | _ => itself

/-- The words that a word stands for. -/
def expand (word : Word) : List Word :=
  let pieces := piecesOf word
  if pieces.any (fun piece => piece.char? = some '\x7b') then
    (expandPieces (2 * pieces.length + 2) pieces).map wordOf
  else [word]

end Configurator.Shell.Brace
