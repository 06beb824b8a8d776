/-
Translating, deleting and squeezing characters. Sets of characters are written as characters and ranges.
-/
import Configurator.Tool.Amount

namespace Configurator.Tool.Translate

open Host

/-! ## Sets -/

/-- The characters of a set. -/
def charsOf : List Char → Except String (List Char)
  | [] => .ok []
  | low :: '-' :: high :: rest =>
    if high < low then
      .error ("range-endpoints of '" ++ String.ofList [low, '-', high] ++ "' are in reverse collating sequence order")
    else
      (charsOf rest).map ((List.range (high.toNat + 1 - low.toNat)).map (fun i => Char.ofNat (low.toNat + i)) ++ ·)
  | '\\' :: c :: rest => (charsOf rest).map ((if c = 'n' then '\n' else if c = 't' then '\t' else c) :: ·)
  | c :: rest => (charsOf rest).map (c :: ·)

/-- The second set, made as long as the first by repeating its last character. -/
def extended (length : Nat) (chars : List Char) : List Char :=
  chars ++ List.replicate (length - chars.length) (chars.getLast?.getD ' ')

/-! ## The tool -/

/-- What is done with characters. -/
structure Plan where
  deleted : List Char := []
  translated : List (Char × Char) := []
  squeezed : List Char := []

/-- What bytes become behind a last character, and the last character then. -/
def Plan.apply (p : Plan) (last : Option Char) (bytes : ByteArray) : ByteArray × Option Char :=
  bytes.foldl (fun (out, last) b =>
    let c := Char.ofNat b.toNat
    if p.deleted.contains c then (out, last)
    else
      -- of several translations of a character the last one counts
      let c := (p.translated.reverse.lookup c).getD c
      if p.squeezed.contains c && last = some c then (out, last)
      else (out.push (UInt8.ofNat c.toNat), some c)) (.empty, last)

/-- The plan that options ask for, with one set of characters or two. -/
def planOf (o : Options) (source : List Char) (target : Option (List Char)) : Plan :=
  match o.has 'd', target with
  | true, target => { deleted := source, squeezed := if o.has 's' then target.getD [] else [] }
  | false, none => { squeezed := source }
  | false, some target =>
    let target := extended source.length target
    { translated := source.zip target, squeezed := if o.has 's' then target else [] }

/-- Translates what can be read from the input, as long as `fuel` lasts. -/
def translate (c : Call) (p : Plan) : (fuel : Nat) → (last : Option Char) → Action Unit
  | 0, _ => pure ()
  | fuel + 1, last => do
    Work.breathe
    match ← Work.read 0 8192 with
    | .error fault => c.die ("read error: " ++ fault.words) 1
    | .ok bytes =>
      unless bytes.isEmpty do
        let (out, last) := p.apply last bytes
        c.emit out
        translate c p fuel last

/-- Translates, deletes or squeezes the characters of the input. -/
def tr (c : Call) : Action Unit :=
  c.withOptions { letters := "ds", inOrder := true, least := 1 } (fun o => do
    if o.operands.length = 1 && o.has 'd' = o.has 's' then
      c.misuse ("missing operand after " ++ Quote.word (o.operands.head?.getD "") ++ "\n" ++
        if o.has 'd' then "Two strings must be given when both deleting and squeezing repeats."
        else "Two strings must be given when translating.") 1
    match o.operands.mapM (fun text => charsOf text.toList) with
    | .error text => c.die text 1
    | .ok sets => translate c (planOf o (sets.head?.getD []) sets[1]?) Work.turnLimit none)

end Configurator.Tool.Translate
