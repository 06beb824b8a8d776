/-
Regular expressions in a log filter. An expression is alternatives of sequences; here it is never
matched against a text, and all that matters is whether an automaton can be made of it. Three rules
decide that: it is not nested too deeply, every part has a meaning in the mode in which it stands,
and no word boundary is asked for between characters of all scripts.
-/

namespace Configurator.Log

/-- A character in an expression. -/
structure Letter where
  char : Char
  /-- Whether it is written as the number of a byte. -/
  ofByte : Bool := false
  deriving DecidableEq, Repr

/-- Whether the letter is a character of ASCII. -/
def Letter.isAscii (l : Letter) : Bool := l.char.toNat < 0x80

/-- What a group or a mark changes for what stands in it or behind it. -/
structure Flags where
  /-- Whether blanks and comments are left out. -/
  spaced : Option Bool := none
  /-- Whether capitals and small letters are the same. -/
  caseless : Option Bool := none
  /-- Whether characters are those of all scripts, and not bytes. -/
  allScripts : Option Bool := none
  deriving DecidableEq, Repr

/-- A member of a class of characters. -/
inductive Member where
  | letter (l : Letter)
  | range (low high : Letter)
  /-- A class that is written as one escape. -/
  | shorthand (negated : Bool)
  /-- A class of ASCII characters that has a name. -/
  | named (negated : Bool)
  /-- A class inside the class; operators divide its members into parts. -/
  | nested (negated : Bool) (parts : List (List Member))

/-- A part of an expression. -/
inductive Expression where
  | letter (l : Letter)
  | anyLetter
  /-- The beginning or the end of a line or of the text. -/
  | position
  | wordBoundary
  | shorthand (negated : Bool)
  /-- A class of characters; operators divide its members into parts. -/
  | bracketed (negated : Bool) (parts : List (List Member))
  /-- Flags for what follows. -/
  | flags (changes : Flags)
  /-- Something with signs of repetition behind it. -/
  | repeated (signs : Nat) (e : Expression)
  | group (changes : Flags) (alternatives : List (List Expression))

namespace Expression

/-- The part with one more sign of repetition; flags cannot be repeated. -/
def repeat? : Expression → Option Expression
  | .flags _ => none
  | .repeated signs e => some (.repeated (signs + 1) e)
  | e => some (.repeated 1 e)

end Expression

/-! ## Nesting -/

mutual
/-- How deeply a member is nested. -/
def Member.height : Member → Nat
  | .nested _ parts => 1 + Member.heightOfParts none parts
  | _ => 0

/-- The greatest height of members and a first height. -/
def Member.heightOfAll : (greatest : Nat) → List Member → Nat
  | greatest, [] => greatest
  | greatest, m :: ms => Member.heightOfAll (max greatest m.height) ms

/-- How deeply one part of a class is nested: two members or more are a level of their own. -/
def Member.heightOfPart : List Member → Nat
  | [] => 0
  | [m] => m.height
  | m :: n :: ms => 1 + Member.heightOfAll (max m.height n.height) ms

/-- How deeply the parts of a class are nested: each operator is a level above all before it. -/
def Member.heightOfParts : (before : Option Nat) → List (List Member) → Nat
  | before, [] => before.getD 0
  | none, part :: parts => Member.heightOfParts (some (Member.heightOfPart part)) parts
  | some before, part :: parts =>
    Member.heightOfParts (some (1 + max before (Member.heightOfPart part))) parts
end

mutual
/-- How deeply a part of an expression is nested. -/
def Expression.height : Expression → Nat
  | .bracketed _ parts => 1 + Member.heightOfParts none parts
  | .repeated signs e => signs + e.height
  | .group _ alternatives => 1 + Expression.heightOfAlternatives alternatives
  | _ => 0

/-- The greatest height of parts and a first height. -/
def Expression.heightOfAll : (greatest : Nat) → List Expression → Nat
  | greatest, [] => greatest
  | greatest, e :: es => Expression.heightOfAll (max greatest e.height) es

/-- How deeply a sequence is nested: two parts or more are a level of their own. -/
def Expression.heightOfSequence : List Expression → Nat
  | [] => 0
  | [e] => e.height
  | e :: f :: es => 1 + Expression.heightOfAll (max e.height f.height) es

/-- The greatest height of sequences and a first height. -/
def Expression.heightOfSequences : (greatest : Nat) → List (List Expression) → Nat
  | greatest, [] => greatest
  | greatest, s :: ss =>
    Expression.heightOfSequences (max greatest (Expression.heightOfSequence s)) ss

/-- How deeply alternatives are nested: two or more are a level of their own. -/
def Expression.heightOfAlternatives : List (List Expression) → Nat
  | [] => 0
  | [s] => Expression.heightOfSequence s
  | s :: t :: ss =>
    1 + Expression.heightOfSequences
      (max (Expression.heightOfSequence s) (Expression.heightOfSequence t)) ss
end

/-- The deepest nesting that is taken. -/
def nestingLimit : Nat := 250

/-! ## Meaning -/

/-- The flags that are in force. -/
structure Mode where
  caseless : Bool := false
  allScripts : Bool := true
  deriving DecidableEq, Repr

namespace Mode

/-- The mode after a change. -/
def change (m : Mode) (changes : Flags) : Mode :=
  ⟨changes.caseless.getD m.caseless, changes.allScripts.getD m.allScripts⟩

/-- Whether a letter has a meaning outside classes. Which letters of all scripts differ in case only
is not known, and a byte beyond ASCII is no character. -/
def takesLetter (m : Mode) (l : Letter) : Bool :=
  if m.allScripts then !m.caseless else !l.ofByte || l.isAscii

/-- Whether a shorthand has a meaning. Which characters of all scripts are digits, blanks or letters
is not known, and there are bytes among those that are none. -/
def takesShorthand (m : Mode) (negated : Bool) : Bool := !m.allScripts && !negated

/-- Whether a class of ASCII letters, or all but those, has a meaning. -/
def takesClass (m : Mode) (negated : Bool) : Bool := m.allScripts || !negated

end Mode

mutual
/-- Whether a member has a meaning. -/
def Member.fits (mode : Mode) : Member → Bool
  | .letter l => if mode.allScripts then !mode.caseless else l.isAscii
  | .range low high => if mode.allScripts then !mode.caseless else low.isAscii && high.isAscii
  | .shorthand negated => mode.takesShorthand negated
  | .named negated => if mode.allScripts then !mode.caseless else !negated
  | .nested negated parts => mode.takesClass negated && Member.partsFit mode parts

/-- Whether all members have a meaning. -/
def Member.allFit (mode : Mode) : List Member → Bool
  | [] => true
  | m :: ms => m.fits mode && Member.allFit mode ms

/-- Whether all members of all parts have a meaning. -/
def Member.partsFit (mode : Mode) : List (List Member) → Bool
  | [] => true
  | part :: parts => Member.allFit mode part && Member.partsFit mode parts
end

/-- What is known while the parts of an expression are gone through. -/
structure Review where
  mode : Mode := {}
  /-- Whether a word boundary between characters of all scripts was met. -/
  boundary : Bool := false
  deriving DecidableEq, Repr

/-- What was known, if a condition holds. -/
def Review.require (r : Review) (condition : Bool) : Option Review := if condition then some r else none

mutual
/-- Goes through a part of an expression; a part without a meaning ends the review. -/
def Expression.review (r : Review) : Expression → Option Review
  | .letter l => r.require (r.mode.takesLetter l)
  | .anyLetter => r.require r.mode.allScripts
  | .position => some r
  | .wordBoundary => some { r with boundary := r.boundary || r.mode.allScripts }
  | .shorthand negated => r.require (r.mode.takesShorthand negated)
  | .bracketed negated parts =>
    r.require (r.mode.takesClass negated && Member.partsFit r.mode parts)
  | .flags changes => some { r with mode := r.mode.change changes }
  | .repeated _ e => e.review r
  | .group changes alternatives =>
    match Expression.reviewAlternatives { r with mode := r.mode.change changes } alternatives with
    | some inner => some { inner with mode := r.mode }
    | none => none

/-- Goes through a sequence. -/
def Expression.reviewSequence (r : Review) : List Expression → Option Review
  | [] => some r
  | e :: es =>
    match e.review r with
    | some r => Expression.reviewSequence r es
    | none => none

/-- Goes through alternatives; flags of one hold in the later ones too. -/
def Expression.reviewAlternatives (r : Review) : List (List Expression) → Option Review
  | [] => some r
  | s :: ss =>
    match Expression.reviewSequence r s with
    | some r => Expression.reviewAlternatives r ss
    | none => none
end

end Configurator.Log
