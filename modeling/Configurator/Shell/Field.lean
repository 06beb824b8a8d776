/-
Fields. A row of items, characters that remember whether they were quoted, is cut into fields at the
separators that stand in regions. Blanks around fields say nothing; any other separator ends a field,
even an empty one. Where the number of fields is limited, the last one takes in all that is left, except
blanks and one other separator at its end.
-/
import Configurator.Shell.Glob
import Configurator.Shell.State

namespace Configurator.Shell

/-- One item of an expanded word. -/
inductive Item where
  /-- A character; `splits` tells whether it stands in a region, where it may separate fields. -/
  | char (c : Char) (quoted splits : Bool)
  /-- A field ends here. -/
  | cut
  /-- There is a field here, even an empty one. -/
  | hold
  /-- A region begins, in which characters separate fields or, if `fixed`, only cuts do. -/
  | region (fixed : Bool)
  deriving DecidableEq, Repr

def separators (s : State) : List Char := ((s.lookup "IFS").getD " \t\n").toList

/-- Fields that are complete, the one that is growing, and where the separation stands. -/
structure Fields where
  /-- The complete fields, the latest first. -/
  complete : List (List Item) := []
  /-- The items of the growing field, the latest first. -/
  growing : List Item := []
  /-- Whether blanks behind a field are being passed over. -/
  passing : Bool := false
  /-- Whether the region is one in which only cuts separate. -/
  fixed : Bool := false
  /-- Whether the region before was such a one. -/
  afterFixed : Bool := false
  /-- How many more fields there may be, if that is limited. -/
  left : Option Nat := none
  /-- How many items of the last field stay. -/
  kept : Option Nat := none

namespace Fields

def grow (f : Fields) (item : Item) : Fields := { f with growing := item :: f.growing }

def close (f : Fields) : Fields := { f with complete := f.growing :: f.complete, growing := [] }

/-- Takes note of a separator, which is a blank or not. -/
def separate (f : Fields) (item : Item) (blank : Bool) : Fields :=
  if f.left = some 0 then
    if blank then { f.grow item with kept := some (f.kept.getD f.growing.length) }
    else { f.grow item with kept := if f.passing then f.kept else none, passing := false }
  else if f.passing then { f with growing := [], passing := blank }
  else
    let passing := if f.afterFixed || f.fixed then false else blank
    if f.growing.isEmpty && passing then f
    else if f.left = some 1 then
      { f.grow item with left := some 0, kept := some f.growing.length, passing := passing }
    else { f.close with passing := passing, left := f.left.map (· - 1) }

/-- Adds an item. -/
def add (separators : List Char) (f : Fields) (item : Item) : Fields :=
  match item with
  | .region fixed => { f with fixed := fixed, afterFixed := f.fixed, passing := false }
  | .cut => f.separate item true
  | .hold => f.grow item
  | .char c _ splits =>
    if splits && !f.fixed && separators.contains c then
      f.separate item (c = ' ' || c = '\t' || c = '\n')
    else if splits then
      { f.grow item with passing := false, kept := if f.left = some 0 then none else f.kept }
    else f.grow item

end Fields

/-- The items as characters, marked where they stand for themselves. -/
def markedOf (items : List Item) : Glob.Marked :=
  items.filterMap (fun item =>
    match item with
    | .char c quoted _ => some (c, quoted)
    | _ => none)

def textOf (items : List Item) : String := String.ofList ((markedOf items).map Prod.fst)

/-- The fields of a row of items, as many as there may be. -/
def fieldsOf (separators : List Char) (most : Option Nat) (items : List Item) : List Glob.Marked :=
  let last := items.foldl (Fields.add separators) { left := most }
  let growing := match last.kept with
    | some n => last.growing.drop (last.growing.length - n)
    | none => last.growing
  let last := if growing.isEmpty && !last.fixed then last else { last with growing := growing }.close
  last.complete.reverse.map (fun field => markedOf field.reverse)

end Configurator.Shell
