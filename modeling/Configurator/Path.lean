/-
File paths. A path is kept as it was written, byte for byte, and compared by its components: empty
parts say nothing, `.` says something only at the very beginning of a relative path. Main statements:
two paths compare as equal exactly when they have the same components, and the comparison is a
linear order, so paths can be the members of an ordered set.
-/
import Configurator.SortedSet
import Configurator.Text.Pieces
import Configurator.Utf8

namespace Configurator

/-- A path as it was written. -/
structure Path where
  bytes : Bytes
  deriving DecidableEq, Repr, Inhabited

/-- The byte between the parts of a path. -/
def slash : UInt8 := 0x2F

/-- The byte of which `.` and `..` are made. -/
def dot : UInt8 := 0x2E

/-- One step of a path. -/
inductive Component where
  /-- The top of the file system. -/
  | root
  /-- The directory from which a relative path starts, when it is written out as `.`. -/
  | here
  /-- The directory above. -/
  | up
  /-- A named entry. -/
  | name (bytes : Bytes)
  deriving DecidableEq, Repr

namespace Component

/-- The component that a part between slashes stands for; an empty part and `.` stand for none. -/
def ofPart? (part : Bytes) : Option Component :=
  if part = [] then none
  else if part = [dot] then none
  else if part = [dot, dot] then some up
  else some (name part)

/-- The component that the part before the first slash of a path stands for. -/
def ofFirstPart? (part : Bytes) (alone : Bool) : Option Component :=
  if part = [] then (if alone then none else some root)
  else if part = [dot] then some here
  else ofPart? part

/-- The sort key of a component: the top, then `.`, then `..`, then names by their bytes. -/
def key : Component → Bytes
  | root => [0]
  | here => [1]
  | up => [2]
  | name bytes => 3 :: bytes

theorem key_injective {a b : Component} (h : a.key = b.key) : a = b := by
  cases a <;> cases b <;> simp_all [key]

end Component

namespace Path

/-- The path that a text spells. -/
def ofString (s : String) : Path := ⟨Utf8.bytes s⟩

/-- The components of a path. -/
def components (p : Path) : List Component :=
  match Text.pieces slash p.bytes with
  | [] => []
  | first :: rest =>
    (Component.ofFirstPart? first rest.isEmpty).toList ++ rest.filterMap Component.ofPart?

/-- Whether the path starts at the top of the file system. -/
def isAbsolute (p : Path) : Bool := p.bytes.head? = some slash

/-- The path of `q` as seen from the directory `p`; an absolute `q` is itself. -/
def join (p q : Path) : Path :=
  if q.isAbsolute then q
  else if p.bytes = [] || p.bytes.getLast? = some slash then ⟨p.bytes ++ q.bytes⟩
  else ⟨p.bytes ++ slash :: q.bytes⟩

/-- The last component, when it is a name. -/
def fileName? (p : Path) : Option Bytes :=
  match p.components.getLast? with
  | some (.name bytes) => some bytes
  | _ => none

/-- The path as text for a reader, undecodable parts shown as U+FFFD. -/
def display (p : Path) : String := Utf8.decodeLossy p.bytes

/-- Whether the path is well-formed text. -/
def isText (p : Path) : Bool := Utf8.isText p.bytes

/-! ## The order of paths -/

/-- The sort key of a path: the keys of its components. -/
def key (p : Path) : List Bytes := p.components.map Component.key

/-- Compares two paths component by component; a path comes before the paths that continue it. -/
def order (p q : Path) : Ordering := compare p.key q.key

instance : Std.TransCmp order where
  eq_swap {p q} := by
    show compare p.key q.key = (compare q.key p.key).swap
    exact Std.OrientedCmp.eq_swap
  isLE_trans {p q r} hpq hqr := by
    show (compare p.key r.key).isLE = true
    exact Std.TransCmp.isLE_trans (b := q.key) hpq hqr

theorem key_eq_iff {p q : Path} : p.key = q.key ↔ p.components = q.components := by
  constructor
  · intro h
    exact List.map_inj_right (fun _ _ => Component.key_injective) |>.1 h
  · intro h
    rw [key, h, key]

/-- Two paths compare as equal exactly when they have the same components. -/
theorem order_eq_iff {p q : Path} : order p q = .eq ↔ p.components = q.components := by
  rw [order, Std.LawfulEqOrd.compare_eq_iff_eq, key_eq_iff]

end Path

/-- A set of paths; equal components make the same member. -/
abbrev PathSet := SortedSet Path Path.order

end Configurator
