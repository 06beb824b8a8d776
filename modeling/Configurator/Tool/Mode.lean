/-
Permissions as they are written: a number in octal digits, or changes one after the other, each of which
names whom it is for, an operation and the permissions.
-/
import Configurator.Host.Kernel

namespace Configurator.Tool.Mode

/-- A change of permissions. -/
structure Change where
  /-- The bits that it is about; none means those that new files get. -/
  affected : Nat
  operator : Char
  bits : Nat

/-- The bits of a class of users. -/
def classBits : Char → Nat
  | 'u' => 0o4700
  | 'g' => 0o2070
  | 'o' => 0o1007
  | _ => 0o7777

/-- The bits that a letter stands for, for all classes. -/
def letterBits : Char → Nat
  | 'r' => 0o444
  | 'w' => 0o222
  | _ => 0o111

/-- The number that octal digits spell. -/
def octal? (text : List Char) : Option Nat :=
  if text ≠ [] && text.all (fun c => '0' ≤ c && c ≤ '7') then
    some (text.foldl (fun n c => 8 * n + (c.toNat - '0'.toNat)) 0)
  else none

/-- The change that one part of a mode spells. -/
def part? (text : List Char) : Option Change :=
  let classes := text.takeWhile ("ugoa".toList.contains ·)
  match text.drop classes.length with
  | operator :: letters =>
    if ['+', '-', '='].contains operator && letters.all ("rwx".toList.contains ·) then
      some {
        affected := classes.foldl (fun n c => n ||| classBits c) 0
        operator := operator
        bits := letters.foldl (fun n c => n ||| letterBits c) 0 }
    else none
  | [] => none

/-- The changes that a mode spells. -/
def ofText? (text : String) : Option (List Change) :=
  match octal? text.toList with
  | some n => if n ≤ 0o7777 then some [⟨0o7777, '=', n⟩] else none
  | none => (Text.pieces ',' text.toList).mapM part?

/-- Permissions after a change; `mask` holds those that new files do not get. -/
def Change.apply (mask mode : Nat) (c : Change) : Nat :=
  let all := 0o7777
  let bits := c.bits &&& (if c.affected = 0 then all ^^^ mask else c.affected)
  match c.operator with
  | '+' => mode ||| bits
  | '-' => mode &&& (all ^^^ bits)
  | _ => (mode &&& (if c.affected = 0 then 0 else all ^^^ c.affected)) ||| bits

def apply (mask mode : Nat) (changes : List Change) : Nat := changes.foldl (Change.apply mask) mode

end Configurator.Tool.Mode
