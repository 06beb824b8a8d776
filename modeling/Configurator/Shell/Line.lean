/-
Reading a line of the input into variables.
-/
import Configurator.Shell.Field
import Configurator.Shell.Variables

namespace Configurator.Shell.Line

open Host

/-- Reads a line: its items, whether its end was there, and what follows. Behind a backslash a character
separates nothing, and the line goes on. -/
def read (raw : Bool) : List Char → List Item × Bool × List Char
  | [] => ([], false, [])
  | '\n' :: rest => ([], true, rest)
  | '\x00' :: rest => read raw rest
  | '\\' :: rest =>
    if raw then
      let (line, ended, left) := read raw rest
      (.char '\\' false true :: line, ended, left)
    else
      match rest with
      | [] => ([], false, [])
      | c :: rest =>
        let (line, ended, left) := read raw rest
        ((if c = '\n' then [.region false] else [.char c true false, .region false]) ++ line, ended, left)
  | c :: rest =>
    let (line, ended, left) := read raw rest
    (.char c false true :: line, ended, left)

/-- Reads the characters of a line byte by byte, so that nothing behind it is read, behind those read
already, the latest first; `escaped` tells whether the last one takes the meaning of the next away. -/
def fetch (raw : Bool) : (fuel : Nat) → (escaped : Bool) → List Char → Action (List Char)
  | 0, _, before => return before.reverse
  | fuel + 1, escaped, before => do
    Work.breathe
    match ← Work.read 0 1 with
    | .error _ => return before.reverse
    | .ok bytes =>
      match (Raw.ofArray bytes).toList with
      | [] => return before.reverse
      | c :: _ =>
        if c = '\n' && !escaped then return (c :: before).reverse
        else fetch raw fuel (c = '\\' && !raw && !escaped) (c :: before)

/-- Reads a line of the input into variables. -/
def readInto (operands : List String) : Action Unit :=
  Operand.withOptions "p:r" operands (fun given names => do
    if names.isEmpty then abort "arg count"
    else
      let raw := given.any (fun (c, _) => c = 'r')
      let (line, ended, _) := read raw (← fetch raw Work.turnLimit false [])
      let fields := fieldsOf (separators (← get)) (some names.length) (.region false :: line)
      let values := fields.map (fun field => String.ofList (field.map Prod.fst))
      forEach (names.zip (values ++ List.replicate names.length "")) (fun (name, value) =>
        Variables.define name value)
      if ← isGoing then setStatus (if ended then 0 else 1))

end Configurator.Shell.Line
