/-
Variables: giving them values, letting programs see them, fixing them, keeping them inside a function
and taking them away.
-/
import Configurator.Shell.Operand
import Configurator.Shell.Reader

namespace Configurator.Shell.Variables

/-! ## Values -/

/-- Gives a variable a value. One that is fixed keeps its own. -/
def setValue (name value : String) : Action Unit := do
  let s ← get
  if (s.named name).fixed then abort (name ++ ": is read only") else set (s.assign name value)

/-- Makes a variable an array with values. -/
def setElements (name : String) (values : List String) : Action Unit := do
  let s ← get
  if (s.named name).fixed then abort (name ++ ": is read only")
  else set (s.put name { s.named name with value := none, elements := some values })

/-- Does something to the variable that a name in an operand is about. -/
def withName (name : String) (action : Action Unit) : Action Unit :=
  if Reader.isName name then action else abort (name ++ ": bad variable name")

def define (name value : String) : Action Unit := withName name (setValue name value)

/-- Takes the value of a variable away. -/
def clear (name : String) : Action Unit := do
  let s ← get
  if (s.named name).fixed then abort (name ++ ": is read only") else set (s.put name {})

/-- Takes variables or functions away. -/
def unset (operands : List String) : Action Unit :=
  Operand.withOptions "vf" operands (fun given words => do
    setStatus 0
    forEach words (fun word => do
      if given.getLast?.any (fun (c, _) => c = 'f') then
        modify (fun s => { s with functions := s.functions.filter (fun (n, _) => n ≠ word) })
      else
        let (name, _) := Operand.binding word
        withName name (clear name)))

/-- The place of a name in a table with some places. -/
def placeIn (places : Nat) (name : String) : Nat :=
  let codes := name.toList.map Char.toNat
  (codes.foldl (· + ·) (16 * codes.head?.getD 0)) % places

/-- Named things in the order in which they stand in a table with some places. -/
def inTable {α : Type} (places : Nat) (things : List (String × α)) : List (String × α) :=
  things.mergeSort (fun a b => decide (placeIn places a.1 ≤ placeIn places b.1))

/-! ## Marks -/

/-- Marks variables. A variable that an operand gives a value gets it first. -/
def mark (marked : Variable → Variable) (operands : List String) : Action Unit := do
  setStatus 0
  forEach operands (fun word => do
    let (name, value) := Operand.binding word
    withName name (value.forM (setValue name))
    if (← get).halt.isNone then modify (fun s => s.put name (marked (s.named name))))

def exportAll : List String → Action Unit := mark ({ · with exported := true })

def fixAll : List String → Action Unit := mark ({ · with fixed := true })

/-! ## Functions -/

/-- Notes what gets back its value when the current function is left. -/
def save (saved : Saved) : Action Unit := modify (fun s => { s with locals := s.locals.map (saved :: ·) })

/-- Keeps changes of variables, or of the options for a hyphen, inside the current function. -/
def keepLocal (operands : List String) : Action Unit := do
  if (← get).locals.isNone then abort "not in a function"
  else
    setStatus 0
    forEach operands (fun word => do
      let s ← get
      let (name, value) := Operand.binding word
      if word = "-" then save (.options s.options)
      else
        save (.value name (s.named name))
        match value with
        | some value => setValue name value
        | none => unless (s.bindings.lookup name).isSome do withName name (pure ()))

/-- Gives back a value. -/
def restore (s : State) : Saved → State
  | .value name v => s.put name v
  | .options letters => { s with options := letters }

end Configurator.Shell.Variables
