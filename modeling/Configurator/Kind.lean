/-
The three kinds of build and the selectors that name them in the menu. Main statement: a kind's own
selector selects it.
-/
import Configurator.Text.Blank
import Configurator.Text.Quoted

namespace Configurator

/-- The kinds of build. -/
inductive Kind where
  | release
  | debug
  | custom
  deriving DecidableEq, Repr, Inhabited

/-- A text that selects no kind of build, blanks at its ends taken off. -/
structure UnknownSelector where
  selector : String
  deriving DecidableEq, Repr

/-- What the user is told about a text that selects nothing. -/
def UnknownSelector.message (e : UnknownSelector) : String :=
  "unknown build profile selector: " ++ Text.quoted e.selector

namespace Kind

/-- Every kind, in the order of the menu. -/
def all : List Kind := [release, debug, custom]

/-- The text that selects the kind in the menu. -/
def selector : Kind → String
  | release => "1"
  | debug => "2"
  | custom => "3"

/-- The kind's line in the menu. -/
def label : Kind → String
  | release => "Release"
  | debug => "Debug"
  | custom => "Custom (recommended)"

/-- The kind's name in reports. -/
def name : Kind → String
  | release => "release"
  | debug => "debug"
  | custom => "custom"

/-- The kind that a text selects, blanks at both ends aside. -/
def ofSelector (input : String) : Except UnknownSelector Kind :=
  let selector := Text.trim input
  if selector = "1" then .ok release
  else if selector = "2" then .ok debug
  else if selector = "3" then .ok custom
  else .error ⟨selector⟩

/-- A kind's own selector selects it. -/
theorem ofSelector_selector (k : Kind) : ofSelector k.selector = .ok k := by
  cases k <;> rfl

end Kind

end Configurator
