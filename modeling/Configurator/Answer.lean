/-
What the user may answer. A yes/no question takes `y`, `yes`, `n` or `no`, the menu takes the selector
of a kind or `q` or `quit`; blanks at both ends and the case of ASCII letters do not matter.
-/
import Configurator.Kind

namespace Configurator

/-- The answer to a yes/no question, if the text is one. -/
def yesNo? (input : String) : Option Bool :=
  let word := Text.lowerAscii (Text.trim input)
  if word = "y" || word = "yes" then some true
  else if word = "n" || word = "no" then some false
  else none

/-- An answer to the menu. -/
inductive MenuChoice where
  | build (kind : Kind)
  | quit
  deriving DecidableEq, Repr

/-- The answer to the menu, if the text is one. -/
def menuChoice? (input : String) : Option MenuChoice :=
  let word := Text.lowerAscii (Text.trim input)
  if word = "q" || word = "quit" then some .quit
  else
    match Kind.ofSelector input with
    | .ok kind => some (.build kind)
    | .error _ => none

end Configurator
