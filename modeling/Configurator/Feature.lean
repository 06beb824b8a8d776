/-
The features of the interpreter that a custom build decides one by one, and the record of those
decisions.
-/

namespace Configurator

/-- What a custom build lets the user decide. -/
inductive Feature where
  | richTerminal
  | manualApproval
  | keepAssertions
  deriving DecidableEq, Repr

namespace Feature

/-- Every feature, in the order in which they are asked about. -/
def all : List Feature := [richTerminal, manualApproval, keepAssertions]

/-- The feature's name in the log. -/
def name : Feature → String
  | richTerminal => "RichTerminal"
  | manualApproval => "ManualApproval"
  | keepAssertions => "KeepAssertions"

/-- The heading above the question. -/
def title : Feature → String
  | richTerminal => "Rich terminal interface"
  | manualApproval => "Manual approval of commands and file handling"
  | keepAssertions => "Assertions"

/-- The explanation above the question. -/
def description : Feature → String
  | richTerminal =>
    "The interactive prompt can run in either basic or rich mode. Rich mode adds line editing, " ++
      "history and highlighting, but may be less stable and portable. This only sets the default; " ++
      "--terminal-basic and --terminal-rich select a mode at startup."
  | manualApproval =>
    "Whether the interpreter asks for permission by default before running external programs " ++
      "or opening files for reading or writing. Guards against accidental execution or edits " ++
      "caused by user error or interpreter bugs. --manual-approve and --no-manual-approve select " ++
      "the behaviour at startup."
  | keepAssertions =>
    "Assertions make the code safer and easier to debug, but potentially slower and more " ++
      "crash-prone, since the program stops immediately on a failed assertion instead of " ++
      "misbehaving."

/-- The question itself. -/
def question : Feature → String
  | richTerminal => "Use rich terminal by default?"
  | manualApproval => "Use manual approval by default?"
  | keepAssertions => "Keep asserts?"

/-- The compiler flags of a decision. -/
def flags : Feature → (enabled : Bool) → List String
  | richTerminal, true => ["-DSETTING_RICH_TERMINAL=1"]
  | richTerminal, false => ["-DSETTING_RICH_TERMINAL=0"]
  | manualApproval, true => ["-DSETTING_APPROVE_COMMANDS=1"]
  | manualApproval, false => ["-DSETTING_APPROVE_COMMANDS=0"]
  | keepAssertions, true => []
  | keepAssertions, false => ["-DNO_INCLUDE_ASSERTS"]

end Feature

/-- One decision per feature; at first every feature is off. -/
structure Choices where
  richTerminal : Bool := false
  manualApproval : Bool := false
  keepAssertions : Bool := false
  deriving DecidableEq, Repr, Inhabited

namespace Choices

/-- The decision on a feature. -/
def get (c : Choices) : Feature → Bool
  | .richTerminal => c.richTerminal
  | .manualApproval => c.manualApproval
  | .keepAssertions => c.keepAssertions

/-- The choices with one feature decided anew. -/
def set (c : Choices) (f : Feature) (enabled : Bool) : Choices :=
  match f with
  | .richTerminal => { c with richTerminal := enabled }
  | .manualApproval => { c with manualApproval := enabled }
  | .keepAssertions => { c with keepAssertions := enabled }

end Choices

end Configurator
