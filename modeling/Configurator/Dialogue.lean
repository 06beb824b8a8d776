/-
Asking the user. A dialogue can show text, ask yes/no questions and offer the menu; whoever answers,
the questions of a custom build and the choice of a profile are put in the same way. A failed step
leaves the state as it then was, so a dialogue can go on after a failure.
-/
import Configurator.Answer
import Configurator.Log.Event
import Configurator.Profile

namespace Configurator

/-- Why a byte stream gave no line or took no bytes. -/
inductive StreamFault where
  /-- A line is not text. -/
  | undecodable
  /-- Not all bytes were taken. -/
  | full
  deriving DecidableEq, Repr

/-- What the user reads about a fault of a stream. -/
def StreamFault.text : StreamFault → String
  | undecodable => "stream did not contain valid UTF-8"
  | full => "failed to write whole buffer"

/-- Why a question has no answer. -/
inductive PromptError where
  /-- The input ended. -/
  | closed
  /-- Reading or writing failed. -/
  | stream (fault : StreamFault)
  deriving DecidableEq, Repr

/-- What the user reads about a question without an answer. -/
def PromptError.message : PromptError → String
  | closed => "input closed before an answer was given"
  | stream fault => "io error: " ++ fault.text

/-- A conversation over a state that survives failures. -/
abbrev Dialogue (σ : Type) := ExceptT PromptError (StateM σ)

/-- A state over which questions can be asked. -/
class Prompter (σ : Type) where
  /-- Shows a text on a line of its own. -/
  say : String → Dialogue σ Unit
  /-- Asks a question until it is answered by yes or no. -/
  askYesNo : String → Dialogue σ Bool
  /-- Offers the menu until something in it is chosen. -/
  chooseMenu : Dialogue σ MenuChoice
  /-- Notes an event. -/
  note : Log.Event → Dialogue σ Unit

namespace Dialogue

variable {σ : Type} [Prompter σ]

/-- The heading of a feature's question: its number, title and description. -/
def featureHeading (number : Nat) (feature : Feature) : String :=
  toString number ++ ". " ++ feature.title ++ "\n  " ++ feature.description ++ "\n"

/-- The event of a decision. -/
def featureDecided (feature : Feature) (enabled : Bool) : Log.Event where
  level := .debug
  area := .dialogue
  message := "feature decided"
  fields := [("feature", feature.name), ("enabled", if enabled then "true" else "false")]

/-- Asks about features one by one, counting from `number`. -/
def askFeaturesFrom (number : Nat) : List Feature → Choices → Dialogue σ Choices
  | [], choices => pure choices
  | feature :: rest, choices => do
    Prompter.say (featureHeading number feature)
    let enabled ← Prompter.askYesNo feature.question
    Prompter.note (featureDecided feature enabled)
    askFeaturesFrom (number + 1) rest (choices.set feature enabled)

/-- Asks about every feature. -/
def askFeatures : Dialogue σ Choices := askFeaturesFrom 1 Feature.all {}

/-- The argument that chooses the debug build without a question. -/
def debugShortcut : String := "d"

/-- The kind of build that the arguments or the menu choose; none when the user quits. -/
def chooseKind (args : List String) : Dialogue σ (Option Kind) :=
  if args = [debugShortcut] then pure (some .debug)
  else do
    match ← Prompter.chooseMenu with
    | .build kind => pure (some kind)
    | .quit => pure none

/-- The event of a chosen kind. -/
def kindChosen (kind : Kind) : Log.Event where
  level := .info
  area := .command
  message := "profile selected"
  fields := [("profile", kind.name)]

/-- The profile of a kind, asking what a custom build needs to know. -/
def profileOfKind : Kind → Dialogue σ Profile
  | .release => pure .release
  | .debug => pure .debug
  | .custom => return .custom (← askFeatures)

/-- The profile to build; none when the user quits. -/
def resolveProfile (args : List String) : Dialogue σ (Option Profile) := do
  match ← chooseKind args with
  | none => pure none
  | some kind =>
    Prompter.note (kindChosen kind)
    return some (← profileOfKind kind)

/-! ## Sequences of steps -/

/-- One step of a conversation. -/
inductive Step where
  | say (text : String)
  | yesNo (question : String)
  | menu
  | features
  deriving DecidableEq, Repr

/-- What a step gives. -/
inductive Reply where
  | done
  | decision (answer : Bool)
  | choice (choice : MenuChoice)
  | choices (choices : Choices)
  deriving DecidableEq, Repr

/-- Takes one step. -/
def perform : Step → Dialogue σ Reply
  | .say text => do Prompter.say text; return .done
  | .yesNo question => return .decision (← Prompter.askYesNo question)
  | .menu => return .choice (← Prompter.chooseMenu)
  | .features => return .choices (← askFeatures)

/-- Takes steps one after the other, a failed one not ending the list; gives for each step its
result and the state after it. -/
def performAll : List Step → σ → List (Except PromptError Reply × σ)
  | [], _ => []
  | step :: rest, s =>
    let result := (perform step).run.run s
    result :: performAll rest result.2

end Dialogue

end Configurator
