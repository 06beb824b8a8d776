/-
A dialogue with prepared answers. Questions are remembered and answered from one list, the menu from
another; a list that is used up counts as the end of the input.
-/
import Configurator.Dialogue

namespace Configurator

/-- A conversation whose answers are known beforehand. -/
structure Prepared where
  /-- The answers to yes/no questions that are left. -/
  answers : List Bool := []
  /-- The choices from the menu that are left. -/
  menu : List MenuChoice := []
  /-- Every question asked so far. -/
  asked : List String := []
  deriving DecidableEq, Repr

namespace Prepared

/-- Adds choices behind those that are left. -/
def withMenu (p : Prepared) (choices : List MenuChoice) : Prepared :=
  { p with menu := p.menu ++ choices }

/-- Answers a yes/no question from the list. -/
def answer (question : String) (p : Prepared) : Except PromptError Bool × Prepared :=
  match p.answers with
  | [] => (.error .closed, { p with asked := p.asked ++ [question] })
  | a :: rest => (.ok a, { p with answers := rest, asked := p.asked ++ [question] })

/-- Chooses from the menu from the list. -/
def choose (p : Prepared) : Except PromptError MenuChoice × Prepared :=
  match p.menu with
  | [] => (.error .closed, p)
  | choice :: rest => (.ok choice, { p with menu := rest })

instance : Prompter Prepared where
  say _ := pure ()
  askYesNo question := .mk (answer question)
  chooseMenu := .mk choose
  note _ := pure ()

end Prepared

end Configurator
