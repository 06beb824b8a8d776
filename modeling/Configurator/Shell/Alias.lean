/-
Aliases: words that stand for other text where a command begins.
-/
import Configurator.Shell.Variables

namespace Configurator.Shell.Alias

/-- Gives a word another meaning. -/
def define (name text : String) (s : State) : State :=
  if s.aliases.any (fun (n, _) => n = name) then
    { s with aliases := s.aliases.map (fun (n, t) => (n, if n = name then text else t)) }
  else { s with aliases := s.aliases ++ [(name, text)] }

/-- The name and the text of an alias that an operand spells; a name may begin with an equals sign. -/
def binding (operand : String) : String × Option String :=
  match operand.toList with
  | [] => ("", none)
  | c :: rest =>
    let (name, text) := Operand.binding (String.ofList rest)
    (String.ofList (c :: name.toList), text)

/-- Gives words other meanings. -/
def set (operands : List String) : Action Unit := do
  setStatus 0
  forEach operands (fun operand => do
    match binding operand with
    | (name, some text) => modify (define name text)
    | (name, none) =>
      warn ("alias: " ++ name ++ " not found\n")
      setStatus 1)

end Configurator.Shell.Alias
