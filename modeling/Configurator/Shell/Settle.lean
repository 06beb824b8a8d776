/-
What is done between two commands: what is set for signals that came in, and what follows a failure.
-/
import Configurator.Shell.Process

namespace Configurator.Shell

open Host

namespace Run

section Settling

variable (again : Task → Action Unit)

/-- Does what is to be done on one signal; `before` is how things stood when it came in. -/
def settleSignal (before : State) (action : String) : Action Unit := do
  again (.ofText action 1 false)
  modify (fun after =>
    if after.halt.isNone || after.halt = some (.returned false) then
      { after with status := before.kept.getD before.status }
    else after)

/-- Does what is to be done on the signals that came in, in the order of their numbers. -/
def settleSignals : Action Unit := do
  if (← Work.look (·.self.pending)).isEmpty || !(← isGoing) then return
  let numbers ← Work.system (fun k => (k.self.pending, k.modifySelf ({ · with pending := [] })))
  let s ← get
  set { s with context := none, guarded := false, kept := some (s.kept.getD s.status) }
  forEach (numbers.mergeSort (fun a b => decide (a ≤ b))) (fun number => do
    (((← get).traps.lookup number)).forM (settleSignal again s))
  modify (fun after => { after with context := s.context, guarded := s.guarded, kept := s.kept })

end Settling

/-- Does what follows a failure that nothing looks at; it ends a strict script. -/
def settleFailure : Action Unit := do
  let s ← get
  if !s.guarded && s.status ≠ 0 && s.halt.isNone && s.strict then endWith s.status

end Run

end Configurator.Shell
