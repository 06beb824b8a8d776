/-
The processes that a shell starts. Those started together are a job; a job that runs in front is waited
for, and the shell says which signal ended it.
-/
import Configurator.Shell.Operand
import Configurator.Shell.Options

namespace Configurator.Shell.Jobs

open Host

/-! ## The table -/

def at? (s : State) (place : Nat) : Option Job := s.jobs.find? (fun job => job.place = place)

/-- The first place that is free; that of a job that has ended and was waited for counts as free. `fuel`
bounds how many places are tried. -/
def freePlace (s : State) : (fuel place : Nat) → Nat
  | 0, place => place
  | fuel + 1, place =>
    match at? s place with
    | none => place
    | some job => if job.isDone && job.waited then place else freePlace s fuel (place + 1)

/-- Adds a job of processes; gives its place. -/
def add (processes : List Nat) : Action Nat := do
  let s ← get
  let place := freePlace s (s.jobs.length + 1) 1
  let others := s.jobs.filter (fun job => job.place ≠ place)
  set { s with jobs := { place := place, members := processes.map (·, none) } :: others }
  return place

/-- Forgets a job. -/
def drop (place : Nat) : Action Unit :=
  modify (fun s => { s with jobs := s.jobs.filter (fun job => job.place ≠ place) })

/-- Notes in a job how one of its processes ended. -/
def noteIn (process : Nat) (ending : Ending) (job : Job) : Job :=
  { job with members := job.members.map (fun (n, was) => (n, if n = process then some ending else was)) }

/-- Notes how a process ended; gives the place of its job. -/
def note (process : Nat) (ending : Ending) : Action (Option Nat) := do
  let s ← get
  match s.jobs.find? (fun job => !job.isDone && job.members.any (fun (n, _) => n = process)) with
  | none => return none
  | some job =>
    set { s with jobs := s.jobs.map (fun (j : Job) => if j.place = job.place then noteIn process ending j else j) }
    return some job.place

/-- What a shell says about a process that it waited for and that a signal ended. -/
def epitaph? : Ending → Option String
  | .exited _ => none
  | .killed number =>
    if number = Signal.interrupt || number = Signal.brokenPipe then none else some (Signal.text number)

/-! ## Waiting -/

/-- Takes note of the end of a process; says which signal ended it if it belongs to the job at a place. -/
def settle (place : Option Nat) (process : Nat) (ending : Ending) : Action Unit := do
  let found ← note process ending
  if found.isSome && found = place then (epitaph? ending).forM (fun text => warn (text ++ "\n"))

/-- Takes note of all processes that have ended already. -/
def settleAll (place : Option Nat) : Action Unit :=
  Work.loop (do
    match ← Work.reap with
    | none => return false
    | some (process, ending) =>
      settle place process ending
      return true)

/-- Waits until the job at a place has ended or, if that is to be told, a signal came in; tells whether
the job has ended. -/
def await (place : Nat) (interruptible : Bool) : Action Bool := do
  Work.loop (do
    if ((at? (← get) place).map Job.isDone).getD true then return false
    else
      match ← Work.awaitChild interruptible with
      | none => return false
      | some (process, ending) =>
        settle (some place) process ending
        return true)
  settleAll (some place)
  return ((at? (← get) place).map Job.isDone).getD true

/-- Waits for the end of a job that runs in front and forgets it; gives its status. -/
def conclude (place : Nat) : Action Nat := do
  let _ ← await place false
  let status := ((at? (← get) place).map Job.status).getD 0
  drop place
  return status

/-! ## Starting -/

/-- How a process is started. -/
inductive Mode where
  /-- In front. -/
  | front
  /-- Beside the script; `first` tells whether it is the first of its job. -/
  | beside (first : Bool)

/-- What a shell that has just been started as a copy changes: nothing is to be done on signals any more,
and the processes of the other shell are not its own. One that runs beside the script does not hear the
signals of a terminal and gets no input. -/
def settleIn (mode : Mode) : Action Unit := do
  let s ← get
  s.script.forM Work.close
  set { s with
    traps := s.traps.filter (fun (_, action) => action = "")
    loops := 0
    jobs := []
    script := none
    halt := none }
  match mode with
  | .front => Work.change (·.modifySelf ({ · with noted := [] }))
  | .beside first =>
    let unheard := [Signal.interrupt, Signal.quit]
    modify (fun s => { s with ignored := unheard ++ s.ignored })
    Work.change (·.modifySelf (fun p => { p with noted := [], ignored := unheard ++ p.ignored }))
    if first then
      Work.close 0
      let _ ← Work.openFile "/dev/null" .reading

/-- Starts a process that does something and ends by itself. -/
def start (mode : Mode) (body : Action Unit) : Action Nat := Work.fork (do
  settleIn mode
  body)

/-! ## Waiting by a command -/

/-- The status that the latest signal leads to. -/
def interruption : Action Nat := do
  return 128 + ((← Work.look (·.self.pending)).getLast?.getD 0)

/-- Waits for one job; tells whether it was not interrupted. -/
def waitOne (job : Job) : Action Bool := do
  if ← await job.place true then
    modify (fun s => { s with
      status := ((at? s job.place).map Job.status).getD 0
      jobs := s.jobs.map (fun j => if j.place = job.place then { j with waited := true } else j) })
    return true
  else
    setStatus (← interruption)
    return false

/-- Waits for all jobs. -/
def waitAll : Action Unit := do
  setStatus 0
  Work.loop (do
    let s ← get
    if s.jobs.all Job.isDone then return false
    else
      match ← Work.awaitChild true with
      | some (process, ending) =>
        settle none process ending
            return true
      | none =>
        unless (← Work.look (·.self.pending)).isEmpty do setStatus (← interruption)
        return false)
  modify (fun s => { s with jobs := s.jobs.map (fun j => { j with waited := j.waited || j.isDone }) })

/-- Waits for processes, one after the other, until a signal comes in. -/
def waitEach : List String → Action Unit
  | [] => pure ()
  | word :: rest => Operand.withNumber word (fun process => do
    match (← get).jobs.find? (fun job => (job.members.getLast?).any (fun (n, _) => n = process)) with
    | none => waitEach rest
    | some job => if ← waitOne job then waitEach rest)

/-- Waits for processes beside the script: its status is that of the last one, and that of an unknown one
tells so. -/
def wait (operands : List String) : Action Unit :=
  Operand.withOptions "" operands (fun _ words => do
    if words.isEmpty then waitAll
    else
      setStatus 127
      waitEach words)

end Configurator.Shell.Jobs
