/-
Running scripts. A script is read and run line by line; a command may run others, as a process of its own
or in the shell itself. The rules for each kind of command take what runs other commands as a parameter,
and the runner ties them together.
-/
import Configurator.Shell.Directory
import Configurator.Shell.Question
import Configurator.Shell.Simple

namespace Configurator.Shell

open Host

namespace Run

section Rules

variable (again : Task → Action Unit)

/-! ## Compound commands -/

/-- Runs a command whose failure is looked at. -/
def guarded (body : Command) : Action Unit := do
  let before := (← get).guarded
  modify (fun s => { s with guarded := true })
  again (.command body false)
  modify (fun s => { s with guarded := before })

/-- Takes note of what a turn of a loop asked for; tells whether the loop goes on. -/
def settleTurn : Action Bool := do
  let s ← get
  match s.halt with
  | none => return true
  | some (.broken levels) =>
    set { s with halt := if levels ≤ 1 then none else some (.broken (levels - 1)) }
    return false
  | some (.continued levels) =>
    set { s with halt := if levels ≤ 1 then none else some (.continued (levels - 1)) }
    return levels ≤ 1
  | some _ => return false

/-- Does something inside a loop. -/
def inLoop (action : Action Unit) : Action Unit := do
  modify (fun s => { s with loops := s.loops + 1 })
  action
  modify (fun s => { s with loops := s.loops - 1 })

/-- Runs the turns of a loop that are left. -/
def turns (until_ : Bool) (condition body : Command) (status : Nat) : Action Unit := do
  guarded again condition
  let isCut := (← get).halt.isSome
  if ← settleTurn then
    if isCut then again (.turns until_ condition body status)
    else if ((← get).status = 0) != until_ then
      again (.command body false)
      if ← settleTurn then again (.turns until_ condition body (← get).status)
    else setStatus status

/-- Runs a body for each value. -/
def eachValue (name : String) (body : Command) : List String → Action Unit
  | [] => pure ()
  | value :: rest => do
    Variables.setValue name value
    if ← isGoing then
      again (.command body false)
      if ← settleTurn then eachValue name body rest

/-- The value of an expression of a loop; an empty one has a value other than zero. -/
def numberFor (word : Word) : Action (Option Int) := do
  if word.isEmpty then return some 1
  Expand.number? (← Expand.document (substitute again) word)

/-- Runs a body as long as an expression is not zero, and another expression after each turn. -/
def counted (first condition step : Word) (body : Command) : Action Unit := do
  setStatus 0
  if (← numberFor again first).isSome && (← isGoing) then
    Work.loop (do
      match ← numberFor again condition with
      | none | some 0 => return false
      | some _ =>
        again (.command body false)
        if ← settleTurn then return (← numberFor again step).isSome else return false)

/-- Whether one of the patterns matches a text. -/
def matchesAny (text : String) : List Word → Action Bool
  | [] => return false
  | word :: rest => do
    let pattern ← Expand.pattern (substitute again) word
    if Glob.fits pattern text.toList then return true else matchesAny text rest

/-- Runs a command; none succeeds. -/
def runBody (final : Bool) (body : Command) : Action Unit :=
  if isNothing body then setStatus 0 else again (.command body final)

/-- Runs the first case that matches. -/
def choose (final : Bool) (text : String) : List (Clause Word Command) → Action Unit
  | [] => pure ()
  | c :: rest => do
    let found ← matchesAny again text c.patterns
    if ← isGoing then
      if found then runBody again final c.body else choose final text rest

/-- Starts the commands of a pipe, each reading by a descriptor what the one before it writes; gives the
numbers of the processes. -/
def startPiped (beside first : Bool) (before : Option Nat) : List Command → Action (List Nat)
  | [] => return []
  | command :: rest => do
    let sides : Option (Nat × Nat) ← if rest.isEmpty then pure none else Work.system (fun k =>
      let (k, sides) := k.makePipe
      (some sides, k))
    let child ← Jobs.start (if beside then .beside first else .front) (do
      sides.forM (fun (reading, _) => Work.close reading)
      before.forM (fun reading => move reading 0)
      sides.forM (fun (_, writing) => move writing 1)
      runAndLeave again command)
    before.forM Work.close
    sides.forM (fun (_, writing) => Work.close writing)
    return child :: (← startPiped beside false (sides.map Prod.fst) rest)

/-- Takes note of the status of a command that is no simple one. -/
def conclude (status : Nat) : Action Unit := do
  setStatus status
  settleSignals again
  settleFailure

/-- Runs commands as one pipe. -/
def runPiped (beside : Bool) (commands : List Command) : Action Unit := do
  let processes ← startPiped again beside true none commands
  let place ← Jobs.add processes
  if beside then modify (fun s => { s with beside := processes.getLast?, status := 0 })
  else conclude again (← Jobs.conclude place)

/-- Runs a command as a process beside the script. -/
def runBeside (command : Command) : Action Unit := do
  let child ← Jobs.start (.beside true) (do
    modify (fun s => { s with guarded := false })
    runAndLeave again command)
  let _ ← Jobs.add [child]
  modify (fun s => { s with beside := some child, status := 0 })

/-- Runs a command as a process of its own, or as what is left of the present one. -/
def runApart (final : Bool) (body : Command) (redirections : List (Redirection Word)) : Action Unit := do
  let inside : Action Unit := do
    if ← Redirect.forGood (substitute again) redirections then again (.command body true)
    else if ← isGoing then giveUp
    leave again
  if ← canEnd final then inside
  else
    let child ← Jobs.start .front inside
    let place ← Jobs.add [child]
    conclude again (← Jobs.conclude place)

/-- The values of a loop over items. -/
def valuesOf : List Word → Action (List String)
  | [] => return []
  | word :: rest => do
    if ← isGoing then
      let first ← Expand.fields (substitute again) word
      return first ++ (← valuesOf rest)
    else return []

/-- Runs a command; `final` tells whether the process ends with it. -/
def commandStep (final : Bool) : Command → Action Unit
  | .nothing => pure ()
  | .simple line assignments words redirections => simple again final line assignments words redirections
  | .negated body => do
    guarded again body
    if ← isGoing then modify (fun s => { s with status := if s.status = 0 then 1 else 0 })
  | .piped commands => runPiped again false commands
  | .both first second => do
    guarded again first
    if (← isGoing) && (← get).status = 0 then again (.command second final)
  | .either first second => do
    guarded again first
    if (← isGoing) && (← get).status ≠ 0 then again (.command second final)
  | .sequence first second => do
    again (.command first (final && isNothing second))
    if ← isGoing then again (.command second final)
  | .background body =>
    match body with
    | .piped commands => runPiped again true commands
    | body => runBeside again body
  | .subshell line body redirections => do
    atLine line
    runApart again final body redirections
  | .branch condition consequence alternative => do
    guarded again condition
    if ← isGoing then
      if (← get).status = 0 then again (.command consequence final) else runBody again final alternative
  | .loop until_ condition body => inLoop (turns again until_ condition body 0)
  | .each line name items body => do
    atLine line
    let values ← match items with
      | some words => valuesOf again words
      | none => do pure (← get).args
    if ← isGoing then
      inLoop (eachValue again name body values)
      if values.isEmpty then setStatus 0
  | .counted line first condition step body => do
    atLine line
    inLoop (counted again first condition step body)
  | .choice line word cases => do
    atLine line
    let text ← Expand.text (substitute again) word
    if ← isGoing then choose again final text cases
  | .question line question => do
    atLine line
    let value ← Inquiry.answer (substitute again) question
    if ← isGoing then conclude again (if value then 0 else 1)
  | .computation line expression => do
    atLine line
    match ← numberFor again expression with
    | some value => conclude again (if value = 0 then 1 else 0)
    | none => pure ()
  | .define name body => modify (fun s => { s.define name body with status := 0 })
  | .redirected _ body [] => again (.command body final)
  | .redirected line body redirections => do
    atLine line
    let opened ← Redirect.within (substitute again) redirections false (fun _ => again (.command body false))
    if !opened && (← isGoing) then settleFailure

/-! ## Scripts -/

/-- How many bytes of a script are read at a time. -/
def blockSize : Nat := 8192

/-- Reads more of a script; gives nothing at its end. -/
def more (feed : Nat) (last : Nat) : Action (Option (Nat × Source)) := do
  let source := match ← Work.read feed blockSize with
    | .error _ => []
    | .ok bytes => (Raw.ofArray bytes).toList
  if source.isEmpty then return none
  let source := sourceAt last source
  return some (Reader.lastLine source, source)

/-- Tells why a script cannot be read, which ends it. -/
def refuse (fault : Reader.Fault) : Action Unit := do
  atLine fault.line
  abort ("Syntax error: " ++ fault.message)

/-- Runs the lines of a script. Where it may go on, more of it is read before the end of what is there
means anything. -/
def scriptStep (feed : Option Nat) (last : Nat) (source : Source) (final : Bool) : Action Unit := do
  let s ← get
  let next := Grammar.nextLine { source := source, last := last, aliases := s.aliases, dialect := s.dialect }
  let isOpen := match next with
    | .ok (some line) => line.exhausted
    | _ => true
  let added ← match feed with
    | some feed => if isOpen then more feed last else pure none
    | none => pure none
  match added, next with
  | some (last, added), _ => again (.script feed last (source ++ added) final)
  | none, .error fault => refuse fault
  | none, .ok none => pure ()
  | none, .ok (some line) =>
    modify (fun s => { s with reached := (line.rest.head?.map Prod.snd).getD last })
    let s ← get
    if s.has 'v' then warn (Reader.textOf (source.take (source.length - line.rest.length)))
    unless s.has 'n' || isNothing line.command do
      again (.command line.command (final && line.exhausted))
      modify (fun s => { s with ran := true })
    if ← isGoing then again (.script (if isOpen then none else feed) last line.rest final)

/-- Runs a task. -/
def step : Task → Action Unit
  | .command command final => do unless (← get).has 'n' do commandStep again final command
  | .script feed last source final => scriptStep again feed last source final
  | .turns until_ condition body status => turns again until_ condition body status

end Rules

/-! ## The runner -/

/-- How long it takes to run a command, in microseconds. -/
def commandTime : Nat := 3

/-- Runs a task, as long as `fuel` lasts. Others may work before each task. -/
def perform : (fuel : Nat) → Task → Action Unit
  | 0, _ => Work.finish (.killed Signal.memory)
  | fuel + 1, task => do
    Work.change (·.spend commandTime)
    Work.breathe
    step (perform fuel) task

/-! ## The shell as a program -/

/-- The state in which a shell of a dialect starts. -/
def fresh (dialect : Dialect) (environment : List (String × String)) (k : Kernel) : State :=
  let known := environment.filter (fun (name, _) => Reader.isName name)
  let s : State := {
    program := ""
    args := []
    bindings := known.map (fun (name, value) => (name, { value := some value, exported := true }))
    process := k.current
    ignored := k.self.ignored
    dialect := dialect }
  let own : List (String × String) := match dialect with
    | .plain => [("OPTIND", "1"), ("PS1", "# "), ("PS2", "> ")]
    | .rich => [("BASH", "/bin/bash"), ("BASH_VERSION", "5.2.21(1)-release")]
  let given := [("IFS", " \t\n"), ("PS4", "+ "), ("PPID", toString k.self.parent)] ++ own
  let directory := Directory.resolvedPath k
  let started := given.foldl (fun s (name, value) => s.assign name value) s
  { started.provide "PWD" directory with directory := directory }

/-- Runs a script in a file, in an operand or in the input, and ends. -/
def shell (argv : List String) : Action Unit := do
  let again := perform Work.turnLimit
  let name := argv.head?.getD "sh"
  let inOperand := (argv.drop 1).head?.any (fun word =>
    word.toList.head? = some '-' && word.toList.contains 'c')
  let args := if inOperand then
      (argv.drop 1).modifyHead (fun word => String.ofList (word.toList.filter (· ≠ 'c')))
    else argv.drop 1
  let args := args.filter (fun word => !(inOperand && word = "-"))
  modify (fun s => { s with program := name, args := [] })
  let words := (← Options.switchAll (args.length + 1) args).getD []
  if ← isGoing then
    let s ← get
    match words, inOperand with
    | [], true => abort "-c requires an argument"
    | text :: rest, true =>
      set { s with program := rest.head?.getD name, args := rest.drop 1 }
      again (.ofText text 1 true)
    | [], false => again (.script (some 0) 1 [] false)
    | path :: rest, false =>
      match ← openScript path with
      | .ok number =>
        set { s with program := path, args := rest, script := some number }
        again (.script (some number) 1 [] false)
      | .error text => abort text
  leave again

/-- The shell of a dialect with arguments and variables. -/
def start (dialect : Dialect) (argv : List String) (environment : List (String × String)) (k : Kernel) : Step :=
  shell argv (fun _ _ k => .ended k (.exited 0)) (fresh dialect environment k) k

end Run

end Configurator.Shell
