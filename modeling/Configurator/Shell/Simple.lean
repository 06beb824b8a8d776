/-
Simple commands: functions, commands of the shell and programs, each with the variables and
the redirections that stand with it.
-/
import Configurator.Shell.Builtin
import Configurator.Shell.Settle

namespace Configurator.Shell

open Host

namespace Run

def ownCommands : List String := ["command", "hash", "type"]

section Rules

variable (again : Task → Action Unit)

/-- Runs the commands in a file as if they stood here. -/
def sourceFile (operands : List String) : Action Unit := do
  match operands with
  | [] => setStatus 0
  | path :: _ =>
    let s ← get
    let places := if path.toList.contains '/' then [path]
      else (Executable.directories (pathOf s)).map (fun directory => Raw.text (directory.join ⟨Raw.bytes path⟩).bytes)
    let isFile (k : Kernel) (place : String) : Bool :=
      (k.examine (Raw.bytes place)).toOption.any (·.kind = .file)
    let found ← Work.look (fun k => if path.toList.contains '/' then some path else places.find? (isFile k))
    match found with
    | none => abort (path ++ ": not found")
    | some path =>
      match ← openScript path with
      | .ok number =>
        runInside again path false (.script (some number) 1 [] false)
        Work.close number
        modify (fun s => { s with halt := if s.halt.any Halt.leavesFunction then none else s.halt })
      | .error text => abort text

/-! ## Simple commands -/

/-- How deep functions may call one another. -/
def callLimit : Nat := 1000

/-- Calls a function. -/
def call (body : Command) (operands : List String) : Action Unit := do
  let before ← get
  if callLimit ≤ before.calls then
    abort ("Maximum function recursion depth (" ++ toString callLimit ++ ") reached")
  else
    set { before with
      args := operands
      locals := some []
      loops := 0
      calls := before.calls + 1 }
    again (.command body false)
    modify (fun s =>
      { (s.locals.getD []).foldl Variables.restore s with
        args := before.args
        locals := before.locals
        loops := before.loops
        calls := before.calls
        halt := if s.halt.any Halt.leavesFunction then none else s.halt })

/-- Shows what a name stands for, in a sentence or in short; its status tells whether it stands for
anything. -/
def describe (sentence : Bool) (name : String) : Action Nat := do
  let s ← get
  let showAs (short kind : String) : Action Nat := do
    print ((if sentence then name ++ " is " ++ kind else short) ++ "\n")
    return 0
  if keywords.contains name then return ← showAs name "a shell keyword"
  match s.aliases.lookup name with
  | some text => return ← showAs ("alias " ++ name ++ "=" ++ Operand.quoted text) ("an alias for " ++ text)
  | none => pure ()
  if (s.functions.lookup name).isSome then showAs name "a shell function"
  else if Builtin.isSpecial name then showAs name "a special shell builtin"
  else if ownCommands.contains name || (Builtin.find? name).isSome then showAs name "a shell builtin"
  else
    match ← Work.look (fun k => Executable.locate? k (pathOf s) (Raw.bytes name)) with
    | some place =>
      let path := Raw.text place.bytes
      showAs path ((if s.located.contains name then "a tracked alias for " else "") ++ path)
    | none =>
      if sentence then print (name ++ ": not found\n")
      return 127

/-- Shows what names stand for. -/
def describeAll (names : List String) : Action Unit := do
  setStatus 0
  forEach names (fun name => do
    let status ← describe true name
    if status ≠ 0 then setStatus status)

/-- Notes where programs are, forgets it, or shows it. -/
def locate (operands : List String) : Action Unit :=
  Operand.withOptions "r" operands (fun given names => do
    setStatus 0
    if !given.isEmpty then modify (fun s => { s with located := [] })
    else if names.isEmpty then
      let s ← get
      forEach (Variables.inTable 31 (s.located.map (·, ()))) (fun (name, _) => do
        (← Work.look (fun k => Executable.locate? k (pathOf s) (Raw.bytes name))).forM (fun place =>
          print (Raw.text place.bytes ++ "\n")))
    else forEach names (fun name => do
      let s ← get
      let isKnown := (s.functions.lookup name).isSome || ownCommands.contains name ||
        (Builtin.find? name).isSome
      if (← Work.look (fun k => Executable.locate? k (pathOf s) (Raw.bytes name))).isSome then
        unless isKnown || name.toList.contains '/' do modify (·.noteLocated name)
      else unless isKnown do
        complain (name ++ ": not found")
        setStatus 1))

/-- Runs a command of the shell under its name. Its faults are failures, unless it is one of the language
itself. -/
def builtin (name : String) (special : Bool) (action : Action Unit) : Action Unit := do
  let context := (← get).context
  modify (fun s => { s with context := some name })
  action
  let fault ← flush
  if fault.isSome && (← get).halt ≠ some .failed then
    complain (name ++ ": I/O error")
    modify (fun s => { s with status := s.status ||| 1 })
  modify (fun s => { s with context := context })
  unless special do
    modify (fun s => if s.halt = some .failed then { s with halt := none, status := 2 } else s)

/-- Becomes another program; without one, nothing happens. -/
def replace : List String → Action Unit
  | [] => setStatus 0
  | name :: operands => do
    program true name operands
    endWith (← get).status

/-- Whether the process can end with a command: nothing is to be done on signals or at the end. -/
def canEnd (final : Bool) : Action Bool := do return final && (← get).traps.isEmpty

/-- Runs a command by its name; `plain` tells whether the word `command` does not stand before it. -/
def dispatch (final plain : Bool) (name : String) (operands : List String) : Action Unit := do
  let s ← get
  let special := Builtin.isSpecial name && plain
  match if plain && !special then s.functions.lookup name else none, name with
  | some body, _ => call again body operands
  | none, "eval" =>
    let text := " ".intercalate operands
    builtin name special (runInside again name s.guarded (.ofText text 1 false))
  | none, "." => builtin name special (sourceFile again operands)
  | none, "exec" => builtin name special (replace operands)
  | none, "type" => builtin name special (describeAll operands)
  | none, "hash" => builtin name special (locate operands)
  | none, "command" => builtin name special (Operand.withOptions "pvV" operands (fun given words => do
      setStatus 0
      let asks := given.filter (fun (c, _) => c ≠ 'p')
      if !asks.isEmpty then
        words.head?.forM (fun word => do setStatus (← describe (asks.any (fun (c, _) => c = 'V')) word))))
  | none, _ =>
    match Builtin.find? name with
    | some action => builtin name special (action operands)
    | none => program (← canEnd final) name operands

/-- The words behind the word `command` that are run: options that change nothing here are left out, and
where there are others, or nothing, nothing is run. -/
def behindCommand? : List String → Option (String × List String)
  | [] | ["--"] => none
  | "--" :: name :: rest => some (name, rest)
  | word :: rest =>
    match word.toList with
    | '-' :: c :: more => if (c :: more).all (· = 'p') then behindCommand? rest else none
    | _ => some (word, rest)

/-- The command that words run, behind words `command`, and whether it is run by its name alone; `fuel`
bounds the number of words. -/
def runName : (fuel : Nat) → (plain : Bool) → String → List String → String × List String × Bool
  | 0, plain, name, operands => (name, operands, plain)
  | fuel + 1, plain, name, operands =>
    match if name = "command" then behindCommand? operands else none with
    | some (inner, rest) => runName fuel false inner rest
    | none => (name, operands, plain)

/-- Gives variables their values. -/
def assignAll : List (Assignment Word) → Action Unit
  | [] => pure ()
  | a :: rest => do
    match a.word with
    | [.elements words] =>
      let values ← Expand.fieldsAll (substitute again) words
      if ← isGoing then Variables.setElements a.name values
    | word =>
      let value ← Expand.value (substitute again) word
      if ← isGoing then Variables.setValue a.name value
    if ← isGoing then assignAll rest

/-- Shows a command before it runs, where errors led before. -/
def trace (errors : Nat) (words : List String) : Action Unit := do
  let s ← get
  if s.tracing then Work.say errors ((s.lookup "PS4").getD "+ " ++ " ".intercalate words ++ "\n")

/-- The assignments as they are shown. -/
def shownAssignments (s : State) (assignments : List (Assignment Word)) : List String :=
  assignments.map (fun a => a.name ++ "=" ++ (s.lookup a.name).getD "")

/-- Runs a simple command without words: its variables stay, and its status is that of the last command
that ran for its words. -/
def assignOnly (assignments : List (Assignment Word)) (redirections : List (Redirection Word)) :
    Action Unit := do
  let _ ← Redirect.within (substitute again) redirections false (fun errors => do
    assignAll again assignments
    if ← isGoing then
      let s ← get
      trace errors (shownAssignments s assignments)
      setStatus (s.substituted.getD 0))

/-- Runs a simple command with words: the variables before it are there for it only, unless it belongs
to the language. -/
def invoke (final : Bool) (assignments : List (Assignment Word)) (redirections : List (Redirection Word))
    (name : String) (operands : List String) : Action Unit := do
  let (what, rest, plain) := runName (operands.length + 1) true name operands
  let stays := plain && Builtin.isSpecial what
  let permanent := what = "exec" && rest.isEmpty
  let before ← get
  let opened ← Redirect.within (substitute again) redirections permanent (fun errors => do
    assignAll again assignments
    let names := assignments.map (·.name)
    if !stays || what = "exec" then
      modify (fun s => names.foldl (fun s n => s.put n { s.named n with exported := true }) s)
    trace errors (shownAssignments (← get) assignments ++ name :: operands)
    if ← isGoing then dispatch again final plain what rest
    unless stays do modify (fun s => names.foldl (fun s n => s.put n (before.named n)) s))
  if !opened && stays && (← isGoing) then giveUp

/-- Expands the words of a simple command behind those already expanded. What looks like an assignment
is one value behind a command that declares variables. -/
def expandWords : List String → List Word → Action (List String)
  | fields, [] => return fields
  | fields, word :: rest => do
    let command := match fields with
      | name :: operands => (runName (operands.length + 1) true name operands).1
      | [] => ""
    let declares := ["alias", "export", "readonly", "local"].contains command
    let more ← match if declares then Grammar.assignment? word else none with
      | some a => do pure [a.name ++ "=" ++ (← Expand.value (substitute again) a.word)]
      | none => Expand.fields (substitute again) word
    if ← isGoing then expandWords (fields ++ more) rest else return []

/-- Runs a simple command. -/
def simple (final : Bool) (line : Nat) (assignments : List (Assignment Word)) (words : List Word)
    (redirections : List (Redirection Word)) : Action Unit := do
  modify (fun s => { s with line := line, substituted := none })
  let fields ← expandWords again [] words
  if ← isGoing then
    match fields with
    | [] => assignOnly again assignments redirections
    | name :: operands => invoke again final assignments redirections name operands
    settleSignals again
    settleFailure

end Rules

end Run

end Configurator.Shell
