/-
Planning and running builds. A plan looks for the sources below the configured root, takes the
exclusions away and assembles the compiler's command line; nothing is planned without a source. A
builder takes steps one after the other over a tree that may change in between, and hands every
command line it runs to a runner. Main statement: a plan has a command line exactly for the selected
sources, if there are any.
-/
import Configurator.Discovery
import Configurator.Invocation
import Configurator.Outcome

namespace Configurator

/-! ## Planning -/

/-- A plan: the command line or why there is none, and what planning noted. -/
structure Plan where
  invocation : Except BuildError Invocation
  events : List Log.Event

namespace Plan

/-- The sources that a configuration selects. -/
def sources (ws : Workspace) (config : Config) : Except BuildError PathSet :=
  match Discovery.discover ws config.sourceRoot config.extensions with
  | .error e => .error (.discovery e)
  | .ok found => .ok (Sources.filter found config.exclude config.sourceRoot)

/-- The event of sources that were selected from those found. -/
def filtered (found selected : PathSet) : Log.Event where
  level := .debug
  area := .planning
  message := "filtered sources"
  fields := [("discovered", toString found.size),
    ("excluded", toString (found.size - selected.size))]

/-- The event of an assembled command line. -/
def assembled (profile : Profile) (selected : PathSet) : Log.Event where
  level := .info
  area := .planning
  message := "assembled invocation"
  fields := [("profile", profile.kind.name), ("sources", toString selected.size)]

/-- The events of exclusions and of the selection they lead to. -/
def selectionEvents (config : Config) (found selected : PathSet) : List Log.Event :=
  (Sources.resolveExclusions config.exclude config.sourceRoot).toList.map
    (Discovery.exclusionApplied found) ++ [filtered found selected]

/-- Plans how to build a profile. -/
def make (ws : Workspace) (config : Config) (profile : Profile) : Plan :=
  let search := Discovery.search ws config.sourceRoot config.extensions
  match search.result with
  | .error e => ⟨.error (.discovery e), search.events⟩
  | .ok found =>
    let selected := Sources.filter found config.exclude config.sourceRoot
    let noted := search.events ++ selectionEvents config found selected
    if selected.isEmpty then ⟨.error (.noSources config.sourceRoot.display), noted⟩
    else ⟨.ok (.assemble config.compiler profile selected), noted ++ [assembled profile selected]⟩

/-- A plan has a command line exactly for the sources that the configuration selects, if there are
any. -/
theorem make_invocation (ws : Workspace) (config : Config) (profile : Profile) :
    (make ws config profile).invocation =
      match sources ws config with
      | .error e => .error e
      | .ok selected =>
        if selected.isEmpty then .error (.noSources config.sourceRoot.display)
        else .ok (.assemble config.compiler profile selected) := by
  simp only [make, sources, Discovery.discover]
  cases h : (Discovery.search ws config.sourceRoot config.extensions).result with
  | error e => rfl
  | ok found =>
    dsimp only
    by_cases hempty : (Sources.filter found config.exclude config.sourceRoot).isEmpty <;> simp [hempty]

end Plan

/-! ## Running -/

/-- Something that runs command lines: a state, and what a run gives and makes of it. -/
structure Runner (σ : Type) where
  run : Invocation → Workspace → σ → Except BuildError Outcome × Workspace × σ

/-- A prepared result of a run. -/
inductive PreparedRun where
  | exited (code : Option Int)
  | notStarted (detail : String)
  deriving DecidableEq, Repr

/-- Prepared results and the command lines that were run so far. -/
structure PreparedRuns where
  results : List PreparedRun
  ran : List (List String) := []
  deriving DecidableEq, Repr

/-- Gives out prepared results in their order, and success when they are used up. -/
def Runner.prepared : Runner PreparedRuns where
  run i ws runs :=
    let ran := runs.ran ++ [i.argv]
    match runs.results with
    | [] => (.ok ⟨some 0, default⟩, ws, ⟨[], ran⟩)
    | .exited code :: rest => (.ok ⟨code, default⟩, ws, ⟨rest, ran⟩)
    | .notStarted detail :: rest => (.error (.start i.program detail), ws, ⟨rest, ran⟩)

/-- A builder between two steps. -/
structure Builder (σ : Type) where
  config : Config
  workspace : Workspace
  runs : σ

namespace Builder

/-- One step of a builder, or of the world around it. -/
inductive Step where
  | config
  | sources
  | plan (profile : Profile)
  | build (profile : Profile)
  | execute (invocation : Invocation)
  | add (item : Workspace.Item)
  | remove (path : Path)

/-- What a step gives. -/
inductive Reply where
  | config (config : Config)
  | sources (sources : PathSet)
  | invocation (invocation : Invocation)
  | outcome (outcome : Outcome)
  | changed
  | refused (fault : Fault)

variable {σ : Type}

/-- Hands a command line to the runner. -/
def execute (runner : Runner σ) (b : Builder σ) (i : Invocation) :
    Except BuildError Reply × Builder σ :=
  let (result, ws, runs) := runner.run i b.workspace b.runs
  (result.map .outcome, { b with workspace := ws, runs := runs })

/-- The builder after a change of the tree. -/
def changed (b : Builder σ) : Except Fault Workspace → Except BuildError Reply × Builder σ
  | .ok ws => (.ok .changed, { b with workspace := ws })
  | .error fault => (.ok (.refused fault), b)

/-- Takes one step. -/
def perform (runner : Runner σ) (b : Builder σ) : Step → Except BuildError Reply × Builder σ
  | .config => (.ok (.config b.config), b)
  | .sources => ((Plan.sources b.workspace b.config).map .sources, b)
  | .plan profile => ((Plan.make b.workspace b.config profile).invocation.map .invocation, b)
  | .build profile =>
    match (Plan.make b.workspace b.config profile).invocation with
    | .error e => (.error e, b)
    | .ok i => b.execute runner i
  | .execute i => b.execute runner i
  | .add item => b.changed (b.workspace.lay item)
  | .remove path => b.changed (b.workspace.remove path)

/-- Takes steps one after the other, a failed one not ending the list; gives for each step its
result and the builder after it. -/
def performAll (runner : Runner σ) : List Step → Builder σ → List (Except BuildError Reply × Builder σ)
  | [], _ => []
  | step :: rest, b =>
    let result := b.perform runner step
    result :: performAll runner rest result.2

end Builder

end Configurator
