/-
The steps of a builder, one after the other. The tree changes only by the changes around the builder, and a
command line is run for a build whose plan has one on the tree as it then is, and for every execution; so
which command lines are run and which prepared result a step is given follow from the steps before it. Main
statement: what any step of any sequence gives, and the runs that there have been by then.
-/
import Configurator.Builder

namespace Configurator

/-! ## Prepared results -/

/-- What comes of a run with a prepared result, or without any that is left. -/
def PreparedRun.result (i : Invocation) : Option PreparedRun → Except BuildError Outcome
  | none => .ok ⟨some 0, default⟩
  | some (.exited code) => .ok ⟨code, default⟩
  | some (.notStarted detail) => .error (.start i.program detail)

/-- Every run takes the next prepared result and leaves the tree as it is. -/
theorem Runner.prepared_run (i : Invocation) (ws : Workspace) (runs : PreparedRuns) :
    prepared.run i ws runs =
      (PreparedRun.result i runs.results.head?, ws, ⟨runs.results.tail, runs.ran ++ [i.argv]⟩) := by
  obtain ⟨_ | ⟨_ | _, rest⟩, ran⟩ := runs <;> rfl

theorem PreparedRun.result_eq_start_iff {i : Invocation} {next : Option PreparedRun} {program detail : String} :
    result i next = .error (.start program detail) ↔ next = some (.notStarted detail) ∧ i.program = program := by
  obtain _ | _ | found := next
  · simp [result]
  · simp [result]
  · simp only [result, Except.error.injEq, BuildError.start.injEq, Option.some.injEq, notStarted.injEq]
    exact and_comm

theorem Plan.sources_ne_start (ws : Workspace) (config : Config) (program detail : String) :
    sources ws config ≠ .error (.start program detail) := by
  rw [sources]
  cases Discovery.discover ws config.sourceRoot config.extensions <;> simp

/-- No plan fails because a program was not started. -/
theorem Plan.invocation_ne_start (ws : Workspace) (config : Config) (profile : Profile)
    (program detail : String) : (make ws config profile).invocation ≠ .error (.start program detail) := by
  have hsources := sources_ne_start ws config program detail
  rw [make_invocation]
  cases hselected : sources ws config with
  | error e =>
    rw [hselected] at hsources
    simpa using hsources
  | ok selected =>
    dsimp only
    split <;> simp

namespace Builder

/-! ## One step -/

/-- The tree behind a step. -/
def Step.tree (ws : Workspace) : Step → Workspace
  | .add item => (ws.lay item).toOption.getD ws
  | .remove path => (ws.remove path).toOption.getD ws
  | _ => ws

/-- The command line that a step runs, if there is one. -/
def Step.order? (config : Config) (ws : Workspace) : Step → Option Invocation
  | .build profile => (Plan.make ws config profile).invocation.toOption
  | .execute i => some i
  | _ => none

/-- What a step tells about a change of the tree. -/
def Reply.ofChange : Except Fault Workspace → Reply
  | .ok _ => .changed
  | .error fault => .refused fault

/-- What a step gives on a tree, with the next prepared result in case it runs a command line. -/
def Step.answer (config : Config) (ws : Workspace) (next : Option PreparedRun) : Step → Except BuildError Reply
  | .config => .ok (.config config)
  | .sources => (Plan.sources ws config).map .sources
  | .plan profile => (Plan.make ws config profile).invocation.map .invocation
  | .build profile =>
    (Plan.make ws config profile).invocation.bind fun i => (PreparedRun.result i next).map .outcome
  | .execute i => (PreparedRun.result i next).map .outcome
  | .add item => .ok (.ofChange (ws.lay item))
  | .remove path => .ok (.ofChange (ws.remove path))

variable (config : Config) (ws : Workspace) (results : List PreparedRun) (ran : List (List String))

theorem execute_prepared (i : Invocation) :
    execute .prepared ⟨config, ws, ⟨results, ran⟩⟩ i =
      ((PreparedRun.result i results.head?).map .outcome,
        ⟨config, ws, ⟨results.drop 1, ran ++ [i.argv]⟩⟩) := by
  rw [execute, Runner.prepared_run, List.drop_one]

theorem changed_eq (b : Builder PreparedRuns) (change : Except Fault Workspace) :
    b.changed change =
      (.ok (.ofChange change), { b with workspace := change.toOption.getD b.workspace }) := by
  cases change <;> rfl

/-- A step gives its answer, changes nothing but the tree, and takes one result for the command line that it
runs. -/
theorem perform_prepared (step : Step) :
    let now := (step.order? config ws).toList
    perform .prepared ⟨config, ws, ⟨results, ran⟩⟩ step =
      (step.answer config ws results.head?,
        ⟨config, step.tree ws, ⟨results.drop now.length, ran ++ now.map Invocation.argv⟩⟩) := by
  cases step with
  | config | sources | plan profile => simp [perform, Step.answer, Step.tree, Step.order?]
  | build profile =>
    simp only [perform, Step.answer, Step.tree, Step.order?]
    -- without a command line the runner is not asked, and no result is used up
    cases (Plan.make ws config profile).invocation with
    | error e => simp [Except.bind, Except.toOption]
    | ok i => exact execute_prepared config ws results ran i
  | execute i => exact execute_prepared config ws results ran i
  | add item | remove path => simp [perform, changed_eq, Step.answer, Step.tree, Step.order?]

/-- A step fails to start a program exactly when it runs one and the result that is prepared for it says so. -/
theorem answer_eq_start_iff {step : Step} {next : Option PreparedRun} {program detail : String} :
    step.answer config ws next = .error (.start program detail) ↔
      ∃ i, step.order? config ws = some i ∧ next = some (.notStarted detail) ∧ i.program = program := by
  cases step with
  | config | add item | remove path => simp [Step.answer, Step.order?]
  | sources => simp [Step.answer, Step.order?, Except.map_eq_error_iff, Plan.sources_ne_start]
  | plan profile => simp [Step.answer, Step.order?, Except.map_eq_error_iff, Plan.invocation_ne_start]
  | build profile =>
    have hplan := Plan.invocation_ne_start ws config profile program detail
    simp only [Step.answer, Step.order?]
    cases h : (Plan.make ws config profile).invocation with
    | error e =>
      rw [h] at hplan
      simpa [Except.bind, Except.toOption] using hplan
    | ok i => simp [Except.bind, Except.toOption, Except.map_eq_error_iff, PreparedRun.result_eq_start_iff]
  | execute i => simp [Step.answer, Step.order?, Except.map_eq_error_iff, PreparedRun.result_eq_start_iff]

/-! ## Sequences of steps -/

section Sequences

variable {σ : Type} (runner : Runner σ)

/-- The builder after a sequence of steps. -/
def after (steps : List Step) (b : Builder σ) : Builder σ :=
  steps.foldl (fun b step => (b.perform runner step).2) b

theorem after_cons (step : Step) (rest : List Step) (b : Builder σ) :
    after runner (step :: rest) b = after runner rest (b.perform runner step).2 := rfl

/-- What a step gives depends on the steps before it and on no later one. -/
theorem performAll_getElem? (earlier : List Step) (step : Step) (later : List Step) (b : Builder σ) :
    (performAll runner (earlier ++ step :: later) b)[earlier.length]? =
      some ((after runner earlier b).perform runner step) := by
  induction earlier generalizing b with
  | nil => rfl
  | cons first rest ih => exact ih (b.perform runner first).2

end Sequences

/-- The tree behind a sequence of steps. -/
def treeAfter (steps : List Step) (ws : Workspace) : Workspace := steps.foldl Step.tree ws

/-- The command lines that a sequence of steps runs: at most one for each step, on the tree as it then is. -/
def orders (config : Config) : List Step → Workspace → List Invocation
  | [], _ => []
  | step :: rest, ws => (step.order? config ws).toList ++ orders config rest (step.tree ws)

theorem orders_concat (earlier : List Step) (step : Step) :
    orders config (earlier ++ [step]) ws =
      orders config earlier ws ++ (step.order? config (treeAfter earlier ws)).toList := by
  induction earlier generalizing ws with
  | nil => simp [orders, treeAfter]
  | cons first rest ih =>
    rw [List.cons_append, orders, ih, orders, List.append_assoc]
    rfl

/-- After a sequence of steps the configuration is the first one, and the command lines of the sequence have
been run, each with one result. -/
theorem after_prepared (steps : List Step) :
    after .prepared steps ⟨config, ws, ⟨results, ran⟩⟩ =
      ⟨config, treeAfter steps ws, ⟨results.drop (orders config steps ws).length,
        ran ++ (orders config steps ws).map Invocation.argv⟩⟩ := by
  induction steps generalizing ws results ran with
  | nil => simp [after, treeAfter, orders]
  | cons step rest ih =>
    rw [after_cons, perform_prepared, ih, orders, List.drop_drop, List.length_append, List.map_append,
      List.append_assoc]
    rfl

/-- Any step of any sequence, from a builder on that has run nothing, on the tree that the steps before it
left. It gives the answer of this step on this tree, with the prepared result that is the next one behind
those of the runs before it. By then the command lines of all steps so far have been run in their order, as
many results are used up, and the configuration is the first one. The step fails to start a program exactly
when it runs one and its own result says so. -/
theorem prepared_session (earlier : List Step) (step : Step) (later : List Step) :
    let here := treeAfter earlier ws
    let next := results[(orders config earlier ws).length]?
    let runs := orders config (earlier ++ [step]) ws
    runs = orders config earlier ws ++ (step.order? config here).toList ∧
    (performAll .prepared (earlier ++ step :: later) ⟨config, ws, ⟨results, []⟩⟩)[earlier.length]? =
      some (step.answer config here next,
        ⟨config, step.tree here, ⟨results.drop runs.length, runs.map Invocation.argv⟩⟩) ∧
    ∀ program detail, step.answer config here next = .error (.start program detail) ↔
      ∃ i, step.order? config here = some i ∧ next = some (.notStarted detail) ∧ i.program = program := by
  intro here next runs
  have hruns : runs = orders config earlier ws ++ (step.order? config here).toList :=
    orders_concat config ws earlier step
  refine ⟨hruns, ?_, fun program detail => answer_eq_start_iff config here⟩
  rw [performAll_getElem?, after_prepared, perform_prepared, hruns, List.head?_drop, List.drop_drop,
    List.length_append, List.map_append, List.nil_append]

end Builder

end Configurator
