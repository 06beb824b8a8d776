/-
The course of a run. Everything before the compiler is started depends on the options, the input and the
file system alone; it ends with nothing to build, with a plan that is shown, with a command line to be
run, or in a failure. Main statements: these ways exclude each other, for each of them when a run takes
it, and what has been written and printed by then.
-/
import Configurator.Proofs.Program.Stage

namespace Configurator.Program

/-! ## The parts of a run -/

/-- Looks for a command line for what the answers choose, if they choose something. -/
def survey (config : Config) (options : CommandLine.Options) :
    Stage (Option (Profile × Invocation)) := do
  enterDirectory options.directory
  match ← chooseProfile options.args with
  | none => return none
  | some profile => return some (profile, ← makePlan config profile)

/-- Shows the command line of a profile that wants it shown. -/
def echo (profile : Profile) (i : Invocation) : Stage Unit :=
  if profile.echoes then printLine i.display else pure ()

/-- What is done about a command line before it is run; it is given back if it is to be run. -/
def announce (options : CommandLine.Options) (profile : Profile) (i : Invocation) :
    Stage (Option (Profile × Invocation)) := do
  if options.dryRun then
    printPlan profile i options.planFormat
    return none
  else
    echo profile i
    makeOutputDirectory
    return some (profile, i)

/-- What is done before the compiler about a command line or the lack of one. -/
def settle (options : CommandLine.Options) :
    Option (Profile × Invocation) → Stage (Option (Profile × Invocation))
  | none => do
    printLine "• Nothing built"
    return none
  | some (profile, i) => announce options profile i

/-- The stages from the compiler on. -/
def compile (runner : Runner Machine.Trace) : Option (Profile × Invocation) → Stage Verdict
  | none => return ⟨0, none⟩
  | some (profile, i) => do
    let outcome ← runCompiler runner i
    report profile outcome

/-- Only the last stages know of the compiler, and only those behind the survey know whether a plan is to be
carried out. -/
theorem stages_eq (runner : Runner Machine.Trace) (config : Config) (options : CommandLine.Options) :
    stages runner config options =
      survey config options >>= fun found => settle options found >>= compile runner := by
  simp only [stages, command, survey, bind_assoc]
  congr 1
  funext _
  congr 1
  funext choice
  cases choice with
  | none => simp only [settle, bind_assoc, pure_bind, compile]
  | some profile =>
    simp only [build, settle, announce, bind_assoc, pure_bind]
    congr 1
    funext i
    by_cases hdry : options.dryRun
    · simp only [hdry, if_true, bind_assoc, pure_bind, compile]
    · by_cases hecho : profile.echoes <;> simp [hdry, hecho, echo, compile]

/-! ## The ways that a run can take -/

section Ways

variable (config : Config) (options : CommandLine.Options) (s : Surroundings)

/-- The answers choose a profile, and there is a plan for it, made in the directory that the options
name. -/
structure Plans (ws : Workspace) (profile : Profile) (i : Invocation) : Prop where
  entered : entered s.workspace options.directory = some ws
  chosen : (chosen options.args s.input).1 = .ok (some profile)
  planned : (Plan.make ws config profile).invocation = .ok i

/-- The answers choose to build nothing. -/
structure Quits : Prop where
  entered : (entered s.workspace options.directory).isSome
  chosen : (chosen options.args s.input).1 = .ok none

/-- There is a plan, and it is only to be shown. -/
def ShowsPlan : Prop := options.dryRun = true ∧ ∃ ws profile i, Plans config options s ws profile i

/-- There is a plan to be carried out, and a directory for what is built. -/
structure Starts (made : Workspace) (profile : Profile) (i : Invocation) : Prop where
  carriedOut : options.dryRun = false
  provided : ∃ ws, Plans config options s ws profile i ∧ ws.Provides out made

/-- What the compiler finds: nothing noted or written by programs, and the input that was not fetched for
the answers. -/
def inherited : Machine.Trace :=
  { input := unfetched s.input (chosen options.args s.input).2.unread }

/-- What comes of the survey, and the state behind it: nothing was printed yet besides the dialogue, and
nothing was handed to a compiler. -/
inductive Surveyed : Except Failure (Option (Profile × Invocation)) → State → Prop
  | plans {ws : Workspace} {profile : Profile} {i : Invocation} {c : Console}
      (h : Plans config options s ws profile i) (hc : Console.Ahead [] c (chosen options.args s.input).2) :
      Surveyed (.ok (some (profile, i))) { State.initial s with workspace := ws, console := c }
  | quits {ws : Workspace} {c : Console} (tree : ws.tree = s.workspace.tree) (h : Quits options s) :
      Surveyed (.ok none) { State.initial s with workspace := ws, console := c }
  | fails {failure : Failure} {ws : Workspace} {c : Console} (tree : ws.tree = s.workspace.tree)
      (quits : ¬ Quits options s) (plans : ∀ ws profile i, ¬ Plans config options s ws profile i) :
      Surveyed (.error failure) { State.initial s with workspace := ws, console := c }

end Ways

variable {config : Config} {options : CommandLine.Options} {s : Surroundings}

/-! ## The survey -/

theorem tree_of_entered {ws ws' : Workspace} {directory : Option String}
    (h : entered ws directory = some ws') : ws'.tree = ws.tree := by
  cases directory with
  | none =>
    cases h
    rfl
  | some text =>
    simp only [entered] at h
    split at h
    · cases h
      rfl
    · cases h

theorem Plans.unique {ws ws' : Workspace} {profile profile' : Profile} {i i' : Invocation}
    (h : Plans config options s ws profile i) (h' : Plans config options s ws' profile' i') :
    ws' = ws ∧ profile' = profile ∧ i' = i := by
  obtain rfl : ws = ws' := Option.some.inj (h.entered.symm.trans h'.entered)
  obtain rfl : profile = profile' := Option.some.inj (Except.ok.inj (h.chosen.symm.trans h'.chosen))
  obtain rfl : i = i' := Except.ok.inj (h.planned.symm.trans h'.planned)
  exact ⟨rfl, rfl, rfl⟩

theorem not_quits_of_chosen {result : Except PromptError (Option Profile)}
    (h : (chosen options.args s.input).1 = result) (hne : result ≠ .ok none) : ¬ Quits options s :=
  fun hquits => hne (h.symm.trans hquits.chosen)

theorem Plans.not_quits {ws : Workspace} {profile : Profile} {i : Invocation}
    (h : Plans config options s ws profile i) : ¬ Quits options s :=
  not_quits_of_chosen h.chosen (by simp)

theorem not_plans_of_unanswered {cause : PromptError}
    (h : (chosen options.args s.input).1 = .error cause) (ws : Workspace) (profile : Profile)
    (i : Invocation) : ¬ Plans config options s ws profile i := by
  intro hplans
  have := hplans.chosen.symm.trans h
  cases this

/-- Where planning what was chosen fails, there is no plan. -/
theorem not_plans_of_unplanned {ws : Workspace} {profile : Profile} {cause : BuildError}
    (hentered : entered s.workspace options.directory = some ws)
    (hchosen : (chosen options.args s.input).1 = .ok (some profile))
    (hfails : (Plan.make ws config profile).invocation = .error cause) (ws' : Workspace)
    (profile' : Profile) (i : Invocation) : ¬ Plans config options s ws' profile' i := by
  intro hplans
  obtain rfl : ws = ws' := Option.some.inj (hentered.symm.trans hplans.entered)
  obtain rfl : profile = profile' := Option.some.inj (Except.ok.inj (hchosen.symm.trans hplans.chosen))
  have := hfails.symm.trans hplans.planned
  cases this

theorem Starts.unique {made made' : Workspace} {profile profile' : Profile} {i i' : Invocation}
    (h : Starts config options s made profile i) (h' : Starts config options s made' profile' i') :
    made' = made ∧ i' = i := by
  obtain ⟨ws, hplans, hmade⟩ := h.provided
  obtain ⟨ws', hplans', hmade'⟩ := h'.provided
  obtain ⟨rfl, -, rfl⟩ := hplans.unique hplans'
  exact ⟨hmade.unique hmade', rfl⟩

/-- Whoever starts the compiler neither quits nor only shows the plan. -/
theorem Starts.not_idle {made : Workspace} {profile : Profile} {i : Invocation}
    (h : Starts config options s made profile i) : ¬ (Quits options s ∨ ShowsPlan config options s) := by
  obtain ⟨ws, hplans, -⟩ := h.provided
  rintro (hquits | ⟨hdry, -⟩)
  · exact hplans.not_quits hquits
  · rw [h.carriedOut] at hdry
    cases hdry

/-- The survey finds a plan, or nothing that is to be built, or it fails. -/
theorem surveyed (config : Config) (options : CommandLine.Options) (s : Surroundings) :
    Surveyed config options s ((survey config options).run.run (.initial s)).1
      ((survey config options).run.run (.initial s)).2 := by
  rw [survey, run_bind]
  have henter := run_enterDirectory options.directory (.initial s)
  rw [show (State.initial s).workspace = s.workspace from rfl] at henter
  cases hws : entered s.workspace options.directory with
  | none =>
    simp only [hws] at henter
    obtain ⟨failure, henter⟩ := henter
    rw [henter]
    refine .fails rfl (fun h => ?_) (fun ws profile i h => ?_)
    · simpa [hws] using h.entered
    · have := hws.symm.trans h.entered
      cases this
  | some ws =>
    simp only [hws] at henter
    obtain ⟨events, henter⟩ := henter
    have htree := tree_of_entered hws
    -- from here on the state differs from the first one in the directory and the console alone
    obtain ⟨c, hchoose, hc⟩ : ∃ c, (chooseProfile options.args).run.run
        (State.noted { State.initial s with workspace := ws } events) =
          ((chosen options.args s.input).1.mapError Failure.unanswered,
            { State.initial s with workspace := ws, console := c }) ∧
        Console.Ahead [] c (chosen options.args s.input).2 :=
      run_chooseProfile options.args rfl
    rw [henter]
    dsimp only
    rw [run_bind, hchoose]
    cases hchosen : (chosen options.args s.input).1 with
    | error cause =>
      exact .fails htree (not_quits_of_chosen hchosen (by simp)) (not_plans_of_unanswered hchosen)
    | ok choice =>
      cases choice with
      | none => exact .quits htree ⟨by rw [hws]; rfl, hchosen⟩
      | some profile =>
        dsimp only [Except.mapError]
        rw [run_bind, run_makePlan]
        cases hplan : (Plan.make ws config profile).invocation with
        | error cause =>
          exact .fails htree (not_quits_of_chosen hchosen (by simp)) (not_plans_of_unplanned hws hchosen hplan)
        | ok i => exact .plans ⟨hws, hchosen, hplan⟩ ⟨hc.unread, hc.room, hc.room', hc.written⟩

/-- A survey that finds a plan. -/
theorem run_survey_of_plans {ws : Workspace} {profile : Profile} {i : Invocation}
    (h : Plans config options s ws profile i) :
    ∃ c, Console.Ahead [] c (chosen options.args s.input).2 ∧
      (survey config options).run.run (.initial s) =
        (.ok (some (profile, i)), { State.initial s with workspace := ws, console := c }) := by
  have hsurveyed := surveyed config options s
  generalize (survey config options).run.run (.initial s) = out at hsurveyed
  obtain ⟨result, last⟩ := out
  cases hsurveyed with
  | plans h' hc =>
    obtain ⟨rfl, rfl, rfl⟩ := h.unique h'
    exact ⟨_, hc, rfl⟩
  | quits _ hquits => exact absurd hquits h.not_quits
  | fails _ _ hplans => exact absurd h (hplans _ _ _)

/-! ## From the survey to the compiler -/

/-- What a profile shows of its command line before it is run. -/
def echoText (profile : Profile) (i : Invocation) : Bytes := if profile.echoes then textOf [i.display] else []

theorem run_echo (profile : Profile) (i : Invocation) (st : State) :
    (echo profile i).run.run st = (.ok (), st.printing (echoText profile i)) := by
  rw [echo, echoText]
  split
  · exact run_printLine _ st
  · exact congrArg (Prod.mk _) st.printing_nil.symm

theorem run_announce_of_dry (hdry : options.dryRun = true) (profile : Profile) (i : Invocation) (st : State) :
    (announce options profile i).run.run st =
      (.ok none, st.printing (planText profile i options.planFormat)) := by
  rw [announce, if_pos hdry, run_bind, run_printPlan]
  rfl

/-- A command line that is to be run is given back behind what is shown of it, where there is an output
directory. -/
theorem run_announce (hdry : options.dryRun = false) (profile : Profile) (i : Invocation) (st : State) :
    (∃ made, st.workspace.Provides out made ∧
      (announce options profile i).run.run st =
        (.ok (some (profile, i)), { st.printing (echoText profile i) with workspace := made })) ∨
    (∀ made, ¬ st.workspace.Provides out made) ∧
      ∃ fault, (announce options profile i).run.run st =
        (.error (.noOutputDirectory fault), st.printing (echoText profile i)) := by
  rw [announce, if_neg (by simp [hdry]), run_bind, run_echo]
  dsimp only
  rw [run_bind]
  rcases run_makeOutputDirectory (st.printing (echoText profile i)) with
    ⟨made, hmade, hrun⟩ | ⟨hnone, fault, hrun⟩
  · exact .inl ⟨made, hmade, by rw [hrun]; rfl⟩
  · exact .inr ⟨hnone, fault, by rw [hrun]⟩

/-! ## The compiler and after it -/

/-- The state after a compiler that gave a result and left a workspace and a trace. -/
def State.after (last : State) (ran : Except BuildError Outcome × Workspace × Machine.Trace) : State :=
  { last with
    workspace := ran.2.1
    trace := { ran.2.2 with output := [] }
    printed := last.printed ++ ran.2.2.output }

theorem run_runCompiler (runner : Runner Machine.Trace) (i : Invocation) (last : State) :
    let ran := runner.run i last.workspace
      { last.trace with input := unfetched last.input last.console.unread }
    (runCompiler runner i).run.run last = (ran.1.mapError Failure.notRun, last.after ran) := by
  obtain ⟨run⟩ := runner
  simp only [runCompiler, run_bind, run_get]
  rcases run i last.workspace { last.trace with input := unfetched last.input last.console.unread } with
    ⟨cause | outcome, ws, trace⟩
  · rfl
  · rfl

/-- What a run says of the end of the compiler. -/
def verdictOn (outcome : Outcome) : Verdict :=
  if outcome.success then ⟨0, none⟩
  else
    ⟨outcome.failureStatus, some (match outcome.code with
      | some code => "Compiler exited with status " ++ toString code
      | none => "Compiler was terminated by a signal")⟩

/-- What is printed about what came of the compiler. -/
def closingText (profile : Profile) : Except BuildError Outcome → Bytes
  | .ok outcome =>
    if outcome.success then textOf ["✓ Built " ++ profile.outputFile ++ " in " ++ outcome.elapsed.text] else []
  | .error _ => []

/-- The report gives the verdict on the end of the compiler, and prints a line about a success. -/
theorem run_report (profile : Profile) (outcome : Outcome) (s : State) :
    (report profile outcome).run.run s =
      (.ok (verdictOn outcome), s.printing (closingText profile (.ok outcome))) := by
  rw [report, verdictOn, closingText]
  by_cases h : outcome.success
  · rw [if_pos h, if_pos h, if_pos h, run_bind, run_printLine]
    rfl
  · rw [if_neg h, if_neg h, if_neg h, State.printing_nil]
    cases outcome.code <;> rfl

/-- A run asks the compiler for one thing: what comes of the command line in the workspace at hand. -/
theorem run_compile (runner : Runner Machine.Trace) (profile : Profile) (i : Invocation) (last : State) :
    let ran := runner.run i last.workspace
      { last.trace with input := unfetched last.input last.console.unread }
    (compile runner (some (profile, i))).run.run last =
      ((ran.1.mapError Failure.notRun).map verdictOn, (last.after ran).printing (closingText profile ran.1)) := by
  intro ran
  rw [compile, run_bind, run_runCompiler]
  dsimp only
  rw [show runner.run i last.workspace { last.trace with
    input := unfetched last.input last.console.unread } = ran from rfl]
  cases ran.1 with
  | error cause => rw [closingText, State.printing_nil]; rfl
  | ok outcome => exact run_report profile outcome _

/-! ## Whole runs -/

/-- A run that cannot start the compiler is the same with every compiler. It succeeds when it quits or
shows the plan. -/
theorem run_stages_of_not_starts (h : ∀ made profile i, ¬ Starts config options s made profile i) :
    ∃ result last, (∀ runner, (stages runner config options).run.run (.initial s) = (result, last)) ∧
      last.trace.started = [] ∧ last.workspace.tree = s.workspace.tree ∧
      ((Quits options s ∨ ShowsPlan config options s) ∧ result = .ok ⟨0, none⟩ ∨
        ¬ (Quits options s ∨ ShowsPlan config options s) ∧ ∃ failure, result = .error failure) := by
  have hsurveyed := surveyed config options s
  simp only [stages_eq, run_bind]
  generalize (survey config options).run.run (.initial s) = out at hsurveyed
  obtain ⟨result, last⟩ := out
  cases hsurveyed with
  | quits htree hquits => exact ⟨_, _, fun _ => rfl, rfl, htree, .inl ⟨.inl hquits, rfl⟩⟩
  | fails htree hquits hplans =>
    refine ⟨_, _, fun _ => rfl, rfl, htree, .inr ⟨?_, _, rfl⟩⟩
    rintro (hquits' | ⟨-, ws, profile, i, hplans'⟩)
    · exact hquits hquits'
    · exact hplans ws profile i hplans'
  | @plans ws profile i c hplans _ =>
    have htree := tree_of_entered hplans.entered
    dsimp only [settle]
    by_cases hdry : options.dryRun
    · rw [run_announce_of_dry hdry]
      exact ⟨_, _, fun _ => rfl, rfl, htree, .inl ⟨.inr ⟨hdry, ws, profile, i, hplans⟩, rfl⟩⟩
    -- the plan is to be carried out: without a start, the directory is what fails
    · rcases run_announce (by simpa using hdry) profile i
        { State.initial s with workspace := ws, console := c } with ⟨made, hmade, -⟩ | ⟨-, fault, hrun⟩
      · exact absurd ⟨by simpa using hdry, ws, hplans, hmade⟩ (h made profile i)
      · rw [hrun]
        refine ⟨_, _, fun _ => rfl, rfl, htree, .inr ⟨?_, _, rfl⟩⟩
        rintro (hquits | ⟨hdry', -⟩)
        · exact hplans.not_quits hquits
        · exact hdry hdry'

/-- A run that can start the compiler does so, in the workspace that has the output directory, behind what the
dialogue wrote and what the profile shows of the command line. -/
theorem run_stages_of_starts {made : Workspace} {profile : Profile} {i : Invocation}
    (h : Starts config options s made profile i) :
    ∃ c, Console.Ahead [] c (chosen options.args s.input).2 ∧ ∀ runner,
      let ran := runner.run i made (inherited options s)
      let ready : State :=
        { State.initial s with workspace := made, console := c, printed := echoText profile i }
      (stages runner config options).run.run (.initial s) =
        ((ran.1.mapError Failure.notRun).map verdictOn,
          (ready.after ran).printing (closingText profile ran.1)) := by
  obtain ⟨ws, hplans, hmade⟩ := h.provided
  obtain ⟨c, hc, hsurvey⟩ := run_survey_of_plans hplans
  refine ⟨c, hc, fun runner => ?_⟩
  rw [stages_eq, run_bind, hsurvey]
  dsimp only
  rw [settle, run_bind]
  rcases run_announce h.carriedOut profile i { State.initial s with workspace := ws, console := c } with
    ⟨made', hmade', hrun⟩ | ⟨hnone, -⟩
  · obtain rfl := hmade'.unique hmade
    rw [hrun, inherited, ← hc.unread]
    exact run_compile runner profile i _
  · exact absurd hmade (hnone made)

/-! ## A run that starts the compiler -/

/-- The options that ask for the debug build. -/
def debugBuild : CommandLine.Options := { args := ["d"] }

/-- A directory `src` with one source, and the argument that asks for the debug build. -/
def oneSource : Surroundings where
  args := ["d"]
  workspace := {
    tree := .dir (Utf8.bytes "src") (.leaf (Utf8.bytes "a.c") (.file [] false) .empty) .empty
    here := [] }

/-- Its command line. -/
def oneSourceDebug : Invocation where
  program := "cc"
  flags := Profile.debug.flags
  outputArg := "-oout/a.out"
  sources := ["src/a.c"]

/-- The same file system with the output directory. -/
def oneSourceReady : Workspace :=
  { oneSource.workspace with tree := oneSource.workspace.tree.modifyAt [] (Tree.put out (.dir .empty)) }

theorem plans_oneSource :
    Plans debugBuild.config debugBuild oneSource oneSource.workspace .debug oneSourceDebug :=
  ⟨rfl, rfl, by decide +kernel⟩

theorem provides_oneSource : oneSource.workspace.Provides out oneSourceReady :=
  .made ⟨oneSource.workspace.tree, rfl, by decide +kernel⟩

theorem starts_oneSource :
    Starts debugBuild.config debugBuild oneSource oneSourceReady .debug oneSourceDebug :=
  ⟨rfl, oneSource.workspace, plans_oneSource, provides_oneSource⟩

end Configurator.Program
