/-
What a run does to the world around it. The tool itself makes at most the output directory, and only for
a command line whose program it then has the system start; whatever else happens comes from this program.
Main statement: for all configurations, options, inputs, file systems and systems, when something is
started, which program with which arguments and how often, and what becomes of the tree.
-/
import Configurator.Proofs.Program.Course

namespace Configurator.Program

variable {config : Config} {options : CommandLine.Options} {s : Surroundings}

/-! ## The output directory -/

/-- Every profile builds a file in the output directory. -/
theorem parts_outputFile (profile : Profile) :
    ∃ name, Tree.parts (Utf8.bytes profile.outputFile) = [out, name] := by
  cases profile with
  | release => exact ⟨Utf8.bytes "whippet.out", by decide +kernel⟩
  | debug => exact ⟨Utf8.bytes "a.out", by decide +kernel⟩
  | custom choices =>
    have hcustom : Tree.parts (Utf8.bytes "out/c_whippet.out") = [out, Utf8.bytes "c_whippet.out"] := by
      decide +kernel
    exact ⟨_, hcustom⟩

/-- The compiler is started in the directory that the options name. There the output directory is one
already, or it is the one thing that the run has added to the tree. -/
theorem Starts.effect {made : Workspace} {profile : Profile} {i : Invocation}
    (h : Starts config options s made profile i) :
    ∃ ws, Plans config options s ws profile i ∧ made.here = ws.here ∧
      (ws.isDirectory ⟨out⟩ = true ∧ made.tree = s.workspace.tree ∨
        s.workspace.tree.OneMore made.tree (ws.here ++ [out])) := by
  obtain ⟨ws, hplans, hmade⟩ := h.provided
  obtain ⟨hhere, htree⟩ := hmade.effect
  rw [tree_of_entered hplans.entered] at htree
  exact ⟨ws, hplans, hhere, htree⟩

/-! ## Whole runs -/

/-- No command line that is to be run comes of quitting, of answers that choose nothing, of a plan that
fails, or of a plan that is only shown. -/
theorem not_starts_of_idle
    (h : Quits options s ∨ (∃ cause, (chosen options.args s.input).1 = .error cause) ∨
      (∃ ws profile cause, entered s.workspace options.directory = some ws ∧
        (chosen options.args s.input).1 = .ok (some profile) ∧
        (Plan.make ws config profile).invocation = .error cause) ∨ options.dryRun = true)
    (made : Workspace) (profile : Profile) (i : Invocation) : ¬ Starts config options s made profile i := by
  rintro ⟨hdry, ws, hplans, -⟩
  rcases h with hquits | ⟨cause, hcause⟩ | ⟨ws', profile', cause, hentered, hchosen, hfails⟩ | hshows
  · exact hplans.not_quits hquits
  · exact not_plans_of_unanswered hcause _ _ _ hplans
  · exact not_plans_of_unplanned hentered hchosen hfails _ _ _ hplans
  · rw [hdry] at hshows
    cases hshows

theorem executeWith_congr {runner other : Runner Machine.Trace}
    (h : (stages other config options).run.run (.initial s) =
      (stages runner config options).run.run (.initial s)) :
    executeWith other config options s = executeWith runner config options s := by
  rw [executeWith, h, executeWith]

/-- What becomes of a run that starts the compiler. -/
theorem executeWith_of_starts {made : Workspace} {profile : Profile} {i : Invocation}
    (h : Starts config options s made profile i) (runner : Runner Machine.Trace) :
    let ran := runner.run i made (inherited options s)
    (executeWith runner config options s).started = ran.2.2.started ∧
      (executeWith runner config options s).workspace = ran.2.1 ∧
      ∀ other : Runner Machine.Trace, other.run i made (inherited options s) = ran →
        executeWith other config options s = executeWith runner config options s := by
  obtain ⟨c, -, hrun⟩ := run_stages_of_starts h
  have hlast := congrArg Prod.snd (hrun runner)
  refine ⟨congrArg (fun st : State => st.trace.started) hlast, congrArg State.workspace hlast,
    fun other hother => executeWith_congr ?_⟩
  rw [hrun, hrun, hother]

/-- What the system finds that is to start the compiler: the noted start, and the input that was not fetched for
the answers. -/
def handedOver (options : CommandLine.Options) (s : Surroundings) (i : Invocation) : Machine.Trace :=
  (inherited options s).noting (Machine.starting i)

/-- What becomes of a run that has a system start the compiler. -/
theorem executeWith_of_starts_system {made : Workspace} {profile : Profile} {i : Invocation}
    (h : Starts config options s made profile i) (system : Machine.System) :
    let report := executeWith system.runner config options s
    let left := system.start ⟨i.program, i.args⟩ made (handedOver options s i)
    report.started = [⟨i.program, i.args⟩] ∧ report.workspace = left.2.1 ∧
      ∀ other : Machine.System, other.start ⟨i.program, i.args⟩ made (handedOver options s i) = left →
        executeWith other.runner config options s = report := by
  obtain ⟨hstarted, hworkspace, hother⟩ := executeWith_of_starts h system.runner
  refine ⟨hstarted.trans (system.started_run i made (inherited options s)),
    hworkspace.trans (system.workspace_run i made (inherited options s)), fun other hleft => ?_⟩
  exact hother other.runner (Machine.System.run_congr i made (inherited options s) hleft)

/-- A run that does not start the compiler does nothing to the tree. -/
theorem executeWith_of_not_starts (h : ∀ made profile i, ¬ Starts config options s made profile i)
    (runner : Runner Machine.Trace) :
    (executeWith runner config options s).started = [] ∧
      (executeWith runner config options s).workspace.tree = s.workspace.tree ∧
      ∀ other, executeWith other config options s = executeWith runner config options s := by
  obtain ⟨result, last, hrun, hstarted, htree, -⟩ := run_stages_of_not_starts h
  have hlast := congrArg Prod.snd (hrun runner)
  refine ⟨?_, ?_, fun other => executeWith_congr ((hrun other).trans (hrun runner).symm)⟩
  · exact (congrArg (fun st : State => st.trace.started) hlast).trans hstarted
  · exact (congrArg (fun st : State => st.workspace.tree) hlast).trans htree

/-- A run has a system start something exactly if the answers choose a profile, there is a plan for it, the plan
is to be carried out, and the directory of the file that is built is there or can be made. Then it asks for one
start and nothing else, that of the program of the planned command line with its arguments, in a tree to which it
has added at most that directory, and what becomes of the tree is what the system makes of it: any two systems
that do the same on this one start make the same of the whole run. On the machine this start launches what is
found under the name of the program, which gets the arguments as they are behind whatever interpreters get in
front of them, and leaves behind what that does. Otherwise nothing is started, on whichever system, and the tree
stays as it is; so it does when the user quits, when the answers end or are not text, when the plan fails, and
when it is only to be shown. -/
theorem executeWith_effects (system : Machine.System) (config : Config) (options : CommandLine.Options)
    (s : Surroundings) :
    let report := executeWith system.runner config options s
    (report.started ≠ [] ↔ ∃ made profile i, Starts config options s made profile i) ∧
      (∀ made profile i, Starts config options s made profile i →
        (∃ ws name, Plans config options s ws profile i ∧ made.here = ws.here ∧
          Tree.parts (Utf8.bytes profile.outputFile) = [out, name] ∧
          (ws.isDirectory ⟨out⟩ = true ∧ made.tree = s.workspace.tree ∨
            s.workspace.tree.OneMore made.tree (ws.here ++ [out]))) ∧
        report.started = [⟨i.program, i.args⟩] ∧
        report.workspace = (system.start ⟨i.program, i.args⟩ made (handedOver options s i)).2.1 ∧
        (∀ other : Machine.System,
          other.start ⟨i.program, i.args⟩ made (handedOver options s i) =
            system.start ⟨i.program, i.args⟩ made (handedOver options s i) →
          executeWith other.runner config options s = report) ∧
        ∀ environment launch, system = Machine.system environment →
          let k := Machine.kernelOf made (handedOver options s i).input
          Machine.launchOf k ⟨i.program, i.args⟩ = .ok launch →
            Host.Executable.find k (Utf8.bytes Host.Executable.searchPath) (Utf8.bytes i.program)
              (i.args.map Utf8.bytes) = .ok launch ∧
            i.args.map Utf8.bytes <:+ launch.argv ∧
            report.workspace.tree = (Machine.performed launch environment k).disk.toTree) ∧
      ((∀ made profile i, ¬ Starts config options s made profile i) →
        report.started = [] ∧ report.workspace.tree = s.workspace.tree ∧
        ∀ other : Machine.System, executeWith other.runner config options s = report) ∧
      (Quits options s ∨ (∃ cause, (chosen options.args s.input).1 = .error cause) ∨
          (∃ ws profile cause, entered s.workspace options.directory = some ws ∧
            (chosen options.args s.input).1 = .ok (some profile) ∧
            (Plan.make ws config profile).invocation = .error cause) ∨ options.dryRun = true →
        report.started = [] ∧ report.workspace.tree = s.workspace.tree) := by
  -- the run is followed once for a start and once for none; idle runs are a case of the latter
  intro report
  refine ⟨⟨fun hne => ?_, ?_⟩, fun made profile i h => ?_, fun h => ?_, fun hidle => ?_⟩
  · by_contra hnone
    push Not at hnone
    exact hne (executeWith_of_not_starts hnone system.runner).1
  · rintro ⟨made, profile, i, h⟩ hnil
    rw [show report.started = _ from (executeWith_of_starts_system h system).1] at hnil
    cases hnil
  · obtain ⟨ws, hplans, hhere, htree⟩ := h.effect
    obtain ⟨name, hname⟩ := parts_outputFile profile
    obtain ⟨hstarted, hworkspace, hother⟩ := executeWith_of_starts_system h system
    refine ⟨⟨ws, name, hplans, hhere, hname, htree⟩, hstarted, hworkspace, hother, ?_⟩
    rintro environment launch rfl k hlaunch
    obtain ⟨hargs, hleft⟩ := Machine.start_of_launchOf hlaunch environment
    exact ⟨(Machine.launchOf_eq_ok_iff.1 hlaunch).2.1, hargs,
      (congrArg Workspace.tree hworkspace).trans hleft⟩
  · obtain ⟨hstarted, htree, hother⟩ := executeWith_of_not_starts h system.runner
    exact ⟨hstarted, htree, fun other => hother other.runner⟩
  · obtain ⟨hstarted, htree, -⟩ := executeWith_of_not_starts (not_starts_of_idle hidle) system.runner
    exact ⟨hstarted, htree⟩

/-- The case of a debug build of one source: one start is asked for, on whichever system. -/
theorem executeWith_effects_oneSource :
    Starts debugBuild.config debugBuild oneSource oneSourceReady .debug oneSourceDebug ∧
      ∀ system : Machine.System, (executeWith system.runner debugBuild.config debugBuild oneSource).started =
        [⟨"cc", ["-DDEBUG", "-DVERSION_NAME=\"DEBUG BUILD\"", "-Wall", "-Wpedantic", "-g", "-oout/a.out",
          "src/a.c"]⟩] :=
  ⟨starts_oneSource, fun system =>
    ((executeWith_effects system debugBuild.config debugBuild oneSource).2.1 _ _ _ starts_oneSource).2.1⟩

end Configurator.Program
