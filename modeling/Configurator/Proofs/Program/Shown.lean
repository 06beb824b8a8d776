/-
Plans that are shown to other programs. Main statement: behind the dialogue such a run writes one document and
a line end, and reading the document gives the kind of build, the output, the flags, the sources and the
command line that is made of them, string for string.
-/
import Configurator.Proofs.Plan.Outcome
import Configurator.Proofs.Program.DryRun

namespace Configurator

namespace Program

variable {config : Config} {options : CommandLine.Options} {s : Surroundings} {ws : Workspace}
  {profile : Profile} {i : Invocation}

/-- The argument for a debug build is no dialogue. -/
theorem written_chosen_of_debug {args : List String} (h : args = ["d"]) (input : Bytes) :
    (chosen args input).2.written = [] := by
  subst h
  rfl

/-- A run with a plan that is only to be shown, to other programs, succeeds. Its output is what the dialogue
wrote, which is nothing if the argument asks for a debug build, then one document, then a line end. A reader of
JSON gets from this document an object with exactly five members: the command line, the flags of the profile,
the file that is built, the kind of build in lower case, and the sources of the command line. The command line
is the compiler, these flags, the designator of this file, and these sources. -/
theorem shown_plan_readable (h : Plans config options s ws profile i) (hdry : options.dryRun = true)
    (hjson : options.planFormat = .json) (runner : Runner Machine.Trace) :
    let report := executeWith runner config options s
    let dialogue := (chosen options.args s.input).2.written
    report.exit = 0 ∧ (options.args = ["d"] → dialogue = []) ∧
      (∃ document : Bytes, report.output = dialogue ++ document ++ [Console.newline] ∧
        Json.ofBytes? document = some (.object [
          ("argv", .array (i.argv.map .string)),
          ("flags", .array (profile.flags.map .string)),
          ("output", .string profile.outputFile),
          ("profile", .string (kindText profile)),
          ("sources", .array (i.sources.map .string))])) ∧
      i.argv = [config.compiler] ++ profile.flags ++ ["-o" ++ profile.outputFile] ++ i.sources := by
  have hoptions : { options with dryRun := true } = options := by rw [← hdry]
  obtain ⟨hexit, -, -, houtput⟩ := executeWith_of_shown h runner
  rw [hoptions] at hexit houtput
  rw [hjson, planText, textOf_singleton, ← List.append_assoc] at houtput
  refine ⟨hexit, fun hargs => written_chosen_of_debug hargs s.input,
    ⟨_, houtput, ofBytes?_planDocument profile i⟩, ?_⟩
  · obtain ⟨selected, -, rfl⟩ := Plan.exists_assemble h.planned
    simp [Invocation.argv, Invocation.args, Invocation.assemble, Invocation.outputFlag]

/-- A directory `src` with a source whose name has a quote, a backslash, control characters and a character that
takes two code units. -/
def oddSource : Surroundings where
  args := ["d"]
  workspace := {
    tree := .dir (Utf8.bytes "src") (.leaf (Utf8.bytes "\"\\\n\x01😀.c") (.file [] false) .empty) .empty
    here := [] }

/-- The options that ask for the plan of its debug build, with a compiler whose name has a quote. -/
def oddBuild : CommandLine.Options :=
  { args := ["d"], compiler := some "c\"c", dryRun := true, format := some .json }

/-- The command line of this plan. -/
def oddSourceDebug : Invocation where
  program := "c\"c"
  flags := Profile.debug.flags
  outputArg := "-oout/a.out"
  sources := ["src/\"\\\n\x01😀.c"]

theorem plans_oddSource :
    Plans oddBuild.config oddBuild oddSource oddSource.workspace .debug oddSourceDebug :=
  ⟨rfl, rfl, by decide +kernel⟩

/-- The case of names that have to be escaped. -/
theorem shown_plan_readable_oddSource :
    Plans oddBuild.config oddBuild oddSource oddSource.workspace .debug oddSourceDebug ∧
      oddBuild.dryRun = true ∧ oddBuild.planFormat = .json ∧
      ∀ runner, ∃ (document : Bytes) (argv : List Json),
        (executeWith runner oddBuild.config oddBuild oddSource).output = document ++ [Console.newline] ∧
        (∃ others, Json.ofBytes? document = some (.object (("argv", .array argv) :: others)) ∧
          others.lookup "profile" = some (.string "debug")) ∧
        argv.head? = some (.string "c\"c") ∧ argv.getLast? = some (.string "src/\"\\\n\x01😀.c") := by
  refine ⟨plans_oddSource, rfl, rfl, fun runner => ?_⟩
  obtain ⟨-, hdialogue, ⟨document, houtput, hread⟩, -⟩ := shown_plan_readable plans_oddSource rfl rfl runner
  rw [hdialogue rfl, List.nil_append] at houtput
  exact ⟨document, _, houtput, ⟨_, hread, rfl⟩, rfl, rfl⟩

end Program

end Configurator
