/-
The machine on which a compiler runs: the programs and directories that are always there, and what
starting a program does. Main statement: a command is launched as what is found under the name of its program,
which gets the arguments of the command as they are.
-/
import Configurator.Host.Schedule
import Configurator.Machine.Process
import Configurator.Shell.Run
import Configurator.Tool.Table

namespace Configurator.Machine

open Host

/-! ## What is always there -/

/-- The entries of a directory. -/
def directory (entries : List (String × Entry)) : Tree :=
  entries.foldl (fun tree (name, entry) => tree.put (Utf8.bytes name) entry) .empty

/-- The names of the shell. -/
def shells : List String := ["sh", "dash", "bash"]

/-- The programs that are always there. -/
def programs : List (String × Entry) :=
  (shells ++ Tool.all.map (·.name)).map (fun name => (name, .leaf (Executable.native name)))

/-- The descriptors that have a file each. -/
def descriptors : List Nat := List.range 16 ++ (List.range 6).map (58 + ·)

/-- The file system of a machine on which nothing has been laid out. -/
def blank : Tree :=
  let link (target : String) : Entry := .leaf (.link (Utf8.bytes target))
  let file (body : String) : Entry := .leaf (.file (Utf8.bytes body) false)
  let empty : Entry := .dir .empty
  directory [
    ("bin", link "usr/bin"), ("boot", empty),
    ("dev", .dir (directory [("fd", link "/proc/self/fd"), ("full", file ""), ("null", file ""),
      ("stderr", link "/proc/self/fd/2"), ("stdin", link "/proc/self/fd/0"),
      ("stdout", link "/proc/self/fd/1"), ("tty", file ""), ("zero", file "")])),
    ("etc", .dir (directory [("hostname", file "localhost\n"),
      ("hosts", file "127.0.0.1\tlocalhost\n"),
      ("passwd", file "root:x:0:0:root:/root:/bin/bash\n")])),
    ("home", empty), ("lib", link "usr/lib"), ("media", empty), ("mnt", empty), ("opt", empty),
    ("proc", .dir (directory [("self", .dir (directory [("fd", .dir (directory (descriptors.map
      (fun n => (toString n, file "")))))]))])),
    ("root", empty), ("run", empty), ("sbin", link "usr/sbin"), ("srv", empty), ("sys", empty),
    ("tmp", empty),
    ("usr", .dir (directory [("bin", .dir (directory programs)), ("include", empty), ("lib", empty),
      ("local", .dir (directory [("bin", empty), ("lib", empty), ("sbin", empty), ("share", empty)])),
      ("sbin", empty), ("share", empty), ("src", empty)])),
    ("var", .dir (directory [("lib", empty), ("log", empty), ("tmp", empty)]))]

/-- What stands for more than a file, each by its path. -/
def special : List (String × Content) :=
  [("/dev/null", .device .null), ("/dev/zero", .device .zero), ("/dev/full", .device .full),
    ("/dev/tty", .device .terminal)] ++
    descriptors.map (fun n => ("/proc/self/fd/" ++ toString n, .descriptor n))

/-- The directories in which everybody may make files. -/
def shared : List String := ["/tmp", "/var/tmp"]

/-! ## The kernel -/

/-- Changes the node at a path. -/
def changeAt (disk : Disk) (path : String) (f : Node → Node) : Disk :=
  match disk.resolve Disk.top (Utf8.bytes path) with
  | .ok id => disk.modify id f
  | .error _ => disk

/-- The disk for a tree. -/
def diskOf (tree : Tree) : Disk :=
  let disk := special.foldl (fun disk (path, content) =>
    changeAt disk path (fun node => { node with content := content, mode := 0o666 })) (Disk.ofTree tree)
  shared.foldl (fun disk path => changeAt disk path (fun node => { node with mode := 0o1777 })) disk

/-- The number of the process that starts the program. -/
def starter : Nat := 100

/-- The number of the process of the program. -/
def first : Nat := 101

/-- The kernel in which a program is started: it has the input, the output and the errors, each a pipe to
outside. -/
def kernelOf (ws : Workspace) (input : Bytes) : Kernel :=
  let disk := diskOf ws.tree
  let here := match disk.steps Tree.linkLimit Disk.top ws.here with
    | .ok id => id
    | .error _ => Disk.top
  let pipe (number : Nat) (readable : Bool) : Opened :=
    { target := .pipe number, readable := readable, writable := !readable }
  let parent : Process := { parent := Kernel.firstProcess }
  let main : Process := {
    parent := starter
    descriptors := [(0, ⟨0, false⟩), (1, ⟨1, false⟩), (2, ⟨2, false⟩)]
    here := here }
  { disk := disk
    files := (((∅ : Std.TreeMap Nat Opened).insert 0 (pipe Kernel.inputPipe true)).insert 1
      (pipe Kernel.outputPipe false)).insert 2 (pipe Kernel.errorsPipe false)
    pipes := (((∅ : Std.TreeMap Nat Pipe).insert Kernel.inputPipe { content := ⟨input.toArray⟩ }).insert
      Kernel.outputPipe { drained := true }).insert Kernel.errorsPipe { drained := true }
    processes := ((∅ : Std.TreeMap Nat Process).insert starter parent).insert first main
    current := first
    nextFile := 3
    nextPipe := 3
    nextProcess := first + 1
    main := first }

/-- How many bytes one argument may have, its end included. -/
def argumentLimit : Nat := 131072

/-- How many bytes all arguments may have together, their ends and places included. -/
def argumentsLimit : Nat := 2097152

/-- Whether arguments are too long to be handed over. -/
def areTooLong (argv : List Bytes) : Bool :=
  argv.any (fun arg => argumentLimit < arg.length + 1) ||
    argumentsLimit < argv.foldl (fun size arg => size + arg.length + 9) 0

/-- What starting the program that a command names comes to. -/
def launchOf (k : Kernel) (c : Command) : Except Fault Executable.Launch :=
  let name := Utf8.bytes c.program
  let args := c.args.map Utf8.bytes
  if (name :: args).any (fun arg => arg.contains 0) then .error .nulInArgument
  else
    match Executable.find k (Utf8.bytes Executable.searchPath) name args with
    | .error fault => .error fault
    | .ok launch => if areTooLong launch.argv then .error .argumentsTooLong else .ok launch

/-- A command is launched exactly if no part of it has a byte with number zero, something is found that is started
under the name of its program with its arguments, and what is handed over in the end is not too long. -/
theorem launchOf_eq_ok_iff {k : Kernel} {c : Command} {launch : Executable.Launch} :
    launchOf k c = .ok launch ↔
      (∀ arg ∈ Utf8.bytes c.program :: c.args.map Utf8.bytes, 0 ∉ arg) ∧
        Executable.find k (Utf8.bytes Executable.searchPath) (Utf8.bytes c.program) (c.args.map Utf8.bytes) =
          .ok launch ∧
        areTooLong launch.argv = false := by
  simp only [launchOf]
  split
  · next hnul =>
    obtain ⟨arg, harg, hzero⟩ := List.any_eq_true.1 hnul
    simp only [reduceCtorEq, false_iff]
    exact fun h => h.1 arg harg (by simpa using hzero)
  · next hnul =>
    have hno : ∀ arg ∈ Utf8.bytes c.program :: c.args.map Utf8.bytes, 0 ∉ arg := by simpa using hnul
    rw [and_iff_right hno]
    cases Executable.find k (Utf8.bytes Executable.searchPath) (Utf8.bytes c.program)
      (c.args.map Utf8.bytes) with
    | error fault => simp
    | ok found =>
      dsimp only
      -- something was found; only its length can still stand in the way
      split
      · next hlong =>
        simp only [reduceCtorEq, Except.ok.injEq, false_iff]
        rintro ⟨rfl, hshort⟩
        rw [hlong] at hshort
        cases hshort
      · next hshort =>
        simp only [Except.ok.injEq]
        constructor
        · rintro rfl
          exact ⟨rfl, by simpa using hshort⟩
        · exact And.left

/-- The dialect that a shell with a name speaks. -/
def dialectOf (name : String) : Shell.Dialect := if name = "bash" then .rich else .plain

/-- A program at work. -/
def load (launch : Executable.Launch) (environment : List (String × String)) (k : Kernel) : Step :=
  let argv := launch.argv.map Raw.text
  match Tool.find? (Raw.text launch.program) with
  | some tool => tool.start argv environment k
  | none => Shell.Run.start (dialectOf (Raw.text launch.program)) argv environment k

/-! ## Running -/

/-- The exit code of a finished run. -/
def exitCode : Ending → Option Int
  | .exited status => some status
  | .killed _ => none

/-- The variables that programs get to see everywhere. -/
def environment : List (String × String) := [("PATH", Executable.searchPath)]

/-- Variables as texts of their bytes. -/
def rawVariables (environment : List (String × String)) : List (String × String) :=
  environment.map (fun (name, value) => (Raw.ofString name, Raw.ofString value))

/-- Lets a program work until nothing can come from it any more. -/
def performed (launch : Executable.Launch) (environment : List (String × String)) (k : Kernel) : Kernel :=
  Schedule.run load Schedule.stepLimit
    [Schedule.going first k.now (load launch (rawVariables environment))] k

/-- How a program ended and what it wrote; one that has not ended counts as killed. -/
def verdictOf (k : Kernel) : Verdict :=
  k.verdict.getD ⟨.killed Signal.kill, k.held Kernel.outputPipe, k.held Kernel.errorsPipe⟩

/-- Starts the program of a command, which gets to see variables, and waits for its end. -/
def start (environment : List (String × String)) (c : Command) (ws : Workspace) (trace : Trace) :
    Except Fault (Option Int) × Workspace × Trace :=
  let asked := { trace with started := trace.started ++ [c] }
  let k := kernelOf ws trace.input
  match launchOf k c with
  | .error fault => (.error fault, ws, asked)
  | .ok launch =>
    let last := performed launch environment k
    let verdict := verdictOf last
    (.ok (exitCode verdict.ending), { tree := last.disk.toTree, here := ws.here }, { asked with
      input := (last.held Kernel.inputPipe).toList
      output := trace.output ++ verdict.output.toList
      record := trace.record ++ [.written verdict.errors.toList]
      lateOutput := trace.lateOutput ++ (last.held Kernel.outputPipe).toList.drop verdict.output.size
      lateErrors := trace.lateErrors ++ (last.held Kernel.errorsPipe).toList.drop verdict.errors.size })

/-- A start of a command leaves behind what the program that is launched for it leaves behind, and this program
gets the arguments of the command as they are, behind whatever interpreters get in front of them. -/
theorem start_of_launchOf {c : Command} {ws : Workspace} {trace : Trace} {launch : Executable.Launch}
    (h : launchOf (kernelOf ws trace.input) c = .ok launch) (environment : List (String × String)) :
    c.args.map Utf8.bytes <:+ launch.argv ∧
      (start environment c ws trace).2.1.tree =
        (performed launch environment (kernelOf ws trace.input)).disk.toTree := by
  refine ⟨Executable.find_args (launchOf_eq_ok_iff.1 h).2.1, ?_⟩
  simp only [start, h]

/-- The machine as a system whose programs get to see variables. -/
def system (environment : List (String × String)) : System where
  start := start environment
  started_start c ws trace := by
    unfold start
    dsimp only
    split <;> rfl

/-- The machine as a runner of command lines. -/
def runner (environment : List (String × String)) : Runner Trace := (system environment).runner

end Configurator.Machine
