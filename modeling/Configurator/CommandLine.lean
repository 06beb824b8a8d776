/-
The tool's own command line. Arguments are read from left to right: options with a value (attached or
as the next argument), flags, short letters in clusters, and after `--` nothing but plain arguments.
An option's value is judged when the next thing is read, so an unknown argument right behind it is
reported first; help and version end the reading where they stand.
-/
import Configurator.Config
import Configurator.Text.ControlSequence

namespace Configurator

/-- How a plan is shown. -/
inductive Format where
  | text
  | json
  deriving DecidableEq, Repr

namespace CommandLine

/-- The options that take a value. -/
inductive ValueOption where
  | directory
  | compiler
  | sourceDir
  | extension
  | exclude
  | format
  deriving DecidableEq, Repr

/-- The options that take none. -/
inductive Flag where
  | dryRun
  | verbose
  | help
  | version
  deriving DecidableEq, Repr

/-- The long name of an option. -/
def ValueOption.longName : ValueOption → String
  | directory => "directory"
  | compiler => "compiler"
  | sourceDir => "source-dir"
  | extension => "extension"
  | exclude => "exclude"
  | format => "format"

/-- What stands for the value of an option in a message. -/
def ValueOption.valueName : ValueOption → String
  | directory => "DIR"
  | compiler => "COMPILER"
  | sourceDir => "DIR"
  | extension => "EXT"
  | exclude => "PATH"
  | format => "FORMAT"

/-- An option in a message. -/
def ValueOption.shown (o : ValueOption) : String := "--" ++ o.longName ++ " <" ++ o.valueName ++ ">"

/-- The long name of a flag. -/
def Flag.longName : Flag → String
  | dryRun => "dry-run"
  | verbose => "verbose"
  | help => "help"
  | version => "version"

/-- A flag in a message. -/
def Flag.shown (f : Flag) : String := "--" ++ f.longName

/-- What an option's long name can stand for. -/
inductive Long where
  | option (o : ValueOption)
  | flag (f : Flag)
  deriving DecidableEq, Repr

/-- The option or flag with a long name; names are never shortened. -/
def Long.ofName? : String → Option Long
  | "directory" => some (.option .directory)
  | "compiler" => some (.option .compiler)
  | "source-dir" => some (.option .sourceDir)
  | "extension" => some (.option .extension)
  | "exclude" => some (.option .exclude)
  | "format" => some (.option .format)
  | "dry-run" => some (.flag .dryRun)
  | "verbose" => some (.flag .verbose)
  | "help" => some (.flag .help)
  | "version" => some (.flag .version)
  | _ => none

/-- Why a command line is refused. -/
inductive UsageFault where
  | unexpected (argument : String)
  | valueRequired (shown : String)
  | invalidFormat (value : String)
  | repeated (shown : String)
  | unexpectedValue (value shown : String)
  deriving DecidableEq, Repr

/-- What the user reads about a refused command line. What the command line said is shown without
control sequences. -/
def UsageFault.message : UsageFault → String
  | unexpected argument =>
    "error: unexpected argument '" ++ Text.stripControls argument ++ "' found"
  | valueRequired shown => "error: a value is required for '" ++ shown ++ "' but none was supplied"
  | invalidFormat value =>
    "error: invalid value '" ++ Text.stripControls value ++ "' for '" ++ ValueOption.format.shown ++ "'"
  | repeated shown => "error: the argument '" ++ shown ++ "' cannot be used multiple times"
  | unexpectedValue value shown =>
    "error: unexpected value '" ++ Text.stripControls value ++ "' for '" ++ shown ++
      "' found; no more were expected"

/-- The first line that the user reads about a refused command line. -/
def UsageFault.line (fault : UsageFault) : String := Text.firstLine fault.message

/-- Why reading stopped before the end. -/
inductive Stop where
  | help
  | version
  | fault (fault : UsageFault)
  deriving DecidableEq, Repr

/-- What the options and arguments said so far; nothing where an option was not given. -/
structure Options where
  args : List String := []
  directory : Option String := none
  compiler : Option String := none
  sourceDir : Option String := none
  extensions : List String := []
  exclude : List String := []
  dryRun : Bool := false
  format : Option Format := none
  verbose : Bool := false
  deriving DecidableEq, Repr

namespace Options

/-- The configuration that the options ask for. -/
def config (o : Options) : Config :=
  (default : Config)
    |>.withCompiler (o.compiler.getD Config.defaultCompiler)
    |>.withSourceRoot (.ofString (o.sourceDir.getD Config.defaultSourceRoot))
    |>.withExtensions o.extensions
    |>.withExclude (o.exclude.map .ofString)

/-- The format that the options ask for. -/
def planFormat (o : Options) : Format := o.format.getD .text

/-- Whether an option that may be given once has been given. -/
def given (o : Options) : ValueOption → Bool
  | .directory => o.directory.isSome
  | .compiler => o.compiler.isSome
  | .sourceDir => o.sourceDir.isSome
  | .format => o.format.isSome
  | .extension | .exclude => false

/-- The format with a name. -/
def formatOfName? : String → Option Format
  | "text" => some .text
  | "json" => some .json
  | _ => none

/-- Takes the value of an option. Paths and the format must not be empty. -/
def accept (o : Options) (option : ValueOption) (value : String) : Except Stop Options :=
  if o.given option then .error (.fault (.repeated option.shown))
  else
    match option with
    | .compiler => .ok { o with compiler := some value }
    | .extension => .ok { o with extensions := o.extensions ++ [value] }
    | _ =>
      if value = "" then .error (.fault (.valueRequired option.shown))
      else
        match option with
        | .directory => .ok { o with directory := some value }
        | .sourceDir => .ok { o with sourceDir := some value }
        | .exclude => .ok { o with exclude := o.exclude ++ [value] }
        | _ =>
          match formatOfName? value with
          | some format => .ok { o with format := some format }
          | none => .error (.fault (.invalidFormat value))

/-- Takes a flag. -/
def raise (o : Options) : Flag → Except Stop Options
  | .help => .error .help
  | .version => .error .version
  | .dryRun =>
    if o.dryRun then .error (.fault (.repeated Flag.dryRun.shown)) else .ok { o with dryRun := true }
  | .verbose =>
    if o.verbose then .error (.fault (.repeated Flag.verbose.shown))
    else .ok { o with verbose := true }

end Options

/-! ## Reading -/

/-- An option whose value has not been judged yet. -/
inductive Pending where
  | nothing
  /-- The value is still to come. -/
  | awaiting (option : ValueOption)
  | holding (option : ValueOption) (value : String)
  deriving DecidableEq, Repr

/-- A command line that is being read. -/
structure Reading where
  options : Options := {}
  pending : Pending := .nothing
  /-- Whether everything from here on is a plain argument. -/
  plainOnly : Bool := false
  deriving DecidableEq, Repr

namespace Reading

/-- Judges the value that is pending. -/
def settle (r : Reading) : Except Stop Options :=
  match r.pending with
  | .nothing => .ok r.options
  | .awaiting option => .error (.fault (.valueRequired option.shown))
  | .holding option value => r.options.accept option value

/-- Takes a flag, after the pending value. -/
def raise (r : Reading) (flag : Flag) : Except Stop Reading := do
  return { r with options := ← (← r.settle).raise flag, pending := .nothing }

/-- Takes an option with its value, after the pending value. -/
def accept (r : Reading) (option : ValueOption) (value : String) : Except Stop Reading := do
  return { r with options := ← (← r.settle).accept option value, pending := .nothing }

/-- Takes an option whose value is to come, after the pending value. -/
def await (r : Reading) (option : ValueOption) : Except Stop Reading := do
  return { r with options := ← r.settle, pending := .awaiting option }

/-- Takes a plain argument, after the pending value. -/
def plain (r : Reading) (arg : String) : Except Stop Reading := do
  let options ← r.settle
  return { r with options := { options with args := options.args ++ [arg] }, pending := .nothing }

/-- Reads a long option: a name, and behind the first `=` its value. -/
def readLong (r : Reading) (text : List Char) : Except Stop Reading :=
  let name := String.ofList (text.takeWhile (· ≠ '='))
  let value? : Option String := match text.dropWhile (· ≠ '=') with
    | [] => none
    | _ :: value => some (String.ofList value)
  match Long.ofName? name, value? with
  | none, _ => .error (.fault (.unexpected ("--" ++ name)))
  | some (.option option), some value => r.accept option value
  | some (.option option), none => r.await option
  | some (.flag flag), some value => .error (.fault (.unexpectedValue value flag.shown))
  | some (.flag flag), none => r.raise flag

/-- Reads a cluster of short letters; what stands behind `C` is its value. -/
def readShort (r : Reading) : List Char → Except Stop Reading
  | [] => .ok r
  | 'v' :: rest => do readShort (← r.raise .verbose) rest
  | 'h' :: rest => do readShort (← r.raise .help) rest
  | 'V' :: rest => do readShort (← r.raise .version) rest
  | ['C'] => r.await .directory
  | 'C' :: '=' :: value => r.accept .directory (String.ofList value)
  | 'C' :: value => r.accept .directory (String.ofList value)
  | c :: _ => .error (.fault (.unexpected (String.ofList ['-', c])))

/-- Reads an argument that is neither an option nor `--`. -/
def readValue (r : Reading) (arg : String) : Except Stop Reading :=
  match r.pending with
  | .awaiting option => .ok { r with pending := .holding option arg }
  | _ => r.plain arg

/-- Reads one argument. -/
def read (r : Reading) (arg : String) : Except Stop Reading :=
  if r.plainOnly then r.plain arg
  else
    match arg.toList with
    | ['-', '-'] => .ok { r with plainOnly := true }
    | '-' :: '-' :: text => r.readLong text
    | '-' :: c :: letters => r.readShort (c :: letters)
    | _ => r.readValue arg

end Reading

/-- The options of a command line, or why reading stopped. -/
def parse (args : List String) : Except Stop Options := do
  (← args.foldlM Reading.read {}).settle

/-! ## Fixed texts -/

/-- The tool's name. -/
def appName : String := "whipbuild"

/-- What asking for the version prints. -/
def versionText : String := appName ++ " 0.1.0\n"

/-- What asking for help prints. -/
def helpText : String := "\n".intercalate [
  "whipbuild - build configurator for the Whippet C interpreter",
  "",
  "Usage: whipbuild [OPTIONS] [ARGS]...",
  "",
  "Arguments:",
  "  [ARGS]...  A single `d` builds the debug profile without prompting; anything else opens the menu",
  "",
  "Options:",
  "  -C, --directory <DIR>      Change to this directory before doing anything else",
  "      --compiler <COMPILER>  Compiler executable [default: cc]",
  "      --source-dir <DIR>     Directory searched for sources [default: src]",
  "      --extension <EXT>      Source file suffix (repeatable, default: .c)",
  "      --exclude <PATH>       Source path to leave out, relative to the source directory (repeatable)",
  "      --dry-run              Print the compiler invocation instead of running it",
  "      --format <FORMAT>      Format of the dry-run output [default: text] [possible values: text, json]",
  "  -v, --verbose              Enable verbose output",
  "  -h, --help                 Print help",
  "  -V, --version              Print version",
  ""]

end CommandLine

end Configurator
