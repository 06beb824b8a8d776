/-
The compiler's command line: the program, the flags of the profile, the output designator and the
sources. Its shown form joins the tokens by single spaces, without quoting.
-/
import Configurator.Path
import Configurator.Profile

namespace Configurator

/-- A compiler command line, segment by segment. -/
structure Invocation where
  program : String
  flags : List String
  outputArg : String
  sources : List String
  deriving DecidableEq, Repr

namespace Invocation

/-- The flag that names the output file, written together with it. -/
def outputFlag : String := "-o"

/-- The command line by which a compiler builds the profile from the sources. -/
def assemble (compiler : String) (profile : Profile) (sources : PathSet) : Invocation where
  program := compiler
  flags := profile.flags
  outputArg := outputFlag ++ profile.outputFile
  sources := sources.toList.map Path.display

/-- The arguments of the program. -/
def args (i : Invocation) : List String := i.flags ++ i.outputArg :: i.sources

/-- The program and its arguments. -/
def argv (i : Invocation) : List String := i.program :: i.args

/-- The command line as it is shown. -/
def display (i : Invocation) : String := " ".intercalate i.argv

end Invocation

end Configurator
