/-
Build profiles: for each kind of build the compiler flags in their order, the file that is built, and
whether the compiler's command line is shown before it runs. A custom profile is given by one
decision per feature, and each decision adds its own flags.
-/
import Configurator.Feature
import Configurator.Kind

namespace Configurator

/-- A complete choice of what to build. -/
inductive Profile where
  | release
  | debug
  | custom (choices : Choices)
  deriving DecidableEq, Repr

namespace Profile

/-- The kind of build. -/
def kind : Profile → Kind
  | release => .release
  | debug => .debug
  | custom _ => .custom

/-- The compiler flags, in the order in which the compiler gets them. -/
def flags : Profile → List String
  | release => ["-DNO_INCLUDE_ASSERTS", "-DNO_TESTS", "-O2"]
  | debug => ["-DDEBUG", "-DVERSION_NAME=\"DEBUG BUILD\"", "-Wall", "-Wpedantic", "-g"]
  | custom choices =>
    ["-DNO_TESTS", "-O2"] ++ Feature.all.flatMap (fun f => f.flags (choices.get f))

/-- The directory of everything that is built. -/
def outputDirectory : String := "out"

/-- The file that is built. -/
def outputFile : Profile → String
  | release => "out/whippet.out"
  | debug => "out/a.out"
  | custom _ => "out/c_whippet.out"

/-- Whether the compiler's command line is shown before it runs. -/
def echoes : Profile → Bool
  | release => false
  | debug => true
  | custom _ => true

end Profile

end Configurator
