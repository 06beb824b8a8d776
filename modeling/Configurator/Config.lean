/-
The configuration of a build: the compiler, where the sources are, by which endings they are known
and which of them are left out. A configuration is made from the default one by adjustments.
-/
import Configurator.Path

namespace Configurator

/-- A set of file name endings, in the order of their characters. -/
abbrev ExtensionSet := SortedSet String compare

/-- What a build is made with and from. -/
structure Config where
  compiler : String
  sourceRoot : Path
  extensions : ExtensionSet
  exclude : PathSet
  deriving DecidableEq

namespace Config

/-- The compiler that is used unless another is named. -/
def defaultCompiler : String := "cc"

/-- The directory that is searched unless another is named. -/
def defaultSourceRoot : String := "src"

/-- The endings that are looked for unless others are named. -/
def defaultExtensions : List String := [".c"]

instance : Inhabited Config where
  default := {
    compiler := defaultCompiler
    sourceRoot := .ofString defaultSourceRoot
    extensions := .ofList defaultExtensions
    exclude := .empty }

/-- Names the compiler. -/
def withCompiler (c : Config) (compiler : String) : Config := { c with compiler := compiler }

/-- Names the directory that is searched. -/
def withSourceRoot (c : Config) (root : Path) : Config := { c with sourceRoot := root }

/-- Names the endings that are looked for; naming none changes nothing. -/
def withExtensions (c : Config) (extensions : List String) : Config :=
  if extensions.isEmpty then c else { c with extensions := .ofList extensions }

/-- Adds sources to leave out. -/
def withExclude (c : Config) (paths : List Path) : Config :=
  { c with exclude := c.exclude.insertAll paths }

/-- One change of a configuration. -/
inductive Adjustment where
  | compiler (name : String)
  | sourceRoot (root : Path)
  | extensions (endings : List String)
  | exclude (paths : List Path)
  deriving DecidableEq

/-- The configuration after one change. -/
def adjust (c : Config) : Adjustment → Config
  | .compiler name => c.withCompiler name
  | .sourceRoot root => c.withSourceRoot root
  | .extensions endings => c.withExtensions endings
  | .exclude paths => c.withExclude paths

/-- The default configuration after a sequence of changes. -/
def ofAdjustments (l : List Adjustment) : Config := l.foldl adjust default

end Config

end Configurator
