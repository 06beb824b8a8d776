/-
What can go wrong between looking for sources and running the compiler, with the text that the user
reads. A repeated source is the only error that would be a fault of the tool itself.
-/
import Configurator.Path

theorem Except.map_eq_error_iff {ε α β : Type} {f : α → β} {x : Except ε α} {e : ε} :
    x.map f = .error e ↔ x = .error e := by
  cases x <;> simp [Except.map]

namespace Configurator

/-- Why no source set could be made. -/
inductive DiscoveryError where
  /-- The tree below the root could not be listed. -/
  | walk (root detail : String)
  /-- A path was found twice; the second spelling is named. -/
  | duplicate (path : Path)
  /-- A path is not text. -/
  | undecodable (path : String)
  deriving DecidableEq, Repr

/-- What the user reads about a failed search. -/
def DiscoveryError.message : DiscoveryError → String
  | walk root detail => "failed to walk " ++ root ++ ": " ++ detail
  | duplicate path => "broken invariant: source " ++ path.display ++ " discovered twice"
  | undecodable path => "source path is not valid UTF-8: " ++ path

/-- Why a build was not planned or not run. -/
inductive BuildError where
  | discovery (cause : DiscoveryError)
  /-- Nothing is left to compile under the root. -/
  | noSources (root : String)
  /-- The compiler could not be started. -/
  | start (program detail : String)
  deriving DecidableEq, Repr

namespace BuildError

/-- What the user reads about a failed build. -/
def message : BuildError → String
  | discovery cause => cause.message
  | noSources root => "no source files found under " ++ root
  | start program detail => "failed to start " ++ program ++ ": " ++ detail

/-- Whether the error says that the tool contradicts itself. -/
def isInvariantViolation : BuildError → Bool
  | discovery (.duplicate _) => true
  | _ => false

end BuildError

end Configurator
