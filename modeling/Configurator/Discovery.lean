/-
Finding the sources below a root. The root may be a link; below it, links are not entered: one that
leads to a directory is passed over, every other one counts as a file. Found paths are the root as it
was written, joined with the names that lead to the file. A directory is listed by its whole path, so
one with too long a path ends the walk.
-/
import Configurator.Log.Event
import Configurator.Sources
import Configurator.Workspace

namespace Configurator.Discovery

/-- The path of an entry below a root. -/
def below (root : Path) (names : List Name) : Path := names.foldl (fun p name => p.join ⟨name⟩) root

/-- The path of an entry of the walk, if it counts as a file. -/
def file? (ws : Workspace) (root : Path) : List Name × Entry → Option Path
  | (_, .dir _) => none
  | (names, .leaf (.file ..)) => some (below root names)
  | (names, .leaf (.link _)) =>
    if ws.isDirectory (below root names) then none else some (below root names)

/-- The path of an entry of the walk, if it is a directory that cannot be listed because its path is
too long. -/
def unlisted? (root : Path) : List Name × Entry → Option Path
  | (names, .dir _) =>
    if Workspace.pathLimit < (below root names).bytes.length then some (below root names) else none
  | (_, .leaf _) => none

/-- The error of a walk from a root that ended at a path. -/
def walkError (root path : Path) (fault : Fault) : DiscoveryError :=
  .walk root.display ("IO error for operation on " ++ path.display ++ ": " ++ fault.text)

/-- The paths of all files below a root, in the order of the walk. -/
def files (ws : Workspace) (root : Path) : Except DiscoveryError (List Path) :=
  match ws.resolve root with
  | .error fault => .error (walkError root root fault)
  | .ok ⟨_, .leaf _⟩ => .ok []
  | .ok ⟨_, .dir inside⟩ =>
    match inside.walk.findSome? (unlisted? root) with
    | some path => .error (walkError root path .nameTooLong)
    | none => .ok (inside.walk.filterMap (file? ws root))

/-! ## What is noted -/

/-- The event of a path that was taken in. -/
def sourceTaken (path : Path) : Log.Event where
  level := .debug
  area := .discovery
  message := "source"
  fields := [("path", path.display)]

/-- The event of a finished search. -/
def discovered (root : Path) (sources : PathSet) : Log.Event where
  level := .info
  area := .discovery
  message := "discovered sources"
  fields := [("root", root.display), ("count", toString sources.size)]

/-- The event of a resolved exclusion. -/
def exclusionApplied (found : PathSet) (path : Path) : Log.Event where
  level := .debug
  area := .discovery
  message := if found.contains path then "excluding source" else "exclusion matches no source"
  fields := [("path", path.display)]

/-! ## Searching -/

/-- What came of a search: the sources or why there are none, and what was noted on the way. -/
structure Search where
  result : Except DiscoveryError PathSet
  events : List Log.Event

/-- Searches for sources below a root. Every path taken in before a fault is noted, and the end of a
search without one. -/
def search (ws : Workspace) (root : Path) (extensions : ExtensionSet) : Search :=
  match files ws root with
  | .error fault => ⟨.error fault, []⟩
  | .ok paths =>
    match Sources.survey paths extensions with
    | (sources, none) => ⟨.ok sources, sources.toList.map sourceTaken ++ [discovered root sources]⟩
    | (sources, some fault) => ⟨.error fault, sources.toList.map sourceTaken⟩

/-- The sources below a root. -/
def discover (ws : Workspace) (root : Path) (extensions : ExtensionSet) :
    Except DiscoveryError PathSet :=
  (search ws root extensions).result

end Configurator.Discovery
