/-
Source sets. Of the files that were found, those whose name has one of the endings are gathered in
the order in which they were found, up to the first path at fault; exclusions are then resolved
against the root and taken away.
-/
import Configurator.Config
import Configurator.Error

namespace Configurator

/-- Whether a text ends with another. -/
def endsWith (s ending : String) : Bool := ending.toList.isSuffixOf s.toList

/-- Whether the path has a file name that, shown as text, has one of the endings. -/
def ExtensionSet.admits (extensions : ExtensionSet) (path : Path) : Bool :=
  match path.fileName? with
  | none => false
  | some name => extensions.toList.any (endsWith (Utf8.decodeLossy name))

namespace Sources

/-- Adds paths to a set up to the first one at fault; gives the set so far and the fault. -/
def gather : PathSet → List Path → PathSet × Option DiscoveryError
  | sources, [] => (sources, none)
  | sources, path :: rest =>
    if !path.isText then (sources, some (.undecodable path.display))
    else if sources.contains path then (sources, some (.duplicate path))
    else gather (sources.insert path) rest

/-- The sources among the paths, with those gathered before a fault. -/
def survey (paths : List Path) (extensions : ExtensionSet) : PathSet × Option DiscoveryError :=
  gather .empty (paths.filter extensions.admits)

/-- The sources among the paths, or the first fault. -/
def collect (paths : List Path) (extensions : ExtensionSet) : Except DiscoveryError PathSet :=
  match survey paths extensions with
  | (sources, none) => .ok sources
  | (_, some fault) => .error fault

/-- The exclusions as seen from the root; of equal ones the last spelling stays. -/
def resolveExclusions (exclusions : PathSet) (root : Path) : PathSet :=
  .ofListLast (exclusions.toList.map root.join)

/-- The discovered paths that no exclusion names, in unchanged order and spelling. -/
def filter (discovered exclusions : PathSet) (root : Path) : PathSet :=
  let excluded := resolveExclusions exclusions root
  discovered.filter (fun path => !excluded.contains path)

end Sources

end Configurator
