/-
The tool that tells what files there are.
-/
import Configurator.Tool.Files

namespace Configurator.Tool.Listing

open Host

/-- Puts items into the order of their names. -/
def ordered {α : Type} (name : α → String) (items : List α) : List α :=
  items.mergeSort (fun a b => compare (name a) (name b) != .gt)

/-- Shows the names in a directory, under its own if there are others; `first` tells whether nothing was shown
before. -/
def showDirectory (c : Call) (headed first : Bool) (path : String) : Action Unit := do
  let names ← Files.namesIn path
  unless first do c.print "\n"
  if headed then c.print (path ++ ":\n")
  (ordered id (names.filter (fun name => name.toList.head? ≠ some '.'))).forM (fun name => c.print (name ++ "\n"))

/-- Shows directories one after the other. -/
def showAll (c : Call) (headed : Bool) : (first : Bool) → List String → Action Unit
  | _, [] => pure ()
  | first, path :: rest => do
    showDirectory c headed first path
    showAll c headed false rest

/-- Lists directories and names files, one to a line and as they are, so that of the options only the one that
takes directories for files has an effect. -/
def ls (c : Call) : Action Unit :=
  c.withOptions { letters := "1dDN", status := 2 } (fun o => do
    let operands := if o.operands.isEmpty then ["."] else o.operands
    let found ← operands.filterMapM (fun operand => do
      let isDirectory ← Work.look (·.isDirectory (Raw.bytes operand))
      match ← Files.infoItself operand with
      | .ok _ => return some (operand, isDirectory && !o.has 'd')
      | .error fault =>
        c.fault ("cannot access " ++ Quote.name operand ++ ": " ++ fault.words) 2
        return none)
    let found := ordered Prod.fst found
    let files := found.filter (!·.2)
    files.forM (fun file => c.print (file.1 ++ "\n"))
    showAll c (1 < operands.length) files.isEmpty ((found.filter (·.2)).map Prod.fst))

end Configurator.Tool.Listing
