/-
Names of files: the last name of a path, what stands in front of it, and paths put together. A path that
ends in slashes has the last name that it has without them.
-/
import Configurator.Tool.Basic

namespace Configurator.Tool.Name

open Host

/-! ## Paths -/

def trimSlashes (path : String) : List Char := (path.toList.reverse.dropWhile (· = '/')).reverse

/-- The last name of a path; the last name of slashes alone is one slash. -/
def last (path : String) : String :=
  match trimSlashes path with
  | [] => if path = "" then "" else "/"
  | trimmed => String.ofList (trimmed.reverse.takeWhile (· ≠ '/')).reverse

/-- What stands in front of the last name of a path. -/
def front (path : String) : String :=
  match ((trimSlashes path).reverse.dropWhile (· ≠ '/')).dropWhile (· = '/') with
  | [] => if path.toList.head? = some '/' then "/" else "."
  | before => String.ofList before.reverse

/-- The path of a name in a directory. -/
def inside (directory name : String) : String :=
  if directory.toList.getLast? = some '/' then directory ++ name else directory ++ "/" ++ name

/-- Whether the last name of a path stands for a directory by its place alone. -/
def isRelative (path : String) : Bool := last path = "." || last path = ".."

/-! ## Tools -/

/-- A name without an ending that is not all of it. -/
def without (ending name : String) : String :=
  let name := name.toList
  let ending := ending.toList
  String.ofList (if ending.isSuffixOf name && ending ≠ name then name.take (name.length - ending.length) else name)

/-- Shows the last names of paths. -/
def basename (c : Call) : Action Unit :=
  c.withOptions { letters := "as:", inOrder := true, least := 1 } (fun o => do
    match o.has 'a' || o.has 's', o.operands with
    | true, paths => paths.forM (fun path => c.print (without ((o.value? 's').getD "") (last path) ++ "\n"))
    | false, [path] => c.print (last path ++ "\n")
    | false, [path, ending] => c.print (without ending (last path) ++ "\n")
    | false, operands => c.misuse ("extra operand " ++ Quote.word ((operands.drop 2).head?.getD "")) 1)

/-- Shows what stands in front of the last names of paths. -/
def dirname (c : Call) : Action Unit :=
  c.withOptions { inOrder := true, least := 1 } (fun o => o.operands.forM (fun path => c.print (front path ++ "\n")))

/-! ## Links -/

/-- The target of the link at a path. -/
def linkTarget (k : Kernel) (path : Bytes) : Except Fault Bytes := do
  let id ← k.disk.resolveItself k.self.here path
  match k.disk.content? id with
  | some (.link target) => return target
  | some _ => throw .invalid
  | none => throw .noEntry

end Configurator.Tool.Name
