/-
Searching for lines that an expression matches.
-/
import Configurator.Tool.Expression
import Configurator.Tool.Basic

namespace Configurator.Tool.Search

open Host

/-- What is searched for and how it is shown. -/
structure Query where
  expression : Expression
  /-- Whether lines that do not match are meant. -/
  inverted : Bool
  /-- Whether only the number of lines is shown, or nothing. -/
  counts : Bool
  silent : Bool

/-- Searches by a descriptor; gives the fault that ended it and how many lines were found. A silent search ends
with the first. -/
def Query.searchIn (q : Query) (c : Call) (front : String) (number : Nat) : Action (Option Fault × Nat) := do
  match ← Work.readAll number with
  | .error fault => return (some fault, 0)
  | .ok bytes =>
    let (lines, rest) := linesIn bytes
    let lines := lines ++ if rest.isEmpty then [] else [Raw.ofArray rest]
    let found := lines.filter (fun line => q.expression.matchesIn line != q.inverted)
    if q.counts then c.print (front ++ toString found.length ++ "\n")
    else unless q.silent do found.forM (fun line => c.print (front ++ line ++ "\n"))
    return (none, found.length)

/-- Searches in files one after the other; tells whether something was found. -/
def Query.searchAll (q : Query) (c : Call) (named : Bool) : (found : Bool) → List String → Action Bool
  | found, [] => return found
  | found, file :: rest => do
    let number ← if file = "-" then pure (.ok 0) else Work.openFile file .reading
    match number with
    | .error fault =>
      c.flush
      c.fault (file ++ ": " ++ fault.words) 2
      q.searchAll c named found rest
    | .ok number =>
      let shown := if file = "-" then "(standard input)" else file
      let (fault, count) ← q.searchIn c (if named then shown ++ ":" else "") number
      unless file = "-" do Work.close number
      fault.forM (fun fault => do
        c.flush
        c.fault (shown ++ ": " ++ fault.words) 2)
      q.searchAll c named (found || count ≠ 0) rest

/-- Shows or counts the lines of files that an expression matches. -/
def grep (c : Call) : Action Unit :=
  c.withOptions { letters := "cD:qv", status := 2, least := 1, operand := "pattern" } (fun o => do
    if (o.value? 'D').any (fun method => method ≠ "read" && method ≠ "skip") then c.die "unknown devices method" 2
    let query : Query := {
      expression := .ofText (o.operands.head?.getD "")
      inverted := o.has 'v'
      counts := o.has 'c'
      silent := o.has 'q' }
    let files := if o.operands.length = 1 then ["-"] else o.operands.drop 1
    let found ← query.searchAll c (1 < files.length) false files
    if (← get).status = 0 && !found then setStatus 1)

end Configurator.Tool.Search
