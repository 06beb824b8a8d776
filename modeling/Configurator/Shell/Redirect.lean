/-
Redirections: where the descriptors of a command lead, and how they lead back.
-/
import Configurator.Shell.Expand
import Configurator.Shell.Jobs

namespace Configurator.Shell.Redirect

open Host

/-! ## Keeping descriptors -/

/-- A descriptor that leads elsewhere for a while, and the descriptor by which the shell keeps what it
led to, if it led anywhere. -/
structure Kept where
  descriptor : Nat
  place : Option Nat
  deriving DecidableEq, Repr

/-- The lowest descriptor that a shell uses for itself. -/
def lowest : Nat := 10

/-- Moves a descriptor to the first free one of those that a shell uses for itself; gives its new number. -/
def hide (descriptor : Nat) (k : Kernel) : Nat × Kernel :=
  match k.descriptor? descriptor with
  | none => (descriptor, k)
  | some d =>
    let place := k.freeDescriptor lowest
    (place, (k.point place ⟨d.file, true⟩).close descriptor)

/-- Keeps what a descriptor leads to. -/
def keep (descriptor : Nat) (k : Kernel) : Kept × Kernel :=
  match k.descriptor? descriptor with
  | none => (⟨descriptor, none⟩, k)
  | some _ =>
    let (place, k) := hide descriptor k
    (⟨descriptor, some place⟩, k)

/-- Lets a descriptor lead back to where it led. -/
def giveBack (kept : Kept) (k : Kernel) : Kernel :=
  match kept.place with
  | none => k.close kept.descriptor
  | some place =>
    match k.descriptor? place with
    | some d => (k.point kept.descriptor ⟨d.file, false⟩).close place
    | none => k

/-- Drops what a descriptor led to. -/
def letGo (kept : Kept) (k : Kernel) : Kernel :=
  match kept.place with
  | none => k
  | some place => k.close place

/-! ## Opening -/

/-- Why a file cannot be opened, in the words of the shell. -/
def openText (missing : String) : Fault → String
  | .noEntry | .notDirectory => missing
  | fault => fault.words

/-- The complaint about a file that cannot be opened. -/
def complaint (verb missing path : String) (fault : Fault) : String :=
  "cannot " ++ verb ++ " " ++ path ++ ": " ++ openText missing fault

/-- Opens the file at a path for reading, or tells why that cannot be done. -/
def openInput (path : String) : Action (Except String Nat) := do
  match ← Work.openFile path .reading with
  | .ok number => return .ok number
  | .error fault => return .error (complaint "open" "No such file" path fault)

/-- Opens the file at a path for writing, or tells why that cannot be done. -/
def openOutput (path : String) (manner : Kernel.Manner) : Action (Except String Nat) := do
  match ← Work.openFile path manner with
  | .ok number => return .ok number
  | .error fault => return .error (complaint "create" "Directory nonexistent" path fault)

/-- A descriptor from which a text can be read. -/
def openText? (text : String) : Action Nat := Work.system (fun k =>
  let (k, pipe) := k.addPipe { content := Raw.toArray text }
  let (k, number) := k.hold { target := .pipe pipe, readable := true, writable := false }
  (number, k))

/-- Opens what a redirection asks for. -/
def openFor (kind : Redirect) (text : String) : Action (Except String Nat) := do
  match kind with
  | .here => return .ok (← openText? text)
  | .line => return .ok (← openText? (text ++ "\n"))
  | .input => openInput text
  | .both =>
    openOutput text { readable := true, writable := true, creates := some 0o666 }
  | .append => openOutput text .appending
  | .output | .overwrite | .duplicate => openOutput text .writing

/-! ## Redirecting -/

/-- A redirection whose word is a text by now. -/
structure Ready where
  descriptor : Nat
  kind : Redirect
  text : String

/-- Keeps what a descriptor leads to, unless that has been done. -/
def keepOnce (kept : List Kept) (descriptor : Nat) : Action (List Kept) := do
  if kept.any (fun other => other.descriptor = descriptor) then return kept
  else return (← Work.system (keep descriptor)) :: kept

/-- Makes a descriptor lead to where a number leads that was opened for it. -/
def lead (kept : List Kept) (descriptor number : Nat) : Action (List Kept) := do
  if number = descriptor then
    let isKept := kept.any (fun other => other.descriptor = descriptor)
    return if isKept then kept else ⟨descriptor, none⟩ :: kept
  else
    let kept ← keepOnce kept descriptor
    let _ ← Work.attemptChange (·.duplicate number descriptor)
    Work.close number
    return kept

/-- Makes a descriptor lead to where another one leads. -/
def copy (kept : List Kept) (descriptor number : Nat) : Action (List Kept × Option String) := do
  if (← Work.look (·.descriptor? number)).isNone then
    return (kept, some (toString number ++ ": Bad file descriptor"))
  else if number = descriptor then return (kept, none)
  else
    let kept ← keepOnce kept descriptor
    let _ ← Work.attemptChange (·.duplicate number descriptor)
    return (kept, none)

/-- Makes one descriptor lead to where a redirection says; gives what was kept, the latest first, and what
went wrong. -/
def one (kept : List Kept) (r : Ready) : Action (List Kept × Option String) := do
  match r.kind with
  | .duplicate =>
    if r.text = "-" then
      let kept ← keepOnce kept r.descriptor
      Work.close r.descriptor
      return (kept, none)
    else copy kept r.descriptor ((Operand.digits? r.text).getD 0)
  | kind =>
    match ← openFor kind r.text with
    | .error complaint => return (kept, some complaint)
    | .ok number => return (← lead kept r.descriptor number, none)

/-- Redirects descriptors one after the other; gives what was kept, the latest first, and whether all went
well. -/
def all (kept : List Kept) : List Ready → Action (List Kept × Bool)
  | [] => return (kept, true)
  | r :: rest => do
    match ← one kept r with
    | (kept, none) => all kept rest
    | (kept, some complaint) =>
      complain complaint
      setStatus 2
      return (kept, false)

/-- The texts of redirections. Only a digit or a hyphen names a descriptor. -/
def texts (sub : Expand.Substitution) : List (Redirection Word) → Action (List Ready)
  | [] => return []
  | r :: rest => do
    let text ← if r.kind = .here then Expand.document sub r.word else Expand.text sub r.word
    let isDescriptor := text = "-" || (text.length = 1 && text.toList.all Char.isDigit)
    if r.kind = .duplicate && !isDescriptor && (← isGoing) then
      modify (fun s => { s with line := s.reached })
      abort "Syntax error: Bad fd number"
    if ← isGoing then return { descriptor := r.descriptor, kind := r.kind, text := text } :: (← texts sub rest)
    else return []

/-- Redirects the descriptors of a process for good; tells whether all went well. -/
def forGood (sub : Expand.Substitution) (redirections : List (Redirection Word)) : Action Bool := do
  let texts ← texts sub redirections
  if ← isGoing then
    let (kept, opened) ← all [] texts
    Work.change (fun k => kept.foldl (fun k kept => letGo kept k) k)
    return opened
  else return false

/-- Does something with redirected descriptors, which lead back to where they led afterwards, unless they
are redirected for good. The action is given the descriptor that leads where errors led before. A failed
redirection is a failure. -/
def within (sub : Expand.Substitution) (redirections : List (Redirection Word)) (forGood : Bool)
    (action : (errors : Nat) → Action Unit) : Action Bool := do
  let texts ← texts sub redirections
  if !(← isGoing) then return false
  let (kept, opened) ← all [] texts
  if opened then
    let errors := (kept.find? (fun kept => kept.descriptor = 2)).map (fun kept => kept.place.getD 2)
    action (errors.getD 2)
  let settle := if forGood && opened then letGo else giveBack
  Work.change (fun k => kept.foldl (fun k kept => settle kept k) k)
  return opened

end Configurator.Shell.Redirect
