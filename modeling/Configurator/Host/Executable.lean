/-
Executable files and how the system starts them. An executable file is a program of the machine or
begins with a line that names an interpreter, which is then started with the path of the file as an
argument; the interpreter may itself be such a file, a few levels deep. A name without a slash is
looked for along the search path. Main statement: the program that is started in the end gets the
arguments as its last ones.
-/
import Configurator.Host.Kernel

namespace Configurator.Host.Executable

/-- A program of the machine with its arguments, the name under which it is started first. -/
structure Launch where
  program : Bytes
  argv : List Bytes
  deriving DecidableEq, Repr

/-! ## Files -/

/-- The bytes with which the file of a program of the machine begins. -/
def mark : Bytes := 0x7F :: Utf8.bytes "ELF" ++ [2, 1, 1] ++ List.replicate 9 0

/-- The file of a program of the machine. -/
def native (name : String) : Leaf := .file (mark ++ Utf8.bytes name) true

/-- The program in a file, if it is one of the machine. -/
def nativeName? (body : Bytes) : Option Bytes :=
  if mark.isPrefixOf body then some (body.drop mark.length) else none

/-- The contents of the executable file at a path. One that is open for writing cannot be started. -/
def contents (k : Kernel) (path : Path) : Except Fault Bytes :=
  match k.disk.resolve k.self.here path.bytes with
  | .error fault => .error fault
  | .ok id =>
    match k.disk.nodes[id]? with
    | some ⟨.file body, mode, _⟩ =>
      if !Disk.isExecutable mode then .error .denied
      else if k.isOpen (fun file => file.writable && file.target = .node id) then .error .fileBusy
      else .ok body.toList
    | _ => .error .denied

/-- Whether an executable file is at a path. -/
def isThere (k : Kernel) (path : Path) : Bool :=
  match contents k path with
  | .ok _ | .error .fileBusy => true
  | .error _ => false

/-! ## The first line -/

/-- How many bytes of a file are looked at. -/
def headSize : Nat := 256

/-- The first bytes of a file, filled up with zeros. -/
def head (body : Bytes) : Bytes := (body ++ List.replicate headSize 0).take headSize

def isBlank (b : UInt8) : Bool := b = 0x20 || b = 0x09

def isEnd (b : UInt8) : Bool := isBlank b || b = 0

def trimEnd (bytes : Bytes) : Bytes := (bytes.reverse.dropWhile isBlank).reverse

/-- What stands behind the first two bytes on the first line. A line that does not end within the
bytes looked at counts only if the name in it does. -/
def line? (bytes : Bytes) : Option Bytes :=
  if (bytes.takeWhile (· ≠ 0)).contains 0x0A then some (trimEnd (bytes.takeWhile (· ≠ 0x0A)))
  else if (bytes.dropWhile isBlank).any isEnd then some (trimEnd bytes.dropLast)
  else none

/-- The interpreter and its argument. -/
structure Interpreter where
  path : Path
  argument : Option Bytes
  deriving DecidableEq, Repr

/-- The interpreter that a file names. -/
def interpreter? (body : Bytes) : Option Interpreter :=
  match head body with
  | 0x23 :: 0x21 :: rest =>
    match (line? rest).map (·.dropWhile isBlank) with
    | none | some [] => none
    | some line =>
      let behind := line.dropWhile (!isEnd ·)
      some {
        path := ⟨line.takeWhile (!isEnd ·)⟩
        argument := if behind.head?.any isBlank then some ((behind.dropWhile isBlank).takeWhile (· ≠ 0))
          else none }
  | _ => none

/-! ## Starting -/

/-- How deep interpreters may stand behind one another. -/
def depthLimit : Nat := 5

/-- What starting the file at a path comes to; `depth` is how many more interpreters may follow. -/
def launch (k : Kernel) : (depth : Nat) → Path → List Bytes → Except Fault Launch
  | depth, path, argv =>
    match contents k path with
    | .error fault => .error fault
    | .ok body =>
      match nativeName? body, interpreter? body with
      | some program, _ => .ok ⟨program, argv⟩
      | none, none => .error .execFormat
      | none, some interpreter =>
        if interpreter.path.bytes = [] then .error .denied
        else
          let argv := interpreter.path.bytes :: interpreter.argument.toList ++ path.bytes :: argv.drop 1
          match depth with
          | 0 => (contents k interpreter.path).bind (fun _ => .error .linkLoop)
          | depth + 1 => launch k depth interpreter.path argv

/-- The directories in which names without a slash are looked for, as one text. -/
def searchPath : String := "/usr/local/sbin:/usr/local/bin:/usr/sbin:/usr/bin:/sbin:/bin"

/-- The directories of a search path; an empty one is the working directory. -/
def directories (path : Bytes) : List Path :=
  (Text.pieces 0x3A path).map (fun part => ⟨if part = [] then [dot] else part⟩)

/-- What starting the first program with a name in a list of directories comes to; a refused one
counts only when no other is found. -/
def search (k : Kernel) (name : Path) (argv : List Bytes) (refused : Bool) :
    List Path → Except Fault Launch
  | [] => .error (if refused then .denied else .noEntry)
  | directory :: rest =>
    match launch k depthLimit (directory.join name) argv with
    | .ok found => .ok found
    | .error .noEntry | .error .notDirectory => search k name argv refused rest
    | .error .denied => search k name argv true rest
    | .error fault => .error fault

/-- What starting a program under a name comes to. -/
def find (k : Kernel) (path name : Bytes) (args : List Bytes) : Except Fault Launch :=
  if name = [] then .error .noEntry
  else if name.contains slash then launch k depthLimit ⟨name⟩ (name :: args)
  else search k ⟨name⟩ (name :: args) false (directories path)

/-- The path under which a program with a name is found. -/
def locate? (k : Kernel) (path name : Bytes) : Option Path :=
  if name.contains slash then
    if isThere k ⟨name⟩ then some ⟨name⟩ else none
  else ((directories path).map (·.join ⟨name⟩)).find? (isThere k)

/-- The file of the shell that runs scripts which name no interpreter, unless told otherwise. -/
def shellPath : String := "/bin/sh"

/-- What starting a program under a name comes to. A file that the system cannot start is taken for a script,
which the shell in a file runs, if its contents are acceptable. -/
def findOrScript (k : Kernel) (shell : String) (accepts : Bytes → Bool) (path name : Bytes) (args : List Bytes) :
    Except Fault Launch :=
  match find k path name args with
  | .error .execFormat =>
    match locate? k path name with
    | some place =>
      if (contents k place).toOption.any accepts then find k [] (Utf8.bytes shell) (place.bytes :: args)
      else .error .execFormat
    | none => .error .execFormat
  | found => found

/-! ## What is started -/

/-- Whatever interpreters stand in between, the program that is started in the end gets the arguments as its last
ones. -/
theorem launch_args {k : Kernel} {depth : Nat} {path : Path} {argv : List Bytes} {found : Launch}
    (h : launch k depth path argv = .ok found) : argv.drop 1 <:+ found.argv := by
  -- an interpreter gets the path of the file in front of its arguments, and may name an interpreter in turn
  induction depth generalizing path argv with
  | zero =>
    unfold launch at h
    split at h
    · cases h
    · split at h
      · cases h
        exact List.drop_suffix 1 argv
      · cases h
      · split at h
        · cases h
        · simp only [Except.bind] at h
          split at h <;> cases h
  | succ depth ih =>
    unfold launch at h
    split at h
    · cases h
    · split at h
      · cases h
        exact List.drop_suffix 1 argv
      · cases h
      · split at h
        · cases h
        · refine List.IsSuffix.trans ?_ (ih h)
          simp only [List.cons_append, List.drop_succ_cons, List.drop_zero]
          exact (List.suffix_cons _ _).trans (List.suffix_append _ _)

theorem search_args {k : Kernel} {name : Path} {argv : List Bytes} {refused : Bool} {found : Launch}
    {directories : List Path} (h : search k name argv refused directories = .ok found) :
    argv.drop 1 <:+ found.argv := by
  induction directories generalizing refused with
  | nil => cases h
  | cons directory rest ih =>
    unfold search at h
    split at h
    · next hlaunch =>
      cases h
      exact launch_args hlaunch
    · exact ih h
    · exact ih h
    · exact ih h
    · cases h

/-- A program that is found under a name gets its arguments as they are, as its last ones. -/
theorem find_args {k : Kernel} {path name : Bytes} {args : List Bytes} {found : Launch}
    (h : find k path name args = .ok found) : args <:+ found.argv := by
  unfold find at h
  split at h
  · cases h
  · split at h
    · exact launch_args h
    · exact search_args h

end Configurator.Host.Executable
