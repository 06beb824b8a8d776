/-
A file system seen from a working directory. Paths are resolved step by step: `.` stays, `..` goes
up, a name is looked up, and a symbolic link is replaced by its target, at most forty times. The
tools for laying out a tree, making directories, writing files and removing entries work on resolved
places.
-/
import Configurator.Fault
import Configurator.Path
import Configurator.Tree

namespace Configurator

/-- A whole file system and the working directory in it, named from the top. -/
structure Workspace where
  tree : Tree
  here : List Name
  deriving DecidableEq, Repr, Inhabited

/-- Where a path leads: the names from the top, without links, and what stands there. -/
structure Place where
  names : List Name
  entry : Entry
  deriving DecidableEq, Repr

namespace Tree

/-! ## Resolving paths -/

/-- How many links may be followed on the way along one path. -/
def linkLimit : Nat := 40

/-- How many bytes the name of an entry may have. -/
def nameLimit : Nat := 255

/-- The parts of a path or of a link's target, empty ones included. -/
def parts (bytes : Bytes) : List Bytes := Text.pieces slash bytes

/-- Where a link's target starts: at the top or in the directory of the link. -/
def linkStart (target : Bytes) (directory : List Name) : List Name :=
  if target.head? = some slash then [] else directory

/-- Goes along the parts of a path from a place; `jump` goes on behind a link. -/
def stepsWith (tree : Tree) (jump : List Name → List Bytes → Except Fault Place) :
    List Name → List Bytes → Except Fault Place
  | names, [] =>
    match tree.get? names with
    | some entry => .ok ⟨names, entry⟩
    | none => .error .noEntry
  | names, part :: rest =>
    match tree.get? names with
    | none => .error .noEntry
    | some (.leaf _) => .error .notDirectory
    | some (.dir inside) =>
      if part = [] || part = [dot] then stepsWith tree jump names rest
      else if part = [dot, dot] then stepsWith tree jump names.dropLast rest
      else if nameLimit < part.length then .error .nameTooLong
      else
        match inside.find? part with
        | none => .error .noEntry
        | some (.leaf (.link target)) => jump (linkStart target names) (parts target ++ rest)
        | some _ => stepsWith tree jump (names ++ [part]) rest

/-- Goes along the parts of a path from a place, following at most `budget` links. -/
def steps (tree : Tree) : (budget : Nat) → List Name → List Bytes → Except Fault Place
  | 0 => tree.stepsWith (fun _ _ => .error .linkLoop)
  | budget + 1 => tree.stepsWith (tree.steps budget)

end Tree

namespace Workspace

/-- How many bytes a path may have that is handed over as a whole. -/
def pathLimit : Nat := 4095

/-- The place where the parts of a path are looked up from. -/
def start (ws : Workspace) (path : Path) : List Name := if path.isAbsolute then [] else ws.here

/-- Where a path leads, links followed to the end, when it is taken part by part. -/
def follow (ws : Workspace) (path : Path) : Except Fault Place :=
  if path.bytes.contains 0 then .error .nulInPath
  else if path.bytes = [] then .error .noEntry
  else ws.tree.steps Tree.linkLimit (ws.start path) (Tree.parts path.bytes)

/-- Where a path leads, links followed to the end. -/
def resolve (ws : Workspace) (path : Path) : Except Fault Place :=
  if path.bytes.contains 0 then .error .nulInPath
  else if pathLimit < path.bytes.length then .error .nameTooLong
  else ws.follow path

/-- Whether a path leads to a directory. -/
def isDirectory (ws : Workspace) (path : Path) : Bool :=
  match ws.resolve path with
  | .ok ⟨_, .dir _⟩ => true
  | _ => false

/-- The absolute path of a place. -/
def absolute (names : List Name) : Path :=
  if names = [] then ⟨[slash]⟩ else ⟨names.flatMap (slash :: ·)⟩

/-! ## Changing the tree -/

/-- Makes a directory in the directory at a place. -/
def makeDirectoryAt (ws : Workspace) (names : List Name) (name : Name) : Except Fault Workspace :=
  match ws.tree.get? names with
  | none => .error .noEntry
  | some (.leaf _) => .error .notDirectory
  | some (.dir inside) =>
    match inside.find? name with
    | some _ => .error .alreadyExists
    | none => .ok { ws with tree := ws.tree.modifyAt names (Tree.put name (.dir .empty)) }

/-- Makes a directory in the working directory, unless its name leads to one already. -/
def ensureDirectory (ws : Workspace) (name : Name) : Except Fault Workspace :=
  match ws.makeDirectoryAt ws.here name with
  | .ok made => .ok made
  | .error fault => if ws.isDirectory ⟨name⟩ then .ok ws else .error fault

/-- Goes along parts from a place, making the directories that are missing. -/
def makeDirectories (ws : Workspace) (names : List Name) :
    List Bytes → Except Fault (Workspace × List Name)
  | [] => .ok (ws, names)
  | part :: rest =>
    match ws.tree.steps Tree.linkLimit names [part] with
    | .ok ⟨inner, .dir _⟩ => makeDirectories ws inner rest
    | .ok ⟨_, .leaf _⟩ => .error .notDirectory
    | .error .noEntry => do
      let made ← ws.makeDirectoryAt names part
      makeDirectories made (names ++ [part]) rest
    | .error fault => .error fault

/-- The directory and the name under which a file at the end of a path stands or would be made. A
link in the last place is followed, even to where nothing stands yet; `budget` bounds the number of
such links. -/
def slot (tree : Tree) : (budget : Nat) → List Name → List Bytes → Except Fault (List Name × Name)
  | 0, _, _ => .error .linkLoop
  | budget + 1, names, parts =>
    match tree.steps Tree.linkLimit names parts.dropLast with
    | .error fault => .error fault
    | .ok ⟨_, .leaf _⟩ => .error .notDirectory
    | .ok ⟨directory, .dir inside⟩ =>
      let name := parts.getLast?.getD []
      if name = [] || name = [dot] || name = [dot, dot] then .error .isDirectory
      else if Tree.nameLimit < name.length then .error .nameTooLong
      else
        match inside.find? name with
        | some (.dir _) => .error .isDirectory
        | some (.leaf (.link target)) =>
          slot tree budget (Tree.linkStart target directory) (Tree.parts target)
        | _ => .ok (directory, name)

/-- Writes a file whose directory exists. -/
def putFile (ws : Workspace) (names : List Name) (parts : List Bytes) (body : Bytes)
    (executable : Bool) : Except Fault Workspace :=
  match slot ws.tree Tree.linkLimit names parts with
  | .error fault => .error fault
  | .ok (directory, name) =>
    .ok { ws with tree := ws.tree.modifyAt directory (Tree.put name (.leaf (.file body executable))) }

/-- Something to be laid out in a tree. -/
inductive Item where
  | directory (path : Path)
  | file (path : Path) (body : Bytes) (executable : Bool)
  | link (path : Path) (target : Bytes)
  deriving DecidableEq, Repr

/-- Lays out one item, with the directories above it. -/
def lay (ws : Workspace) : Item → Except Fault Workspace
  | .directory path => return (← ws.makeDirectories (ws.start path) (Tree.parts path.bytes)).1
  | .file path body executable => do
    let parts := Tree.parts path.bytes
    let (made, names) ← ws.makeDirectories (ws.start path) parts.dropLast
    made.putFile names (parts.drop (parts.length - 1)) body executable
  | .link path target => do
    let parts := Tree.parts path.bytes
    let (made, names) ← ws.makeDirectories (ws.start path) parts.dropLast
    let linked := Tree.put (parts.getLast?.getD []) (.leaf (.link target))
    return { made with tree := made.tree.modifyAt names linked }

/-- Lays out items one after the other. -/
def layAll (ws : Workspace) (items : List Item) : Except Fault Workspace := items.foldlM lay ws

/-- Removes the entry that a path names, a directory with its contents; the last name of the path
is not followed. -/
def remove (ws : Workspace) (path : Path) : Except Fault Workspace :=
  let written := Tree.parts path.bytes
  let parts := if written.getLast? = some [] then written.dropLast else written
  match ws.tree.steps Tree.linkLimit (ws.start path) parts.dropLast with
  | .ok ⟨names, .dir inside⟩ =>
    let name := parts.getLast?.getD []
    if (inside.find? name).isSome then
      .ok { ws with tree := ws.tree.modifyAt names (Tree.erase name) }
    else .error .noEntry
  | .ok ⟨_, .leaf _⟩ => .error .notDirectory
  | .error fault => .error fault

/-- The paths of everything below the working directory, as seen from it. -/
def listing (ws : Workspace) : List Path :=
  match ws.tree.get? ws.here with
  | some (.dir inside) =>
    inside.walk.map (fun (names, _) => ⟨(names.flatMap (slash :: ·)).drop 1⟩)
  | _ => []

end Workspace

end Configurator
