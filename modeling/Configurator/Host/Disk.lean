/-
A disk: nodes with numbers, and directories that give names to nodes. One node can have several names
and, as long as somebody holds it open, none. Paths are resolved step by step: `.` stays, `..` goes up, a
name is looked up, and a symbolic link is replaced by its target, at most forty times.
-/
import Configurator.Workspace
import Std.Data.TreeMap

namespace Configurator.Host

/-! ## Nodes -/

abbrev NodeId := Nat

/-- A device. -/
inductive Device where
  /-- Takes everything and gives nothing. -/
  | null
  /-- Takes everything and gives zeros without end. -/
  | zero
  /-- Takes nothing for want of space and gives zeros without end. -/
  | full
  /-- A terminal, which is not there. -/
  | terminal
  deriving DecidableEq, Repr

/-- What a node holds. -/
inductive Content where
  | file (body : ByteArray)
  | link (target : Bytes)
  /-- A directory, with the one above it. -/
  | directory (above : NodeId) (entries : List (Name × NodeId))
  | device (device : Device)
  /-- Whatever the descriptor with a number leads to, of the process that asks. -/
  | descriptor (number : Nat)
  /-- A pipe with a name. -/
  | pipe (number : Nat)

/-- A node of a disk. -/
structure Node where
  content : Content
  /-- The permissions, three bits each for the owner, the group and all others, below three bits that
  are special. -/
  mode : Nat
  /-- When the node was changed last, in microseconds from the start of the run. -/
  modified : Int := 0

/-- Nodes by their numbers. -/
structure Disk where
  nodes : Std.TreeMap NodeId Node := {}
  /-- The number of the next new node. -/
  next : NodeId := 1

namespace Disk

def top : NodeId := 0

def content? (d : Disk) (id : NodeId) : Option Content := d.nodes[id]?.map (·.content)

/-- The entries of a directory. -/
def entries? (d : Disk) (id : NodeId) : Option (List (Name × NodeId)) :=
  match d.content? id with
  | some (.directory _ entries) => some entries
  | _ => none

def isDirectory (d : Disk) (id : NodeId) : Bool := (d.entries? id).isSome

/-- The contents of a file. -/
def body? (d : Disk) (id : NodeId) : Option ByteArray :=
  match d.content? id with
  | some (.file body) => some body
  | _ => none

/-! ## Resolving paths -/

/-- Where a link's target starts: at the top or in the directory of the link. -/
def linkStart (target : Bytes) (directory : NodeId) : NodeId :=
  if target.head? = some slash then top else directory

/-- Goes along the parts of a path from a node; `jump` goes on behind a link. -/
def stepsWith (d : Disk) (jump : NodeId → List Bytes → Except Fault NodeId) :
    NodeId → List Bytes → Except Fault NodeId
  | id, [] => .ok id
  | id, part :: rest =>
    match d.content? id with
    | some (.directory above entries) =>
      if part = [] || part = [dot] then stepsWith d jump id rest
      else if part = [dot, dot] then stepsWith d jump above rest
      else if Tree.nameLimit < part.length then .error .nameTooLong
      else
        match entries.lookup part with
        | none => .error .noEntry
        | some inner =>
          match d.content? inner with
          | some (.link target) => jump (linkStart target id) (Tree.parts target ++ rest)
          | _ => stepsWith d jump inner rest
    | some _ => .error .notDirectory
    | none => .error .noEntry

/-- Goes along the parts of a path from a node, following at most `budget` links. -/
def steps (d : Disk) : (budget : Nat) → NodeId → List Bytes → Except Fault NodeId
  | 0 => d.stepsWith (fun _ _ => .error .linkLoop)
  | budget + 1 => d.stepsWith (d.steps budget)

/-- Refuses what is no path at all. -/
def validate (path : Bytes) : Except Fault Unit :=
  if path.contains 0 then .error .nulInPath
  else if path = [] then .error .noEntry
  else if Workspace.pathLimit < path.length then .error .nameTooLong
  else .ok ()

/-- Where the parts of a path are looked up from. -/
def start (path : Bytes) (here : NodeId) : NodeId := if path.head? = some slash then top else here

/-- The node that a path leads to, links followed to the end. -/
def resolve (d : Disk) (here : NodeId) (path : Bytes) : Except Fault NodeId := do
  validate path
  d.steps Tree.linkLimit (start path here) (Tree.parts path)

/-- The place of an entry: the directory it stands in and its name there. -/
structure Slot where
  directory : NodeId
  name : Name
  /-- Whether the path ends in a slash, so that the entry has to be a directory. -/
  slashed : Bool := false

/-- The place that a path names, whether or not something stands there; the last part is taken as it
is. -/
def slot (d : Disk) (here : NodeId) (path : Bytes) : Except Fault Slot := do
  validate path
  let parts := ((Tree.parts path).reverse.dropWhile (· = [])).reverse
  let directory ← d.steps Tree.linkLimit (start path here) parts.dropLast
  if !d.isDirectory directory then throw .notDirectory
  let name := parts.getLast?.getD [dot]
  if Tree.nameLimit < name.length then throw .nameTooLong
  return ⟨directory, name, path.getLast? = some slash⟩

/-- Whether a name stands for a directory by its place alone. -/
def isRelative (name : Name) : Bool := name = [dot] || name = [dot, dot]

/-- The node under a name in a directory. -/
def find? (d : Disk) (directory : NodeId) (name : Name) : Option NodeId :=
  match d.content? directory with
  | some (.directory above entries) =>
    if name = [dot] then some directory
    else if name = [dot, dot] then some above
    else entries.lookup name
  | _ => none

/-- The node that a path leads to, a link in the last place not followed. -/
def resolveItself (d : Disk) (here : NodeId) (path : Bytes) : Except Fault NodeId := do
  let place ← d.slot here path
  if place.slashed then d.resolve here path
  else
    match d.find? place.directory place.name with
    | some id => return id
    | none => throw .noEntry

/-- The place where a file at the end of a path stands or would be made: a link in the last place is
followed, even to where nothing stands yet. `budget` bounds the number of such links. -/
def fileSlot (d : Disk) : (budget : Nat) → (here : NodeId) → (path : Bytes) → Except Fault Slot
  | 0, _, _ => .error .linkLoop
  | budget + 1, here, path => do
    let place ← d.slot here path
    match (d.find? place.directory place.name).bind d.content? with
    | some (.link target) => d.fileSlot budget place.directory target
    | _ => return place

/-- The names that lead from the top to a directory; `fuel` bounds their number. -/
def namesTo? (d : Disk) : (fuel : Nat) → NodeId → Option (List Name)
  | 0, _ => none
  | fuel + 1, id =>
    if id = top then some []
    else
      match d.content? id with
      | some (.directory above _) =>
        match (d.entries? above).getD [] |>.find? (fun (_, inner) => inner = id) with
        | some (name, _) => (namesTo? d fuel above).map (· ++ [name])
        | none => none
      | _ => none

/-- The absolute path of a directory that has one. -/
def pathTo? (d : Disk) (id : NodeId) : Option Bytes :=
  (d.namesTo? (d.next + 1) id).map (fun names => (Workspace.absolute names).bytes)

/-! ## Changing -/

/-- Changes a node. -/
def modify (d : Disk) (id : NodeId) (f : Node → Node) : Disk :=
  { d with nodes := d.nodes.alter id (·.map f) }

/-- Changes the entries of a directory. -/
def modifyEntries (d : Disk) (id : NodeId) (now : Int)
    (f : List (Name × NodeId) → List (Name × NodeId)) : Disk :=
  d.modify id (fun node =>
    match node.content with
    | .directory above entries => { node with content := .directory above (f entries), modified := now }
    | _ => node)

/-- Adds a node that has no name. -/
def add (d : Disk) (node : Node) : Disk × NodeId :=
  ({ nodes := d.nodes.insert d.next node, next := d.next + 1 }, d.next)

/-- Gives a node a name in a directory, in the place of what had that name or else last. -/
def enter (d : Disk) (directory : NodeId) (name : Name) (id : NodeId) (now : Int) : Disk :=
  d.modifyEntries directory now (fun entries =>
    if entries.any (fun (n, _) => n = name) then entries.map (fun (n, i) => (n, if n = name then id else i))
    else entries ++ [(name, id)])

/-- Takes a name out of a directory. -/
def leave (d : Disk) (directory : NodeId) (name : Name) (now : Int) : Disk :=
  d.modifyEntries directory now (·.filter (fun (n, _) => n ≠ name))

/-- Whether a directory can be given new entries: one that was removed cannot. -/
def isAttached (d : Disk) (id : NodeId) : Bool := (d.pathTo? id).isSome

/-- Makes a node under a name. -/
def create (d : Disk) (directory : NodeId) (name : Name) (node : Node) (now : Int) :
    Except Fault (Disk × NodeId) :=
  if !d.isAttached directory then .error .noEntry
  else
    let (d, id) := d.add node
    .ok (d.enter directory name id now, id)

/-- Makes a directory. -/
def makeDirectory (d : Disk) (here : NodeId) (path : Bytes) (mode : Nat) (now : Int) :
    Except Fault (Disk × NodeId) := do
  let place ← d.slot here path
  if (d.find? place.directory place.name).isSome then throw .alreadyExists
  d.create place.directory place.name ⟨.directory place.directory [], mode, now⟩ now

/-- Makes a symbolic link. -/
def makeLink (d : Disk) (here : NodeId) (path target : Bytes) (now : Int) : Except Fault Disk := do
  if target = [] then throw .noEntry
  let place ← d.slot here path
  if (d.find? place.directory place.name).isSome then throw .alreadyExists
  if place.slashed then throw .noEntry
  return (← d.create place.directory place.name ⟨.link target, 0o777, now⟩ now).1

/-- Gives a node that is no directory another name. -/
def nameAgain (d : Disk) (here : NodeId) (id : NodeId) (path : Bytes) (now : Int) : Except Fault Disk := do
  let place ← d.slot here path
  if (d.find? place.directory place.name).isSome then throw .alreadyExists
  if d.isDirectory id then throw .notPermitted
  if place.slashed || !d.isAttached place.directory then throw .noEntry
  return d.enter place.directory place.name id now

/-- Takes away the name of something that is no directory. -/
def unlink (d : Disk) (here : NodeId) (path : Bytes) (now : Int) : Except Fault Disk := do
  let place ← d.slot here path
  match d.find? place.directory place.name with
  | none => throw .noEntry
  | some id =>
    if d.isDirectory id then throw .isDirectory
    if place.slashed then throw .notDirectory
    return d.leave place.directory place.name now

/-- Removes an empty directory. -/
def removeDirectory (d : Disk) (here : NodeId) (path : Bytes) (now : Int) : Except Fault Disk := do
  let place ← d.slot here path
  if place.name = [dot] then throw .invalid
  if place.name = [dot, dot] then throw .notEmpty
  match d.find? place.directory place.name with
  | none => throw .noEntry
  | some id =>
    match d.entries? id with
    | none => throw .notDirectory
    | some [] => return d.leave place.directory place.name now
    | some _ => throw .notEmpty

/-- Whether a directory is another one or lies below it; `fuel` bounds how deep. -/
def isBelow (d : Disk) (outer : NodeId) : (fuel : Nat) → NodeId → Bool
  | 0, _ => false
  | fuel + 1, id =>
    id = outer || (id ≠ top &&
      match d.content? id with
      | some (.directory above _) => isBelow d outer fuel above
      | _ => false)

/-- Moves an entry, to take the place of what stands at the target if it can. -/
def rename (d : Disk) (here : NodeId) (source target : Bytes) (now : Int) : Except Fault Disk := do
  let old ← d.slot here source
  let new ← d.slot here target
  match d.find? old.directory old.name with
  | none => throw .noEntry
  | some id =>
    if isRelative old.name || isRelative new.name then throw .invalid
    let isDirectory := d.isDirectory id
    if !isDirectory && (old.slashed || new.slashed) then throw .notDirectory
    if isDirectory && d.isBelow id (d.next + 1) new.directory then throw .invalid
    match d.find? new.directory new.name with
    | some there =>
      if there = id then return d
      match d.entries? there with
      | some entries =>
        if !isDirectory then throw .isDirectory
        if !entries.isEmpty then throw .notEmpty
      | none => if isDirectory then throw .notDirectory
    | none => if !d.isAttached new.directory then throw .noEntry
    let d := (d.leave old.directory old.name now).enter new.directory new.name id now
    return d.modify id (fun node =>
      match node.content with
      | .directory _ entries => { node with content := .directory new.directory entries }
      | _ => node)

/-! ## Trees -/

def fileMode (executable : Bool) : Nat := if executable then 0o755 else 0o644

/-- Adds the entries of a tree to a directory. -/
def graft (directory : NodeId) : Tree → Disk → Disk
  | .empty, d => d
  | .leaf name leaf rest, d =>
    let node : Node := match leaf with
      | .file body executable => ⟨.file ⟨body.toArray⟩, fileMode executable, 0⟩
      | .link target => ⟨.link target, 0o777, 0⟩
    let (d, id) := d.add node
    graft directory rest (d.enter directory name id 0)
  | .dir name inside rest, d =>
    let (d, id) := d.add ⟨.directory directory [], 0o755, 0⟩
    graft directory rest (graft id inside (d.enter directory name id 0))

/-- The disk that a tree pictures. -/
def ofTree (tree : Tree) : Disk :=
  graft top tree { nodes := ({} : Std.TreeMap NodeId Node).insert top ⟨.directory top [], 0o755, 0⟩ }

def isExecutable (mode : Nat) : Bool := mode &&& 0o111 ≠ 0

/-- The tree of entries; what is neither a file, a link nor a directory is pictured as an empty file.
`depth` bounds how deep directories stand in one another. -/
def picture (d : Disk) : (depth : Nat) → List (Name × NodeId) → Tree
  | 0, _ => .empty
  | depth + 1, entries => entries.foldr (fun (name, id) rest =>
      match d.nodes[id]? with
      | some node =>
        match node.content with
        | .directory _ inside => .dir name (picture d depth inside) rest
        | .file body => .leaf name (.file body.toList (isExecutable node.mode)) rest
        | .link target => .leaf name (.link target) rest
        | _ => .leaf name (.file [] false) rest
      | none => rest) .empty

def toTree (d : Disk) : Tree := d.picture (d.next + 1) ((d.entries? top).getD [])

end Disk

end Configurator.Host
