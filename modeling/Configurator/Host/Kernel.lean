/-
The kernel: the disk, the processes and what they share. A process holds numbered descriptors. Each leads
to an open file, which several descriptors of several processes may share: they share the place up to
which it was read or written. An open file is a node of the disk or one side of a pipe. Processes are
started as copies of others, get signals, and when they end leave word for the one that started them.
-/
import Configurator.Host.Disk
import Configurator.Host.Signal

namespace Configurator.Host

/-- How a process ended. -/
inductive Ending where
  | exited (status : Nat)
  /-- By a signal. -/
  | killed (signal : Nat)
  deriving DecidableEq, Repr

/-- What is open: a node or a pipe. -/
inductive Target where
  | node (id : NodeId)
  | pipe (number : Nat)
  deriving DecidableEq, Repr

/-- An open file. -/
structure Opened where
  target : Target
  readable : Bool
  writable : Bool
  /-- Whether everything is written behind the end. -/
  appends : Bool := false
  /-- The place up to which the file was read or written. -/
  offset : Nat := 0
  deriving DecidableEq, Repr

/-- Access to an open file. -/
structure Descriptor where
  /-- The number of the open file. -/
  file : Nat
  /-- Whether a program that takes the place of the present one does not get it. -/
  closing : Bool := false
  deriving DecidableEq, Repr

/-- A pipe: what was written and not yet read. -/
structure Pipe where
  content : ByteArray := .empty
  /-- How many bytes of the content have been read. -/
  passed : Nat := 0
  /-- Whether somebody outside reads it, who takes everything. -/
  drained : Bool := false

/-- How many bytes a pipe holds. -/
def Pipe.capacity : Nat := 65536

/-- How many bytes are written to a pipe all at once or not at all. -/
def Pipe.atomic : Nat := 4096

/-- How many bytes can be read. -/
def Pipe.size (p : Pipe) : Nat := p.content.size - p.passed

/-- How many bytes can be written, if that is limited. -/
def Pipe.room? (p : Pipe) : Option Nat := if p.drained then none else some (Pipe.capacity - p.size)

/-- Takes bytes out of a pipe. -/
def Pipe.take (p : Pipe) (count : Nat) : ByteArray × Pipe :=
  let stop := min p.content.size (p.passed + count)
  let bytes := p.content.extract p.passed stop
  (bytes, if stop = p.content.size then { p with content := .empty, passed := 0 } else { p with passed := stop })

/-- Puts bytes into a pipe. -/
def Pipe.put (p : Pipe) (bytes : ByteArray) : Pipe :=
  if p.passed < Pipe.capacity then { p with content := p.content ++ bytes }
  else { p with content := p.content.extract p.passed p.content.size ++ bytes, passed := 0 }

/-- A process. -/
structure Process where
  /-- The process that started it. -/
  parent : Nat
  descriptors : List (Nat × Descriptor) := []
  /-- Its working directory. -/
  here : NodeId := Disk.top
  /-- The permissions that its new files do not get. -/
  mask : Nat := 0o022
  /-- The signals that it ignores. -/
  ignored : List Nat := []
  /-- The signals that it takes note of. -/
  noted : List Nat := []
  /-- The signals that it was to take note of and has not yet. -/
  pending : List Nat := []
  /-- The signal that ends it. -/
  doom : Option Nat := none
  /-- Whether it stands still. -/
  stopped : Bool := false
  deriving Repr

/-- How the process that everything is about ended, and what had been written outside by then. -/
structure Verdict where
  ending : Ending
  output : ByteArray
  errors : ByteArray

/-- The disk, the processes and what they share. -/
structure Kernel where
  disk : Disk
  files : Std.TreeMap Nat Opened := {}
  pipes : Std.TreeMap Nat Pipe := {}
  processes : Std.TreeMap Nat Process := {}
  /-- The processes that have ended and whose parents have not been told, the latest last. -/
  ended : List (Nat × Nat × Ending) := []
  /-- The process that is at work. -/
  current : Nat := 0
  /-- The time, in microseconds from the start of the run. -/
  now : Nat := 0
  nextFile : Nat := 0
  nextPipe : Nat := 0
  nextProcess : Nat := 0
  /-- The process that everything is about. -/
  main : Nat := 0
  verdict : Option Verdict := none

namespace Kernel

def inputPipe : Nat := 0

def outputPipe : Nat := 1

def errorsPipe : Nat := 2

/-- What a pipe holds. -/
def held (k : Kernel) (pipe : Nat) : ByteArray :=
  match k.pipes[pipe]? with
  | some p => p.content.extract p.passed p.content.size
  | none => .empty

/-! ## Processes -/

def self (k : Kernel) : Process := (k.processes[k.current]?).getD { parent := 0 }

/-- Changes a process. -/
def modifyProcess (k : Kernel) (number : Nat) (f : Process → Process) : Kernel :=
  { k with processes := k.processes.alter number (·.map f) }

def modifySelf (k : Kernel) (f : Process → Process) : Kernel := k.modifyProcess k.current f

def spend (k : Kernel) (time : Nat) : Kernel := { k with now := k.now + time }

/-- The time as a time of change. -/
def stamp (k : Kernel) : Int := k.now

/-! ## Open files -/

def descriptor? (k : Kernel) (number : Nat) : Option Descriptor := k.self.descriptors.lookup number

def opened? (k : Kernel) (number : Nat) : Option Opened := (k.descriptor? number).bind (k.files[·.file]?)

/-- Whether some process has an open file. -/
def isHeld (k : Kernel) (file : Nat) : Bool :=
  k.processes.any (fun _ p => p.descriptors.any (fun (_, d) => d.file = file))

/-- Whether some process has something open in some way. -/
def isOpen (k : Kernel) (test : Opened → Bool) : Bool :=
  k.processes.any (fun _ p => p.descriptors.any (fun (_, d) => (k.files[d.file]?).any test))

/-- Whether somebody may still read a pipe. -/
def isRead (k : Kernel) (pipe : Nat) : Bool :=
  (k.pipes[pipe]?).any (·.drained) || k.isOpen (fun file => file.readable && file.target = .pipe pipe)

/-- Whether somebody may still write to a pipe. -/
def isWritten (k : Kernel) (pipe : Nat) : Bool :=
  k.isOpen (fun file => file.writable && file.target = .pipe pipe)

/-- Forgets an open file that nobody has any more. -/
def release (k : Kernel) (file : Nat) : Kernel :=
  if k.isHeld file then k else { k with files := k.files.erase file }

/-- Closes a descriptor. -/
def close (k : Kernel) (number : Nat) : Kernel :=
  match k.descriptor? number with
  | none => k
  | some d =>
    (k.modifySelf (fun p => { p with descriptors := p.descriptors.filter (fun (n, _) => n ≠ number) })).release
      d.file

/-- Lets a descriptor lead to an open file. -/
def point (k : Kernel) (number : Nat) (d : Descriptor) : Kernel :=
  if k.descriptor? number = some d then k
  else (k.close number).modifySelf (fun p => { p with descriptors := (number, d) :: p.descriptors })

/-- The lowest number from some number on that is not among numbers in ascending order. -/
def lowestFree : (taken : List Nat) → (least : Nat) → Nat
  | [], least => least
  | n :: rest, least => if n < least then lowestFree rest least
    else if n = least then lowestFree rest (least + 1)
    else least

/-- The lowest free number for a descriptor, at least some number. -/
def freeDescriptor (k : Kernel) (least : Nat) : Nat :=
  lowestFree ((k.self.descriptors.map Prod.fst).mergeSort (fun a b => decide (a ≤ b))) least

/-- Adds an open file. -/
def addFile (k : Kernel) (file : Opened) : Kernel × Nat :=
  ({ k with files := k.files.insert k.nextFile file, nextFile := k.nextFile + 1 }, k.nextFile)

/-- Opens a file under the lowest free number. -/
def hold (k : Kernel) (file : Opened) : Kernel × Nat :=
  let (k, id) := k.addFile file
  let number := k.freeDescriptor 0
  (k.point number ⟨id, false⟩, number)

/-- Adds a pipe. -/
def addPipe (k : Kernel) (pipe : Pipe) : Kernel × Nat :=
  ({ k with pipes := k.pipes.insert k.nextPipe pipe, nextPipe := k.nextPipe + 1 }, k.nextPipe)

/-- Makes a pipe and opens both its sides, the one for reading first. -/
def makePipe (k : Kernel) : Kernel × Nat × Nat :=
  let (k, pipe) := k.addPipe {}
  let (k, reading) := k.hold { target := .pipe pipe, readable := true, writable := false }
  let (k, writing) := k.hold { target := .pipe pipe, readable := false, writable := true }
  (k, reading, writing)

/-- Lets a second descriptor lead where a first one leads. -/
def duplicate (k : Kernel) (source target : Nat) : Except Fault Kernel :=
  match k.descriptor? source with
  | none => .error .badDescriptor
  | some d => .ok (if source = target then k else k.point target ⟨d.file, false⟩)

/-- Changes an open file. -/
def modifyFile (k : Kernel) (file : Nat) (f : Opened → Opened) : Kernel :=
  { k with files := k.files.alter file (·.map f) }

/-- Changes a pipe. -/
def modifyPipe (k : Kernel) (pipe : Nat) (f : Pipe → Pipe) : Kernel :=
  { k with pipes := k.pipes.alter pipe (·.map f) }

/-! ## Opening -/

/-- How a file is opened. -/
structure Manner where
  readable : Bool := false
  writable : Bool := false
  appends : Bool := false
  /-- Whether a file that is not there is made, and if so with which permissions. -/
  creates : Option Nat := none
  /-- Whether a file that is there is a fault. -/
  exclusive : Bool := false
  /-- Whether what is there is dropped. -/
  empties : Bool := false

def Manner.reading : Manner := { readable := true }

def Manner.writing : Manner := { writable := true, creates := some 0o666, empties := true }

def Manner.appending : Manner := { writable := true, appends := true, creates := some 0o666 }

/-- An open file for a target. -/
def Manner.opened (m : Manner) (target : Target) : Opened :=
  { target := target, readable := m.readable, writable := m.writable, appends := m.appends }

/-- Opens the file at a path under the lowest free number. -/
def openAt (k : Kernel) (path : Bytes) (m : Manner) : Except Fault (Kernel × Nat) := do
  let here := k.self.here
  let existing := k.disk.resolve here path
  match existing with
  | .ok id =>
    if m.exclusive && m.creates.isSome then throw .alreadyExists
    match k.disk.content? id with
    | some (.directory ..) =>
      if m.writable || m.creates.isSome then throw .isDirectory
      return k.hold (m.opened (.node id))
    | some (.descriptor number) =>
      match k.opened? number with
      | none => throw .noEntry
      | some file =>
        if m.empties then
          match file.target with
          | .node inner =>
            let k := { k with disk := k.disk.modify inner (fun node =>
              match node.content with
              | .file _ => { node with content := .file .empty, modified := k.stamp }
              | _ => node) }
            return k.hold (m.opened file.target)
          | .pipe _ => pure ()
        return k.hold (m.opened file.target)
    | some (.device .terminal) => throw .noDevice
    | some (.pipe number) => return k.hold (m.opened (.pipe number))
    | some (.file _) =>
      let k := if m.empties then
          { k with disk := k.disk.modify id (fun node =>
              { node with content := .file .empty, modified := k.stamp }) }
        else k
      return k.hold (m.opened (.node id))
    | _ => return k.hold (m.opened (.node id))
  | .error .noEntry =>
    match m.creates with
    | none => throw .noEntry
    | some mode =>
      let place ← k.disk.fileSlot Tree.linkLimit here path
      if place.slashed || Disk.isRelative place.name then throw .isDirectory
      if m.exclusive && (k.disk.find? place.directory place.name).isSome then throw .alreadyExists
      let mode := mode &&& (0o7777 ^^^ k.self.mask)
      let (disk, id) ← k.disk.create place.directory place.name ⟨.file .empty, mode, k.stamp⟩ k.stamp
      return { k with disk := disk }.hold (m.opened (.node id))
  | .error fault => throw fault

/-! ## Reading and writing -/

/-- What reading finds. -/
inductive Supply where
  | bytes (bytes : ByteArray)
  /-- Nothing now, but perhaps later. -/
  | nothingYet
  | fault (fault : Fault)

def zeros (count : Nat) : ByteArray := ⟨Array.replicate count 0⟩

/-- How many bytes an endless device gives at most. -/
def deviceLimit : Nat := 131072

/-- Reads at most some bytes by a descriptor. -/
def read (k : Kernel) (number count : Nat) : Supply × Kernel :=
  match k.descriptor? number with
  | none => (.fault .badDescriptor, k)
  | some d =>
    match k.files[d.file]? with
    | none => (.fault .badDescriptor, k)
    | some file =>
      if !file.readable then (.fault .badDescriptor, k)
      else
        match file.target with
        | .pipe pipe =>
          match k.pipes[pipe]? with
          | none => (.fault .badDescriptor, k)
          | some p =>
            if p.size = 0 then
              if k.isWritten pipe then (.nothingYet, k) else (.bytes .empty, k)
            else
              let (bytes, _) := p.take count
              (.bytes bytes, k.modifyPipe pipe (fun p => (p.take count).2))
        | .node id =>
          match k.disk.content? id with
          | some (.file body) =>
            let bytes := body.extract file.offset (file.offset + count)
            (.bytes bytes, k.modifyFile d.file (fun f => { f with offset := f.offset + bytes.size }))
          | some (.directory ..) => (.fault .isDirectory, k)
          | some (.device .zero) | some (.device .full) => (.bytes (zeros (min count deviceLimit)), k)
          | _ => (.bytes .empty, k)

/-- What writing comes to. -/
inductive Demand where
  /-- So many bytes were taken. -/
  | taken (count : Nat)
  /-- Nothing was taken now, but perhaps later. -/
  | fullNow
  | fault (fault : Fault)

/-- The contents of a file after bytes were written at a place. -/
def overwrite (body : ByteArray) (offset : Nat) (bytes : ByteArray) : ByteArray :=
  if offset = body.size then body ++ bytes
  else if body.size < offset then body ++ zeros (offset - body.size) ++ bytes
  else body.extract 0 offset ++ bytes ++ body.extract (offset + bytes.size) body.size

/-- Writes bytes to a pipe. -/
def writePipe (k : Kernel) (pipe : Nat) (bytes : ByteArray) : Demand × Kernel :=
  if !k.isRead pipe then (.fault .brokenPipe, k)
  else
    match (k.pipes[pipe]?).bind Pipe.room? with
    | none => (.taken bytes.size, k.modifyPipe pipe (·.put bytes))
    | some room =>
      if bytes.size ≤ room then (.taken bytes.size, k.modifyPipe pipe (·.put bytes))
      else if bytes.size ≤ Pipe.atomic || room = 0 then (.fullNow, k)
      else (.taken room, k.modifyPipe pipe (·.put (bytes.extract 0 room)))

/-- Writes bytes by a descriptor, as many as can be taken now. -/
def write (k : Kernel) (number : Nat) (bytes : ByteArray) : Demand × Kernel :=
  match k.descriptor? number with
  | none => (.fault .badDescriptor, k)
  | some d =>
    match k.files[d.file]? with
    | none => (.fault .badDescriptor, k)
    | some file =>
      if !file.writable then (.fault .badDescriptor, k)
      else
        match file.target with
        | .pipe pipe => k.writePipe pipe bytes
        | .node id =>
          match k.disk.content? id with
          | some (.file _) =>
            let size := ((k.disk.body? id).map ByteArray.size).getD 0
            let offset := if file.appends then size else file.offset
            let now := k.stamp
            let k := { k with disk := k.disk.modify id (fun node =>
              match node.content with
              | .file body => { node with content := .file (overwrite body offset bytes), modified := now }
              | _ => node) }
            (.taken bytes.size, k.modifyFile d.file (fun f => { f with offset := offset + bytes.size }))
          | some (.device .full) => (.fault .noSpace, k)
          | _ => (.taken bytes.size, k)

/-- Moves the place up to which an open file was read, if it has one; gives it. -/
def seek (k : Kernel) (number : Nat) (place : Nat → Nat → Int) : Except Fault (Kernel × Nat) :=
  match k.descriptor? number with
  | none => .error .badDescriptor
  | some d =>
    match k.files[d.file]? with
    | none => .error .badDescriptor
    | some file =>
      match file.target with
      | .pipe _ => .error .badSeek
      | .node id =>
        let size := ((k.disk.body? id).map ByteArray.size).getD 0
        let offset := place file.offset size
        if offset < 0 then .error .invalid
        else .ok (k.modifyFile d.file (fun f => { f with offset := offset.toNat }), offset.toNat)

/-! ## Looking at nodes -/

/-- What something is. -/
inductive Kind where
  | file
  | directory
  | link
  | device
  | pipe
  deriving DecidableEq, Repr

/-- What can be found out about a node. -/
structure Info where
  target : Target
  kind : Kind
  mode : Nat
  size : Nat
  modified : Int
  deriving DecidableEq, Repr

def pipeInfo (pipe : Nat) (mode : Nat) : Info := ⟨.pipe pipe, .pipe, mode, 0, 0⟩

/-- What can be found out about a node. -/
def nodeInfo? (k : Kernel) (id : NodeId) : Option Info :=
  match k.disk.nodes[id]? with
  | none => none
  | some node =>
    let info (kind : Kind) (size : Nat) : Info := ⟨.node id, kind, node.mode, size, node.modified⟩
    match node.content with
    | .file body => some (info .file body.size)
    | .link target => some (info .link target.length)
    | .directory .. => some (info .directory 4096)
    | .device _ => some (info .device 0)
    | .pipe number => some { pipeInfo number node.mode with modified := node.modified }
    | .descriptor number =>
      match k.opened? number with
      | none => none
      | some file =>
        match file.target with
        | .pipe number => some (pipeInfo number 0o600)
        | .node inner =>
          match k.disk.nodes[inner]? with
          | none => none
          | some node =>
            let info (kind : Kind) (size : Nat) : Info := ⟨.node inner, kind, node.mode, size, node.modified⟩
            match node.content with
            | .file body => some (info .file body.size)
            | .directory .. => some (info .directory 4096)
            | _ => some (info .device 0)

/-- What can be found out about what a path leads to, links followed. -/
def examine (k : Kernel) (path : Bytes) : Except Fault Info := do
  let id ← k.disk.resolve k.self.here path
  match k.nodeInfo? id with
  | some info => return info
  | none => throw .noEntry

/-- What can be found out about what stands at a path, a link in the last place not followed. -/
def examineItself (k : Kernel) (path : Bytes) : Except Fault Info := do
  let id ← k.disk.resolveItself k.self.here path
  match k.nodeInfo? id with
  | some info => return info
  | none => throw .noEntry

/-- What can be found out about what a descriptor leads to. -/
def examineOpened (k : Kernel) (number : Nat) : Except Fault Info :=
  match k.opened? number with
  | none => .error .badDescriptor
  | some file =>
    match file.target with
    | .pipe pipe => .ok (pipeInfo pipe 0o600)
    | .node id =>
      match k.nodeInfo? id with
      | some info => .ok info
      | none => .error .noEntry

/-- Whether a path leads to a directory. -/
def isDirectory (k : Kernel) (path : Bytes) : Bool :=
  match k.disk.resolve k.self.here path with
  | .ok id => k.disk.isDirectory id
  | .error _ => false

/-! ## Signals -/

/-- Lets a process get a signal. -/
def signal (k : Kernel) (number process : Nat) : Kernel :=
  k.modifyProcess process (fun p =>
    let p := if number = Signal.go then { p with stopped := false } else p
    if number = 0 then p
    else if number = Signal.kill then { p with doom := some number }
    else if number = Signal.stop then { p with stopped := true }
    else if p.noted.contains number then
      { p with pending := if p.pending.contains number then p.pending else p.pending ++ [number] }
    else if p.ignored.contains number then p
    else
      match Signal.effect number with
      | .none | .continues => p
      | .stops => { p with stopped := true }
      | .ends => { p with doom := p.doom.or (some number) })

/-- Whether there is a process with a number, even one that has ended and of which nobody has been
told. -/
def exists? (k : Kernel) (process : Nat) : Bool :=
  k.processes.contains process || k.ended.any (fun (n, _) => n = process)

/-! ## Beginning and end -/

/-- Adds a process that is like the one at work. -/
def copyProcess (k : Kernel) : Kernel × Nat :=
  let child := { k.self with parent := k.current, pending := [], doom := none, stopped := false }
  ({ k with
    processes := k.processes.insert k.nextProcess child
    nextProcess := k.nextProcess + 1 }, k.nextProcess)

/-- The first process, whom processes without parents belong to. -/
def firstProcess : Nat := 1

/-- Ends a process: everything it had is closed, its children belong to the first process, and its
parent can be told, if it is there to hear. -/
def conclude (k : Kernel) (process : Nat) (ending : Ending) : Kernel :=
  match k.processes[process]? with
  | none => k
  | some p =>
    let k := if process = k.main then
        { k with verdict := some ⟨ending, k.held outputPipe, k.held errorsPipe⟩ }
      else k
    let k := { k with processes := k.processes.erase process }
    let k := p.descriptors.foldl (fun k (_, d) => k.release d.file) k
    let k := { k with
      processes := k.processes.map (fun _ (q : Process) =>
        if q.parent = process then { q with parent := firstProcess } else q)
      ended := k.ended.filter (fun (_, parent, _) => parent ≠ process) }
    if k.processes.contains p.parent then
      { k with ended := k.ended ++ [(process, p.parent, ending)] }.signal Signal.childEnded p.parent
    else k

/-- Takes note of the end of a child of the process at work, the first that ended. -/
def reap? (k : Kernel) : Option ((Nat × Ending) × Kernel) :=
  match k.ended.find? (fun (_, parent, _) => parent = k.current) with
  | none => none
  | some (process, _, ending) =>
    some ((process, ending), { k with ended := k.ended.filter (fun (n, _) => n ≠ process) })

def hasChild (k : Kernel) : Bool := k.processes.any (fun _ p => p.parent = k.current)

/-- Closes the descriptors that a new program does not get, and forgets the signals that were to be taken
note of. -/
def shed (k : Kernel) : Kernel :=
  let k := k.self.descriptors.foldl (fun k (n, d) => if d.closing then k.close n else k) k
  k.modifySelf (fun p => { p with noted := [], pending := [] })

end Kernel

end Configurator.Host
