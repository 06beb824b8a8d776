/-
What processes do. A process works on a state of its own and on the kernel, until it ends, has to wait,
starts a process like itself or becomes another program; what it does then is a function of the kernel as
it is when the process goes on. So a process that waits is a value, and others can work in the meantime.
-/
import Configurator.Host.Executable
import Configurator.Text.Raw

namespace Configurator.Host

/-- How far a process has come. -/
inductive Step where
  | ended (k : Kernel) (ending : Ending)
  /-- It goes on when it is ready, or at a certain time. -/
  | paused (k : Kernel) (ready : Kernel → Bool) (deadline : Option Nat) (resume : Kernel → Step)
  /-- It has started a process like itself; it goes on with the number of that process. -/
  | forked (k : Kernel) (child : Kernel → Step) (resume : Nat → Kernel → Step)
  /-- It becomes another program, which gets to see variables. -/
  | replaced (k : Kernel) (launch : Executable.Launch) (environment : List (String × String))

/-- Something that a process with a state of its own does, as what it makes of what follows. -/
def Work (σ α : Type) : Type := (α → σ → Kernel → Step) → σ → Kernel → Step

namespace Work

variable {σ α : Type}

instance : Monad (Work σ) where
  pure a := fun next => next a
  bind work follow := fun next => work (fun a => follow a next)

instance : MonadStateOf σ (Work σ) where
  get := fun next s k => next s s k
  set s := fun next _ k => next () s k
  modifyGet f := fun next s k =>
    let (a, s) := f s
    next a s k

/-- Asks the kernel for something. -/
def system (f : Kernel → α × Kernel) : Work σ α := fun next s k =>
  let (a, k) := f k
  next a s k

def look (f : Kernel → α) : Work σ α := fun next s k => next (f k) s k

def change (f : Kernel → Kernel) : Work σ Unit := fun next s k => next () s (f k)

/-- Asks the kernel for something that it may refuse. -/
def attempt (f : Kernel → Except Fault (Kernel × α)) : Work σ (Except Fault α) := fun next s k =>
  match f k with
  | .ok (k, a) => next (.ok a) s k
  | .error fault => next (.error fault) s k

/-- Asks the kernel for a change that it may refuse. -/
def attemptChange (f : Kernel → Except Fault Kernel) : Work σ (Except Fault Unit) :=
  attempt (fun k => (f k).map (·, ()))

/-- Waits until something is so. -/
def waitFor (ready : Kernel → Bool) : Work σ Unit := fun next s k =>
  if ready k then next () s k else .paused k ready none (fun k => next () s k)

/-- Lets others work, if it is their turn. -/
def breathe : Work σ Unit := fun next s k => .paused k (fun _ => true) none (fun k => next () s k)

/-- Waits for some time, in microseconds. -/
def sleep (time : Nat) : Work σ Unit := fun next s k =>
  .paused k (fun _ => false) (some (k.now + time)) (fun k => next () s k)

def finish (ending : Ending) : Work σ α := fun _ _ k => .ended k ending

def exit (status : Nat) : Work σ α := finish (.exited (status % 256))

/-- Starts a process like this one that does something and ends; gives its number. -/
def fork (child : Work σ Unit) : Work σ Nat := fun next s k =>
  .forked k (child (fun _ _ k => .ended k (.exited 0)) s) (fun number k => next number s k)

/-- Becomes another program. -/
def become (launch : Executable.Launch) (environment : List (String × String)) : Work σ α :=
  fun _ _ k => .replaced k launch environment

/-! ## Repetition -/

/-- How often something is repeated at most. -/
def turnLimit : Nat := 0x3FFFFFFFFFFFFFFF

/-- Does something again and again, as long as it says so and `fuel` lasts. -/
def repeatWith : (fuel : Nat) → (turn : Work σ Bool) → Work σ Unit
  | 0, _ => pure ()
  | fuel + 1, turn => do
    breathe
    if ← turn then repeatWith fuel turn

/-- Does something again and again, as long as it says so. -/
def loop (turn : Work σ Bool) : Work σ Unit := repeatWith turnLimit turn

/-- Does something for each of some things. -/
def each {β : Type} (f : β → Work σ Unit) : List β → Work σ Unit
  | [] => pure ()
  | b :: rest => do
    breathe
    f b
    each f rest

/-! ## Reading and writing -/

/-- Whether reading by a descriptor would not have to wait. -/
def canRead (number : Nat) (k : Kernel) : Bool :=
  match (k.opened? number).map Opened.target with
  | some (.pipe pipe) => (k.pipes[pipe]?).any (fun p => 0 < p.size) || !k.isWritten pipe
  | _ => true

/-- Reads at most some bytes by a descriptor; none at the end. -/
def read (number count : Nat) : Work σ (Except Fault ByteArray) := do
  waitFor (canRead number)
  system (fun k =>
    match (k.spend 1).read number count with
    | (.bytes bytes, k) => (.ok bytes, k)
    | (.fault fault, k) => (.error fault, k)
    | (.nothingYet, k) => (.ok .empty, k))

/-- How many bytes are read at a time. -/
def blockSize : Nat := 65536

/-- Reads everything by a descriptor behind what has been read already, as long as `fuel` lasts. -/
def readRest (number : Nat) : (fuel : Nat) → ByteArray → Work σ (Except Fault ByteArray)
  | 0, before => return .ok before
  | fuel + 1, before => do
    breathe
    match ← read number blockSize with
    | .error fault => return .error fault
    | .ok bytes => if bytes.isEmpty then return .ok before else readRest number fuel (before ++ bytes)

def readAll (number : Nat) : Work σ (Except Fault ByteArray) := readRest number turnLimit .empty

/-- Whether some bytes could be written by a descriptor without waiting. -/
def canWrite (number size : Nat) (k : Kernel) : Bool :=
  match (k.opened? number).map Opened.target with
  | some (.pipe pipe) =>
    match (k.pipes[pipe]?).bind Pipe.room? with
    | some room => min size Pipe.atomic ≤ room || !k.isRead pipe
    | none => true
  | _ => true

/-- What becomes of a process that writes to a pipe that nobody reads: it ends, unless it has made
provision for that. -/
def breakPipe : Work σ Unit := fun next s k =>
  let p := k.self
  if p.noted.contains Signal.brokenPipe || p.ignored.contains Signal.brokenPipe then
    next () s (k.signal Signal.brokenPipe k.current)
  else .ended k (.killed Signal.brokenPipe)

/-- Writes the rest of some bytes by a descriptor, as long as `fuel` lasts. -/
def writeRest (number : Nat) : (fuel : Nat) → ByteArray → Work σ (Except Fault Unit)
  | 0, _ => return .ok ()
  | fuel + 1, bytes => do
    waitFor (canWrite number bytes.size)
    match ← system (fun k => (k.spend 1).write number bytes) with
    | .taken count =>
      if count < bytes.size then writeRest number fuel (bytes.extract count bytes.size) else return .ok ()
    | .fullNow => return .ok ()
    | .fault .brokenPipe =>
      breakPipe
      return .error .brokenPipe
    | .fault fault => return .error fault

/-- Writes bytes by a descriptor. -/
def write (number : Nat) (bytes : ByteArray) : Work σ (Except Fault Unit) :=
  if bytes.isEmpty then return .ok () else writeRest number (bytes.size + 1) bytes

/-- Writes a text by a descriptor and does not care what becomes of it. -/
def say (number : Nat) (text : String) : Work σ Unit := do
  let _ ← write number (Raw.toArray text)

/-! ## Files -/

/-- The pipe with a name that a path leads to. -/
def namedPipe? (path : Bytes) (k : Kernel) : Option Nat :=
  match k.disk.resolve k.self.here path with
  | .ok id =>
    match k.disk.content? id with
    | some (.pipe pipe) => some pipe
    | _ => none
  | .error _ => none

/-- Opens the file at a path; a pipe with a name waits for its other side. -/
def openFile (path : String) (manner : Kernel.Manner) : Work σ (Except Fault Nat) := do
  match ← attempt (fun k => (k.spend 1).openAt (Raw.bytes path) manner) with
  | .error fault => return .error fault
  | .ok number =>
    (← look (namedPipe? (Raw.bytes path))).forM (fun pipe =>
      if manner.readable && manner.writable then pure ()
      else if manner.readable then
        waitFor (fun k => k.isWritten pipe || (k.pipes[pipe]?).any (fun p => 0 < p.size))
      else waitFor (fun k => k.isRead pipe))
    return .ok number

def close (number : Nat) : Work σ Unit := change (·.close number)

/-- Does something with the file at a path, which is closed afterwards. -/
def withFile (path : String) (manner : Kernel.Manner) (use : Nat → Work σ α) : Work σ (Except Fault α) := do
  match ← openFile path manner with
  | .error fault => return .error fault
  | .ok number =>
    let result ← use number
    close number
    return .ok result

/-- The contents of the file at a path. -/
def readFile (path : String) : Work σ (Except Fault ByteArray) := do
  match ← withFile path .reading readAll with
  | .error fault => return .error fault
  | .ok result => return result

/-! ## Children -/

/-- Waits until a child has ended and gives its number and how it ended; gives nothing if there is no
child, or once a signal came in if that is to be told. -/
def awaitChild (interruptible : Bool) : Work σ (Option (Nat × Ending)) := do
  waitFor (fun k => k.reap?.isSome || !k.hasChild || (interruptible && !k.self.pending.isEmpty))
  system (fun k =>
    match k.reap? with
    | some (child, k) => (some child, k)
    | none => (none, k))

/-- The end of a child that has ended already, if there is one. -/
def reap : Work σ (Option (Nat × Ending)) :=
  system (fun k =>
    match k.reap? with
    | some (child, k) => (some child, k)
    | none => (none, k))

end Work

end Configurator.Host
