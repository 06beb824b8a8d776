/-
Tools that make and remove files, directories and links and change their permissions and times.
-/
import Configurator.Tool.Mode
import Configurator.Tool.Moment
import Configurator.Tool.Name

namespace Configurator.Tool.Files

open Host

/-! ## The disk -/

/-- Changes the disk, or tells why that cannot be done. -/
def change (f : Disk → NodeId → Int → Except Fault Disk) : Action (Except Fault Unit) :=
  Work.attemptChange (fun k => (f k.disk k.self.here k.stamp).map (fun disk => { k with disk := disk }))

def info (path : String) : Action (Except Fault Kernel.Info) := Work.look (·.examine (Raw.bytes path))

/-- What is known of what stands at a path, a link not followed. -/
def infoItself (path : String) : Action (Except Fault Kernel.Info) :=
  Work.look (·.examineItself (Raw.bytes path))

/-- The names in a directory, in the order in which it lists them. -/
def namesIn (path : String) : Action (List String) :=
  Work.look (fun k =>
    match k.disk.resolve k.self.here (Raw.bytes path) with
    | .ok id => ((k.disk.entries? id).getD []).map (fun (name, _) => Raw.text name)
    | .error _ => [])

/-- How deep directories may stand in one another. -/
def depthLimit : Action Nat := Work.look (fun k => k.disk.next + 1)

/-- Takes away a name. -/
def unlinkAt (path : String) : Action (Except Fault Unit) :=
  change (fun disk here now => disk.unlink here (Raw.bytes path) now)

/-- Removes an empty directory. -/
def removeDirectoryAt (path : String) : Action (Except Fault Unit) :=
  change (fun disk here now => disk.removeDirectory here (Raw.bytes path) now)

/-- Makes a directory with permissions. -/
def makeDirectoryAt (path : String) (mode : Nat) : Action (Except Fault Unit) :=
  Work.attemptChange (fun k => do
    let mode := mode &&& (0o7777 ^^^ k.self.mask)
    let (disk, _) ← k.disk.makeDirectory k.self.here (Raw.bytes path) mode k.stamp
    return { k with disk := disk })

/-- Changes the node that a path leads to. -/
def modifyAt (path : String) (f : Node → Node) : Action (Except Fault Unit) :=
  change (fun disk here _ => do return disk.modify (← disk.resolve here (Raw.bytes path)) f)

/-! ## Making -/

/-- The time that the options of a tool ask for. -/
def timeOf (c : Call) (o : Options) : Action Int := do
  match o.value? 'd' with
  | none => Work.look (·.stamp)
  | some text =>
    match Moment.ofText? text with
    | some stamp => return stamp
    | none => c.die ("invalid date format " ++ Quote.word text) 1

/-- Makes files where there is nothing yet and sets the times of the others. -/
def touch (c : Call) : Action Unit :=
  c.withOptions { letters := "cd:", least := 1, operand := "file operand" } (fun o => do
    let time ← timeOf c o
    o.operands.forM (fun path => do
      let opened ← if o.has 'c' then pure (.error .isDirectory)
        else Work.withFile path { writable := true, creates := some 0o666 } (fun _ => pure ())
      let refused := match opened with
        | .error .isDirectory => none
        | .error fault => some fault
        | .ok () => none
      match ← modifyAt path (fun node => { node with modified := time }) with
      | .ok () => pure ()
      | .error fault =>
        match refused with
        | some refused => c.fault ("cannot touch " ++ Quote.name path ++ ": " ++ refused.words) 1
        | none =>
          unless o.has 'c' && fault = .noEntry do
            c.fault ("setting times of " ++ Quote.name path ++ ": " ++ fault.words) 1))

/-- The paths of the directories along a path, the path itself last. -/
def pathsAlong (path : String) : List String :=
  let chars := path.toList
  let ends := (List.range chars.length).filter (fun i =>
    chars[i]? ≠ some '/' && (chars[i + 1]? = some '/' || chars[i + 1]? = none))
  ends.map (fun i => String.ofList (chars.take (i + 1)))

/-- Makes directories, each in those before it; with `along` some may be there already. -/
def makeAlong (c : Call) (along : Bool) : List String → Action Unit
  | [] => pure ()
  | path :: rest => do
    match ← makeDirectoryAt path 0o777 with
    | .ok () => makeAlong c along rest
    | .error fault =>
      if along && (← Work.look (·.isDirectory (Raw.bytes path))) then makeAlong c along rest
      else
        let shown := if fault = .alreadyExists && !rest.isEmpty then Fault.notDirectory else fault
        c.fault ("cannot create directory " ++ Quote.name path ++ ": " ++ shown.words) 1

/-- Makes directories. -/
def mkdir (c : Call) : Action Unit :=
  c.withOptions { letters := "p", least := 1 } (fun o => do
    let along := o.has 'p'
    o.operands.forM (fun path => makeAlong c along (if along && path ≠ "" then pathsAlong path else [path])))

/-! ## Removing -/

/-- Removes what stands at a path, as far as `fuel` lasts; tells whether it is gone. -/
def removeAll (c : Call) (recursive force : Bool) : (fuel : Nat) → (path : String) → Action Bool
  | 0, _ => return false
  | fuel + 1, path => do
    Work.breathe
    let settle (result : Except Fault Unit) : Action Bool := do
      match result with
      | .ok () => return true
      | .error fault =>
        unless force && (fault = .noEntry || fault = .notDirectory) do
          c.fault ("cannot remove " ++ Quote.name path ++ ": " ++ fault.words) 1
        return false
    match ← infoItself path with
    | .error fault => settle (.error fault)
    | .ok info =>
      if info.kind ≠ .directory then settle (← unlinkAt path)
      else if !recursive then settle (.error .isDirectory)
      else
        let results ← (← namesIn path).mapM (fun name => removeAll c recursive force fuel (Name.inside path name))
        if results.all id then settle (← removeDirectoryAt path) else return false

/-- Removes files and, if asked for, directories. -/
def rm (c : Call) : Action Unit :=
  c.withOptions { letters := "frR" } (fun o => do
    let recursive := o.has 'r' || o.has 'R'
    if o.operands.isEmpty && !o.has 'f' then c.misuse "missing operand" 1
    o.operands.forM (fun path => do
      if recursive && Name.isRelative path then
        c.fault ("refusing to remove '.' or '..' directory: skipping " ++ Quote.name path) 1
      else if recursive && path ≠ "" && Name.trimSlashes path = [] then
        c.fault ("it is dangerous to operate recursively on " ++ Quote.name path) 1
        c.report "use --no-preserve-root to override this failsafe"
      else
        let _ ← removeAll c recursive (o.has 'f') (← depthLimit) path))

/-! ## Copying and moving -/

/-- The places that a tool with sources and a target writes to: each source with its place. -/
def placesFor (c : Call) (o : Options) (followLast : Bool) : Action (List (String × String)) := do
  let isDirectory (path : String) : Action Bool := do
    if followLast then Work.look (·.isDirectory (Raw.bytes path))
    else return (← infoItself path).toOption.any (·.kind = .directory)
  let into (directory source : String) : String × String := (source, Name.inside directory (Name.last source))
  match o.operands with
  | [] => c.misuse "missing file operand" 1
  | [source] => c.misuse ("missing destination file operand after " ++ Quote.name source) 1
  | [source, target] => return [if ← isDirectory target then into target source else (source, target)]
  | operands =>
    let target := operands.getLast?.getD ""
    match ← info target with
    | .error fault => c.die ("target " ++ Quote.name target ++ ": " ++ fault.words) 1
    | .ok found =>
      if found.kind ≠ .directory then c.die ("target " ++ Quote.name target ++ ": " ++ Fault.notDirectory.words) 1
      return operands.dropLast.map (into target)

/-- Writes the contents of a file to a place with the permissions of the file. -/
def copyFile (c : Call) (found : Kernel.Info) (isNew : Bool) (source place : String) : Action Unit := do
  match ← Work.readFile source with
  | .error fault => c.fault ("error reading " ++ Quote.name source ++ ": " ++ fault.words) 1
  | .ok bytes =>
    let manner : Kernel.Manner := { writable := true, creates := some (found.mode &&& 0o777), empties := true }
    match ← Work.withFile place manner (fun number => Work.write number bytes) with
    | .error fault =>
      let shown := if isNew && fault = .isDirectory then Fault.notDirectory else fault
      c.fault ("cannot create regular file " ++ Quote.name place ++ ": " ++ shown.words) 1
    | .ok (.error fault) => c.fault ("error writing " ++ Quote.name place ++ ": " ++ fault.words) 1
    | .ok (.ok ()) => pure ()

/-- Copies what stands at a path, as far as `fuel` lasts; links are followed unless directories are copied, and
`top` is the directory that was made for the whole. -/
def copyAll (c : Call) (recursive : Bool) :
    (fuel : Nat) → (top : Option Target) → (source place : String) → Action Unit
  | 0, _, _, _ => pure ()
  | fuel + 1, top, source, place => do
    Work.breathe
    match ← if recursive then infoItself source else info source with
    | .error fault => c.fault ("cannot stat " ++ Quote.name source ++ ": " ++ fault.words) 1
    | .ok found =>
      let there := (← if found.kind = .link then infoItself place else info place).toOption
      let isDangling := there.isNone && (← infoItself place).toOption.isSome
      if found.kind = .directory && !recursive then
        c.fault ("-r not specified; omitting directory " ++ Quote.name source) 1
      else if found.kind = .directory && top = some found.target then
        c.fault ("cannot copy a directory, " ++ Quote.name source ++ ", into itself, " ++ Quote.name place) 1
      else if there.any (·.target = found.target) then
        c.fault (Quote.name source ++ " and " ++ Quote.name place ++ " are the same file") 1
      else if found.kind = .directory && there.any (·.kind ≠ .directory) then
        c.fault ("cannot overwrite non-directory " ++ Quote.name place ++ " with directory " ++ Quote.name source) 1
      else if found.kind ≠ .directory && there.any (·.kind = .directory) then
        c.fault ("cannot overwrite directory " ++ Quote.name place ++ " with non-directory") 1
      else if found.kind = .directory then
        let made ← if there.isSome then pure (.ok ()) else makeDirectoryAt place (found.mode ||| 0o700)
        match made with
        | .error fault => c.fault ("cannot create directory " ++ Quote.name place ++ ": " ++ fault.words) 1
        | .ok () =>
          let top := top.or ((← info place).toOption.map (·.target))
          Work.each (fun name => copyAll c recursive fuel top (Name.inside source name) (Name.inside place name))
            (← namesIn source)
      else if found.kind = .link then
        if there.isSome then
          let _ ← unlinkAt place
        let target ← Work.look (fun k => (Name.linkTarget k (Raw.bytes source)).toOption.getD [])
        match ← change (fun disk here now => disk.makeLink here (Raw.bytes place) target now) with
        | .ok () => pure ()
        | .error fault => c.fault ("cannot create symbolic link " ++ Quote.name place ++ ": " ++ fault.words) 1
      else if isDangling then c.fault ("not writing through dangling symlink " ++ Quote.name place) 1
      else copyFile c found there.isNone source place

/-- Copies files and, if asked for, directories. -/
def cp (c : Call) : Action Unit :=
  c.withOptions { letters := "rR" } (fun o => do
    let recursive := o.has 'r' || o.has 'R'
    Work.each (fun (source, place) => do copyAll c recursive (← depthLimit) none source place)
      (← placesFor c o true))

/-- Moves entries. -/
def mv (c : Call) : Action Unit :=
  c.withOptions { letters := "f" } (fun o => do
    Work.each (fun (source, place) => do
      match ← infoItself source with
      | .error fault => c.fault ("cannot stat " ++ Quote.name source ++ ": " ++ fault.words) 1
      | .ok found =>
        let there := (← infoItself place).toOption
        let both := Quote.name source ++ " to " ++ Quote.name place
        if there.any (·.target = found.target) then
          c.fault (Quote.name source ++ " and " ++ Quote.name place ++ " are the same file") 1
        else if found.kind = .directory && there.any (·.kind ≠ .directory) then
          c.fault ("cannot overwrite non-directory " ++ Quote.name place ++ " with directory " ++ Quote.name source) 1
        else if found.kind ≠ .directory && there.any (·.kind = .directory) then
          c.fault ("cannot overwrite directory " ++ Quote.name place ++ " with non-directory") 1
        else
          match ← change (fun disk here now => disk.rename here (Raw.bytes source) (Raw.bytes place) now) with
          | .ok () => pure ()
          | .error .invalid =>
            c.fault (if Name.isRelative source then "cannot move " ++ both ++ ": Device or resource busy"
              else "cannot move " ++ Quote.name source ++ " to a subdirectory of itself, " ++ Quote.name place) 1
          | .error .notEmpty =>
            c.fault ("cannot overwrite " ++ Quote.name place ++ ": " ++ Fault.notEmpty.words) 1
          | .error fault => c.fault ("cannot move " ++ both ++ ": " ++ fault.words) 1)
      (← placesFor c o true))

/-! ## Links -/

/-- Gives files other names, or makes links to them. -/
def ln (c : Call) : Action Unit :=
  c.withOptions { letters := "fns" } (fun o => do
    let isSymbolic := o.has 's'
    let places ← match o.operands with
      | [source] => pure [(source, Name.last source)]
      | _ => placesFor c o (!o.has 'n')
    Work.each (fun (source, place) => do
      let found ← infoItself source
      let there := (← infoItself place).toOption
      let failed (fault : Fault) : Action Unit :=
        let long := if isSymbolic then fault = .nameTooLong || source = "" else fault ≠ .alreadyExists
        c.fault ("failed to create " ++ (if isSymbolic then "symbolic link " else "hard link ") ++ Quote.name place ++
          (if long then (if isSymbolic then " -> " else " => ") ++ Quote.name source else "") ++ ": " ++
          fault.words) 1
      match found, isSymbolic with
      | .error fault, false => c.fault ("failed to access " ++ Quote.name source ++ ": " ++ fault.words) 1
      | found, _ =>
        if !isSymbolic && found.toOption.any (·.kind = .directory) then
          c.fault (Quote.nameIfNeeded source ++ ": hard link not allowed for directory") 1
        else if there.isSome && !o.has 'f' then failed .alreadyExists
        else if there.any (·.kind = .directory) then
          c.fault (Quote.nameIfNeeded place ++ ": cannot overwrite directory") 1
        else if there.isSome && there.map (·.target) = (← info source).toOption.map (·.target) then
          c.fault (Quote.name source ++ " and " ++ Quote.name place ++ " are the same file") 1
        else
          if there.isSome then
            let _ ← unlinkAt place
          let result ← change (fun disk here now => do
            if isSymbolic then disk.makeLink here (Raw.bytes place) (Raw.bytes source) now
            else disk.nameAgain here (← disk.resolveItself here (Raw.bytes source)) (Raw.bytes place) now)
          match result with
          | .ok () => pure ()
          | .error fault => failed fault)
      places)

/-! ## Permissions -/

/-- Whether a word that begins with a hyphen is a mode. -/
def isModeWord (word : String) : Bool :=
  match word.toList with
  | '-' :: c :: _ => "rwxugoa".toList.contains c
  | _ => false

/-- Changes the permissions of what a path leads to. -/
def changeMode (c : Call) (changes : List Mode.Change) (mask : Nat) (path : String) : Action Unit := do
  match ← modifyAt path (fun node => { node with mode := Mode.apply mask node.mode changes }) with
  | .ok () => pure ()
  | .error fault =>
    if (← infoItself path).toOption.isSome && fault = .noEntry then
      c.fault ("cannot operate on dangling symlink " ++ Quote.name path) 1
    else c.fault ("cannot access " ++ Quote.name path ++ ": " ++ fault.words) 1

/-- Changes the permissions of files. -/
def chmod (c : Call) : Action Unit :=
  let modes := c.args.filter isModeWord
  { c with args := c.args.filter (!isModeWord ·) }.withOptions {} (fun o => do
    match modes ++ o.operands with
    | [] => c.misuse "missing operand" 1
    | [text] => c.misuse ("missing operand after " ++ Quote.word text) 1
    | text :: paths =>
      match Mode.ofText? text with
      | none => c.misuse ("invalid mode: " ++ Quote.word text) 1
      | some changes =>
        let mask ← Work.look (·.self.mask)
        Work.each (changeMode c changes mask) paths)

end Configurator.Tool.Files
