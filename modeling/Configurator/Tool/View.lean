/-
Tools that show files: whole, in part, counted or to several places at once.
-/
import Configurator.Tool.Amount

namespace Configurator.Tool.View

open Host

/-! ## Whole files -/

/-- How whole files are shown. -/
structure Manner where
  /-- Whether lines are numbered. -/
  numbered : Bool
  /-- Whether the ends of lines are shown. -/
  ends : Bool

/-- Where showing lines has come to: the number of the last one, and whether it did not end. -/
structure Position where
  number : Nat := 0
  isOpen : Bool := false

/-- A line as it is shown, and where that leads. -/
def Manner.line (m : Manner) (p : Position) (line : FileLine) : String × Position :=
  let counts := m.numbered && !p.isOpen
  let number := if counts then p.number + 1 else p.number
  let front := if counts then Amount.padded 6 (toString number) ++ "\t" else ""
  (front ++ line.text ++ if line.ended then (if m.ends then "$\n" else "\n") else "", ⟨number, !line.ended⟩)

/-- Whether reading by a descriptor would read what is being written to the output. -/
def readsOutput (number : Nat) (k : Kernel) : Bool :=
  match k.examineOpened number, k.examineOpened 1, k.opened? number with
  | .ok input, .ok output, some file =>
    input.kind = .file && input.target = output.target && file.offset < input.size
  | _, _, _ => false

/-- Shows lines by a descriptor in a manner, from a position on; gives the position behind them. -/
def showLines (c : Call) (m : Manner) (operand : String) (number : Nat) :
    (fuel : Nat) → Position → ByteArray → Action Position
  | 0, p, _ => return p
  | fuel + 1, p, before => do
    Work.breathe
    match ← Work.read number lineBlock with
    | .error fault =>
      c.fault (unread operand fault) 1
      return p
    | .ok bytes =>
      let (lines, rest) := linesIn (before ++ bytes)
      let shown := lines.map (⟨·, true⟩) ++
        if bytes.isEmpty && !rest.isEmpty then [⟨Raw.ofArray rest, false⟩] else []
      let (text, p) := shown.foldl (fun (text, p) line =>
        let (more, p) := m.line p line
        (text ++ more, p)) ("", p)
      c.print text
      if bytes.isEmpty then return p else showLines c m operand number fuel p rest

/-- Shows files one after the other. -/
def catFiles (c : Call) (m : Manner) : Position → List String → Action Unit
  | _, [] => pure ()
  | p, operand :: rest => do
    let number ← if operand = "-" then pure (.ok 0) else Work.openFile operand .reading
    match number with
    | .error fault =>
      c.fault (unread operand fault) 1
      catFiles c m p rest
    | .ok number =>
      if ← Work.look (readsOutput number) then
        c.fault (operand ++ ": input file is output file") 1
        catFiles c m p rest
      else if !m.numbered && !m.ends then
        match ← eachBlock number 131072 (fun bytes => do
          c.emit bytes
          c.flush
          return true) with
        | some fault => c.fault (unread operand fault) 1
        | none => pure ()
        unless operand = "-" do Work.close number
        catFiles c m p rest
      else
        let p ← showLines c m operand number Work.turnLimit p .empty
        unless operand = "-" do Work.close number
        catFiles c m p rest

/-- Shows files one after the other. -/
def cat (c : Call) : Action Unit :=
  c.withOptions { letters := "nE" } (fun o =>
    catFiles c { numbered := o.has 'n', ends := o.has 'E' } {} (if o.operands.isEmpty then ["-"] else o.operands))

/-! ## Parts of files -/

/-- How tools that show a part of a file report one that cannot be read. -/
def unopened (path : String) (fault : Fault) : String :=
  "cannot open " ++ Quote.name path ++ " for reading: " ++ fault.words

def shownName (operand : String) : String := if operand = "-" then "standard input" else operand

/-- A part of a file. -/
inductive Part where
  | lines (n : Nat)
  | bytes (n : Nat)
  /-- All but so many lines. -/
  | linesBut (n : Nat)
  | bytesBut (n : Nat)

/-- The part that options ask for; `marked` is the sign that asks for all but some. -/
def partOf (c : Call) (o : Options) (marked : Char) : Action Part := do
  match (o.given.filter (fun (letter, _) => letter = 'n' || letter = 'c')).getLast? with
  | none => return .lines 10
  | some (letter, text) =>
    match Amount.signed? text with
    | some ⟨sign, n⟩ =>
      let isMarked := sign = some marked
      return if letter = 'n' then (if isMarked then .linesBut n else .lines n)
        else (if isMarked then .bytesBut n else .bytes n)
    | none =>
      let what := if letter = 'n' then "lines" else "bytes"
      c.die ("invalid number of " ++ what ++ ": " ++ Quote.word text) 1

/-- The length of the first lines of bytes, and how many lines are missing. -/
def frontSize (bytes : ByteArray) (lines : Nat) : Nat × Nat :=
  let (size, left, _) := bytes.foldl (fun (acc : Nat × Nat × Nat) b =>
    let (size, left, i) := acc
    if left = 0 then acc else if b = 0x0A then (i + 1, left - 1, i + 1) else (size, left, i + 1)) (0, lines, 0)
  (if left = 0 then size else bytes.size, left)

/-- Shows the first lines by a descriptor. What was read behind them is given back if that can be done. -/
def firstLines (c : Call) (number : Nat) : (fuel lines : Nat) → Action (Option Fault)
  | 0, _ => return none
  | _, 0 => return none
  | fuel + 1, lines => do
    Work.breathe
    match ← Work.read number 8192 with
    | .error fault => return some fault
    | .ok bytes =>
      if bytes.isEmpty then return none
      let (size, left) := frontSize bytes lines
      c.emit (bytes.extract 0 size)
      if left = 0 then
        let back := bytes.size - size
        if back ≠ 0 then
          let _ ← Work.attempt (fun k => k.seek number (fun offset _ => (offset : Int) - back))
        return none
      else firstLines c number fuel left

/-- Shows the first bytes by a descriptor. -/
def firstBytes (c : Call) (number : Nat) : (fuel count : Nat) → Action (Option Fault)
  | 0, _ => return none
  | _, 0 => return none
  | fuel + 1, count => do
    Work.breathe
    match ← Work.read number (min count 8192) with
    | .error fault => return some fault
    | .ok bytes =>
      if bytes.isEmpty then return none
      c.emit bytes
      firstBytes c number fuel (count - bytes.size)

/-- The place behind which the last lines of bytes stand. -/
def lastLinesAt (bytes : ByteArray) (lines : Nat) : Nat :=
  let starts := (bytes.foldl (fun (acc : List Nat × Nat) b =>
    (if b = 0x0A && acc.2 + 1 < bytes.size then (acc.2 + 1) :: acc.1 else acc.1, acc.2 + 1)) ([0], 0)).1
  if lines = 0 then bytes.size else (starts[lines - 1]?).getD 0

/-- Shows what remains by a descriptor, up to some place or from it on. -/
def remaining (c : Call) (number : Nat) (cut : ByteArray → Nat) (front : Bool) : Action (Option Fault) := do
  match ← Work.readAll number with
  | .error fault => return some fault
  | .ok bytes =>
    let place := cut bytes
    c.emit (if front then bytes.extract 0 place else bytes.extract place bytes.size)
    return none

/-- Shows everything by a descriptor. -/
def everything (c : Call) (number : Nat) : Action (Option Fault) :=
  eachBlock number 8192 (fun bytes => do
    c.emit bytes
    return true)

/-- Skips lines by a descriptor and shows what follows. -/
def skipLines (c : Call) (number : Nat) : (fuel lines : Nat) → Action (Option Fault)
  | 0, _ => return none
  | _, 0 => everything c number
  | fuel + 1, lines => do
    Work.breathe
    match ← Work.read number 8192 with
    | .error fault => return some fault
    | .ok bytes =>
      if bytes.isEmpty then return none
      let (size, left) := frontSize bytes lines
      if left = 0 then
        c.emit (bytes.extract size bytes.size)
        everything c number
      else skipLines c number fuel left

/-- Shows a part of each file, under its name if there are several; `first` tells whether nothing was shown
before. -/
def portions (c : Call) (named : Bool) (part : Nat → Action (Option Fault)) : (first : Bool) → List String → Action Unit
  | _, [] => pure ()
  | first, operand :: rest => do
    let number ← if operand = "-" then pure (.ok 0) else Work.openFile operand .reading
    match number with
    | .error fault =>
      c.fault (unopened operand fault) 1
      portions c named part first rest
    | .ok number =>
      if named then c.print ((if first then "" else "\n") ++ "==> " ++ shownName operand ++ " <==\n")
      match ← part number with
      | some fault => c.fault ("error reading " ++ Quote.name (shownName operand) ++ ": " ++ fault.words) 1
      | none => pure ()
      unless operand = "-" do Work.close number
      portions c named part false rest

/-- A tool that shows a part of each file, the sign asking for all but some. -/
def showParts (c : Call) (marked : Char) (show_ : Part → Nat → Action (Option Fault)) : Action Unit :=
  c.withOptions { letters := "c:n:" } (fun o => do
    let part ← partOf c o marked
    portions c (1 < o.operands.length) (show_ part) true (if o.operands.isEmpty then ["-"] else o.operands))

/-- Shows the first lines of files. -/
def head (c : Call) : Action Unit :=
  showParts c '-' (fun part number =>
    match part with
    | .lines n => firstLines c number Work.turnLimit n
    | .bytes n => firstBytes c number Work.turnLimit n
    | .linesBut n => remaining c number (fun bytes => lastLinesAt bytes n) true
    | .bytesBut n => remaining c number (fun bytes => bytes.size - n) true)

/-- Shows the last lines of files. -/
def tail (c : Call) : Action Unit :=
  showParts c '+' (fun part number =>
    match part with
    | .lines n => remaining c number (fun bytes => lastLinesAt bytes n) false
    | .bytes n => remaining c number (fun bytes => bytes.size - n) false
    | .linesBut n => skipLines c number Work.turnLimit (n - 1)
    | .bytesBut n => remaining c number (fun _ => n - 1) false)

/-! ## Counting -/

/-- What is counted in a file. -/
structure Counts where
  lines : Nat := 0
  words : Nat := 0
  bytes : Nat := 0
  /-- The length of the longest line. -/
  longest : Nat := 0
  /-- The length of the current line. -/
  width : Nat := 0
  /-- Whether a word is being read. -/
  inWord : Bool := false

/-- Takes a byte into account. -/
def Counts.add (n : Counts) (b : UInt8) : Counts :=
  let isBlank := b = 0x20 || (0x09 ≤ b && b ≤ 0x0D)
  let isPrintable := 0x20 ≤ b && b < 0x7F
  let n := { n with bytes := n.bytes + 1, lines := if b = 0x0A then n.lines + 1 else n.lines }
  let width := if b = 0x09 then n.width + (8 - n.width % 8) else if isPrintable then n.width + 1 else n.width
  let n := { n with longest := max n.longest width, width := if b = 0x0A || b = 0x0D || b = 0x0C then 0 else width }
  if isBlank then { n with inWord := false }
  else if n.inWord || !isPrintable then n
  else { n with inWord := true, words := n.words + 1 }

/-- What two files come to together. -/
def Counts.sum (a b : Counts) : Counts :=
  { lines := a.lines + b.lines, words := a.words + b.words, bytes := a.bytes + b.bytes,
    longest := max a.longest b.longest }

/-- How wide the numbers are written. -/
def numberWidth (infos : List (Option Kernel.Info)) : Nat :=
  let known := infos.filterMap id
  let total := (known.filter (·.kind = .file)).foldl (fun n info => n + info.size) 0
  max (if known.any (·.kind ≠ .file) then 7 else 1) (toString total).length

/-- Counts lines, words and bytes. -/
def wc (c : Call) : Action Unit :=
  c.withOptions { letters := "clmwL" } (fun o => do
    let every := !(o.has 'l' || o.has 'w' || o.has 'c' || o.has 'm' || o.has 'L')
    let columns (n : Counts) : List Nat :=
      (if every || o.has 'l' then [n.lines] else []) ++ (if every || o.has 'w' then [n.words] else []) ++
        (if o.has 'm' then [n.bytes] else []) ++ (if every || o.has 'c' then [n.bytes] else []) ++
        (if o.has 'L' then [n.longest] else [])
    let operands := if o.operands.isEmpty then ["-"] else o.operands
    let infos ← Work.look (fun k => operands.map (fun operand =>
      (if operand = "-" then k.examineOpened 0 else k.examine (Raw.bytes operand)).toOption))
    let width := if operands.length = 1 && (columns {}).length = 1 then 1
      else if infos.head? = some none && operands.length = 1 then 1 else numberWidth infos
    let row (n : Counts) (name : String) : Action Unit :=
      c.print (" ".intercalate ((columns n).map (fun n => Amount.padded width (toString n))) ++
        (if name = "" then "" else " " ++ name) ++ "\n")
    let rec go (total : Counts) : List String → Action Counts
      | [] => return total
      | operand :: rest => do
        let number ← if operand = "-" then pure (.ok 0) else Work.openFile operand .reading
        match number with
        | .error fault =>
          c.fault (unread operand fault) 1
          go total rest
        | .ok number =>
          let n ← count Work.turnLimit operand number {}
          unless operand = "-" do Work.close number
          row n (if o.operands.isEmpty then "" else operand)
          go (total.sum n) rest
    let total ← go {} operands
    if 1 < operands.length then row total "total")
where
  /-- Counts what can be read by a descriptor, as long as `fuel` lasts. -/
  count : (fuel : Nat) → (operand : String) → (number : Nat) → Counts → Action Counts
  | 0, _, _, n => return n
  | fuel + 1, operand, number, n => do
    Work.breathe
    match ← Work.read number 16384 with
    | .error fault =>
      c.fault (unread operand fault) 1
      return n
    | .ok bytes => if bytes.isEmpty then return n else count fuel operand number (bytes.foldl Counts.add n)

/-! ## Other ways -/

/-- Opens files for writing; those that cannot be opened are reported. -/
def openAll (c : Call) (manner : Kernel.Manner) : List String → Action (List (String × Nat))
  | [] => return []
  | path :: rest => do
    match ← Work.openFile path manner with
    | .ok number => return (path, number) :: (← openAll c manner rest)
    | .error fault =>
      c.fault (unread path fault) 1
      openAll c manner rest

/-- Writes the input to the output and to files. -/
def tee (c : Call) : Action Unit :=
  c.withOptions { letters := "a" } (fun o => do
    let outputs := ("'standard output'", 1) :: (← openAll c (if o.has 'a' then .appending else .writing) o.operands)
    let fault ← eachBlock 0 1024 (fun bytes => do
      Work.each (fun (name, number) => do
        match ← Work.write number bytes with
        | .ok () => pure ()
        | .error fault => c.fault (name ++ ": " ++ fault.words) 1) outputs
      return true)
    fault.forM (fun fault => c.fault ("read error: " ++ fault.words) 1))

end Configurator.Tool.View
