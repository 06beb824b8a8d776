/-
The working directory of a script, and the permissions that new files do not get.
-/
import Configurator.Shell.Variables

namespace Configurator.Shell.Directory

open Host

/-! ## Going to directories -/

/-- The parts of an absolute path with `..` taken literally. -/
def literalParts (path : String) : List String :=
  (Text.pieces '/' path.toList).foldl (fun (acc : List String) part =>
    if part = [] || part = ['.'] then acc
    else if part = ['.', '.'] then acc.dropLast
    else acc ++ [String.ofList part]) []

/-- An absolute path with `..` taken literally; two slashes in front, and no more, are kept. -/
def literalPath (path : String) : String :=
  let front := match path.toList with
    | '/' :: '/' :: '/' :: _ => "/"
    | '/' :: '/' :: _ => "//"
    | _ => "/"
  front ++ "/".intercalate (literalParts path)

/-- The path of the working directory, links resolved. -/
def resolvedPath (k : Kernel) : String := ((k.disk.pathTo? k.self.here).map Raw.text).getD ""

/-- Makes the directory that a path leads to the working directory. -/
def moveTo (path : String) (k : Kernel) : Except Fault Kernel := do
  let id ← k.disk.resolve k.self.here (Raw.bytes path)
  if k.disk.isDirectory id then return k.modifySelf ({ · with here := id }) else throw .notDirectory

/-- Goes to a directory, which the script sees by the path it took or by its path with links resolved;
tells why that was not possible. -/
def enter (resolved : Bool) (path : String) : Action (Except Fault Unit) := do
  let s ← get
  let isAbsolute := path.toList.head? = some '/'
  let root := if s.directory = "/" then "" else s.directory
  let reached := literalPath (if isAbsolute then path else root ++ "/" ++ path)
  match ← Work.attemptChange (moveTo (if resolved then path else reached)) with
  | .ok () =>
    let directory ← if resolved then Work.look resolvedPath else pure reached
    set (({ s with directory := directory }.provide "OLDPWD" s.directory).provide "PWD" directory)
    return .ok ()
  | .error fault => return .error fault

/-- Whether a path says from where it leads, so that it is not searched for. -/
def isAnchored (path : String) : Bool :=
  match Text.pieces '/' path.toList with
  | [] :: _ :: _ | ['.'] :: _ | ['.', '.'] :: _ => true
  | _ => false

/-- The places where a directory is looked for, each with whether it is shown when it is found. -/
def places (s : State) (path : String) : List (String × Bool) :=
  let itself := [(path, false)]
  match s.lookup "CDPATH" with
  | some directories =>
    if isAnchored path then itself
    else (Text.pieces ':' directories.toList).map (fun directory =>
      if directory = [] then (path, false) else (String.ofList directory ++ "/" ++ path, true)) ++ itself
  | none => itself

/-- Changes the working directory. -/
def change (operands : List String) : Action Unit :=
  Operand.withOptions "LP" operands (fun given words => do
    let s ← get
    let resolved := given.getLast?.any (fun (c, _) => c = 'P')
    let (target, back) := match words with
      | [] => ((s.lookup "HOME").getD "", false)
      | "-" :: _ => ((s.lookup "OLDPWD").getD "", true)
      | target :: _ => (target, false)
    let path := if target = "" then "." else target
    let found ← Work.look (fun k => (places s path).find? (fun (place, _) => k.isDirectory (Raw.bytes place)))
    let (place, shown) := found.getD (path, false)
    match ← enter resolved place with
    | .ok () =>
      if back || shown then print ((← get).directory ++ "\n")
      setStatus 0
    | .error _ => abort ("can't cd to " ++ path))

/-- Shows the working directory. -/
def present (operands : List String) : Action Unit :=
  Operand.withOptions "LP" operands (fun given _ => do
    let s ← get
    let resolved := given.getLast?.any (fun (c, _) => c = 'P')
    let directory ← if resolved then Work.look resolvedPath else pure s.directory
    print (directory ++ "\n")
    setStatus 0)

/-! ## Permissions -/

/-- The permissions of the owner, of the group and of others, as three numbers. -/
def triples (mode : Nat) : List Nat := [mode / 64 % 8, mode / 8 % 8, mode % 8]

/-- The letters of permissions. -/
def lettersOf (bits : Nat) : String :=
  String.ofList (["r", "w", "x"].zip [4, 2, 1] |>.flatMap (fun (letter, bit) =>
    if bits / bit % 2 = 1 then letter.toList else []))

/-- All permissions in words. -/
def words (mode : Nat) : String :=
  ",".intercalate ((["u=", "g=", "o="].zip (triples mode)).map (fun (who, bits) => who ++ lettersOf bits))

/-- A number in base eight, with as many digits at least. -/
def octal (least n : Nat) : String :=
  let digits := Nat.toDigits 8 n
  String.ofList (List.replicate (least - digits.length) '0' ++ digits)

/-- The bits that a letter of a clause stands for, in a triple of permissions: a permission, or the
permissions of someone. -/
def bitsOf? (mode : Nat) : Char → Option Nat
  | 'r' => some 4
  | 'w' => some 2
  | 'x' | 'X' => some 1
  | 's' | 't' => some 0
  | 'u' => some (mode / 64 % 8)
  | 'g' => some (mode / 8 % 8)
  | 'o' => some (mode % 8)
  | _ => none

/-- The permissions after one action on those of some people. -/
def applyAction (who : Nat) (sign : Char) (bits mode : Nat) : Nat :=
  let spread := who * bits
  match sign with
  | '+' => mode ||| spread
  | '-' => mode &&& (0o777 ^^^ spread)
  | _ => (mode &&& (0o777 ^^^ (who * 7))) ||| spread

/-- The permissions after the actions of a clause on those of some people; `fuel` bounds their
number. -/
def actions (who : Nat) : (fuel : Nat) → List Char → Nat → Option Nat
  | 0, _, mode => some mode
  | _ + 1, [], mode => some mode
  | fuel + 1, sign :: rest, mode =>
    if sign = '+' || sign = '-' || sign = '=' then
      let letters := rest.takeWhile (fun c => c ≠ '+' && c ≠ '-' && c ≠ '=')
      match letters.mapM (bitsOf? mode) with
      | some bits =>
        actions who fuel (rest.drop letters.length) (applyAction who sign (bits.foldl (· ||| ·) 0) mode)
      | none => none
    else none

/-- The people that a letter of a clause stands for: one bit for each triple of permissions. -/
def whoOf? : Char → Option Nat
  | 'u' => some 64
  | 'g' => some 8
  | 'o' => some 1
  | 'a' => some 73
  | _ => none

/-- The permissions after a clause. -/
def clause (mode : Nat) (text : List Char) : Option Nat :=
  let people := text.takeWhile (fun c => (whoOf? c).isSome)
  let who := (people.filterMap whoOf?).foldl (· ||| ·) 0
  actions (if people = [] then 73 else who) (text.length + 1) (text.drop people.length) mode

def ofOctal? (digits : List Char) : Option Nat := (Arithmetic.ofDigits 8 digits).map Int.toNat

/-- Shows or sets the permissions that new files do not get. -/
def restrict (operands : List String) : Action Unit :=
  Operand.withOptions "S" operands (fun given operands => do
    let mask ← Work.look (·.self.mask)
    let allowed := 0o777 ^^^ mask
    setStatus 0
    match operands with
    | [] => print ((if given.isEmpty then octal 4 mask else words allowed) ++ "\n")
    | operand :: _ =>
      let change (mask : Nat) : Action Unit := Work.change (·.modifySelf ({ · with mask := mask % 512 }))
      if operand.toList.head?.any Char.isDigit then
        match ofOctal? operand.toList with
        | some mask => change mask
        | none => abort ("Illegal number: " ++ operand)
      else
        match (Text.pieces ',' operand.toList).foldlM clause allowed with
        | some allowed => change (0o777 ^^^ allowed)
        | none => abort ("Illegal mode: " ++ operand))

end Configurator.Shell.Directory
