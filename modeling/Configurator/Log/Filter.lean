/-
Log filters: which events are written. A filter is a list of directives; each names the beginning of
an area's name (or none, for every area), perhaps a value that the event must carry, and the least
important level that passes. The most particular directive decides: the one with the longest
beginning, then one that asks for a value, then by the names; of two alike the later one. What a text
spells is read piece by piece; a piece that is no directive is refused with a remark, and the others
count.
-/
import Configurator.Log.Event
import Configurator.Log.Pattern
import Configurator.Text.Pieces
import Configurator.Utf8

namespace Configurator.Log

/-- A value for which a directive asks. -/
structure Demand where
  /-- The name of the value. -/
  name : String
  /-- Whether the directive says what the value must be. -/
  exacting : Bool
  deriving DecidableEq, Repr

/-- One rule of a filter. -/
structure Directive where
  /-- How the name of an area must begin. -/
  start : String := ""
  /-- The activity inside which the rule holds, if it is not for all events. -/
  activity : Option String := none
  /-- The value that an event must carry. -/
  demand : Option Demand := none
  /-- The rank of the least important level that passes; 0 lets nothing pass. -/
  limit : Nat := 5
  deriving DecidableEq, Repr

/-- A list of rules. -/
structure Filter where
  directives : List Directive
  deriving DecidableEq, Repr

/-- Why a text is no rule. -/
inductive DirectiveFault where
  /-- It has not the form of a rule. -/
  | form
  /-- What stands in the place of a level is none. -/
  | level
  /-- A value cannot be used. -/
  | value (fault : Pattern.Fault)
  deriving DecidableEq, Repr

/-- What the user reads about a fault. -/
def DirectiveFault.text : DirectiveFault → String
  | form => "invalid filter directive"
  | level =>
    "error parsing level filter: expected one of \"off\", \"error\", \"warn\", \"info\", " ++
      "\"debug\", \"trace\", or a number 0-5"
  | value .malformed => "invalid field filter: error building NFA"
  | value .wordBoundary =>
    "invalid field filter: unsupported regex feature for DFAs: cannot build DFAs for regexes with " ++
      "Unicode word boundaries; switch to ASCII word boundaries, or heuristically enable Unicode " ++
      "word boundaries or use a different regex engine"

/-! ## Levels -/

/-- The rank that a number stands for: decimal digits, perhaps behind a plus sign. -/
def limitOfDigits? (digits : List Char) : Option Nat :=
  let digits := if digits.head? = some '+' then digits.tail else digits
  if digits = [] || !digits.all Char.isDigit then none
  else
    match digits.dropWhile (· = '0') with
    | [] => some 0
    | ['1'] => some 1
    | ['2'] => some 2
    | ['3'] => some 3
    | ['4'] => some 4
    | ['5'] => some 5
    | _ => none

/-- The rank that a level's name stands for, in any mix of ASCII case, or its number. -/
def limitOfName? (name : String) : Option Nat :=
  match limitOfDigits? name.toList with
  | some limit => some limit
  | none =>
    match Text.lowerAscii name with
    | "off" => some 0
    | "error" => some 1
    | "warn" => some 2
    | "info" => some 3
    | "debug" => some 4
    | "trace" => some 5
    | _ => none

/-! ## Reading a directive -/

namespace Directive

/-- What is being read, and the position where it began. -/
inductive Reading where
  | nothing
  | levelOrArea (from_ : Nat)
  | activity (from_ : Nat)
  | demand (from_ : Nat)
  | demandRead
  | activityRead
  | level (from_ : Nat)
  deriving DecidableEq, Repr

/-- The part of a text between two byte positions. -/
def slice (text : String) (first last : Nat) : String :=
  Utf8.decodeLossy (((Utf8.bytes text).take last).drop first)

/-- The part of a text from a byte position on. -/
def sliceFrom (text : String) (first : Nat) : String := Utf8.decodeLossy ((Utf8.bytes text).drop first)

/-- The demand that a text between braces spells: a name, or a name and a value behind an equals
sign. -/
def demandOf (text : String) : Except DirectiveFault Demand :=
  match (Text.pieces '=' text.toList).map String.ofList with
  | name :: value :: _ =>
    match Pattern.fault? value with
    | none => .ok ⟨name, true⟩
    | some fault => .error (.value fault)
  | _ => .ok ⟨text, false⟩

/-- Whether a rule can begin with a character. -/
def canBegin (c : Char) : Bool := Text.isAlphanumeric c || c == '_' || c == ':' || c == '-'

/-- Reads the character at a position. -/
def step (text : String) (position : Nat) (d : Directive) (c : Char) :
    Reading → Except DirectiveFault (Directive × Reading)
  | .nothing =>
    if c = '[' then .ok (d, .activity (position + 1))
    else if canBegin c then .ok (d, .levelOrArea position)
    else .error .form
  | .levelOrArea from_ =>
    if c = '=' then .ok ({ d with start := slice text from_ position }, .level (position + 1))
    else if c = '[' then .ok ({ d with start := slice text from_ position }, .activity (position + 1))
    else .ok (d, .levelOrArea from_)
  | .activity from_ =>
    if c = ']' then .ok ({ d with activity := some (slice text from_ position) }, .activityRead)
    else if c = '\x7b' then
      let name := slice text from_ position
      .ok (if name = "" then d else { d with activity := some name }, .demand (position + 1))
    else .ok (d, .activity from_)
  | .demand from_ =>
    if c = '\x7d' then
      if slice text from_ position = "" then .error .form
      else (demandOf (slice text from_ position)).map (fun v => ({ d with demand := some v }, .demandRead))
    else .ok (d, .demand from_)
  | .demandRead => if c = ']' then .ok (d, .activityRead) else .error .form
  | .activityRead => if c = '=' then .ok (d, .level (position + 1)) else .error .form
  | .level from_ => .ok (d, .level from_)

/-- Reads characters from a position on. -/
def steps (text : String) : (position : Nat) → List Char → Directive → Reading →
    Except DirectiveFault (Directive × Reading)
  | _, [], d, reading => .ok (d, reading)
  | position, c :: rest, d, reading =>
    match step text position d c reading with
    | .ok (d, reading) => steps text (position + c.utf8Size) rest d reading
    | .error fault => .error fault

/-- The rule after all characters were read. -/
def finish (text : String) (d : Directive) : Reading → Except DirectiveFault Directive
  | .levelOrArea from_ =>
    match limitOfName? (sliceFrom text from_) with
    | some limit => .ok { d with limit := limit }
    | none => .ok { d with start := sliceFrom text from_ }
  | .level from_ =>
    if sliceFrom text from_ = "" then .ok d
    else
      match limitOfName? (sliceFrom text from_) with
      | some limit => .ok { d with limit := limit }
      | none => .error .level
  | .activityRead => .ok d
  | _ => .error .form

/-- The rule that a text spells: a level for every area, the beginning of an area's name, an
activity or a demand between brackets, and a level. Positions are counted from the first character
that is not blank and hold for the whole text, so a blank in front moves what is cut out. -/
def parse (text : String) : Except DirectiveFault Directive :=
  match steps text 0 (Text.trim text).toList {} .nothing with
  | .ok (d, reading) => finish text d reading
  | .error fault => .error fault

/-! ## Applying a directive -/

/-- Whether an event carries a value. The message is a value too. -/
def carries (e : Event) (name : String) : Bool :=
  name = "message" || e.fields.any (fun (field, _) => field = name)

/-- Whether a rule is about an event. No event of the tool stands inside an activity, and what a
value must be is asked of activities only. -/
def covers (d : Directive) (e : Event) : Bool :=
  d.activity.isNone && d.start.toList.isPrefixOf e.area.name.toList &&
    match d.demand with
    | none => true
    | some demand => !demand.exacting && carries e demand.name

/-- The name of the value for which a rule asks. -/
def demandName (d : Directive) : String := (d.demand.map Demand.name).getD ""

/-- Compares two rules by how particular they are. -/
def order (a b : Directive) : Ordering :=
  (compare a.start.utf8ByteSize b.start.utf8ByteSize).then
    ((compare a.demand.isSome.toNat b.demand.isSome.toNat).then
      ((compare a.start b.start).then (compare a.demandName b.demandName)))

end Directive

namespace Filter

/-- The filter that lets only errors pass. -/
def errorsOnly : Filter := ⟨[{ limit := 1 }]⟩

/-- The filter that lets everything down to a level pass. -/
def upTo (level : Level) : Filter := ⟨[{ limit := level.rank }]⟩

/-- The parts of a comma separated text, empty ones left out. -/
def parts (text : String) : List String :=
  ((Text.pieces ',' text.toList).filter (· ≠ [])).map String.ofList

/-- The filter that a comma separated text spells; without a single rule only errors pass. -/
def parse (text : String) : Filter :=
  match (parts text).filterMap (fun part => (Directive.parse part).toOption) with
  | [] => errorsOnly
  | directives => ⟨directives⟩

/-- The remark about a part, if it is no rule. -/
def remark? (part : String) : Option String :=
  match Directive.parse part with
  | .ok _ => none
  | .error fault => some ("ignoring \x60" ++ part ++ "\x60: " ++ fault.text)

/-- The remarks about the parts of a text that are no rules. -/
def remarks (text : String) : List String := (parts text).filterMap remark?

/-- The more particular of two rules, and of two alike the second. -/
def prefer (best : Option Directive) (d : Directive) : Option Directive :=
  match best with
  | none => some d
  | some b => if d.order b = .lt then some b else some d

/-- The rule that decides about an event. -/
def decisive? (f : Filter) (e : Event) : Option Directive :=
  (f.directives.filter (·.covers e)).foldl prefer none

/-- Whether an event passes. -/
def passes (f : Filter) (e : Event) : Bool :=
  match f.decisive? e with
  | some d => e.level.rank ≤ d.limit
  | none => false

end Filter

end Configurator.Log
