/-
Log events: what the tool notes about its own work. An event has a level, the area of the tool it
comes from, a message and named values, and is written as one line. A record holds events and, in
between, what others wrote.
-/
import Configurator.Utf8

namespace Configurator.Log

/-- How important an event is, from the most important on. -/
inductive Level where
  | error
  | warn
  | info
  | debug
  | trace
  deriving DecidableEq, Repr

namespace Level

/-- The place of a level, from the most important on. -/
def rank : Level → Nat
  | error => 1
  | warn => 2
  | info => 3
  | debug => 4
  | trace => 5

/-- The level as it opens a line, five columns wide. -/
def column : Level → String
  | error => "ERROR"
  | warn => " WARN"
  | info => " INFO"
  | debug => "DEBUG"
  | trace => "TRACE"

end Level

/-- The part of the tool that an event comes from. -/
inductive Area where
  | program
  | terminal
  | command
  | discovery
  | planning
  | dialogue
  | running
  deriving DecidableEq, Repr

/-- The name by which a filter selects an area. -/
def Area.name : Area → String
  | program => "whipbuild"
  | terminal => "whipbuild::prompts"
  | command => "whipbuild::cmd::build"
  | discovery => "whipbuild_lib::discover"
  | planning => "whipbuild_lib::pipeline"
  | dialogue => "whipbuild_lib::prompt"
  | running => "whipbuild_lib::run"

/-- One event. -/
structure Event where
  level : Level
  area : Area
  message : String
  fields : List (String × String) := []
  deriving DecidableEq, Repr

/-- The event as a line, without its end. -/
def Event.line (e : Event) : String :=
  e.level.column ++ " " ++ e.area.name ++ ": " ++ e.message ++
    String.join (e.fields.map (fun (name, value) => " " ++ name ++ "=" ++ value))

/-- One entry of a record of events and of bytes that others wrote in between. -/
inductive Entry where
  | event (event : Event)
  | written (bytes : Bytes)
  deriving DecidableEq, Repr

/-- The event of an entry. -/
def Entry.event? : Entry → Option Event
  | event e => some e
  | written _ => none

/-- The bytes of an entry, without those of an event that does not pass. -/
def Entry.bytes (passes : Event → Bool) : Entry → Bytes
  | event e => if passes e then Utf8.bytes (e.line ++ "\n") else []
  | written bytes => bytes

end Configurator.Log
