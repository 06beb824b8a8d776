/-
Faults of the operating system and their texts.
-/

namespace Configurator

/-- Why the operating system refused a request. -/
inductive Fault where
  | notPermitted
  | noEntry
  | noProcess
  | noDevice
  | argumentsTooLong
  | execFormat
  | badDescriptor
  | denied
  | alreadyExists
  | notDirectory
  | isDirectory
  | invalid
  | fileBusy
  | noSpace
  | badSeek
  | brokenPipe
  | nameTooLong
  | notEmpty
  | linkLoop
  /-- A path holds a NUL byte. -/
  | nulInPath
  /-- A program name or an argument holds a NUL byte. -/
  | nulInArgument
  deriving DecidableEq, Repr

/-- The text of a fault. -/
def Fault.text : Fault → String
  | notPermitted => "Operation not permitted (os error 1)"
  | noEntry => "No such file or directory (os error 2)"
  | noProcess => "No such process (os error 3)"
  | noDevice => "No such device or address (os error 6)"
  | argumentsTooLong => "Argument list too long (os error 7)"
  | execFormat => "Exec format error (os error 8)"
  | badDescriptor => "Bad file descriptor (os error 9)"
  | denied => "Permission denied (os error 13)"
  | alreadyExists => "File exists (os error 17)"
  | notDirectory => "Not a directory (os error 20)"
  | isDirectory => "Is a directory (os error 21)"
  | invalid => "Invalid argument (os error 22)"
  | fileBusy => "Text file busy (os error 26)"
  | noSpace => "No space left on device (os error 28)"
  | badSeek => "Illegal seek (os error 29)"
  | brokenPipe => "Broken pipe (os error 32)"
  | nameTooLong => "File name too long (os error 36)"
  | notEmpty => "Directory not empty (os error 39)"
  | linkLoop => "Too many levels of symbolic links (os error 40)"
  | nulInPath => "file name contained an unexpected NUL byte"
  | nulInArgument => "nul byte found in provided data"

/-- The text of a fault without its number, as programs report it. -/
def Fault.words (fault : Fault) : String :=
  match fault.text.splitOn " (os error" with
  | words :: _ => words
  | [] => fault.text

end Configurator
