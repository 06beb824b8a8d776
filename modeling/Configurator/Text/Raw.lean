/-
Bytes as text. Programs of the machine work on bytes; here a byte is written as the character with its
number, so such a text holds characters below 256 only.
-/
import Configurator.Utf8

namespace Configurator.Raw

/-- Bytes as a text. -/
def text (bytes : Bytes) : String := String.ofList (bytes.map (fun b => Char.ofNat b.toNat))

/-- The bytes of a text. -/
def bytes (text : String) : Bytes := text.toList.map (fun c => UInt8.ofNat c.toNat)

/-- The text of an array of bytes. -/
def ofArray (array : ByteArray) : String :=
  array.foldl (fun text b => text.push (Char.ofNat b.toNat)) ""

/-- The bytes of a text as an array. -/
def toArray (text : String) : ByteArray :=
  text.foldl (fun array c => array.push (UInt8.ofNat c.toNat)) .empty

/-- A text from outside as a text of its bytes. -/
def ofString (outside : String) : String := text (Utf8.bytes outside)

end Configurator.Raw
