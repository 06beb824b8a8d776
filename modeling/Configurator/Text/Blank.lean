/-
Blank characters and trimming. A character is blank when it has the property White_Space; trimming
takes every blank off both ends of a text and nothing else. Case is folded for ASCII letters only.
-/

namespace Configurator.Text

/-- Whether the character has the property White_Space. -/
def isBlank (c : Char) : Bool :=
  let n := c.toNat
  (0x09 ≤ n && n ≤ 0x0D) || n == 0x20 || n == 0x85 || n == 0xA0 || n == 0x1680 ||
    (0x2000 ≤ n && n ≤ 0x200A) || n == 0x2028 || n == 0x2029 || n == 0x202F || n == 0x205F ||
    n == 0x3000

/-- Takes the trailing blanks off a list of characters. -/
def dropTrailingBlanks (cs : List Char) : List Char := (cs.reverse.dropWhile isBlank).reverse

/-- Takes the blanks off both ends of a list of characters. -/
def trimChars (cs : List Char) : List Char := dropTrailingBlanks (cs.dropWhile isBlank)

/-- Takes the blanks off both ends of a text. -/
def trim (s : String) : String := String.ofList (trimChars s.toList)

/-- The text with its ASCII capitals made small; every other character stays. -/
def lowerAscii (s : String) : String := String.ofList (s.toList.map Char.toLower)

@[simp] theorem toList_trim (s : String) : (trim s).toList = trimChars s.toList := by
  simp [trim]

end Configurator.Text
