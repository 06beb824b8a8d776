/-
Quoted texts read back. A reader starts behind the opening quote and takes one character after the other: as
itself, by a short form behind a backslash, or by its code point in braces; the first quote that is not behind a
backslash ends the text. Main statements: between quotes a text is written so that it is read as itself,
whatever stands behind the closing quote, so no two texts are written alike; and every character that is written
has a printed form.
-/
import Configurator.Text.Quoted
import Mathlib.Data.List.Basic

namespace Configurator.Text

/-! ## Reading -/

/-- The character that a backslash and a character stand for. -/
def shortForm? : Char → Option Char
  | '"' => some '"'
  | '\\' => some '\\'
  | 'n' => some '\n'
  | 'r' => some '\r'
  | 't' => some '\t'
  | '0' => some '\x00'
  | _ => none

/-- The value of a hexadecimal digit; letters are small. -/
def hexDigit? (c : Char) : Option Nat := (List.range 16).find? fun n => n.digitChar = c

/-- The characters up to the closing quote, and what stands behind it. Inside braces `code` is the number that
the digits write so far. -/
def unquoteFrom : (code : Option Nat) → List Char → Option (List Char × List Char)
  | none, '"' :: rest => some ([], rest)
  | none, '\\' :: 'u' :: '\x7b' :: rest => unquoteFrom (some 0) rest
  | none, '\\' :: e :: rest => do
    let c ← shortForm? e
    let (others, behind) ← unquoteFrom none rest
    some (c :: others, behind)
  | none, c :: rest =>
    if c = '\\' then none
    else do
      let (others, behind) ← unquoteFrom none rest
      some (c :: others, behind)
  | some n, c :: rest =>
    if c = '\x7d' then do
      let (others, behind) ← unquoteFrom none rest
      some (Char.ofNat n :: others, behind)
    else do
      let digit ← hexDigit? c
      unquoteFrom (some (16 * n + digit)) rest
  | _, [] => none

/-- The text that a quoted text at the front says, and what stands behind it. -/
def unquote? : List Char → Option (String × List Char)
  | '"' :: text => (unquoteFrom none text).map fun (chars, behind) => (String.ofList chars, behind)
  | _ => none

/-! ## Characters -/

/-- Wherever the text stands between quotes, a reader takes it for the character. -/
def Denotes (text : List Char) (c : Char) : Prop :=
  ∀ rest, unquoteFrom none (text ++ rest) = do
    let (others, behind) ← unquoteFrom none rest
    some (c :: others, behind)

theorem denotes_shortForm {e c : Char} (h : shortForm? e = some c) : Denotes ['\\', e] c := by
  have hcode : e ≠ 'u' := by
    rintro rfl
    cases h
  intro rest
  rw [List.cons_append, List.singleton_append, unquoteFrom, h]
  · rfl
  · exact fun _ hu _ => hcode hu

theorem denotes_self {c : Char} (hquote : c ≠ '"') (hbackslash : c ≠ '\\') : Denotes [c] c := by
  intro rest
  rw [List.singleton_append, unquoteFrom, if_neg hbackslash]
  · exact hquote
  · exact fun _ hb _ => hbackslash hb
  · exact fun _ _ hb _ => hbackslash hb

/-! ### Code points -/

theorem hexDigit?_digitChar {n : Nat} (h : n < 16) : hexDigit? n.digitChar = some n := by
  have hall : ∀ n < 16, hexDigit? n.digitChar = some n := by decide
  exact hall n h

theorem unquoteFrom_digitChar {n : Nat} (h : n < 16) (m : Nat) (rest : List Char) :
    unquoteFrom (some m) (n.digitChar :: rest) = unquoteFrom (some (16 * m + n)) rest := by
  have hbrace : ∀ n < 16, n.digitChar ≠ '\x7d' := by decide
  rw [unquoteFrom, if_neg (hbrace n h), hexDigit?_digitChar h]
  rfl

/-- The digits of a number are read on top of what was read before, which they move up. -/
theorem unquoteFrom_toDigits (n : Nat) :
    ∃ scale, ∀ m rest,
      unquoteFrom (some m) (Nat.toDigits 16 n ++ rest) = unquoteFrom (some (scale * m + n)) rest := by
  induction n using Nat.strongRecOn with
  | ind n ih =>
    rcases Nat.lt_or_ge n 16 with hn | hn
    · refine ⟨16, fun m rest => ?_⟩
      rw [Nat.toDigits_of_lt_base hn, List.singleton_append, unquoteFrom_digitChar hn]
    · -- all digits but the last are those of the sixteenth part
      obtain ⟨scale, hread⟩ := ih (n / 16) (by omega)
      refine ⟨16 * scale, fun m rest => ?_⟩
      rw [Nat.toDigits_of_base_le (by decide) hn, List.append_assoc, hread, List.singleton_append,
        unquoteFrom_digitChar (Nat.mod_lt _ (by decide))]
      congr 2
      rw [Nat.mul_assoc]
      omega

theorem denotes_codePointForm (c : Char) : Denotes (codePointForm c) c := by
  intro rest
  obtain ⟨scale, hread⟩ := unquoteFrom_toDigits c.toNat
  have hopened : unquoteFrom none (codePointForm c ++ rest) =
      unquoteFrom (some 0) (Nat.toDigits 16 c.toNat ++ '\x7d' :: rest) := by
    simp only [codePointForm, List.append_assoc, List.cons_append, List.nil_append]
    rw [unquoteFrom]
  rw [hopened, hread, Nat.mul_zero, Nat.zero_add, unquoteFrom, if_pos rfl, Char.ofNat_toNat]

/-- A character is written so that it is read as itself. -/
theorem denotes_quotedChar (c : Char) : Denotes (quotedChar c) c := by
  unfold quotedChar
  -- six characters have a short form
  iterate 6
    split
    · next h =>
      subst h
      exact denotes_shortForm rfl
  split
  · exact denotes_codePointForm c
  · next hquote hbackslash _ _ _ _ _ => exact denotes_self hquote hbackslash

/-! ## Texts -/

theorem unquoteFrom_flatMap (cs rest : List Char) :
    unquoteFrom none (cs.flatMap quotedChar ++ '"' :: rest) = some (cs, rest) := by
  induction cs with
  | nil => rfl
  | cons c cs ih =>
    rw [List.flatMap_cons, List.append_assoc, denotes_quotedChar, ih]
    rfl

theorem toList_quoted (s : String) : (quoted s).toList = '"' :: (s.toList.flatMap quotedChar ++ ['"']) :=
  String.toList_ofList

/-- A quoted text is read as the text up to its own end, whatever follows it. -/
theorem unquote?_quoted (s : String) (rest : List Char) :
    unquote? ((quoted s).toList ++ rest) = some (s, rest) := by
  rw [toList_quoted, List.cons_append, List.append_assoc, List.singleton_append, unquote?,
    unquoteFrom_flatMap, Option.map_some]
  simp only [String.ofList_toList]

/-- Other spellings are read as well, but no text without a closing quote. -/
example : unquote? "\"\\u\x7b041\x7db\" ".toList = some ("Ab", [' ']) ∧ unquote? "\"b\\\"".toList = none := by
  decide +kernel

theorem quoted_inj {s t : String} : quoted s = quoted t ↔ s = t := by
  refine ⟨fun h => ?_, congrArg quoted⟩
  have hs := unquote?_quoted s []
  rw [h, unquote?_quoted t []] at hs
  exact (Prod.mk.inj (Option.some.inj hs)).1.symm

/-! ## Printed forms -/

/-- The character has a printed form of its own and keeps apart from its neighbour. -/
def Printed (c : Char) : Prop := isExtending c = false ∧ isUnprintable c = false

/-- The tables begin behind the controls. -/
theorem printed_of_ascii {c : Char} (hlow : 0x20 ≤ c.toNat) (hhigh : c.toNat < 0x7F) : Printed c := by
  have hextending : ∀ range ∈ extendingRanges, 0xA0 ≤ range.1 := by decide +kernel
  have hunprintable : ∀ range ∈ unprintableRanges, 0xA0 ≤ range.1 := by decide +kernel
  constructor
  · rw [isExtending, List.any_eq_false]
    intro range hrange
    have := hextending range hrange
    simp
    omega
  · have hcontrol : isControl c = false := by simp [isControl]; omega
    rw [isUnprintable, hcontrol, Bool.false_or, List.any_eq_false]
    intro range hrange
    have := hunprintable range hrange
    simp
    omega

theorem exists_digitChar_of_mem_toDigits {n : Nat} {c : Char} (h : c ∈ Nat.toDigits 16 n) :
    ∃ digit < 16, c = digit.digitChar := by
  induction n using Nat.strongRecOn with
  | ind n ih =>
    rcases Nat.lt_or_ge n 16 with hn | hn
    · rw [Nat.toDigits_of_lt_base hn, List.mem_singleton] at h
      exact ⟨n, hn, h⟩
    · rw [Nat.toDigits_of_base_le (by decide) hn, List.mem_append, List.mem_singleton] at h
      rcases h with h | h
      · exact ih (n / 16) (by omega) h
      · exact ⟨n % 16, Nat.mod_lt _ (by decide), h⟩

theorem printed_of_mem_shortForm {e d : Char} (he : Printed e) (h : d ∈ ['\\', e]) : Printed d := by
  simp only [List.mem_cons, List.not_mem_nil, or_false] at h
  rcases h with rfl | rfl
  · exact printed_of_ascii (by decide) (by decide)
  · exact he

theorem printed_of_mem_codePointForm {c d : Char} (h : d ∈ codePointForm c) : Printed d := by
  simp only [codePointForm, List.mem_append, List.mem_cons, List.not_mem_nil, or_false] at h
  rcases h with ((rfl | rfl | rfl) | hdigit) | rfl
  · exact printed_of_ascii (by decide) (by decide)
  · exact printed_of_ascii (by decide) (by decide)
  · exact printed_of_ascii (by decide) (by decide)
  · obtain ⟨digit, hlt, rfl⟩ := exists_digitChar_of_mem_toDigits hdigit
    have hascii : ∀ digit < 16, 0x20 ≤ digit.digitChar.toNat ∧ digit.digitChar.toNat < 0x7F := by decide
    exact printed_of_ascii (hascii digit hlt).1 (hascii digit hlt).2
  · exact printed_of_ascii (by decide) (by decide)

theorem printed_of_mem_quotedChar {c d : Char} (h : d ∈ quotedChar c) : Printed d := by
  unfold quotedChar at h
  iterate 6
    split at h
    · exact printed_of_mem_shortForm (printed_of_ascii (by decide) (by decide)) h
  split at h
  · exact printed_of_mem_codePointForm h
  · next hprinted =>
    rw [List.mem_singleton] at h
    subst h
    rwa [Bool.or_eq_true, not_or, Bool.not_eq_true, Bool.not_eq_true] at hprinted

theorem printed_of_mem_quoted {s : String} {d : Char} (h : d ∈ (quoted s).toList) : Printed d := by
  rw [toList_quoted] at h
  simp only [List.mem_cons, List.mem_append, List.mem_flatMap, List.not_mem_nil, or_false] at h
  rcases h with rfl | ⟨c, -, hc⟩ | rfl
  · exact printed_of_ascii (by decide) (by decide)
  · exact printed_of_mem_quotedChar hc
  · exact printed_of_ascii (by decide) (by decide)

/-! ## Lines -/

/-- The characters at which a line ends, by the standard. -/
def lineEnds : List Char := ['\n', '\x0b', '\x0c', '\r', '\u0085', '\u2028', '\u2029']

/-- The ends of lines are controls, apart from two that stand in the table. -/
theorem isUnprintable_of_mem_lineEnds {c : Char} (h : c ∈ lineEnds) : isUnprintable c = true := by
  have heastern : ((0x2028, 0x202F) : Nat × Nat) ∈ unprintableEastern := by decide
  have hrange : ((0x2028, 0x202F) : Nat × Nat) ∈ unprintableRanges := by
    simp only [unprintableRanges, List.mem_append, heastern, or_true, true_or]
  rw [isUnprintable, Bool.or_eq_true, List.any_eq_true]
  simp only [lineEnds, List.mem_cons, List.not_mem_nil, or_false] at h
  rcases h with rfl | rfl | rfl | rfl | rfl | rfl | rfl
  iterate 5 exact .inl rfl
  · exact .inr ⟨_, hrange, rfl⟩
  · exact .inr ⟨_, hrange, rfl⟩

/-- What has a printed form is no control and ends no line. -/
theorem Printed.on_line {c : Char} (h : Printed c) : isControl c = false ∧ c ∉ lineEnds := by
  obtain ⟨-, hunprintable⟩ := h
  constructor
  · rw [isUnprintable, Bool.or_eq_false_iff] at hunprintable
    exact hunprintable.1
  · intro hend
    rw [isUnprintable_of_mem_lineEnds hend] at hunprintable
    cases hunprintable

end Configurator.Text
