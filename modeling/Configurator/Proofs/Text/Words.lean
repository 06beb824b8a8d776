/-
Words as they are typed: between blanks, and in small letters or capitals. Trimming cuts a text into blanks, a
part that neither begins nor ends with one, and blanks again, and there is no other way to cut it so; folding a
word gives small letters exactly if each letter of it is one of them or its capital. Main statement: a text,
trimmed and folded, is a word exactly if it is a spelling of this word between blanks.
-/
import Configurator.Text.Blank
import Mathlib

namespace Configurator.Text

/-! ## Blanks around a word -/

/-- The text has only blanks. -/
def AllBlank (s : String) : Prop := ∀ c ∈ s.toList, isBlank c = true

/-- No blank stands at either end of the text. -/
structure Bare (s : String) : Prop where
  head : ∀ c ∈ s.toList.head?, isBlank c = false
  last : ∀ c ∈ s.toList.getLast?, isBlank c = false

/-- Blanks, a word with the property, and blanks again. -/
def Padded (P : String → Prop) (s : String) : Prop :=
  ∃ u w v : String, s = u ++ w ++ v ∧ AllBlank u ∧ AllBlank v ∧ P w

theorem dropWhile_of_head {cs : List Char} (h : ∀ c ∈ cs.head?, isBlank c = false) :
    cs.dropWhile isBlank = cs := by
  cases cs with
  | nil => rfl
  | cons c rest => rw [List.dropWhile_cons_of_neg (by simp [h c rfl])]

theorem dropTrailingBlanks_eq (cs : List Char) : dropTrailingBlanks cs = cs.rdropWhile isBlank := rfl

/-- Trimming takes blanks off both ends and nothing else. -/
theorem trim_append {u w v : String} (hu : AllBlank u) (hv : AllBlank v) (hw : Bare w) :
    trim (u ++ w ++ v) = w := by
  rw [← String.toList_inj, toList_trim, String.toList_append, String.toList_append, trimChars,
    List.append_assoc, List.dropWhile_append_of_pos hu]
  by_cases hne : w.toList = []
  · have hblank : v.toList.dropWhile isBlank = [] := List.dropWhile_eq_nil_iff.2 hv
    rw [hne, List.nil_append, hblank]
    rfl
  · have hfront : ∀ c ∈ (w.toList ++ v.toList).head?, isBlank c = false := by
      rw [List.head?_append_of_ne_nil _ hne]
      exact hw.head
    have hbehind : ∀ c ∈ w.toList.reverse.head?, isBlank c = false := by
      rw [List.head?_reverse]
      exact hw.last
    rw [dropWhile_of_head hfront, dropTrailingBlanks, List.reverse_append,
      List.dropWhile_append_of_pos fun c hc => hv c (List.mem_reverse.1 hc), dropWhile_of_head hbehind,
      List.reverse_reverse]

theorem bare_trim (s : String) : Bare (trim s) := by
  constructor
  · intro c hc
    rw [toList_trim, trimChars, dropTrailingBlanks_eq] at hc
    obtain ⟨more, hmore⟩ := List.rdropWhile_prefix isBlank (l := s.toList.dropWhile isBlank)
    have hhead := List.head?_dropWhile_not isBlank s.toList
    rw [← hmore, List.head?_append, Option.mem_def.1 hc] at hhead
    exact hhead
  · intro c hc
    rw [toList_trim, trimChars, dropTrailingBlanks_eq] at hc
    obtain ⟨hne, rfl⟩ := List.mem_getLast?_eq_getLast hc
    exact Bool.not_eq_true _ ▸ List.rdropWhile_last_not isBlank _ hne

theorem exists_trim (s : String) : ∃ u v, s = u ++ trim s ++ v ∧ AllBlank u ∧ AllBlank v := by
  refine ⟨.ofList (s.toList.takeWhile isBlank), .ofList ((s.toList.dropWhile isBlank).rtakeWhile isBlank),
    ?_, fun c hc => ?_, fun c hc => ?_⟩
  · rw [← String.toList_inj]
    simp only [String.toList_append, String.toList_ofList, toList_trim, trimChars, dropTrailingBlanks_eq]
    rw [List.append_assoc, List.rdropWhile_append_rtakeWhile, List.takeWhile_append_dropWhile]
  · rw [String.toList_ofList] at hc
    exact List.mem_takeWhile_imp hc
  · rw [String.toList_ofList] at hc
    exact List.mem_rtakeWhile_imp hc

theorem trim_trim (s : String) : trim (trim s) = trim s := by
  have h := trim_append (u := "") (v := "") (fun c hc => by simp at hc) (fun c hc => by simp at hc) (bare_trim s)
  rwa [String.empty_append, String.append_empty] at h

theorem padded_iff {P : String → Prop} (hP : ∀ w, P w → Bare w) {s : String} : Padded P s ↔ P (trim s) := by
  constructor
  · rintro ⟨u, w, v, rfl, hu, hv, hw⟩
    rwa [trim_append hu hv (hP w hw)]
  · intro h
    obtain ⟨u, v, hs, hu, hv⟩ := exists_trim s
    exact ⟨u, trim s, v, hs, hu, hv, h⟩

/-! ## Small letters and capitals -/

/-- Each letter of the word, small or as a capital. -/
def Spells (word w : String) : Prop :=
  List.Forall₂ (fun small c => c = small ∨ c = small.toUpper) word.toList w.toList

theorem toLower_eq_iff {small c : Char} (h : small.isLower = true) :
    c.toLower = small ↔ c = small ∨ c = small.toUpper := by
  constructor
  · rintro rfl
    rw [Char.toUpper_toLower_eq_toUpper]
    by_cases hc : c.isUpper = true
    · exact .inr (Char.toUpper_eq_of_not_isLower (Char.not_isLower_of_isUpper hc)).symm
    · exact .inl (Char.toLower_eq_of_not_isUpper hc).symm
  · have hsmall : small.toLower = small := Char.toLower_eq_of_not_isUpper (Char.not_isUpper_of_isLower h)
    rintro (rfl | rfl)
    · exact hsmall
    · rw [Char.toLower_toUpper_eq_toLower, hsmall]

/-- Folding gives a word of small letters exactly from its spellings. -/
theorem lowerAscii_eq_iff {word w : String} (h : ∀ c ∈ word.toList, c.isLower = true) :
    lowerAscii w = word ↔ Spells word w := by
  rw [← String.toList_inj, lowerAscii, String.toList_ofList, Spells]
  generalize word.toList = small at h
  generalize w.toList = typed
  induction small generalizing typed with
  | nil => cases typed <;> simp
  | cons c rest ih =>
    cases typed with
    | nil => simp
    | cons d more =>
      rw [List.map_cons, List.cons_eq_cons, toLower_eq_iff (h c List.mem_cons_self), List.forall₂_cons,
        ih (fun c hc => h c (List.mem_cons_of_mem _ hc))]

theorem isBlank_of_isAlpha {c : Char} (h : c.isAlpha = true) : isBlank c = false := by
  simp only [Char.isAlpha, Char.isUpper, Char.isLower, Bool.or_eq_true, Bool.and_eq_true, decide_eq_true_eq,
    ge_iff_le, UInt32.le_iff_toNat_le, Char.toNat_val, Char.reduceToNat] at h
  rw [← Bool.not_eq_true]
  simp only [isBlank, Bool.or_eq_true, Bool.and_eq_true, decide_eq_true_eq, beq_iff_eq]
  omega

theorem Spells.bare {word w : String} (hword : ∀ c ∈ word.toList, c.isLower = true) (h : Spells word w) :
    Bare w := by
  have hletters : ∀ c ∈ w.toList, isBlank c = false := by
    intro c hc
    have hfolded : c.toLower ∈ word.toList := by
      rw [← (lowerAscii_eq_iff hword).2 h, lowerAscii, String.toList_ofList]
      exact List.mem_map_of_mem hc
    apply isBlank_of_isAlpha
    rw [← Char.isLower_toLower_eq_isAlpha]
    exact hword _ hfolded
  exact ⟨fun c hc => hletters c (List.mem_of_mem_head? hc),
    fun c hc => hletters c (List.mem_of_mem_getLast? hc)⟩

theorem lowerAscii_trim_eq_iff {word s : String} (hword : ∀ c ∈ word.toList, c.isLower = true) :
    lowerAscii (trim s) = word ↔ Padded (Spells word) s := by
  rw [lowerAscii_eq_iff hword, padded_iff fun w => Spells.bare hword]

end Configurator.Text
