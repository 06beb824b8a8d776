/-
Reading a shown span of time back. A text of one of the three forms has one reading only: the digits at its
head end at the first character that is none, and what follows them names the form. Main statement: the text of
a span reads as the last multiple of the form's unit that is not above the span, and of two spans the longer one
does not read as less, whatever forms they are shown in.
-/
import Configurator.Elapsed
import Mathlib.Data.List.Basic

namespace Configurator

/-! ## Decimal numbers -/

/-- Digits that spell a number without a zero in front. -/
structure Numeral (ds : List Char) (n : Nat) : Prop where
  ne_nil : ds ≠ []
  isDigit : ∀ c ∈ ds, c.isDigit = true
  strict : ds.head? = some '0' → ds = ['0']
  value : Nat.ofDigitChars 10 ds 0 = n

namespace Numeral

/-- The digits of a number begin with a zero for zero only. -/
theorem toDigits_strict (n : Nat) (h : (Nat.toDigits 10 n).head? = some '0') : Nat.toDigits 10 n = ['0'] := by
  induction n using Nat.strongRecOn with
  | ind n ih =>
    rcases Nat.lt_or_ge n 10 with hn | hn
    · rw [Nat.toDigits_of_lt_base hn] at h ⊢
      rw [List.head?_cons, Option.some_inj] at h
      rw [h]
    · -- the first digit of a longer number is that of its tenth, which is not zero
      rw [Nat.toDigits_of_base_le (by decide) hn, List.head?_append_of_ne_nil _ Nat.toDigits_ne_nil] at h
      have htenth := congrArg (Nat.ofDigitChars 10 · 0) (ih (n / 10) (by omega) h)
      rw [Nat.ofDigitChars_ten_toDigits] at htenth
      have hzero : n / 10 = 0 := htenth
      omega

theorem toList_toString (n : Nat) : (toString n).toList = Nat.toDigits 10 n := by
  rw [Nat.toString_eq_repr, Nat.toList_repr]

theorem toString (n : Nat) : Numeral (toString n).toList n := by
  rw [toList_toString]
  exact ⟨Nat.toDigits_ne_nil, fun c hc => Nat.isDigit_of_mem_toDigits (by decide) (by decide) hc,
    toDigits_strict n, Nat.ofDigitChars_ten_toDigits⟩

/-- A number at the head of a text ends where its digits do, and the text has what follows it. -/
theorem append_inj {ds ds' rest rest' : List Char} {n n' : Nat} {c c' : Char} (h : Numeral ds n)
    (h' : Numeral ds' n') (hc : c.isDigit = false) (hc' : c'.isDigit = false)
    (heq : ds ++ c :: rest = ds' ++ c' :: rest') : n = n' ∧ c :: rest = c' :: rest' := by
  have hdigits := congrArg (List.takeWhile Char.isDigit) heq
  rw [List.takeWhile_append_of_pos h.isDigit, List.takeWhile_append_of_pos h'.isDigit,
    List.takeWhile_cons_of_neg (by simp [hc]), List.takeWhile_cons_of_neg (by simp [hc']),
    List.append_nil, List.append_nil] at hdigits
  subst hdigits
  exact ⟨h.value.symm.trans h'.value, List.append_cancel_left heq⟩

end Numeral

namespace Elapsed

/-! ## Readings -/

/-- What a shown span says. -/
inductive Reading where
  | milliseconds (count : Nat)
  | hundredths (seconds count : Nat)
  | minutes (count seconds : Nat)
  deriving DecidableEq, Repr

namespace Reading

/-- The nanoseconds that are said. -/
def total : Reading → Nat
  | milliseconds count => count * 1000000
  | hundredths seconds count => seconds * 1000000000 + count * 10000000
  | minutes count seconds => (60 * count + seconds) * 1000000000

/-- The nanoseconds in the last place. -/
def unit : Reading → Nat
  | milliseconds _ => 1000000
  | hundredths _ _ => 10000000
  | minutes _ _ => 1000000000

end Reading

/-- The texts of the three forms, with what they say. -/
inductive Says : List Char → Reading → Prop where
  /-- `Nms`. -/
  | milliseconds {ds : List Char} {n : Nat} (hn : Numeral ds n) (hle : n ≤ 999) :
    Says (ds ++ ['m', 's']) (.milliseconds n)
  /-- `S.HHs`. -/
  | hundredths {ds : List Char} {s h : Nat} {a b : Char} (hs : Numeral ds s) (hpos : 1 ≤ s) (hle : s ≤ 59)
    (ha : a.isDigit = true) (hb : b.isDigit = true) (hh : Nat.ofDigitChars 10 [a, b] 0 = h) :
    Says (ds ++ ['.', a, b, 's']) (.hundredths s h)
  /-- `Mm Ss`. -/
  | minutes {ds es : List Char} {m s : Nat} (hm : Numeral ds m) (hpos : 1 ≤ m) (hs : Numeral es s)
    (hle : s ≤ 59) : Says (ds ++ 'm' :: ' ' :: (es ++ ['s'])) (.minutes m s)

/-- A text says one thing at most. -/
theorem Says.unique {cs cs' : List Char} {r r' : Reading} (h : Says cs r) (h' : Says cs' r')
    (hcs : cs = cs') : r = r' := by
  -- the first character that is no digit tells the forms apart, and the digits before it are the same
  cases h with
  | milliseconds hn _ =>
    cases h' with
    | milliseconds hn' _ =>
      obtain ⟨rfl, -⟩ := hn.append_inj hn' rfl rfl hcs
      rfl
    | hundredths hs' _ _ _ _ _ =>
      obtain ⟨-, hrest⟩ := hn.append_inj hs' rfl rfl hcs
      cases hrest
    | minutes hm' _ _ _ =>
      obtain ⟨-, hrest⟩ := hn.append_inj hm' rfl rfl hcs
      cases hrest
  | hundredths hs _ _ _ _ hh =>
    cases h' with
    | milliseconds hn' _ =>
      obtain ⟨-, hrest⟩ := hs.append_inj hn' rfl rfl hcs
      cases hrest
    | hundredths hs' _ _ _ _ hh' =>
      obtain ⟨rfl, hrest⟩ := hs.append_inj hs' rfl rfl hcs
      cases hrest
      rw [← hh, ← hh']
    | minutes hm' _ _ _ =>
      obtain ⟨-, hrest⟩ := hs.append_inj hm' rfl rfl hcs
      cases hrest
  | minutes hm _ hs _ =>
    cases h' with
    | milliseconds hn' _ =>
      obtain ⟨-, hrest⟩ := hm.append_inj hn' rfl rfl hcs
      cases hrest
    | hundredths hs' _ _ _ _ _ =>
      obtain ⟨-, hrest⟩ := hm.append_inj hs' rfl rfl hcs
      cases hrest
    | minutes hm' _ hs' _ =>
      obtain ⟨rfl, hrest⟩ := hm.append_inj hm' rfl rfl hcs
      obtain ⟨rfl, -⟩ := hs.append_inj hs' rfl rfl (List.cons.inj (List.cons.inj hrest).2).2
      rfl

/-! ## What the text of a span says -/

/-- The nanoseconds of a span. -/
def total (d : Elapsed) : Nat := d.seconds * 1000000000 + d.nanoseconds

/-- What the text of a span says. -/
def reading (d : Elapsed) : Reading :=
  if 60 ≤ d.seconds then .minutes (d.seconds / 60) (d.seconds % 60)
  else if 0 < d.seconds then .hundredths d.seconds (d.millisOfSecond / 10)
  else .milliseconds d.millisOfSecond

theorem toList_twoDigits {n : Nat} (h : n < 100) :
    (twoDigits n).toList = [(n / 10).digitChar, (n % 10).digitChar] := by
  rw [twoDigits]
  split
  · next hn =>
    rw [String.toList_append, Numeral.toList_toString, Nat.toDigits_of_lt_base hn, Nat.div_eq_of_lt hn,
      Nat.mod_eq_of_lt hn]
    rfl
  · next hn =>
    rw [Numeral.toList_toString, Nat.toDigits_of_base_le (by decide) (by omega),
      Nat.toDigits_of_lt_base (by omega)]
    rfl

/-- A number below one hundred is written as two digits that say it. -/
theorem exists_toList_twoDigits {n : Nat} (h : n < 100) :
    ∃ a b, (twoDigits n).toList = [a, b] ∧ a.isDigit = true ∧ b.isDigit = true ∧
      Nat.ofDigitChars 10 [a, b] 0 = n := by
  refine ⟨_, _, toList_twoDigits h, ?_, ?_, ?_⟩
  · rw [Nat.isDigit_digitChar, decide_eq_true_eq]
    omega
  · rw [Nat.isDigit_digitChar, decide_eq_true_eq]
    omega
  · rw [Nat.ofDigitChars_cons_digitChar_of_lt_ten (by omega),
      Nat.ofDigitChars_cons_digitChar_of_lt_ten (by omega), Nat.ofDigitChars_nil]
    omega

theorem millisOfSecond_lt {d : Elapsed} (h : d.nanoseconds < 1000000000) : d.millisOfSecond < 1000 := by
  rw [millisOfSecond]
  omega

theorem says_text {d : Elapsed} (h : d.nanoseconds < 1000000000) : Says d.text.toList d.reading := by
  have hmillis := millisOfSecond_lt h
  rw [text, reading]
  split
  · have hsays := Says.minutes (Numeral.toString (d.seconds / 60)) (by omega)
      (Numeral.toString (d.seconds % 60)) (by omega)
    simpa [String.toList_append] using hsays
  · split
    · obtain ⟨a, b, htext, ha, hb, hcount⟩ := exists_toList_twoDigits (n := d.millisOfSecond / 10) (by omega)
      have hsays := Says.hundredths (Numeral.toString d.seconds) (by omega) (by omega) ha hb hcount
      simpa [String.toList_append, htext] using hsays
    · have hsays := Says.milliseconds (Numeral.toString d.millisOfSecond) (by omega)
      simpa [String.toList_append] using hsays

/-- A reading is the span cut off at the unit of its form. -/
theorem total_reading_eq {d : Elapsed} (h : d.nanoseconds < 1000000000) :
    d.reading.total = d.total / d.reading.unit * d.reading.unit := by
  unfold reading total millisOfSecond
  split
  · simp only [Reading.total, Reading.unit]
    omega
  · split
    · simp only [Reading.total, Reading.unit]
      omega
    · simp only [Reading.total, Reading.unit]
      omega

theorem Reading.unit_pos (r : Reading) : 0 < r.unit := by
  cases r <;> exact Nat.succ_pos _

theorem total_reading_le {d : Elapsed} (h : d.nanoseconds < 1000000000) : d.reading.total ≤ d.total := by
  rw [total_reading_eq h]
  exact Nat.div_mul_le_self _ _

theorem lt_total_reading_add_unit {d : Elapsed} (h : d.nanoseconds < 1000000000) :
    d.total < d.reading.total + d.reading.unit := by
  rw [total_reading_eq h]
  exact Nat.lt_div_mul_add d.reading.unit_pos

/-- No full second is cut off. -/
theorem seconds_le_total_reading (d : Elapsed) : d.seconds * 1000000000 ≤ d.reading.total := by
  unfold reading
  split
  · simp only [Reading.total]
    omega
  · split
    · exact Nat.le_add_right _ _
    · simp only [Reading.total]
      omega

theorem unit_reading_congr {d d' : Elapsed} (h : d.seconds = d'.seconds) : d.reading.unit = d'.reading.unit := by
  unfold reading
  rw [h]
  split
  · rfl
  · split <;> rfl

/-- A longer span does not read as less. -/
theorem total_reading_mono {d d' : Elapsed} (h : d.nanoseconds < 1000000000)
    (h' : d'.nanoseconds < 1000000000) (hle : d.total ≤ d'.total) : d.reading.total ≤ d'.reading.total := by
  by_cases hseconds : d.seconds = d'.seconds
  · rw [total_reading_eq h, total_reading_eq h', unit_reading_congr hseconds]
    exact Nat.mul_le_mul_right _ (Nat.div_le_div_right hle)
  · -- the longer span has a full second more, and that one is shown in every form
    have hmore : d.seconds + 1 ≤ d'.seconds := by
      unfold total at hle
      omega
    calc d.reading.total ≤ d.total := total_reading_le h
      _ ≤ (d.seconds + 1) * 1000000000 := by
        unfold total
        omega
      _ ≤ d'.seconds * 1000000000 := Nat.mul_le_mul_right _ hmore
      _ ≤ d'.reading.total := seconds_le_total_reading d'

/-- The text of a span has one reading. This is the span cut off at the unit of its form, and of two spans the
longer one does not read as less. -/
theorem text_truncates :
    (∀ d : Elapsed, d.nanoseconds < 1000000000 → ∃ r, Says d.text.toList r ∧
      (∀ r', Says d.text.toList r' → r' = r) ∧ r.total ≤ d.total ∧ d.total < r.total + r.unit) ∧
    ∀ d d' : Elapsed, d.nanoseconds < 1000000000 → d'.nanoseconds < 1000000000 → d.total ≤ d'.total →
      ∀ r r', Says d.text.toList r → Says d'.text.toList r' → r.total ≤ r'.total := by
  have hreads {d : Elapsed} (h : d.nanoseconds < 1000000000) {r : Reading} (hr : Says d.text.toList r) :
      r = d.reading := hr.unique (says_text h) rfl
  constructor
  · intro d h
    exact ⟨d.reading, says_text h, fun r' => hreads h, total_reading_le h, lt_total_reading_add_unit h⟩
  · intro d d' h h' hle r r' hr hr'
    rw [hreads h hr, hreads h' hr']
    exact total_reading_mono h h' hle

/-- The last span below a minute, and the minute. -/
theorem text_truncates_minute :
    Says "59.99s".toList (.hundredths 59 99) ∧
    (∀ r, Says "59.99s".toList r → r = .hundredths 59 99) ∧
    Says "1m 0s".toList (.minutes 1 0) ∧
    (Reading.hundredths 59 99).total ≤ (Reading.minutes 1 0).total := by
  have hbelow : Says "59.99s".toList (.hundredths 59 99) := says_text (d := ⟨59, 999999999⟩) (by decide)
  have hminute : Says "1m 0s".toList (.minutes 1 0) := says_text (d := ⟨60, 0⟩) (by decide)
  obtain ⟨r, -, honly, -, -⟩ := text_truncates.1 ⟨59, 999999999⟩ (by decide)
  have hle := text_truncates.2 ⟨59, 999999999⟩ ⟨60, 0⟩ (by decide) (by decide) (by decide) _ _ hbelow hminute
  exact ⟨hbelow, fun r' hr' => (honly r' hr').trans (honly _ hbelow).symm, hminute, hle⟩

end Elapsed

end Configurator
