/-
The answers that are accepted, as a grammar. A yes/no question takes the spellings of four words, the menu those
of two words and the selectors of the kinds of build, each between blanks; anything else is refused. Main
statement: each answer is read from exactly the texts that say it, no text answers both questions, and a text
that selects nothing is reported without the blanks at its ends.
-/
import Configurator.Answer
import Configurator.Proofs.Text.Words

namespace Configurator

open Text

variable {s : String}

/-! ## Selectors -/

namespace Kind

/-- Blanks at the ends of a text make no difference to what it selects, nor to the report that it selects
nothing. -/
theorem ofSelector_trim (s : String) : ofSelector (trim s) = ofSelector s := by
  simp only [ofSelector, trim_trim]

theorem ofSelector_eq_ok_iff {k : Kind} : ofSelector s = .ok k ↔ trim s = k.selector := by
  constructor
  · intro h
    simp only [ofSelector] at h
    split at h
    · next h1 => cases h; exact h1
    · split at h
      · next h2 => cases h; exact h2
      · split at h
        · next h3 => cases h; exact h3
        · cases h
  · intro h
    rw [← ofSelector_trim, h, ofSelector_selector]

/-- What is reported about a text that selects nothing is the text without the blanks at its ends. -/
theorem selector_of_ofSelector_eq_error {e : UnknownSelector} (h : ofSelector s = .error e) :
    e.selector = trim s := by
  simp only [ofSelector] at h
  split at h
  · cases h
  · split at h
    · cases h
    · split at h
      · cases h
      · cases h
        rfl

theorem bare_selector (k : Kind) : Bare k.selector := by
  have h := ofSelector_eq_ok_iff.1 (ofSelector_selector k)
  rw [← h]
  exact bare_trim _

theorem ofSelector_eq_ok_iff_padded {k : Kind} : ofSelector s = .ok k ↔ Padded (· = k.selector) s := by
  rw [ofSelector_eq_ok_iff, padded_iff]
  rintro w rfl
  exact bare_selector k

end Kind

/-! ## Words -/

/-- The words that answer a yes/no question. -/
def answerWords : Bool → List String
  | true => ["y", "yes"]
  | false => ["n", "no"]

/-- The words that leave the menu. -/
def quitWords : List String := ["q", "quit"]

theorem isLower_of_mem_answerWords (b : Bool) : ∀ word ∈ answerWords b, ∀ c ∈ word.toList, c.isLower = true := by
  cases b <;> simp [answerWords]

theorem isLower_of_mem_quitWords : ∀ word ∈ quitWords, ∀ c ∈ word.toList, c.isLower = true := by
  simp [quitWords]

theorem lowerAscii_trim_mem_iff {words : List String}
    (h : ∀ word ∈ words, ∀ c ∈ word.toList, c.isLower = true) :
    lowerAscii (trim s) ∈ words ↔ ∃ word ∈ words, Padded (Spells word) s := by
  constructor
  · intro hmem
    exact ⟨_, hmem, (lowerAscii_trim_eq_iff (h _ hmem)).1 rfl⟩
  · rintro ⟨word, hmem, hword⟩
    rwa [(lowerAscii_trim_eq_iff (h word hmem)).2 hword]

theorem yesNo?_eq_some_iff {b : Bool} : yesNo? s = some b ↔ lowerAscii (trim s) ∈ answerWords b := by
  simp only [yesNo?, Bool.or_eq_true, decide_eq_true_eq]
  generalize lowerAscii (trim s) = word
  cases b <;> simp only [answerWords, List.mem_cons, List.not_mem_nil, or_false]
  · split
    · next h => rcases h with rfl | rfl <;> decide
    · split <;> simp_all
  · split
    · simp_all
    · split <;> simp_all

theorem menuChoice?_eq_quit_iff : menuChoice? s = some .quit ↔ lowerAscii (trim s) ∈ quitWords := by
  simp only [menuChoice?, Bool.or_eq_true, decide_eq_true_eq, quitWords, List.mem_cons, List.not_mem_nil, or_false]
  split
  · simp_all
  · split <;> simp_all

/-- A selector is no word that leaves the menu, so the menu reads it as the kind that it selects. -/
theorem menuChoice?_eq_build_iff {k : Kind} : menuChoice? s = some (.build k) ↔ Kind.ofSelector s = .ok k := by
  constructor
  · intro h
    simp only [menuChoice?] at h
    split at h
    · cases h
    · split at h
      · next hk => cases h; exact hk
      · cases h
  · intro h
    have hquit : menuChoice? s ≠ some .quit := by
      rw [Ne, menuChoice?_eq_quit_iff, Kind.ofSelector_eq_ok_iff.1 h]
      cases k <;> decide +kernel
    simp only [menuChoice?, h] at hquit ⊢
    split at hquit
    · exact absurd rfl hquit
    · next hword => rw [if_neg hword]

/-- No text answers both questions. -/
theorem menuChoice?_eq_none_of_yesNo? {b : Bool} (h : yesNo? s = some b) : menuChoice? s = none := by
  rw [yesNo?_eq_some_iff] at h
  rw [Option.eq_none_iff_forall_ne_some]
  rintro (k | _) hchoice
  · rw [menuChoice?_eq_build_iff, Kind.ofSelector_eq_ok_iff] at hchoice
    rw [hchoice] at h
    cases b <;> cases k <;> exact absurd h (by decide +kernel)
  · rw [menuChoice?_eq_quit_iff] at hchoice
    have hapart : ∀ b, ∀ word ∈ answerWords b, word ∉ quitWords := by decide
    exact hapart b _ h hchoice

/-! ## All answers -/

/-- Yes and no are read from exactly the spellings of their words between blanks, and so is leaving the menu; a
kind is read from exactly its selector between blanks, in the menu and on its own. No text is an answer to both
questions. A text that selects nothing is reported without blanks at its ends, and the report, taken as a text,
is reported as itself. -/
theorem answers_exact (s : String) :
    (yesNo? s = some true ↔ ∃ word ∈ ["y", "yes"], Padded (Spells word) s) ∧
    (yesNo? s = some false ↔ ∃ word ∈ ["n", "no"], Padded (Spells word) s) ∧
    (menuChoice? s = some .quit ↔ ∃ word ∈ ["q", "quit"], Padded (Spells word) s) ∧
    (∀ k, (menuChoice? s = some (.build k) ↔ Kind.ofSelector s = .ok k) ∧
      (Kind.ofSelector s = .ok k ↔ Padded (· = k.selector) s)) ∧
    (yesNo? s = none ∨ menuChoice? s = none) ∧
    ∀ e, Kind.ofSelector s = .error e → Bare e.selector ∧ Kind.ofSelector e.selector = .error e := by
  have hanswer (b : Bool) : yesNo? s = some b ↔ ∃ word ∈ answerWords b, Padded (Spells word) s := by
    rw [yesNo?_eq_some_iff, lowerAscii_trim_mem_iff (isLower_of_mem_answerWords b)]
  have hquit : menuChoice? s = some .quit ↔ ∃ word ∈ quitWords, Padded (Spells word) s := by
    rw [menuChoice?_eq_quit_iff, lowerAscii_trim_mem_iff isLower_of_mem_quitWords]
  refine ⟨hanswer true, hanswer false, hquit,
    fun k => ⟨menuChoice?_eq_build_iff, Kind.ofSelector_eq_ok_iff_padded⟩, ?_, fun e he => ?_⟩
  · cases h : yesNo? s with
    | none => exact .inl rfl
    | some b => exact .inr (menuChoice?_eq_none_of_yesNo? h)
  · rw [Kind.selector_of_ofSelector_eq_error he]
    exact ⟨bare_trim s, (Kind.ofSelector_trim s).trans he⟩

/-- Between blanks of several kinds a selector behind a character that has no width and is no blank. -/
def lookalike : String := "\u00A0\u0085\u200B1\u3000\n"

/-- The case of this text: it selects nothing, and the report keeps the character without width. -/
theorem answers_exact_lookalike :
    Kind.ofSelector lookalike = .error ⟨"\u200B1"⟩ ∧ Bare "\u200B1" ∧
      Kind.ofSelector "\u200B1" = .error ⟨"\u200B1"⟩ := by
  have herror : Kind.ofSelector lookalike = .error ⟨"\u200B1"⟩ := by rfl
  obtain ⟨-, -, -, -, -, hreport⟩ := answers_exact lookalike
  exact ⟨herror, hreport _ herror⟩

end Configurator
