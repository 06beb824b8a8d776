/-
What the user is told about a text that selects no kind of build. The message ends with the text in quotes,
blanks at its ends taken off. Main statement: a message tells which text it is about, blanks aside; it is one
line of characters with a printed form; and the quotes that are opened in it are closed by its last character.
-/
import Configurator.Proofs.Dialogue.Answers
import Configurator.Proofs.Text.Quoting

namespace Configurator.UnknownSelector

open Text

/-- What every message begins with. -/
def opening : String := "unknown build profile selector: "

theorem message_eq (e : UnknownSelector) : e.message = opening ++ quoted e.selector := rfl

theorem message_inj {e f : UnknownSelector} : e.message = f.message ↔ e.selector = f.selector := by
  rw [message_eq, message_eq, String.append_right_inj, quoted_inj]

theorem printed_of_mem_message {e : UnknownSelector} {c : Char} (h : c ∈ e.message.toList) : Printed c := by
  rw [message_eq, String.toList_append, List.mem_append] at h
  rcases h with h | h
  · have hascii : ∀ c ∈ opening.toList, 0x20 ≤ c.toNat ∧ c.toNat < 0x7F := by simp [opening]
    exact printed_of_ascii (hascii c h).1 (hascii c h).2
  · exact printed_of_mem_quoted h

theorem dropWhile_message (e : UnknownSelector) :
    e.message.toList.dropWhile (· ≠ '"') = (quoted e.selector).toList := by
  have hopening : ∀ c ∈ opening.toList, decide (c ≠ '"') = true := by simp [opening]
  rw [message_eq, String.toList_append, List.dropWhile_append_of_pos hopening, toList_quoted]
  exact List.dropWhile_cons_of_neg (by decide)

/-- The messages about two texts that select nothing are the same exactly if the texts are, blanks at their ends
aside. A message has no character without a printed form, so no control character, and no line ends in it. Read
from its first quote on, it says the text without these blanks, and its last character is the closing quote,
whatever is printed behind it. -/
theorem message_exact {s t : String} {e f : UnknownSelector} (hs : Kind.ofSelector s = .error e)
    (ht : Kind.ofSelector t = .error f) :
    (e.message = f.message ↔ trim s = trim t) ∧
    (∀ c ∈ e.message.toList, Printed c ∧ isControl c = false ∧ c ∉ lineEnds) ∧
    ∀ rest, unquote? (e.message.toList.dropWhile (· ≠ '"') ++ rest) = some (trim s, rest) := by
  have hselector := Kind.selector_of_ofSelector_eq_error hs
  refine ⟨?_, fun c hc => ?_, fun rest => ?_⟩
  · rw [message_inj, hselector, Kind.selector_of_ofSelector_eq_error ht]
  · have hprinted := printed_of_mem_message hc
    exact ⟨hprinted, hprinted.on_line⟩
  · rw [dropWhile_message, unquote?_quoted, hselector]

/-- A control character between blanks. -/
def bell : String := "\u00A0\x07\n"

/-- The text that says how the control character is written. -/
def bellSpelled : String := "\\u\x7b7\x7d"

/-- The case of these texts: the messages differ although the one text is what the other is written as. -/
theorem message_exact_bell :
    Kind.ofSelector bell = .error ⟨"\x07"⟩ ∧ Kind.ofSelector bellSpelled = .error ⟨bellSpelled⟩ ∧
    quoted "\x07" = "\"" ++ bellSpelled ++ "\"" ∧
    (UnknownSelector.mk "\x07").message ≠ (UnknownSelector.mk bellSpelled).message ∧
    unquote? ((UnknownSelector.mk "\x07").message.toList.dropWhile (· ≠ '"') ++ ['\n']) =
      some ("\x07", ['\n']) := by
  have hbell : Kind.ofSelector bell = .error ⟨"\x07"⟩ := by rfl
  have hspelled : Kind.ofSelector bellSpelled = .error ⟨bellSpelled⟩ := by rfl
  obtain ⟨hsame, -, hread⟩ := message_exact hbell hspelled
  refine ⟨hbell, hspelled, by decide +kernel, ?_, hread ['\n']⟩
  rw [Ne, hsame]
  decide +kernel

end Configurator.UnknownSelector
