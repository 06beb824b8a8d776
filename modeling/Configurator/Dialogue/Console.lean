/-
A dialogue over two byte streams. Each question is written out and one line is read for it; a line
that is no answer is counted and the question is put again. The output may have room for a limited
number of bytes: a write that does not fit is kept as far as it fits and then fails, before anything
is read. Main statement: cutting off a line loses no byte, and every line read makes the input shorter.
-/
import Configurator.Dialogue
import Configurator.Utf8

namespace Configurator

/-- A line-by-line conversation. -/
structure Console where
  /-- The input that has not been read yet. -/
  unread : Bytes
  /-- Everything written so far. -/
  written : Bytes := []
  /-- How many more bytes the output takes; none when it takes any number. -/
  room : Option Nat := none
  /-- How many lines were no answer to their question. -/
  rejected : Nat := 0
  /-- What was noted, from the first event on. -/
  journal : List Log.Event := []
  deriving DecidableEq, Repr

namespace Console

/-! ## Lines -/

/-- The byte that ends a line. -/
def newline : UInt8 := 0x0A

/-- Cuts the first line, its end included, off the input. -/
def cutLine : Bytes → Bytes × Bytes
  | [] => ([], [])
  | b :: rest =>
    if b = newline then ([b], rest)
    else
      let (line, others) := cutLine rest
      (b :: line, others)

/-- Cutting off a line loses no byte. -/
theorem cutLine_append (bs : Bytes) : (cutLine bs).1 ++ (cutLine bs).2 = bs := by
  induction bs with
  | nil => rfl
  | cons b rest ih =>
    simp only [cutLine]
    split
    · rfl
    · simpa using ih

theorem cutLine_fst_eq_nil_iff (bs : Bytes) : (cutLine bs).1 = [] ↔ bs = [] := by
  cases bs with
  | nil => simp [cutLine]
  | cons b rest => simp only [cutLine]; split <;> simp

/-- Every line read makes the input shorter. -/
theorem length_cutLine_snd_lt {bs : Bytes} (h : (cutLine bs).1 ≠ []) :
    (cutLine bs).2.length < bs.length := by
  have happ := congrArg List.length (cutLine_append bs)
  have hpos := List.length_pos_iff.2 h
  simp only [List.length_append] at happ
  omega

/-! ## Writing and asking -/

/-- Writes bytes as far as there is room; fails when they do not all fit. -/
def write (bytes : Bytes) (c : Console) : Except PromptError Unit × Console :=
  match c.room with
  | none => (.ok (), { c with written := c.written ++ bytes })
  | some room =>
    if bytes.length ≤ room then
      (.ok (), { c with written := c.written ++ bytes, room := some (room - bytes.length) })
    else
      (.error (.stream .full), { c with written := c.written ++ bytes.take room, room := some 0 })

@[simp] theorem unread_write (bytes : Bytes) (c : Console) : (c.write bytes).2.unread = c.unread := by
  unfold write
  split
  · rfl
  · split <;> rfl

/-- Counts a line that was no answer and notes it. -/
def reject (text : String) (c : Console) : Console :=
  { c with
    rejected := c.rejected + 1
    journal := c.journal ++ [{
      level := .debug
      area := .dialogue
      message := "answer rejected"
      fields := [("input", Text.trim text)] }] }

/-- Puts a question until a line answers it. -/
def ask {α : Type} (question : Bytes) (parse : String → Option α) (c : Console) :
    Except PromptError α × Console :=
  match _written : c.write question with
  | (.error e, c) => (.error e, c)
  | (.ok (), asked) =>
    let line := (cutLine asked.unread).1
    let after := { asked with unread := (cutLine asked.unread).2 }
    if _nonempty : line = [] then (.error .closed, asked)
    else
      match Utf8.decode? line with
      | none => (.error (.stream .undecodable), after)
      | some text =>
        match parse text with
        | some answer => (.ok answer, after)
        | none => ask question parse (after.reject text)
termination_by c.unread.length
decreasing_by
  have hu : asked.unread = c.unread := by rw [← unread_write question c, _written]
  simpa [reject, ← hu] using length_cutLine_snd_lt _nonempty

/-- How a yes/no question is written. -/
def yesNoPrompt (question : String) : String := question ++ " (y/n): "

/-- How the menu is written. -/
def menuPrompt : String :=
  "Select build option:\n" ++
    String.join (Kind.all.map (fun kind => kind.selector ++ ". " ++ kind.label ++ "\n")) ++
    "Q. Quit\n:"

instance : Prompter Console where
  say text := .mk (fun c => c.write (Utf8.bytes (text ++ "\n")))
  askYesNo question := .mk (fun c => c.ask (Utf8.bytes (yesNoPrompt question)) yesNo?)
  chooseMenu := .mk (fun c => c.ask (Utf8.bytes menuPrompt) menuChoice?)
  note event := .mk (fun c => (.ok (), { c with journal := c.journal ++ [event] }))

end Console

end Configurator
