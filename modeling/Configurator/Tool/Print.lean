/-
Tools that print what their arguments say: texts, formats and numbers in a row.
-/
import Configurator.Shell.Format
import Configurator.Tool.Amount

namespace Configurator.Tool.Print

open Host Shell

/-! ## Texts -/

/-- Prints its operands. -/
def echo (c : Call) : Action Unit := do
  c.print (Format.echoByOptions c.args)
  c.finish

/-- How the tool prints by formats. -/
def style : Format.Style where
  rich := true
  ends := true
  quote := some Quote.nameIfNeeded
  noNumber operand := Quote.word operand ++ ": expected a numeric value"
  partNumber operand := Quote.word operand ++ ": value not completely converted"
  beyond operand := Quote.word operand ++ ": Numerical result out of range"
  noDirective directive := directive ++ ": invalid conversion specification"
  noConversion directive := directive ++ ": invalid conversion specification"
  status := 1

/-- Prints what a format and operands give. -/
def printf (c : Call) : Action Unit :=
  let args := match c.args with
    | "--" :: args => args
    | args => args
  match args with
  | [] => c.misuse "missing operand" 1
  | format :: operands => do
    let (text, complaints, status) := Format.printf style format operands
    c.print text
    (complaints.map Prod.snd).forM c.report
    let taken := (Format.pass style (2 * format.length + 1) format.toList { operands := operands }).operands
    match operands with
    | first :: _ =>
      if complaints.isEmpty && taken.length = operands.length then
        c.report ("warning: ignoring excess arguments, starting with " ++ Quote.word first)
    | [] => pure ()
    setStatus status
    c.finish

/-! ## Numbers -/

/-- The whole number that a text spells. -/
def integer? (text : String) : Option Int :=
  (Amount.signed? text).map (fun n => if n.sign = some '-' then -n.amount else n.amount)

/-- Prints some numbers from one on with a step. -/
def numbers (c : Call) (step : Int) : (count : Nat) → (value : Int) → Action Unit
  | 0, _ => pure ()
  | count + 1, value => do
    if count % 256 = 0 then Work.breathe
    c.print (toString value ++ "\n")
    numbers c step count (value + step)

/-- Prints numbers in a row. -/
def seq (c : Call) : Action Unit :=
  let isNegative := (c.args.head?.bind integer?).any (· < 0)
  { c with args := if isNegative then "--" :: c.args else c.args }.withOptions { inOrder := true, least := 1 } (fun o => do
    let number (text : String) : Action Int := do
      match integer? text with
      | some n => return n
      | none => c.misuse ("invalid floating point argument: " ++ Quote.word text) 1
    let (first, step, last) : Int × Int × Int ← match o.operands with
      | [last] => pure (1, 1, ← number last)
      | [first, last] => pure (← number first, 1, ← number last)
      | [first, step, last] => pure (← number first, ← number step, ← number last)
      | operands => c.misuse ("extra operand " ++ Quote.word ((operands.drop 3).head?.getD "")) 1
    if step = 0 then c.misuse "invalid Zero increment value: '0'" 1
    let count := if 0 < step then (last - first) / step + 1 else (first - last) / (-step) + 1
    numbers c step count.toNat first)

end Configurator.Tool.Print
