/-
Documents read back as JSON. Every character of a text is written so that a reader takes it for itself, quotes,
backslashes and control characters as escapes; lists and objects are elements with commas and blanks between
them. Main statement: what a reader of JSON finds in a document are its fields, in their order, with all texts
as they are.
-/
import Configurator.Document
import Configurator.Proofs.Document.Json
import Configurator.Proofs.Text.Decoding

namespace Configurator

/-- The JSON value of a field. -/
def Value.json : Value → Json
  | .text content => .string content
  | .list items => .array (items.map .string)

/-- The JSON value of a document. -/
def Document.json (d : Document) : Json := .object (d.fields.map fun (name, value) => (name, value.json))

namespace Json

/-! ## Strings -/

/-- Wherever the text stands in a string, a reader takes it for the character. -/
def Spells (text : List Char) (c : Char) : Prop :=
  ∃ piece, (∀ others, characters? none (piece :: others) = (characters? none others).map (c :: ·)) ∧
    ∀ rest, pieces (text ++ rest) = do
      let (others, behind) ← pieces rest
      some (piece :: others, behind)

theorem spells_escape {e c : Char} (h : escaped? e = some c) : Spells ['\\', e] c := by
  have hunit : e ≠ 'u' := by
    rintro rfl
    cases h
  refine ⟨.char c, fun _ => rfl, fun rest => ?_⟩
  rw [List.cons_append, List.singleton_append, pieces, h]
  · rfl
  · exact fun _ _ _ _ _ hu _ => hunit hu

theorem spells_unit {c h i j k : Char} (hn : hexNumber? [h, i, j, k] = some c.toNat) (hc : c.toNat < 0x20) :
    Spells ['\\', 'u', h, i, j, k] c := by
  have hleading : isLeading c.toNat = false := by simp [isLeading]; omega
  have htrailing : isTrailing c.toNat = false := by simp [isTrailing]; omega
  refine ⟨.unit c.toNat, fun others => ?_, fun rest => ?_⟩
  · simp [characters?, hleading, htrailing, Char.ofNat_toNat]
  · show pieces ('\\' :: 'u' :: h :: i :: j :: k :: rest) = _
    rw [pieces, hn]
    rfl

theorem spells_self {c : Char} (hquote : c ≠ '"') (hbackslash : c ≠ '\\') (hc : ¬ c.toNat < 0x20) :
    Spells [c] c := by
  refine ⟨.char c, fun _ => rfl, fun rest => ?_⟩
  rw [List.singleton_append, pieces]
  · simp [hbackslash, hc]
  · exact hquote
  · exact fun _ _ _ _ _ hb _ => hbackslash hb
  · exact fun _ _ hb _ => hbackslash hb

/-- Two hexadecimal digits behind two zeros write the code of a control character. -/
theorem hexNumber?_hexPair {n : Nat} (h : n < 0x20) :
    ∃ j k, Document.hexPair n = [j, k] ∧ hexNumber? ['0', '0', j, k] = some n := by
  have hall : ∀ n < 0x20, (Document.hexPair n).length = 2 ∧
      hexNumber? (['0', '0'] ++ Document.hexPair n) = some n := by decide +kernel
  obtain ⟨hlength, hnumber⟩ := hall n h
  obtain ⟨j, k, hpair⟩ : ∃ j k, Document.hexPair n = [j, k] := by
    generalize Document.hexPair n = digits at hlength
    match digits, hlength with
    | [j, k], _ => exact ⟨j, k, rfl⟩
  rw [hpair] at hnumber
  exact ⟨j, k, hpair, hnumber⟩

/-- A character is written so that it is read as itself. -/
theorem spells_stringChar (c : Char) : Spells (Document.stringChar c) c := by
  unfold Document.stringChar
  -- seven characters have a short escape
  iterate 7
    split
    · next h =>
      subst h
      exact spells_escape rfl
  split
  · next h =>
    obtain ⟨j, k, hpair, hnumber⟩ := hexNumber?_hexPair h
    rw [hpair]
    exact spells_unit hnumber h
  · next hquote hbackslash _ _ _ _ _ h => exact spells_self hquote hbackslash h

theorem exists_pieces_flatMap (cs rest : List Char) :
    ∃ written, characters? none written = some cs ∧
      pieces (cs.flatMap Document.stringChar ++ '"' :: rest) = some (written, rest) := by
  induction cs with
  | nil => exact ⟨[], rfl, rfl⟩
  | cons c cs ih =>
    obtain ⟨written, hwritten, hpieces⟩ := ih
    obtain ⟨piece, hcharacters, hread⟩ := spells_stringChar c
    refine ⟨piece :: written, by rw [hcharacters, hwritten]; rfl, ?_⟩
    rw [List.flatMap_cons, List.append_assoc, hread, hpieces]
    rfl

theorem string?_flatMap (s : String) (rest : List Char) :
    string? (s.toList.flatMap Document.stringChar ++ '"' :: rest) = some (s, rest) := by
  obtain ⟨written, hwritten, hpieces⟩ := exists_pieces_flatMap s.toList rest
  rw [string?, hpieces]
  simp [hwritten]

/-- Other spellings are read as well: two code units that make a pair are one character, half a pair is none. -/
example : string? "\\ud83d\\ude00\\/\"".toList = some ("😀/", []) ∧ string? "\\ude00\"".toList = none := by
  decide +kernel

/-! ## Blanks -/

/-- Only blanks. -/
def Blank (text : List Char) : Prop := text.all isBlank = true

theorem skip_append {blanks : List Char} (h : Blank blanks) (text : List Char) :
    skip (blanks ++ text) = skip text := List.dropWhile_append_of_pos (List.all_eq_true.1 h)

theorem skip_cons {c : Char} (h : isBlank c = false) (text : List Char) : skip (c :: text) = c :: text :=
  List.dropWhile_cons_of_neg (by simp [h])

theorem skip_append_cons {blanks : List Char} (hblanks : Blank blanks) {c : Char} (h : isBlank c = false)
    (text : List Char) : skip (blanks ++ c :: text) = c :: text := by
  rw [skip_append hblanks, skip_cons h]

/-! ## Sequences -/

section Sequences

variable {α β : Type} {element : List Char → Option (α × List Char)} {close : Char} {gap ending : List Char}
  {write : β → List Char} {meant : β → α} {xs : List β}

/-- Elements with commas and blanks between them are read one after the other. -/
theorem separated_intercalate (hclose : close = ']' ∨ close = '\x7d') (hending : Blank ending)
    (helement : ∀ x ∈ xs, ∀ rest, element (gap ++ (write x ++ rest)) = some (meant x, rest)) (hne : xs ≠ [])
    {limit : Nat} (hlimit : xs.length ≤ limit) (rest : List Char) :
    separated element close limit
        (gap ++ ((',' :: gap).intercalate (xs.map write) ++ (ending ++ close :: rest))) =
      some (xs.map meant, rest) := by
  have hblank : isBlank close = false := by rcases hclose with rfl | rfl <;> decide
  have hcomma : ',' ≠ close := by rcases hclose with rfl | rfl <;> decide
  induction xs generalizing limit with
  | nil => exact absurd rfl hne
  | cons x xs ih =>
    obtain ⟨limit, rfl⟩ : ∃ n, limit = n + 1 :=
      Nat.exists_eq_succ_of_ne_zero (Nat.ne_of_gt (Nat.lt_of_lt_of_le (Nat.succ_pos _) hlimit))
    cases xs with
    | nil =>
      have hfirst := helement x List.mem_cons_self (ending ++ close :: rest)
      simp [separated, hfirst, skip_append_cons hending hblank]
    | cons y ys =>
      have hothers := ih (fun z hz => helement z (List.mem_cons_of_mem _ hz)) (by simp)
        (Nat.le_of_succ_le_succ hlimit)
      rw [List.map_cons, List.map_cons, List.intercalate_cons_cons, ← List.map_cons]
      simp only [List.append_assoc, List.cons_append]
      generalize gap ++ ((',' :: gap).intercalate ((y :: ys).map write) ++ (ending ++ close :: rest)) = others
        at hothers
      rw [separated, helement x List.mem_cons_self]
      simp [skip_cons (c := ',') (by decide), hcomma, hothers]

theorem length_le_length_intercalate (sep : List Char) {l : List (List Char)} (h : ∀ text ∈ l, text ≠ []) :
    l.length ≤ (sep.intercalate l).length := by
  induction l with
  | nil => exact Nat.zero_le _
  | cons first others ih =>
    have hfirst := List.length_pos_iff.2 (h first List.mem_cons_self)
    have hothers := ih fun text ht => h text (List.mem_cons_of_mem _ ht)
    cases others with
    | nil => simpa [Nat.succ_le_iff] using hfirst
    | cons second others =>
      rw [List.intercalate_cons_cons, List.length_cons, List.length_append, List.length_append]
      omega

theorem exists_intercalate_eq_cons (sep : List Char) {l : List (List Char)} {c : Char} (hne : l ≠ [])
    (h : ∀ text ∈ l, ∃ more, text = c :: more) : ∃ more, sep.intercalate l = c :: more := by
  obtain ⟨first, others, rfl⟩ := List.exists_cons_of_ne_nil hne
  obtain ⟨more, rfl⟩ := h first List.mem_cons_self
  cases others with
  | nil => exact ⟨more, by rw [List.intercalate_singleton]⟩
  | cons second others => exact ⟨_, by rw [List.intercalate_cons_cons]; rfl⟩

/-- Elements that begin with a quote are read as the elements of a list or of an object. -/
theorem sequence_intercalate (hclose : close = ']' ∨ close = '\x7d') (hgap : Blank gap) (hending : Blank ending)
    (hquote : ∀ x, ∃ more, write x = '"' :: more)
    (helement : ∀ x ∈ xs, ∀ rest, element (gap ++ (write x ++ rest)) = some (meant x, rest)) (hne : xs ≠ [])
    (rest : List Char) :
    sequence element close (gap ++ ((',' :: gap).intercalate (xs.map write) ++ (ending ++ close :: rest))) =
      some (xs.map meant, rest) := by
  have hopen : '"' ≠ close := by rcases hclose with rfl | rfl <;> decide
  have hwritten : ∀ text ∈ xs.map write, ∃ more, text = '"' :: more := by
    intro text ht
    obtain ⟨x, -, rfl⟩ := List.mem_map.1 ht
    exact hquote x
  -- every element is at least a quote, so the length of the text is enough rounds
  have hlimit : xs.length ≤
      (gap ++ ((',' :: gap).intercalate (xs.map write) ++ (ending ++ close :: rest))).length := by
    have hlength := length_le_length_intercalate (',' :: gap) (l := xs.map write) fun text ht => by
      obtain ⟨more, rfl⟩ := hwritten text ht
      exact List.cons_ne_nil _ _
    rw [List.length_map] at hlength
    simp only [List.length_append]
    omega
  obtain ⟨more, hmore⟩ := exists_intercalate_eq_cons (',' :: gap) (mt List.map_eq_nil_iff.1 hne) hwritten
  have hskip : skip (gap ++ ((',' :: gap).intercalate (xs.map write) ++ (ending ++ close :: rest))) =
      '"' :: (more ++ (ending ++ close :: rest)) := by
    rw [hmore, List.cons_append, skip_append_cons hgap (by decide)]
  rw [sequence, hskip]
  show (if '"' = close then _ else _) = _
  rw [if_neg hopen]
  exact separated_intercalate hclose hending helement hne hlimit rest

end Sequences

/-! ## Values -/

theorem toList_stringLiteral (s : String) :
    (Document.stringLiteral s).toList = '"' :: (s.toList.flatMap Document.stringChar ++ ['"']) := by
  rw [Document.stringLiteral, String.toList_ofList]
  rfl

theorem toList_member (name : String) (v : Value) :
    (Document.member name v).toList = '"' :: (name.toList.flatMap Document.stringChar ++
      '"' :: ':' :: ' ' :: (Document.valueLiteral v).toList) := by
  simp [Document.member, String.toList_append, toList_stringLiteral]

theorem value_of_quote {text behind : List Char} (h : skip text = '"' :: behind) (depth : Nat) :
    value (depth + 1) text = (string? behind).map fun (text, behind) => (string text, behind) := by
  rw [value, h]
  rfl

theorem value_of_bracket {text behind : List Char} (h : skip text = '[' :: behind) (depth : Nat) :
    value (depth + 1) text =
      (sequence (value depth) ']' behind).map fun (items, behind) => (array items, behind) := by
  rw [value, h]
  rfl

theorem value_of_brace {text behind : List Char} (h : skip text = '\x7b' :: behind) (depth : Nat) :
    value (depth + 1) text =
      (sequence (member (value depth)) '\x7d' behind).map fun (members, behind) => (object members, behind) := by
  rw [value, h]
  rfl

section Values

variable {gap : List Char} (hgap : Blank gap) (depth : Nat)

include hgap

theorem value_stringLiteral (s : String) (rest : List Char) :
    value (depth + 1) (gap ++ ((Document.stringLiteral s).toList ++ rest)) = some (string s, rest) := by
  rw [toList_stringLiteral, List.cons_append, List.append_assoc, List.singleton_append,
    value_of_quote (skip_append_cons hgap (by decide) _), string?_flatMap]
  rfl

theorem value_arrayLiteral (items : List String) (rest : List Char) :
    value (depth + 2) (gap ++ ((Document.arrayLiteral items).toList ++ rest)) =
      some (array (items.map string), rest) := by
  cases items with
  | nil =>
    show value (depth + 2) (gap ++ '[' :: ']' :: rest) = _
    rw [value_of_bracket (skip_append_cons hgap (by decide) _)]
    rfl
  | cons first others =>
    have hwritten : (Document.arrayLiteral (first :: others)).toList =
        '[' :: ("\n    ".toList ++ ((',' :: "\n    ".toList).intercalate
          ((first :: others).map fun s => (Document.stringLiteral s).toList) ++ ("\n  ".toList ++ [']']))) := by
      simp [Document.arrayLiteral, String.toList_append, String.toList_intercalate]
      rfl
    have hgap' : Blank "\n    ".toList := rfl
    have hending : Blank "\n  ".toList := rfl
    have hitems := sequence_intercalate (.inl rfl) hgap' hending (fun s => ⟨_, toList_stringLiteral s⟩)
      (fun s _ rest => value_stringLiteral hgap' depth s rest) (List.cons_ne_nil first others) rest
    rw [hwritten]
    simp only [List.cons_append, List.append_assoc, List.nil_append]
    rw [value_of_bracket (skip_append_cons hgap (by decide) _), hitems]
    rfl

theorem value_valueLiteral (v : Value) (rest : List Char) :
    value (depth + 2) (gap ++ ((Document.valueLiteral v).toList ++ rest)) = some (v.json, rest) := by
  cases v with
  | text content => exact value_stringLiteral hgap (depth + 1) content rest
  | list items => exact value_arrayLiteral hgap depth items rest

theorem member_member (name : String) (v : Value) (rest : List Char) :
    member (value (depth + 2)) (gap ++ ((Document.member name v).toList ++ rest)) =
      some ((name, v.json), rest) := by
  have hspace : Blank [' '] := rfl
  have hvalue : value (depth + 2) (' ' :: ((Document.valueLiteral v).toList ++ rest)) = some (v.json, rest) :=
    value_valueLiteral hspace depth v rest
  have hcolon := skip_cons (c := ':') (by decide) (' ' :: ((Document.valueLiteral v).toList ++ rest))
  rw [toList_member]
  simp only [List.cons_append, List.append_assoc]
  rw [member, skip_append_cons hgap (by decide)]
  show (string? _).bind _ = _
  rw [string?_flatMap]
  simp only [Option.bind_some]
  rw [hcolon]
  simp [hvalue]

end Values

/-! ## Documents -/

/-- No value of a document is more than three deep. -/
theorem value_render (first : String × Value) (others : List (String × Value)) (depth : Nat) :
    value (depth + 3) (Document.render ⟨first :: others⟩).toList =
      some (Document.json ⟨first :: others⟩, []) := by
  have hwritten : (Document.render ⟨first :: others⟩).toList =
      '\x7b' :: ("\n  ".toList ++ ((',' :: "\n  ".toList).intercalate
        ((first :: others).map fun field => (Document.member field.1 field.2).toList) ++
          ("\n".toList ++ ['\x7d']))) := by
    simp [Document.render, String.toList_append, String.toList_intercalate]
    rfl
  have hgap : Blank "\n  ".toList := rfl
  have hending : Blank "\n".toList := rfl
  have hquote (field : String × Value) : ∃ more, (Document.member field.1 field.2).toList = '"' :: more :=
    ⟨_, toList_member field.1 field.2⟩
  have helement : ∀ field ∈ first :: others, ∀ rest,
      member (value (depth + 2)) ("\n  ".toList ++ ((Document.member field.1 field.2).toList ++ rest)) =
        some ((field.1, field.2.json), rest) :=
    fun field _ rest => member_member hgap depth field.1 field.2 rest
  have hmembers := sequence_intercalate (.inr rfl) hgap hending hquote helement (List.cons_ne_nil _ _) []
  rw [hwritten, value_of_brace (skip_cons (by decide) _), hmembers]
  rfl

/-- A document is read back as its fields, in their order, with all texts as they are. -/
theorem read?_render (d : Document) : read? d.render = some d.json := by
  obtain ⟨_ | ⟨first, others⟩⟩ := d
  · rfl
  · obtain ⟨depth, hdepth⟩ : ∃ depth, (Document.render ⟨first :: others⟩).length = depth + 3 := by
      refine Nat.exists_eq_add_of_le' ?_
      rw [Document.render, String.length_append, String.length_append]
      exact Nat.le_add_right_of_le (Nat.le_add_right_of_le (by decide))
    rw [read?, hdepth, value_render]
    rfl

theorem ofBytes?_render (d : Document) : ofBytes? (Utf8.bytes d.render) = some d.json := by
  rw [ofBytes?, Utf8.decode?_bytes, Option.bind_some, read?_render]

end Json

end Configurator
