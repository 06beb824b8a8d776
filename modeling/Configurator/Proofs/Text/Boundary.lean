/-
Where text begins in a byte string. The first byte of a character continues none before it, so what stands
before it, however broken, is cut into the chunks into which it is cut on its own, and the characters from
there on are chunks as they are. Main statement: a byte string ends with the bytes of a text exactly if it is
shown as ending with this text, unless the text has the character that stands for undecodable bytes.
-/
import Configurator.Proofs.Text.Decoding

namespace Configurator.Utf8

/-! ## Bytes that continue a character -/

/-- Whether a byte can stand in a character behind its first byte. -/
def isTail (b : UInt8) : Bool := 0x80 ≤ b && b ≤ 0xBF

/-- Nothing in front can go on into the byte string: it is empty or begins with a byte that continues no
character. -/
def Fresh (bs : Bytes) : Prop := ∀ b ∈ bs.head?, isTail b = false

theorem isTail_iff {b : UInt8} : isTail b = true ↔ 0x80 ≤ b.toNat ∧ b.toNat ≤ 0xBF := by
  simp [isTail, UInt8.le_iff_toNat_le]

theorem isTail_ofNat (n : Nat) : isTail (UInt8.ofNat (n % 64 + 128)) = true := by
  rw [isTail_iff, UInt8.toNat_ofNat']
  omega

theorem isTail_ofNat_of_lt {n : Nat} (hn : n < 0x80 ∨ 0xC0 ≤ n) (hlt : n < 0x100) :
    isTail (UInt8.ofNat n) = false := by
  rw [← Bool.not_eq_true, isTail_iff, UInt8.toNat_ofNat']
  omega

/-- Of the bytes of a character all but the first one continue it. -/
theorem encodeChar_eq_cons (c : Char) :
    ∃ b more, String.utf8EncodeChar c = b :: more ∧ isTail b = false ∧ ∀ x ∈ more, isTail x = true := by
  have hc : c.val.toNat < 0x110000 := by
    have hvalid := c.valid
    simp only [UInt32.isValidChar, Nat.isValidChar] at hvalid
    omega
  rw [String.utf8EncodeChar.eq_1]
  (repeat' split) <;>
    exact ⟨_, _, rfl, isTail_ofNat_of_lt (by omega) (by omega), by simp [-UInt8.ofNat_add, isTail_ofNat]⟩

theorem fresh_encode (cs : List Char) : Fresh (encode cs) := by
  cases cs with
  | nil => simp [Fresh]
  | cons c cs =>
    obtain ⟨b, more, hbytes, hb, -⟩ := encodeChar_eq_cons c
    simp [Fresh, hbytes, hb]

/-! ## The head of a byte string -/

/-- A character does not reach into what begins afresh. -/
theorem encodeChar_prefix_of_fresh {c : Char} {before after : Bytes} (hne : before ≠ []) (h : Fresh after)
    (hc : String.utf8EncodeChar c <+: before ++ after) : String.utf8EncodeChar c <+: before := by
  rcases List.prefix_or_prefix_of_prefix hc (List.prefix_append before after) with hle | ⟨beyond, hbeyond⟩
  · exact hle
  · -- what would reach beyond are bytes that continue the character
    obtain ⟨b, more, hbytes, -, hmore⟩ := encodeChar_eq_cons c
    obtain ⟨b', front, rfl⟩ := List.exists_cons_of_ne_nil hne
    rw [hbytes, List.cons_append] at hbeyond
    obtain ⟨rfl, rfl⟩ := List.cons.inj hbeyond
    cases beyond with
    | nil => simp [hbytes]
    | cons x beyond =>
      have hx : x ∈ after.head? := by
        rw [hbytes, List.cons_append, List.prefix_cons_inj, List.prefix_append_right_inj] at hc
        obtain ⟨rest, rfl⟩ := hc
        simp
      have htail := hmore x (by simp)
      rw [h x hx] at htail
      cases htail

theorem head?_append_of_fresh {before after : Bytes} (hne : before ≠ []) (h : Fresh after) :
    head? (before ++ after) = head? before := by
  cases hb : head? before with
  | some c =>
    obtain ⟨rest, rfl⟩ := exists_of_head?_eq_some hb
    rw [List.append_assoc, head?_encodeChar_append]
  | none =>
    rw [Option.eq_none_iff_forall_ne_some]
    intro c hc
    obtain ⟨rest, hrest⟩ := exists_of_head?_eq_some hc
    obtain ⟨rest', rfl⟩ := encodeChar_prefix_of_fresh hne h ⟨rest, hrest.symm⟩
    rw [head?_encodeChar_append] at hb
    cases hb

theorem isTail_of_secondFits {a b : UInt8} (h : secondFits a b = true) : isTail b = true := by
  simp only [secondFits, Bool.and_eq_true, decide_eq_true_eq, UInt8.le_iff_toNat_le] at h
  obtain ⟨⟨-, hlow⟩, hhigh⟩ := h
  rw [isTail_iff]
  constructor
  · refine Nat.le_trans ?_ hlow
    split
    · decide
    · split <;> decide
  · refine Nat.le_trans hhigh ?_
    split
    · decide
    · split <;> decide

theorem strayLength_append_of_fresh {before after : Bytes} (hne : before ≠ []) (h : Fresh after) :
    strayLength (before ++ after) = strayLength before := by
  -- a stray run ends before the first byte that does not continue it
  have hsecond : ∀ a b rest, after = b :: rest → secondFits a b = false := by
    rintro a b rest rfl
    rw [← Bool.not_eq_true]
    intro hfits
    have htail := isTail_of_secondFits hfits
    rw [h b rfl] at htail
    cases htail
  have hthird : ∀ c rest, after = c :: rest → ¬ (0x80 ≤ c ∧ c ≤ 0xBF) := by
    rintro c rest rfl hc
    have htail := h c rfl
    simp [isTail, hc] at htail
  match before, hne with
  | [a], _ =>
    match after with
    | [] => rfl
    | [b] => simp [strayLength, hsecond a b [] rfl]
    | b :: c :: rest => simp [strayLength, hsecond a b (c :: rest) rfl]
  | [a, b], _ =>
    match after with
    | [] => rfl
    | c :: rest =>
      have hc := hthird c rest rfl
      by_cases hab : secondFits a b <;> simp_all [strayLength]
  | a :: b :: c :: rest, _ => rfl

theorem strayLength_le {bs : Bytes} (h : bs ≠ []) : strayLength bs ≤ bs.length := by
  match bs, h with
  | [a], _ => exact Nat.le_refl 1
  | [a, b], _ => simp only [strayLength]; split <;> simp
  | a :: b :: c :: rest, _ => simp only [strayLength, List.length_cons]; (repeat' split) <;> omega

theorem headChunk_size_le {bs : Bytes} (h : bs ≠ []) : (headChunk bs).2 ≤ bs.length := by
  unfold headChunk
  split
  · next c hc =>
    obtain ⟨rest, rfl⟩ := exists_of_head?_eq_some hc
    simp [String.length_utf8EncodeChar]
  · exact strayLength_le h

theorem headChunk_append_of_fresh {before after : Bytes} (hne : before ≠ []) (h : Fresh after) :
    headChunk (before ++ after) = headChunk before := by
  simp only [headChunk, head?_append_of_fresh hne h, strayLength_append_of_fresh hne h,
    List.take_append_of_le_length (strayLength_le hne)]

/-! ## All chunks -/

theorem chunks_of_ne_nil {bs : Bytes} (h : bs ≠ []) :
    chunks bs = (headChunk bs).1 :: chunks (bs.drop (headChunk bs).2) := by
  obtain ⟨a, rest, rfl⟩ := List.exists_cons_of_ne_nil h
  have hpos := headChunk_size_pos (a :: rest)
  rw [chunks, chunksAfter]
  dsimp only
  rw [chunksAfter_eq_chunks_drop, ← List.drop_succ_cons (a := a), Nat.sub_add_cancel hpos]

/-- What begins afresh is cut into its own chunks, whatever stands before it. -/
theorem chunks_append_of_fresh (before : Bytes) {after : Bytes} (h : Fresh after) :
    chunks (before ++ after) = chunks before ++ chunks after := by
  induction hn : before.length using Nat.strongRecOn generalizing before with
  | ind n ih =>
    by_cases hne : before = []
    · subst hne
      rfl
    · have hpos := headChunk_size_pos before
      have hle := headChunk_size_le hne
      have hshorter : (before.drop (headChunk before).2).length < n := by
        rw [List.length_drop]
        omega
      rw [chunks_of_ne_nil (by simp [hne]), headChunk_append_of_fresh hne h,
        List.drop_append_of_le_length hle, ih _ hshorter _ rfl, ← List.cons_append, ← chunks_of_ne_nil hne]

theorem chunks_append_encode (before : Bytes) (cs : List Char) :
    chunks (before ++ encode cs) = chunks before ++ cs.map Chunk.char := by
  rw [chunks_append_of_fresh before (fresh_encode cs), chunks_encode]

/-! ## Endings -/

theorem eq_map_char_of_map_shown {chunks : List Chunk} {cs : List Char} (h : '\uFFFD' ∉ cs)
    (hshown : chunks.map Chunk.shown = cs) : chunks = cs.map Chunk.char := by
  subst hshown
  rw [List.map_map]
  refine (List.map_id chunks).symm.trans (List.map_congr_left fun chunk hchunk => ?_)
  cases chunk with
  | char c => rfl
  | stray bs => exact absurd (List.mem_map.2 ⟨_, hchunk, rfl⟩) h

/-- A byte string ends with the bytes of characters exactly if it is shown as ending with them, unless
U+FFFD is among them. -/
theorem encode_suffix_iff {cs : List Char} (h : '\uFFFD' ∉ cs) (bs : Bytes) :
    encode cs <:+ bs ↔ cs <:+ (decodeLossy bs).toList := by
  rw [decodeLossy, String.toList_ofList]
  constructor
  · rintro ⟨before, rfl⟩
    rw [chunks_append_encode, List.map_append, List.map_map]
    exact ⟨_, congrArg _ (List.map_id cs).symm⟩
  · rintro ⟨shown, hshown⟩
    obtain ⟨first, last, hchunks, -, hlast⟩ := List.map_eq_append_iff.1 hshown.symm
    have hlast := eq_map_char_of_map_shown h hlast
    refine ⟨first.flatMap Chunk.bytes, ?_⟩
    rw [← flatMap_bytes_chunks bs, hchunks, List.flatMap_append, hlast, List.flatMap_map]
    rfl

/-- Bytes that are not text are shown as U+FFFD, and then the two differ. -/
example : ['\uFFFD'] <:+ (decodeLossy [0x61, 0xE2, 0x82]).toList ∧ ¬ encode ['\uFFFD'] <:+ [0x61, 0xE2, 0x82] := by
  decide +kernel

end Configurator.Utf8
