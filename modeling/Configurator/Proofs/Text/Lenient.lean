/-
Lenient decoding by its rule. Where no character stands, the longest run of bytes with which some character
begins is shown as one U+FFFD, or one byte if no character begins with it; characters are shown as they are.
Main statement: what the rule says is shown for a byte string is its lenient decoding and nothing else.
-/
import Configurator.Proofs.Text.Boundary

namespace Configurator.Utf8

/-! ## The rule -/

/-- Some character begins with the bytes. -/
def Begins (bs : Bytes) : Prop := ∃ c, bs <+: String.utf8EncodeChar c

/-- The run at the head of a byte string is a longest one that is not part of a character. -/
structure StrayRun (run rest : Bytes) : Prop where
  ne_nil : run ≠ []
  not_char : ∀ c, ¬ String.utf8EncodeChar c <+: run ++ rest
  begins : run.length = 1 ∨ Begins run
  longest : ∀ n, run.length < n → n ≤ (run ++ rest).length → ¬ Begins ((run ++ rest).take n)

/-- How a byte string is shown. -/
inductive Shows : Bytes → List Char → Prop
  | nil : Shows [] []
  | char (c : Char) {rest : Bytes} {cs : List Char} (h : Shows rest cs) :
      Shows (String.utf8EncodeChar c ++ rest) (c :: cs)
  | stray {run rest : Bytes} {cs : List Char} (hrun : StrayRun run rest) (h : Shows rest cs) :
      Shows (run ++ rest) ('\uFFFD' :: cs)

/-! ## Beginnings of characters -/

theorem toNat_val_ofNat {n : Nat} (h : n.isValidChar) : (Char.ofNat n).val.toNat = n := by
  rw [Char.ofNat, dif_pos h]
  rfl

theorem secondFits_iff {a b : UInt8} :
    secondFits a b = true ↔ isTail b = true ∧
      (0xE0 ≤ a.toNat ∧ a.toNat < 0xF0 ∧ (a.toNat = 0xE0 → 0xA0 ≤ b.toNat) ∧ (a.toNat = 0xED → b.toNat < 0xA0) ∨
        0xF0 ≤ a.toNat ∧ a.toNat ≤ 0xF4 ∧ (a.toNat = 0xF0 → 0x90 ≤ b.toNat) ∧
          (a.toNat = 0xF4 → b.toNat < 0x90)) := by
  rw [isTail_iff]
  simp only [secondFits, Bool.and_eq_true, decide_eq_true_eq, UInt8.le_iff_toNat_le, ← UInt8.toNat_inj]
  split <;> split <;> (repeat' split) <;> simp_all <;> omega

/-- Three bytes that fit are a character. -/
theorem exists_encodeChar_eq_three {a b d : UInt8} (h : secondFits a b = true) (ha : a.toNat < 0xF0)
    (hd : isTail d = true) : ∃ c, String.utf8EncodeChar c = [a, b, d] := by
  rw [secondFits_iff, isTail_iff] at h
  rw [isTail_iff] at hd
  obtain ⟨n, hn⟩ : ∃ n, n = (a.toNat - 0xE0) * 4096 + (b.toNat - 0x80) * 64 + (d.toNat - 0x80) := ⟨_, rfl⟩
  have hvalid : n.isValidChar := by
    simp only [Nat.isValidChar]
    omega
  have hfirst : n / 4096 % 16 + 224 = a.toNat := by omega
  have hsecond : n / 64 % 64 + 128 = b.toNat := by omega
  have hthird : n % 64 + 128 = d.toNat := by omega
  refine ⟨.ofNat n, ?_⟩
  rw [String.utf8EncodeChar.eq_1, toNat_val_ofNat hvalid, if_neg (by omega), if_neg (by omega),
    if_pos (by omega), hfirst, hsecond, hthird]
  simp only [UInt8.ofNat_toNat]

/-- Four bytes that fit are a character. -/
theorem exists_encodeChar_eq_four {a b d e : UInt8} (h : secondFits a b = true) (ha : 0xF0 ≤ a.toNat)
    (hd : isTail d = true) (he : isTail e = true) : ∃ c, String.utf8EncodeChar c = [a, b, d, e] := by
  rw [secondFits_iff, isTail_iff] at h
  rw [isTail_iff] at hd he
  obtain ⟨n, hn⟩ : ∃ n, n = (a.toNat - 0xF0) * 262144 + (b.toNat - 0x80) * 4096 + (d.toNat - 0x80) * 64 +
    (e.toNat - 0x80) := ⟨_, rfl⟩
  have hvalid : n.isValidChar := by
    simp only [Nat.isValidChar]
    omega
  have hfirst : n / 262144 % 8 + 240 = a.toNat := by omega
  have hsecond : n / 4096 % 64 + 128 = b.toNat := by omega
  have hthird : n / 64 % 64 + 128 = d.toNat := by omega
  have hfourth : n % 64 + 128 = e.toNat := by omega
  refine ⟨.ofNat n, ?_⟩
  rw [String.utf8EncodeChar.eq_1, toNat_val_ofNat hvalid, if_neg (by omega), if_neg (by omega),
    if_neg (by omega), hfirst, hsecond, hthird, hfourth]
  simp only [UInt8.ofNat_toNat]

/-- In a character of three bytes or more the second one fits behind the first one. -/
theorem secondFits_of_encodeChar {c : Char} {a b d : UInt8} {more : Bytes}
    (h : String.utf8EncodeChar c = a :: b :: d :: more) :
    secondFits a b = true ∧ isTail d = true ∧ (0xF0 ≤ a.toNat ↔ more.length = 1) ∧ more.length ≤ 1 := by
  have hvalid := c.valid
  simp only [UInt32.isValidChar, Nat.isValidChar] at hvalid
  rw [String.utf8EncodeChar.eq_1] at h
  rw [secondFits_iff, isTail_iff, isTail_iff]
  split at h
  · cases h
  split at h
  · cases h
  split at h
  · cases h
    simp only [UInt8.toNat_ofNat', List.length_nil]
    omega
  · cases h
    simp only [UInt8.toNat_ofNat', List.length_singleton, iff_true]
    omega

/-! ## The longest run -/

theorem begins_pair {a b : UInt8} (h : secondFits a b = true) : Begins [a, b] := by
  rcases Nat.lt_or_ge a.toNat 0xF0 with ha | ha
  · obtain ⟨c, hc⟩ := exists_encodeChar_eq_three (d := 0x80) h ha (by decide)
    exact ⟨c, [0x80], hc.symm⟩
  · obtain ⟨c, hc⟩ := exists_encodeChar_eq_four (d := 0x80) (e := 0x80) h ha (by decide) (by decide)
    exact ⟨c, [0x80, 0x80], hc.symm⟩

theorem begins_triple {a b d : UInt8} (h : secondFits a b = true) (ha : 0xF0 ≤ a.toNat)
    (hd : isTail d = true) : Begins [a, b, d] := by
  obtain ⟨c, hc⟩ := exists_encodeChar_eq_four (e := 0x80) h ha hd (by decide)
  exact ⟨c, [0x80], hc.symm⟩

theorem strayLength_of_three (a b d : UInt8) (rest : Bytes) :
    strayLength (a :: b :: d :: rest) =
      if secondFits a b = true then if 0xF0 ≤ a.toNat ∧ isTail d = true then 3 else 2 else 1 := by
  have htail : (0xF0 ≤ a && 0x80 ≤ d && d ≤ 0xBF) = true ↔ 0xF0 ≤ a.toNat ∧ isTail d = true := by
    simp [isTail, UInt8.le_iff_toNat_le, and_assoc]
  simp only [strayLength, htail]

/-- Some character begins with a stray run of more than one byte. -/
theorem begins_take_strayLength (bs : Bytes) : strayLength bs = 1 ∨ Begins (bs.take (strayLength bs)) := by
  match bs with
  | [] | [_] => exact .inl rfl
  | [a, b] =>
    simp only [strayLength]
    split
    · next h => exact .inr (begins_pair h)
    · exact .inl rfl
  | a :: b :: d :: rest =>
    rw [strayLength_of_three]
    split
    · next h =>
      split
      · next hd => exact .inr (begins_triple h hd.1 hd.2)
      · exact .inr (begins_pair h)
    · exact .inl rfl

/-- Where no character stands, no character begins with more than the stray run. -/
theorem le_strayLength {bs : Bytes} (hchar : ∀ c, ¬ String.utf8EncodeChar c <+: bs) {n : Nat}
    (hn : n ≤ bs.length) (h : Begins (bs.take n)) : n ≤ strayLength bs := by
  obtain ⟨c, beyond, hbeyond⟩ := h
  -- at least one byte of the character is not there
  obtain ⟨x, more, rfl⟩ : ∃ x more, beyond = x :: more := by
    refine List.exists_cons_of_ne_nil ?_
    rintro rfl
    rw [List.append_nil] at hbeyond
    exact hchar c (hbeyond ▸ List.take_prefix n bs)
  match n, bs with
  | 0, _ => exact Nat.zero_le _
  | 1, bs => exact strayLength_pos bs
  | 2, [a, b] =>
    have hfits := (secondFits_of_encodeChar hbeyond.symm).1
    simp [strayLength, hfits]
  | 2, a :: b :: d :: rest =>
    have hfits := (secondFits_of_encodeChar hbeyond.symm).1
    rw [strayLength_of_three, if_pos hfits]
    split <;> omega
  | n + 3, a :: b :: d :: rest =>
    have hbytes : String.utf8EncodeChar c = a :: b :: d :: (rest.take n ++ x :: more) := hbeyond.symm
    obtain ⟨hfits, htail, hfour, hlength⟩ := secondFits_of_encodeChar hbytes
    simp only [List.length_append, List.length_take, List.length_cons] at hfour hlength hn
    have ha : 0xF0 ≤ a.toNat := hfour.2 (by omega)
    rw [strayLength_of_three, if_pos hfits, if_pos ⟨ha, htail⟩]
    omega
  | 2, [] | 2, [_] | _ + 3, [] | _ + 3, [_] | _ + 3, [_, _] => simp at hn

/-! ## Lenient decoding -/

theorem not_prefix_of_head?_eq_none {bs : Bytes} (h : head? bs = none) (c : Char) :
    ¬ String.utf8EncodeChar c <+: bs := by
  rintro ⟨rest, rfl⟩
  rw [head?_encodeChar_append] at h
  cases h

theorem strayRun_strayLength {bs : Bytes} (hne : bs ≠ []) (h : head? bs = none) :
    StrayRun (bs.take (strayLength bs)) (bs.drop (strayLength bs)) := by
  have hle := strayLength_le hne
  have hlength : (bs.take (strayLength bs)).length = strayLength bs := by
    rw [List.length_take, Nat.min_eq_left hle]
  refine ⟨?_, ?_, ?_, ?_⟩
  · rw [← List.length_pos_iff, hlength]
    exact strayLength_pos bs
  · rw [List.take_append_drop]
    exact not_prefix_of_head?_eq_none h
  · rw [hlength]
    exact begins_take_strayLength bs
  · rw [hlength, List.take_append_drop]
    exact fun n hlt hn hb => Nat.not_le_of_lt hlt (le_strayLength (not_prefix_of_head?_eq_none h) hn hb)

theorem StrayRun.head?_eq_none {run rest : Bytes} (h : StrayRun run rest) : head? (run ++ rest) = none := by
  rw [Option.eq_none_iff_forall_ne_some]
  intro c hc
  obtain ⟨after, hafter⟩ := exists_of_head?_eq_some hc
  exact h.not_char c ⟨after, hafter.symm⟩

theorem StrayRun.strayLength_eq {run rest : Bytes} (h : StrayRun run rest) :
    strayLength (run ++ rest) = run.length := by
  have hne : run ++ rest ≠ [] := by simp [h.ne_nil]
  apply Nat.le_antisymm
  · refine Nat.le_of_not_lt fun hlt => ?_
    rcases begins_take_strayLength (run ++ rest) with hone | hb
    · have hpos := List.length_pos_iff.2 h.ne_nil
      omega
    · exact h.longest _ hlt (strayLength_le hne) hb
  · rcases h.begins with hone | hb
    · rw [hone]
      exact strayLength_pos _
    · exact le_strayLength h.not_char (by simp) (by rwa [List.take_left])

theorem StrayRun.chunks_append {run rest : Bytes} (h : StrayRun run rest) :
    chunks (run ++ rest) = .stray run :: chunks rest := by
  rw [chunks_of_ne_nil (by simp [h.ne_nil]), headChunk, h.head?_eq_none, h.strayLength_eq, List.take_left,
    List.drop_left]

/-- By the rule every byte string is shown as its chunks are. -/
theorem shows_chunks (bs : Bytes) : Shows bs ((chunks bs).map Chunk.shown) := by
  induction hn : bs.length using Nat.strongRecOn generalizing bs with
  | ind n ih =>
    by_cases hne : bs = []
    · subst hne
      exact .nil
    · have hpos := headChunk_size_pos bs
      have hle := headChunk_size_le hne
      have hrest := ih _ (by rw [List.length_drop]; omega) (bs.drop (headChunk bs).2) rfl
      rw [chunks_of_ne_nil hne, List.map_cons]
      cases hb : head? bs with
      | some c =>
        obtain ⟨rest, rfl⟩ := exists_of_head?_eq_some hb
        simp only [headChunk, hb, ← String.length_utf8EncodeChar, List.drop_left] at hrest ⊢
        exact .char c hrest
      | none =>
        simp only [headChunk, hb] at hrest ⊢
        have hshows := Shows.stray (strayRun_strayLength hne hb) hrest
        rwa [List.take_append_drop] at hshows

/-- What is shown by the rule is the lenient decoding. -/
theorem shows_iff {bs : Bytes} {cs : List Char} : Shows bs cs ↔ (decodeLossy bs).toList = cs := by
  rw [decodeLossy, String.toList_ofList]
  constructor
  · intro h
    induction h with
    | nil => rfl
    | char c _ ih => rw [chunks_encodeChar_append, List.map_cons, ih]; rfl
    | stray hrun _ ih => rw [hrun.chunks_append, List.map_cons, ih]; rfl
  · rintro rfl
    exact shows_chunks bs

end Configurator.Utf8
