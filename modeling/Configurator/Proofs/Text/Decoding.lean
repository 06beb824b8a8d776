/-
Text in byte strings. A byte string is text when it encodes a list of characters, and cutting it into
chunks gives these characters back. Main statements: text is shown without loss, and behind text only what
follows decides whether the whole is text.
-/
import Configurator.Utf8

namespace Configurator.Utf8

/-! ## Chunks of text -/

/-- A character at the head of a byte string is its first chunk. -/
theorem chunks_encodeChar_append (c : Char) (rest : Bytes) :
    chunks (String.utf8EncodeChar c ++ rest) = .char c :: chunks rest := by
  have hhead : headChunk (String.utf8EncodeChar c ++ rest) = (.char c, c.utf8Size) := by
    simp only [headChunk, head?_encodeChar_append]
  obtain ⟨b, more, hbytes⟩ : ∃ b more, String.utf8EncodeChar c = b :: more :=
    List.exists_cons_of_length_pos (by rw [String.length_utf8EncodeChar]; exact Char.utf8Size_pos c)
  have hsize : c.utf8Size = more.length + 1 := by
    rw [← String.length_utf8EncodeChar, hbytes, List.length_cons]
  rw [hbytes, List.cons_append] at hhead ⊢
  rw [chunks, chunksAfter, hhead]
  dsimp only
  rw [chunksAfter_eq_chunks_drop, hsize, Nat.add_sub_cancel, List.drop_left]

theorem chunks_encode (cs : List Char) : chunks (encode cs) = cs.map Chunk.char := by
  induction cs with
  | nil => rfl
  | cons c cs ih => rw [encode_cons, chunks_encodeChar_append, ih, List.map_cons]

theorem isText_encodeChar_append (c : Char) (rest : Bytes) :
    isText (String.utf8EncodeChar c ++ rest) = isText rest := by
  simp only [isText, decode?, chunks_encodeChar_append, List.mapM_cons, Chunk.char?]
  cases (chunks rest).mapM Chunk.char? <;> rfl

theorem isText_encode_append (cs : List Char) (rest : Bytes) :
    isText (encode cs ++ rest) = isText rest := by
  induction cs with
  | nil => rfl
  | cons c cs ih => rw [encode_cons, List.append_assoc, isText_encodeChar_append, ih]

theorem decode?_bytes (s : String) : decode? (bytes s) = some s := by
  have hchars (cs : List Char) : (cs.map Chunk.char).mapM Chunk.char? = some cs := by
    induction cs with
    | nil => rfl
    | cons c cs ih => rw [List.map_cons, List.mapM_cons, ih]; rfl
  rw [decode?, bytes, chunks_encode, hchars, Option.map_some, String.ofList_toList]

/-- Chunks all of which are characters stand for the encoding of these. -/
theorem flatMap_bytes_of_mapM_char? {chunks : List Chunk} {cs : List Char}
    (h : chunks.mapM Chunk.char? = some cs) : chunks.flatMap Chunk.bytes = encode cs := by
  induction chunks generalizing cs with
  | nil =>
    cases h
    rfl
  | cons chunk chunks ih =>
    rw [List.mapM_cons] at h
    cases chunk with
    | stray bs => cases h
    | char c =>
      obtain ⟨cs', hcs', hcons⟩ := Option.bind_eq_some_iff.1 h
      obtain ⟨cs'', hcs'', hpure⟩ := Option.bind_eq_some_iff.1 hcons
      cases hcs'
      cases hpure
      rw [List.flatMap_cons, ih hcs'', encode_cons, Chunk.bytes]

/-- Text is what encodes characters. -/
theorem isText_iff {bs : Bytes} : isText bs = true ↔ ∃ cs, bs = encode cs := by
  constructor
  · intro h
    rw [isText, decode?, Option.isSome_map, Option.isSome_iff_exists] at h
    obtain ⟨cs, hcs⟩ := h
    exact ⟨cs, by rw [← flatMap_bytes_chunks bs, flatMap_bytes_of_mapM_char? hcs]⟩
  · rintro ⟨cs, rfl⟩
    have h := isText_encode_append cs []
    rw [List.append_nil] at h
    exact h

theorem bytes_decodeLossy {bs : Bytes} (h : isText bs = true) : bytes (decodeLossy bs) = bs := by
  obtain ⟨cs, rfl⟩ := isText_iff.1 h
  have hshown : (cs.map Chunk.char).map Chunk.shown = cs := List.map_map.trans (List.map_id cs)
  rw [decodeLossy, chunks_encode, hshown, bytes, String.toList_ofList]

theorem isText_append {a : Bytes} (h : isText a = true) (b : Bytes) : isText (a ++ b) = isText b := by
  obtain ⟨cs, rfl⟩ := isText_iff.1 h
  exact isText_encode_append cs b

/-- A character of one byte stands at the head of encoded characters exactly if its byte does. -/
theorem head?_encode_iff {a : Char} {b : UInt8} (h : String.utf8EncodeChar a = [b]) (cs : List Char) :
    (encode cs).head? = some b ↔ cs.head? = some a := by
  constructor
  · intro hb
    obtain ⟨rest, hrest⟩ := List.head?_eq_some_iff.1 hb
    have ha := head?_encodeChar_append a rest
    rw [h, List.singleton_append, ← hrest] at ha
    cases cs with
    | nil => cases hb
    | cons c cs =>
      rw [encode_cons, head?_encodeChar_append] at ha
      rw [List.head?_cons, ha]
  · intro ha
    obtain ⟨rest, rfl⟩ := List.head?_eq_some_iff.1 ha
    rw [encode_cons, h, List.singleton_append, List.head?_cons]

end Configurator.Utf8
