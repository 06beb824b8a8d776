/-
Byte strings and the text in them. A byte string is cut, from the left, into chunks: a chunk is one
character, or a longest run of bytes that begins like a character and does not become one. Strict
decoding accepts a byte string all of whose chunks are characters, lenient decoding shows every
other chunk as U+FFFD. Main statement: the chunks put together are the byte string again.
-/

namespace Configurator

/-- A byte string. -/
abbrev Bytes := List UInt8

namespace Utf8

/-! ## Encoding -/

/-- The bytes of a list of characters. -/
def encode (cs : List Char) : Bytes := cs.flatMap String.utf8EncodeChar

/-- The bytes of a text. -/
def bytes (s : String) : Bytes := encode s.toList

@[simp] theorem encode_nil : encode [] = [] := rfl

@[simp] theorem encode_cons (c : Char) (cs : List Char) :
    encode (c :: cs) = String.utf8EncodeChar c ++ encode cs := rfl

@[simp] theorem encode_append (cs ds : List Char) : encode (cs ++ ds) = encode cs ++ encode ds :=
  List.flatMap_append

@[simp] theorem bytes_append (s t : String) : bytes (s ++ t) = bytes s ++ bytes t := by
  simp [bytes]

/-! ## Chunks -/

/-- One piece of a byte string. -/
inductive Chunk where
  /-- A well-formed character. -/
  | char (c : Char)
  /-- Bytes that are not part of a character. -/
  | stray (bytes : Bytes)
  deriving DecidableEq, Repr

namespace Chunk

/-- The bytes that the chunk stands for. -/
def bytes : Chunk → Bytes
  | char c => String.utf8EncodeChar c
  | stray bs => bs

/-- The character of a well-formed chunk. -/
def char? : Chunk → Option Char
  | char c => some c
  | stray _ => none

/-- The character that shows the chunk: itself, or U+FFFD for stray bytes. -/
def shown : Chunk → Char
  | char c => c
  | stray _ => '\uFFFD'

end Chunk

/-- The character at the head of a byte string, if a well-formed one stands there. -/
def head? (bs : Bytes) : Option Char := (bs.take 4).toByteArray.utf8DecodeChar? 0

/-- Whether `b` may follow the first byte `a` of a character of three or four bytes. -/
def secondFits (a b : UInt8) : Bool :=
  let low : UInt8 := if a = 0xE0 then 0xA0 else if a = 0xF0 then 0x90 else 0x80
  let high : UInt8 := if a = 0xED then 0x9F else if a = 0xF4 then 0x8F else 0xBF
  0xE0 ≤ a && a ≤ 0xF4 && low ≤ b && b ≤ high

/-- The number of bytes of the stray run at the head of a byte string that does not begin with a
character: the longest beginning that some character shares, and at least one byte. -/
def strayLength : Bytes → Nat
  | a :: b :: c :: _ =>
    if secondFits a b then (if 0xF0 ≤ a && 0x80 ≤ c && c ≤ 0xBF then 3 else 2) else 1
  | [a, b] => if secondFits a b then 2 else 1
  | _ => 1

/-- The chunk at the head of a byte string together with the number of its bytes. -/
def headChunk (bs : Bytes) : Chunk × Nat :=
  match head? bs with
  | some c => (.char c, c.utf8Size)
  | none => (.stray (bs.take (strayLength bs)), strayLength bs)

/-- The chunks that are left after `skip` bytes. -/
def chunksAfter : (skip : Nat) → Bytes → List Chunk
  | _, [] => []
  | skip + 1, _ :: rest => chunksAfter skip rest
  | 0, a :: rest =>
    let (chunk, size) := headChunk (a :: rest)
    chunk :: chunksAfter (size - 1) rest

/-- The chunks of a byte string. -/
def chunks (bs : Bytes) : List Chunk := chunksAfter 0 bs

theorem chunksAfter_eq_chunks_drop (skip : Nat) (bs : Bytes) :
    chunksAfter skip bs = chunks (bs.drop skip) := by
  induction bs generalizing skip with
  | nil => simp [chunksAfter, chunks]
  | cons a rest ih =>
    cases skip with
    | zero => rfl
    | succ skip => simpa [chunksAfter] using ih skip

theorem exists_of_head?_eq_some {bs : Bytes} {c : Char} (h : head? bs = some c) :
    ∃ rest, bs = String.utf8EncodeChar c ++ rest := by
  obtain ⟨l, hl⟩ := ByteArray.exists_of_utf8DecodeChar?_eq_some h
  have hd := congrArg (fun b : ByteArray => b.data.toList) hl
  simp only [List.data_toByteArray, ByteArray.data_append, Array.toList_append] at hd
  refine ⟨l.data.toList ++ bs.drop 4, ?_⟩
  rw [← List.append_assoc, ← hd, List.take_append_drop]

theorem head?_encodeChar_append (c : Char) (rest : Bytes) :
    head? (String.utf8EncodeChar c ++ rest) = some c := by
  have hlen : (String.utf8EncodeChar c).length ≤ 4 := by
    rw [String.length_utf8EncodeChar]; exact Char.utf8Size_le_four c
  unfold head?
  rw [List.take_append, List.take_of_length_le hlen, List.toByteArray_append]
  exact ByteArray.utf8DecodeChar?_utf8EncodeChar_append

theorem strayLength_pos (bs : Bytes) : 0 < strayLength bs := by
  unfold strayLength
  split <;> (repeat' split) <;> omega

/-- The chunk at the head stands for the bytes it covers. -/
theorem bytes_headChunk (bs : Bytes) : (headChunk bs).1.bytes = bs.take (headChunk bs).2 := by
  unfold headChunk
  split
  · next c h =>
    obtain ⟨rest, rfl⟩ := exists_of_head?_eq_some h
    rw [Chunk.bytes, ← String.length_utf8EncodeChar c, List.take_left]
  · rfl

theorem headChunk_size_pos (bs : Bytes) : 0 < (headChunk bs).2 := by
  unfold headChunk
  split
  · exact Char.utf8Size_pos _
  · exact strayLength_pos bs

theorem flatMap_bytes_chunksAfter (skip : Nat) (bs : Bytes) :
    (chunksAfter skip bs).flatMap Chunk.bytes = bs.drop skip := by
  induction bs generalizing skip with
  | nil => simp [chunksAfter]
  | cons a rest ih =>
    cases skip with
    | zero =>
      have hpos := headChunk_size_pos (a :: rest)
      have hb := bytes_headChunk (a :: rest)
      obtain ⟨n, hn⟩ : ∃ n, (headChunk (a :: rest)).2 = n + 1 := ⟨_, (Nat.succ_pred_eq_of_pos hpos).symm⟩
      simp [chunksAfter, ih, hb, hn]
    | succ skip => simpa [chunksAfter] using ih skip

/-- Put together, the chunks are the byte string again. -/
theorem flatMap_bytes_chunks (bs : Bytes) : (chunks bs).flatMap Chunk.bytes = bs := by
  simpa [chunks] using flatMap_bytes_chunksAfter 0 bs

/-! ## Decoding -/

/-- The text of a byte string that is well-formed throughout. -/
def decode? (bs : Bytes) : Option String := ((chunks bs).mapM Chunk.char?).map String.ofList

/-- Whether the byte string is well-formed throughout. -/
def isText (bs : Bytes) : Bool := (decode? bs).isSome

/-- The text of any byte string, each stray run shown as one U+FFFD. -/
def decodeLossy (bs : Bytes) : String := String.ofList ((chunks bs).map Chunk.shown)

end Utf8

end Configurator
