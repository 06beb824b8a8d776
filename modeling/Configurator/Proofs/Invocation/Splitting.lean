/-
Reading a shown command line back by splitting it at its spaces. The tokens are joined by single spaces and not
quoted, so a space in a token cannot be told from one between tokens: the parts between spaces have no space,
whatever is split. Main statement: splitting gives the tokens back exactly if no token has a space, which the
release and the custom profiles leave to the compiler and the sources, and which the debug profile never allows.
-/
import Configurator.Proofs.Invocation.Tokens

namespace Configurator

/-! ## Splitting -/

/-- The parts of a text between its spaces; two spaces in a row have an empty part between them. -/
def splitAtSpaces (s : String) : List String := (s.split ' ').toList.map String.Slice.copy

theorem ne_of_mem_of_mem_splitOn {sep a : Char} {l piece : List Char} (h : piece ∈ l.splitOn sep)
    (ha : a ∈ piece) : a ≠ sep := by
  induction l generalizing piece with
  | nil =>
    rw [List.splitOn_nil, List.mem_singleton] at h
    subst h
    cases ha
  | cons b rest ih =>
    obtain ⟨first, others, hrest⟩ := List.exists_cons_of_ne_nil (List.splitOn_ne_nil sep rest)
    rw [List.splitOn_cons_eq_if_modifyHead] at h
    split at h
    · rcases List.mem_cons.1 h with rfl | h
      · cases ha
      · exact ih h ha
    · next hb =>
      rw [hrest, List.modifyHead_cons] at h
      rcases List.mem_cons.1 h with rfl | h
      · rcases List.mem_cons.1 ha with rfl | ha
        · simpa using hb
        · exact ih (hrest ▸ List.mem_cons_self) ha
      · exact ih (hrest ▸ List.mem_cons_of_mem _ h) ha

theorem not_mem_of_mem_splitAtSpaces {s part : String} (h : part ∈ splitAtSpaces s) : ' ' ∉ part.toList := by
  rw [splitAtSpaces, String.toList_split_char] at h
  obtain ⟨piece, hpiece, rfl⟩ := List.mem_map.1 h
  rw [String.toList_ofList]
  exact fun hspace => ne_of_mem_of_mem_splitOn hpiece hspace rfl

/-- Joined by single spaces, tokens are what is found between spaces exactly if none of them has one. -/
theorem splitAtSpaces_intercalate_iff {tokens : List String} (hne : tokens ≠ []) :
    splitAtSpaces (" ".intercalate tokens) = tokens ↔ ∀ token ∈ tokens, ' ' ∉ token.toList := by
  constructor
  · intro h token htoken
    rw [← h] at htoken
    exact not_mem_of_mem_splitAtSpaces htoken
  · intro h
    have hsplit := String.toList_split_intercalate h
    rwa [if_neg hne] at hsplit

/-! ## Spaces in tokens -/

/-- The byte of a space. -/
def space : UInt8 := 0x20

/-- A character that is shown for a byte string and is no replacement stands in the byte string. -/
theorem Utf8.subset_of_mem_decodeLossy {c : Char} {bs : Bytes} (hc : c ≠ '\uFFFD')
    (h : c ∈ (decodeLossy bs).toList) : String.utf8EncodeChar c ⊆ bs := by
  rw [decodeLossy, String.toList_ofList] at h
  obtain ⟨chunk, hchunk, rfl⟩ := List.mem_map.1 h
  cases chunk with
  | stray run => exact absurd rfl hc
  | char c =>
    intro b hb
    rw [← flatMap_bytes_chunks bs]
    exact List.mem_flatMap.2 ⟨.char c, hchunk, hb⟩

theorem Path.not_mem_display {p : Path} (h : space ∉ p.bytes) : ' ' ∉ p.display.toList := by
  intro hspace
  have hbytes : String.utf8EncodeChar ' ' ⊆ p.bytes := Utf8.subset_of_mem_decodeLossy (by decide) hspace
  exact h (hbytes (by decide))

theorem Profile.not_mem_middle {p : Profile} (h : p ≠ .debug) : ∀ token ∈ p.middle, ' ' ∉ token.toList := by
  have hall : ∀ p ∈ all, p ≠ .debug → ∀ token ∈ p.middle, ' ' ∉ token.toList := by decide +kernel
  exact hall p p.mem_all h

namespace Invocation

variable (compiler : String) (profile : Profile) (sources : PathSet)

theorem argv_assemble_eq : (assemble compiler profile sources).argv =
    compiler :: profile.middle ++ sources.toList.map Path.display := by
  rw [argv, args, Profile.middle, List.cons_append, List.append_assoc]
  rfl

/-- The tokens of a command line have no space if the compiler and the sources have none and the build is not a
debug build. -/
theorem not_mem_argv {compiler : String} {profile : Profile} {sources : PathSet} (hprofile : profile ≠ .debug)
    (hcompiler : ' ' ∉ compiler.toList) (hsources : ∀ q ∈ sources.toList, space ∉ q.bytes) :
    ∀ token ∈ (assemble compiler profile sources).argv, ' ' ∉ token.toList := by
  intro token htoken
  rw [argv_assemble_eq, List.mem_append, List.mem_cons, List.mem_map] at htoken
  rcases htoken with (rfl | hmiddle) | ⟨q, hq, rfl⟩
  · exact hcompiler
  · exact Profile.not_mem_middle hprofile token hmiddle
  · exact Path.not_mem_display (hsources q hq)

theorem exists_mem_argv_debug : ∃ token ∈ (assemble compiler .debug sources).argv, ' ' ∈ token.toList := by
  obtain ⟨token, htoken, hspace⟩ : ∃ token ∈ Profile.debug.middle, ' ' ∈ token.toList := by decide +kernel
  refine ⟨token, ?_, hspace⟩
  rw [argv_assemble_eq]
  exact List.mem_append_left _ (List.mem_cons_of_mem _ htoken)

/-- Splitting a shown command line at its spaces gives its tokens exactly if no token has a space. For a release
or a custom build that is so if the compiler and the sources have none, for a debug build it never is. -/
theorem display_splits_iff :
    (splitAtSpaces (assemble compiler profile sources).display = (assemble compiler profile sources).argv ↔
      ∀ token ∈ (assemble compiler profile sources).argv, ' ' ∉ token.toList) ∧
    (profile ≠ .debug → ' ' ∉ compiler.toList → (∀ q ∈ sources.toList, space ∉ q.bytes) →
      splitAtSpaces (assemble compiler profile sources).display = (assemble compiler profile sources).argv) ∧
    splitAtSpaces (assemble compiler .debug sources).display ≠ (assemble compiler .debug sources).argv := by
  have hiff (i : Invocation) : splitAtSpaces i.display = i.argv ↔ ∀ token ∈ i.argv, ' ' ∉ token.toList :=
    splitAtSpaces_intercalate_iff (List.cons_ne_nil i.program i.args)
  refine ⟨hiff _, fun hprofile hcompiler hsources => ?_, fun h => ?_⟩
  · exact (hiff _).2 (not_mem_argv hprofile hcompiler hsources)
  · obtain ⟨token, htoken, hspace⟩ := exists_mem_argv_debug compiler sources
    exact (hiff _).1 h token htoken hspace

/-- The case of sources one of which is no text. -/
theorem display_splits_iff_strange :
    splitAtSpaces (assemble "cc" .release (.ofList [⟨[0xFF]⟩, .ofString "a.c"])).display =
      ["cc", "-DNO_INCLUDE_ASSERTS", "-DNO_TESTS", "-O2", "-oout/whippet.out", "a.c", "\uFFFD"] := by
  obtain ⟨-, hsplits, -⟩ := display_splits_iff "cc" .release (.ofList [⟨[0xFF]⟩, .ofString "a.c"])
  rw [hsplits (by decide) (by decide) (by decide +kernel)]
  decide +kernel

end Invocation

end Configurator
