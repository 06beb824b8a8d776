/-
Command lines as one list of tokens. Nothing stands between the segments of a command line, and a source may be
spelled like a flag or like an output designator; what keeps the segments apart is where the output designator
stands, and that what comes before the sources is for no profile the beginning of what it is for another. Main
statement: the tokens give back the compiler, the profile and the sources, and every segment is cut out of them
at places that they have.
-/
import Configurator.Invocation
import Configurator.Proofs.Text.Decoding

namespace Configurator

/-! ## All profiles -/

/-- All choices. -/
def Choices.all : List Choices :=
  [false, true].flatMap fun rich => [false, true].flatMap fun approval => [false, true].map fun asserts =>
    ⟨rich, approval, asserts⟩

theorem Choices.mem_all (c : Choices) : c ∈ all := by
  obtain ⟨_ | _, _ | _, _ | _⟩ := c <;> decide

namespace Profile

/-- All profiles. -/
def all : List Profile := release :: debug :: Choices.all.map custom

theorem mem_all (p : Profile) : p ∈ all := by
  cases p with
  | release | debug => decide
  | custom choices => simp [all, Choices.mem_all]

/-- What stands between the compiler and the sources. -/
def middle (p : Profile) : List String := p.flags ++ [Invocation.outputFlag ++ p.outputFile]

/-- No profile's middle is the beginning of another one's. -/
theorem middle_prefixFree {p q : Profile} (h : p.middle <+: q.middle) : p = q := by
  have hall : ∀ p ∈ all, ∀ q ∈ all, p.middle <+: q.middle → p = q := by decide +kernel
  exact hall p p.mem_all q q.mem_all h

/-- So the profile can be told from what follows the compiler, whatever the sources are. -/
theorem middle_append_inj {p q : Profile} {sources sources' : List String}
    (h : p.middle ++ sources = q.middle ++ sources') : p = q ∧ sources = sources' := by
  have hp : p.middle <+: q.middle ++ sources' := h ▸ List.prefix_append _ _
  have hpq : p = q := by
    rcases List.prefix_or_prefix_of_prefix hp (List.prefix_append _ _) with hle | hle
    · exact middle_prefixFree hle
    · exact (middle_prefixFree hle).symm
  subst hpq
  exact ⟨rfl, List.append_cancel_left h⟩

end Profile

/-! ## Spellings -/

namespace Path

theorem ofString_display {p : Path} (h : p.isText = true) : ofString p.display = p :=
  congrArg mk (Utf8.bytes_decodeLossy h)

theorem map_ofString_display {l : List Path} (h : ∀ p ∈ l, p.isText = true) :
    (l.map display).map ofString = l := by
  have hspelled : ∀ p ∈ l, (ofString ∘ display) p = id p := fun p hp => ofString_display (h p hp)
  rw [List.map_map, List.map_congr_left hspelled, List.map_id]

end Path

theorem PathSet.eq_of_map_display_eq {S S' : PathSet} (hS : ∀ p ∈ S.toList, p.isText = true)
    (hS' : ∀ p ∈ S'.toList, p.isText = true) (h : S.toList.map Path.display = S'.toList.map Path.display) :
    S = S' := by
  apply SortedSet.ext
  rw [← Path.map_ofString_display hS, h, Path.map_ofString_display hS']

namespace Invocation

/-! ## Cutting tokens -/

/-- The part of a list from one place up to another, if the list has these places in this order. -/
def cut? (l : List String) (first last : Nat) : Option (List String) :=
  if first ≤ last ∧ last ≤ l.length then some ((l.take last).drop first) else none

theorem cut?_append (before part behind : List String) :
    cut? (before ++ part ++ behind) before.length (before ++ part).length = some part := by
  have hplaces : before.length ≤ (before ++ part).length ∧
      (before ++ part).length ≤ (before ++ part ++ behind).length := by
    simp only [List.length_append]
    omega
  rw [cut?, if_pos hplaces, List.take_left, List.drop_left]

theorem cut?_append_end (before part : List String) :
    cut? (before ++ part) before.length (before ++ part).length = some part := by
  have h := cut?_append before part []
  rwa [List.append_nil] at h

/-- A command line as one list, with the place of the output designator. -/
structure Tokens where
  argv : List String
  outputIndex : Nat
  deriving DecidableEq, Repr

namespace Tokens

/-- The tokens, put together from the compiler on; the designator's place is noted when it is reached. -/
def assemble (compiler : String) (profile : Profile) (sources : PathSet) : Tokens :=
  let before := compiler :: profile.flags
  { argv := before ++ (outputFlag ++ profile.outputFile) :: sources.toList.map Path.display
    outputIndex := before.length }

def program? (t : Tokens) : Option String := t.argv[0]?

def args? (t : Tokens) : Option (List String) := cut? t.argv 1 t.argv.length

def flags? (t : Tokens) : Option (List String) := cut? t.argv 1 t.outputIndex

def outputArg? (t : Tokens) : Option String := t.argv[t.outputIndex]?

def sources? (t : Tokens) : Option (List String) := cut? t.argv (t.outputIndex + 1) t.argv.length

variable (compiler : String) (profile : Profile) (sources : PathSet)

theorem argv_assemble : (assemble compiler profile sources).argv =
    (Invocation.assemble compiler profile sources).argv := rfl

theorem program?_assemble : (assemble compiler profile sources).program? =
    some (Invocation.assemble compiler profile sources).program := rfl

theorem args?_assemble : (assemble compiler profile sources).args? =
    some (Invocation.assemble compiler profile sources).args :=
  cut?_append_end [compiler] (Invocation.assemble compiler profile sources).args

theorem flags?_assemble : (assemble compiler profile sources).flags? =
    some (Invocation.assemble compiler profile sources).flags :=
  cut?_append [compiler] profile.flags _

theorem outputArg?_assemble : (assemble compiler profile sources).outputArg? =
    some (Invocation.assemble compiler profile sources).outputArg := by
  rw [outputArg?, assemble, List.getElem?_append_right (Nat.le_refl _), Nat.sub_self]
  rfl

theorem sources?_assemble : (assemble compiler profile sources).sources? =
    some (Invocation.assemble compiler profile sources).sources := by
  have hargv : (assemble compiler profile sources).argv =
      (compiler :: profile.flags ++ [outputFlag ++ profile.outputFile]) ++
        (Invocation.assemble compiler profile sources).sources := by
    rw [List.append_assoc]
    rfl
  have hplace : (assemble compiler profile sources).outputIndex + 1 =
      (compiler :: profile.flags ++ [outputFlag ++ profile.outputFile]).length := by
    rw [List.length_append]
    rfl
  rw [sources?, hargv, hplace, cut?_append_end]

end Tokens

/-! ## Reading a command line back -/

/-- Command lines with the same tokens come from the same compiler, profile and sources, if the paths of the
sources are text. And whatever a command line comes from, its segments are the compiler, the flags of the
profile, the designator of its output, and the sources in the order of their set, each spelled as it is if it is
text; and each of them, like all that follows the compiler, is cut out of the tokens at places that these
have. -/
theorem assemble_readable :
    (∀ (c c' : String) (p p' : Profile) (S S' : PathSet), (∀ q ∈ S.toList, q.isText = true) →
      (∀ q ∈ S'.toList, q.isText = true) → (assemble c p S).argv = (assemble c' p' S').argv →
        c = c' ∧ p = p' ∧ S = S') ∧
    ∀ (c : String) (p : Profile) (S : PathSet),
      let i := assemble c p S
      let tokens := Tokens.assemble c p S
      (i.program = c ∧ i.flags = p.flags ∧ i.outputArg = "-o" ++ p.outputFile ∧
        i.sources = S.toList.map Path.display ∧ i.args = i.argv.drop 1 ∧
        ∀ q ∈ S.toList, q.isText = true → Path.ofString q.display = q) ∧
      (tokens.argv = i.argv ∧ tokens.program? = some i.program ∧ tokens.args? = some i.args ∧
        tokens.flags? = some i.flags ∧ tokens.outputArg? = some i.outputArg ∧
        tokens.sources? = some i.sources) := by
  refine ⟨fun c c' p p' S S' hS hS' h => ?_, fun c p S => ⟨?_, ?_⟩⟩
  · obtain ⟨hc, hrest⟩ := List.cons.inj h
    have hsegments : p.middle ++ S.toList.map Path.display = p'.middle ++ S'.toList.map Path.display := by
      simpa [args, assemble, Profile.middle] using hrest
    obtain ⟨hp, hsources⟩ := Profile.middle_append_inj hsegments
    exact ⟨hc, hp, PathSet.eq_of_map_display_eq hS hS' hsources⟩
  · exact ⟨rfl, rfl, rfl, rfl, rfl, fun q _ hq => Path.ofString_display hq⟩
  · exact ⟨Tokens.argv_assemble c p S, Tokens.program?_assemble c p S, Tokens.args?_assemble c p S,
      Tokens.flags?_assemble c p S, Tokens.outputArg?_assemble c p S, Tokens.sources?_assemble c p S⟩

/-- A source that is spelled like a flag, and one that is spelled like an output designator. -/
def misleadingSources : PathSet := .ofList [.ofString "-O2", .ofString "-oout/whippet.out"]

/-- The case of a compiler that is spelled like a flag and of misleading sources. -/
theorem assemble_readable_misleading :
    (∀ q ∈ misleadingSources.toList, q.isText = true) ∧
    (∀ (c : String) (p : Profile), (assemble "-O2" .release misleadingSources).argv =
        (assemble c p misleadingSources).argv → "-O2" = c ∧ .release = p) ∧
    (Tokens.assemble "-O2" .release misleadingSources).sources? = some ["-O2", "-oout/whippet.out"] := by
  have htext : ∀ q ∈ misleadingSources.toList, q.isText = true := by decide +kernel
  refine ⟨htext, fun c p h => ?_, ?_⟩
  · obtain ⟨hc, hp, -⟩ := assemble_readable.1 _ _ _ _ _ _ htext htext h
    exact ⟨hc, hp⟩
  · obtain ⟨-, -, -, -, -, -, hsources⟩ := assemble_readable.2 "-O2" .release misleadingSources
    rw [hsources]
    decide +kernel

end Invocation

end Configurator
