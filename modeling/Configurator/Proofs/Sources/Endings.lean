/-
Endings of file names, byte by byte. A name that is not text is shown with U+FFFD, and its ending is looked for in
what is shown; this finds what the bytes of the name end with, however broken the name is before that. Main
statement: no path whose file name ends with the bytes of an ending is passed over without an error.
-/
import Configurator.Proofs.Sources.Collecting
import Configurator.Proofs.Text.Lenient

namespace Configurator.Sources

/-- The file name of the path ends with the bytes of one of the endings. -/
def EndsIn (extensions : ExtensionSet) (p : Path) : Prop :=
  ∃ name, p.fileName? = some name ∧ ∃ ending ∈ extensions.toList, Utf8.bytes ending <:+ name

theorem endsWith_decodeLossy_iff {ending : String} (h : '\uFFFD' ∉ ending.toList) (name : Bytes) :
    endsWith (Utf8.decodeLossy name) ending = true ↔ Utf8.bytes ending <:+ name := by
  rw [endsWith, List.isSuffixOf_iff_suffix]
  exact (Utf8.encode_suffix_iff h name).symm

theorem admits_iff_endsIn {extensions : ExtensionSet}
    (h : ∀ ending ∈ extensions.toList, '\uFFFD' ∉ ending.toList) {p : Path} :
    extensions.admits p = true ↔ EndsIn extensions p := by
  rw [admits_iff]
  refine exists_congr fun name => and_congr_right fun _ => exists_congr fun ending => and_congr_right fun hin => ?_
  exact (Utf8.encode_suffix_iff (h ending hin) name).symm

/-- A set that was collected has exactly the paths that the endings admit. -/
theorem mem_iff_of_collect {paths : List Path} {extensions : ExtensionSet} {sources : PathSet}
    (h : collect paths extensions = .ok sources) {p : Path} :
    p ∈ sources.toList ↔ p ∈ paths ∧ extensions.admits p = true := by
  by_cases hclean : Clean (paths.filter extensions.admits)
  · rw [collect_of_clean hclean] at h
    cases h
    rw [(toList_ofList_perm hclean).mem_iff, List.mem_filter]
  · obtain ⟨i, e, -, he⟩ := collect_of_not_clean hclean
    rw [he] at h
    cases h

/-- What is not text is shown by the rule, every longest run that is not part of a character as one U+FFFD. So an
ending without U+FFFD is seen in a name exactly if the bytes of the name end with it. And with such endings
collecting fails, or the set has exactly the paths whose file name ends with the bytes of one of them. -/
theorem collect_endsIn :
    (∀ (bs : Bytes) (cs : List Char), Utf8.Shows bs cs ↔ (Utf8.decodeLossy bs).toList = cs) ∧
    (∀ (name : Bytes) (ending : String), '\uFFFD' ∉ ending.toList →
      (endsWith (Utf8.decodeLossy name) ending = true ↔ Utf8.bytes ending <:+ name)) ∧
    ∀ extensions : ExtensionSet, (∀ ending ∈ extensions.toList, '\uFFFD' ∉ ending.toList) →
      (∀ p, extensions.admits p = true ↔ EndsIn extensions p) ∧
      ∀ paths : List Path, (∃ e, collect paths extensions = .error e) ∨
        ∃ sources, collect paths extensions = .ok sources ∧
          ∀ p, p ∈ sources.toList ↔ p ∈ paths ∧ EndsIn extensions p := by
  refine ⟨fun _ _ => Utf8.shows_iff, fun name ending h => endsWith_decodeLossy_iff h name, fun extensions h => ?_⟩
  refine ⟨fun p => admits_iff_endsIn h, fun paths => ?_⟩
  cases hc : collect paths extensions with
  | error e => exact .inl ⟨e, rfl⟩
  | ok sources =>
    refine .inr ⟨sources, rfl, fun p => ?_⟩
    rw [mem_iff_of_collect hc, admits_iff_endsIn h]

/-- Two sources, one of them below a directory whose name is not ASCII, and a name that breaks off in the middle of a
character right before the ending. -/
def brokenSources : List Path :=
  [.ofString "s/a.c", .ofString "é/b.c", ⟨[0x73, 0x2F, 0xF0, 0x9F, 0x98, 0x2E, 0x63]⟩]

/-- The case of these paths: the broken name has the ending, so collecting fails, and without it the sources are in
the set. -/
theorem collect_endsIn_broken :
    '\uFFFD' ∉ ".c".toList ∧ endsWith (Utf8.decodeLossy [0xF0, 0x9F, 0x98, 0x2E, 0x63]) ".c" = true ∧
    (∀ ending ∈ (SortedSet.ofList [".c"] : ExtensionSet).toList, '\uFFFD' ∉ ending.toList) ∧
    (∃ e, collect brokenSources (.ofList [".c"]) = .error e) ∧
    ∃ sources, collect (brokenSources.take 2) (.ofList [".c"]) = .ok sources ∧
      ∀ p, p ∈ sources.toList ↔ p ∈ brokenSources.take 2 ∧ EndsIn (.ofList [".c"]) p := by
  have hmark : '\uFFFD' ∉ ".c".toList := by decide +kernel
  have hmarks : ∀ ending ∈ (SortedSet.ofList [".c"] : ExtensionSet).toList, '\uFFFD' ∉ ending.toList := by
    decide +kernel
  obtain ⟨-, hseen, hcollect⟩ := collect_endsIn
  obtain ⟨-, hall⟩ := hcollect _ hmarks
  refine ⟨hmark, (hseen _ _ hmark).2 (by decide +kernel), hmarks, ?_, ?_⟩
  · have hfails : (collect brokenSources (.ofList [".c"])).isOk = false := by decide +kernel
    rcases hall brokenSources with he | ⟨sources, hok, -⟩
    · exact he
    · rw [hok] at hfails
      cases hfails
  · have hsucceeds : (collect (brokenSources.take 2) (.ofList [".c"])).isOk = true := by decide +kernel
    rcases hall (brokenSources.take 2) with ⟨e, he⟩ | hok
    · rw [he] at hsucceeds
      cases hsucceeds
    · exact hok

end Configurator.Sources
