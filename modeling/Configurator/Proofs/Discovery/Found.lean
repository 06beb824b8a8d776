/-
What a search finds. A path is a source below a root when directories, none of them a link, lead to an
entry that is neither a directory nor a link to one, and the name of this entry has one of the endings;
it is spelled like the root, followed by the names. Main statement: a search ends at a root that leads
nowhere, at a directory that cannot be read, at a source whose path is not text, or it gives the set of
exactly the sources.
-/
import Configurator.Proofs.Sources.Gathering
import Configurator.Proofs.Workspace.Resolution

namespace Configurator.Discovery

/-! ## Files below a root -/

/-- The names lead from the directory to a file, or to a link that does not lead to a directory. -/
def IsFile (ws : Workspace) (root : Path) (inside : Tree) (names : List Name) : Prop :=
  ∃ l, inside.get? names = some (.leaf l) ∧
    ∀ target, l = .link target → ws.isDirectory (spelled root names) = false

/-- Every directory below the root can be read: the system takes the path by which a walk asks for it. -/
def Readable (root : Path) (inside : Tree) : Prop :=
  ∀ names sub, names ≠ [] → inside.get? names = some (.dir sub) →
    (spelled root names).bytes.length ≤ Workspace.pathLimit

/-- A file below the root, under its path, whose name has one of the endings. -/
def IsSource (ws : Workspace) (root : Path) (inside : Tree) (extensions : ExtensionSet) (p : Path) :
    Prop :=
  ∃ names name, IsFile ws root inside (names ++ [name]) ∧ p = spelled root (names ++ [name]) ∧
    ∃ ending ∈ extensions.toList, endsWith (Utf8.decodeLossy name) ending = true

variable {ws : Workspace} {root : Path} {inside : Tree}

theorem IsFile.ne_nil {names : List Name} (h : IsFile ws root inside names) : names ≠ [] := by
  rintro rfl
  obtain ⟨l, hl, -⟩ := h
  cases hl

theorem IsFile.isName {names : List Name} (hin : inside.WellFormed) (h : IsFile ws root inside names) :
    ∀ n ∈ names, IsName n := by
  obtain ⟨l, hl, -⟩ := h
  exact hin.names hl

/-! ## The walk -/

/-- The names of an entry of the walk are proper and the entry is the one they lead to. -/
theorem of_mem_walk (hin : inside.WellFormed) {names : List Name} {e : Entry}
    (h : (names, e) ∈ inside.walk) :
    names ≠ [] ∧ inside.get? names = some e ∧ ∀ n ∈ names, IsName n := by
  obtain ⟨hne, hg⟩ := (Tree.mem_walk_iff hin.distinct).1 h
  exact ⟨hne, hg, hin.names hg⟩

theorem file?_eq_some_iff (hroot : root.bytes ≠ []) {names : List Name} {e : Entry} {p : Path}
    (hne : names ≠ []) (hnames : ∀ n ∈ names, IsName n) :
    file? ws root (names, e) = some p ↔
      (∃ l, e = .leaf l ∧ ∀ target, l = .link target → ws.isDirectory (spelled root names) = false) ∧
        p = spelled root names := by
  have hb := below_eq_spelled hroot hne hnames
  rcases e with ⟨body | target⟩ | sub
  · simp only [file?, hb, Option.some.injEq]
    exact ⟨fun h => ⟨⟨_, rfl, fun _ hl => by cases hl⟩, h.symm⟩, fun h => h.2.symm⟩
  · simp only [file?, hb]
    split
    · next hd =>
      simp only [reduceCtorEq, false_iff]
      rintro ⟨⟨l, hl, hno⟩, -⟩
      cases hl
      rw [hno target rfl] at hd
      cases hd
    · next hd =>
      rw [Bool.not_eq_true] at hd
      simp only [Option.some.injEq]
      refine ⟨fun h => ⟨⟨_, rfl, fun _ hl => ?_⟩, h.symm⟩, fun h => h.2.symm⟩
      cases hl
      exact hd
  · simp [file?]

/-- The paths of a walk are those of the files. -/
theorem mem_filterMap_file?_iff (hin : inside.WellFormed) (hroot : root.bytes ≠ []) {p : Path} :
    p ∈ inside.walk.filterMap (file? ws root) ↔
      ∃ names, IsFile ws root inside names ∧ p = spelled root names := by
  rw [List.mem_filterMap]
  constructor
  · rintro ⟨⟨names, e⟩, hm, hp⟩
    obtain ⟨hne, hg, hnames⟩ := of_mem_walk hin hm
    obtain ⟨⟨l, rfl, hl⟩, rfl⟩ := (file?_eq_some_iff hroot hne hnames).1 hp
    exact ⟨names, ⟨l, hg, hl⟩, rfl⟩
  · rintro ⟨names, hfile, rfl⟩
    have hne := hfile.ne_nil
    have hnames := hfile.isName hin
    obtain ⟨l, hg, hl⟩ := hfile
    refine ⟨(names, .leaf l), (Tree.mem_walk_iff hin.distinct).2 ⟨hne, hg⟩, ?_⟩
    exact (file?_eq_some_iff hroot hne hnames).2 ⟨⟨l, rfl, hl⟩, rfl⟩

/-- No two paths of a walk compare as equal. -/
theorem pairwise_filterMap_file? (hin : inside.WellFormed) (hroot : root.bytes ≠ []) :
    (inside.walk.filterMap (file? ws root)).Pairwise (fun p q => Path.order p q ≠ .eq) := by
  have hnodup := List.pairwise_map.1 (Tree.nodup_walk hin.distinct)
  refine List.pairwise_filterMap.2 (hnodup.imp_of_mem ?_)
  rintro ⟨names, e⟩ ⟨names', e'⟩ hm hm' hne p hp q hq
  obtain ⟨hn, -, hnames⟩ := of_mem_walk hin hm
  obtain ⟨hn', -, hnames'⟩ := of_mem_walk hin hm'
  obtain ⟨-, rfl⟩ := (file?_eq_some_iff hroot hn hnames).1 hp
  obtain ⟨-, rfl⟩ := (file?_eq_some_iff hroot hn' hnames').1 hq
  rw [← below_eq_spelled hroot hn hnames, ← below_eq_spelled hroot hn' hnames']
  exact fun heq => hne (below_injective root hnames hnames' heq)

theorem unlisted?_eq_some_iff (hroot : root.bytes ≠ []) {names : List Name} {e : Entry} {p : Path}
    (hne : names ≠ []) (hnames : ∀ n ∈ names, IsName n) :
    unlisted? root (names, e) = some p ↔
      (∃ sub, e = .dir sub) ∧ Workspace.pathLimit < (spelled root names).bytes.length ∧
        p = spelled root names := by
  have hb := below_eq_spelled hroot hne hnames
  cases e with
  | leaf l => simp [unlisted?]
  | dir sub =>
    simp only [unlisted?, hb]
    split
    · next h => simp [h, eq_comm]
    · next h => simp [h]

theorem findSome?_unlisted?_eq_none_iff (hin : inside.WellFormed) (hroot : root.bytes ≠ []) :
    inside.walk.findSome? (unlisted? root) = none ↔ Readable root inside := by
  rw [List.findSome?_eq_none_iff]
  constructor
  · intro h names sub hne hg
    have hnone := h (names, .dir sub) ((Tree.mem_walk_iff hin.distinct).2 ⟨hne, hg⟩)
    by_contra hlong
    have hsome := (unlisted?_eq_some_iff (e := .dir sub) hroot hne (hin.names hg)).2
      ⟨⟨sub, rfl⟩, Nat.lt_of_not_le hlong, rfl⟩
    rw [hnone] at hsome
    cases hsome
  · rintro h ⟨names, e⟩ hm
    obtain ⟨hne, hg, hnames⟩ := of_mem_walk hin hm
    rw [Option.eq_none_iff_forall_ne_some]
    intro p hp
    obtain ⟨⟨sub, rfl⟩, hlong, -⟩ := (unlisted?_eq_some_iff hroot hne hnames).1 hp
    exact absurd (h names sub hne hg) (Nat.not_le_of_lt hlong)

/-- The error of a walk from a root that came to a directory it cannot read. -/
def unreadable (root : Path) (names : List Name) : DiscoveryError :=
  walkError root (spelled root names) .nameTooLong

/-- A walk from a directory ends at a directory that cannot be read, or gives every file once. -/
theorem files_of_dir {place : List Name} (hin : inside.WellFormed)
    (hr : ws.resolve root = .ok ⟨place, .dir inside⟩) :
    (¬ Readable root inside ∧ ∃ names, files ws root = .error (unreadable root names)) ∨
      Readable root inside ∧ ∃ paths, files ws root = .ok paths ∧
        paths.Pairwise (fun p q => Path.order p q ≠ .eq) ∧
        ∀ p, p ∈ paths ↔ ∃ names, IsFile ws root inside names ∧ p = spelled root names := by
  have hroot := Workspace.bytes_ne_nil_of_resolve hr
  have hnone := findSome?_unlisted?_eq_none_iff hin hroot
  simp only [files, hr]
  cases hf : inside.walk.findSome? (unlisted? root) with
  | some p =>
    refine .inl ⟨fun hread => ?_, ?_⟩
    · rw [hnone.2 hread] at hf
      cases hf
    · obtain ⟨⟨names, e⟩, hm, hp⟩ := List.exists_of_findSome?_eq_some hf
      obtain ⟨hne, -, hnames⟩ := of_mem_walk hin hm
      obtain ⟨-, -, rfl⟩ := (unlisted?_eq_some_iff hroot hne hnames).1 hp
      exact ⟨names, rfl⟩
  | none =>
    exact .inr ⟨hnone.1 hf, _, rfl, pairwise_filterMap_file? hin hroot,
      fun p => mem_filterMap_file?_iff hin hroot⟩

/-! ## The search -/

theorem discover_eq (ws : Workspace) (root : Path) (extensions : ExtensionSet) :
    discover ws root extensions =
      match files ws root with
      | .error fault => .error fault
      | .ok paths => Sources.collect paths extensions := by
  rw [discover, search]
  cases files ws root with
  | error fault => rfl
  | ok paths =>
    dsimp only [Sources.collect]
    generalize Sources.survey paths extensions = result
    obtain ⟨sources, _ | fault⟩ := result <;> rfl

theorem discover_of_unresolved {fault : Fault} (h : ws.resolve root = .error fault)
    (extensions : ExtensionSet) : discover ws root extensions = .error (walkError root root fault) := by
  rw [discover_eq, files, h]

theorem admits_spelled_iff (extensions : ExtensionSet) (hroot : root.bytes ≠ []) {names : List Name}
    {name : Name} (h : ∀ n ∈ names ++ [name], IsName n) :
    extensions.admits (spelled root (names ++ [name])) = true ↔
      ∃ ending ∈ extensions.toList, endsWith (Utf8.decodeLossy name) ending = true := by
  rw [← below_eq_spelled hroot (by simp) h, ExtensionSet.admits, fileName?_below root h]
  exact List.any_eq_true

/-- The files whose path a set of endings admits are the sources. -/
theorem isSource_iff (hin : inside.WellFormed) (hroot : root.bytes ≠ []) (extensions : ExtensionSet)
    {p : Path} :
    IsSource ws root inside extensions p ↔
      (∃ names, IsFile ws root inside names ∧ p = spelled root names) ∧ extensions.admits p = true := by
  constructor
  · rintro ⟨names, name, hfile, rfl, hend⟩
    exact ⟨⟨_, hfile, rfl⟩, (admits_spelled_iff extensions hroot (hfile.isName hin)).2 hend⟩
  · rintro ⟨⟨names, hfile, rfl⟩, hadm⟩
    obtain ⟨front, last, rfl⟩ : ∃ front last, names = front ++ [last] :=
      ⟨_, _, (List.dropLast_concat_getLast hfile.ne_nil).symm⟩
    exact ⟨front, last, hfile, rfl, (admits_spelled_iff extensions hroot (hfile.isName hin)).1 hadm⟩

/-! ## Any root -/

/-- The root leads to a directory, and the path is that of a source below it. -/
def Matches (ws : Workspace) (root : Path) (extensions : ExtensionSet) (p : Path) : Prop :=
  ∃ place inside, ws.resolve root = .ok ⟨place, .dir inside⟩ ∧ IsSource ws root inside extensions p

/-- Every directory below the root can be read, if the root leads to a directory at all. -/
def ReadableBelow (ws : Workspace) (root : Path) : Prop :=
  ∀ place inside, ws.resolve root = .ok ⟨place, .dir inside⟩ → Readable root inside

theorem Matches.resolves {extensions : ExtensionSet} {p : Path} (h : Matches ws root extensions p) :
    ∃ place, ws.resolve root = .ok place := by
  obtain ⟨place, inside, hr, -⟩ := h
  exact ⟨_, hr⟩

theorem matches_iff {place : List Name} (hr : ws.resolve root = .ok ⟨place, .dir inside⟩)
    (extensions : ExtensionSet) (p : Path) :
    Matches ws root extensions p ↔ IsSource ws root inside extensions p := by
  constructor
  · rintro ⟨place', inside', hr', hp⟩
    rw [hr] at hr'
    cases hr'
    exact hp
  · exact fun hp => ⟨place, inside, hr, hp⟩

theorem readableBelow_iff {place : List Name} (hr : ws.resolve root = .ok ⟨place, .dir inside⟩) :
    ReadableBelow ws root ↔ Readable root inside := by
  constructor
  · exact fun h => h place inside hr
  · intro h place' inside' hr'
    rw [hr] at hr'
    cases hr'
    exact h

/-- How a search ends. -/
inductive Ending (ws : Workspace) (root : Path) (extensions : ExtensionSet) :
    Except DiscoveryError PathSet → Prop
  /-- The root leads nowhere. -/
  | unresolved (fault : Fault) (h : ws.resolve root = .error fault) :
      Ending ws root extensions (.error (walkError root root fault))
  /-- A directory could not be read. -/
  | unreadable (names : List Name) (h : ¬ ReadableBelow ws root) :
      Ending ws root extensions (.error (unreadable root names))
  /-- A source has a path that is not text. -/
  | undecodable (p : Path) (hread : ReadableBelow ws root) (hp : Matches ws root extensions p)
      (htext : p.isText = false) : Ending ws root extensions (.error (.undecodable p.display))
  /-- Exactly the sources were found. -/
  | found (sources : PathSet) (place : Place) (hroot : ws.resolve root = .ok place)
      (hread : ReadableBelow ws root) (htext : ∀ p, Matches ws root extensions p → p.isText = true)
      (hmem : ∀ p, p ∈ sources.toList ↔ Matches ws root extensions p) :
      Ending ws root extensions (.ok sources)

theorem discover_ending_dir {place : List Name} (hin : inside.WellFormed)
    (hr : ws.resolve root = .ok ⟨place, .dir inside⟩) (extensions : ExtensionSet) :
    Ending ws root extensions (discover ws root extensions) := by
  have hroot := Workspace.bytes_ne_nil_of_resolve hr
  rw [discover_eq]
  rcases files_of_dir hin hr with ⟨hread, names, hf⟩ | ⟨hread, paths, hf, hapart, hmem⟩
  · rw [hf]
    exact .unreadable names (fun h => hread ((readableBelow_iff hr).1 h))
  · have hread := (readableBelow_iff hr).2 hread
    have hsource : ∀ p, p ∈ paths.filter extensions.admits ↔ Matches ws root extensions p := by
      intro p
      rw [List.mem_filter, hmem, matches_iff hr, isSource_iff hin hroot]
    have hapart' := hapart.filter extensions.admits
    rw [hf]
    dsimp only
    rw [Sources.collect_eq]
    rcases Sources.gather_of_apart (fun q _ => SortedSet.contains_empty q) hapart' with
      ⟨htext, hg⟩ | ⟨p, hp, htext, hg⟩
    · rw [hg]
      refine .found _ _ hr hread (fun p hp => htext p ((hsource p).2 hp)) (fun p => ?_)
      rw [Sources.mem_ofList_iff hapart', hsource]
    · rw [hg]
      exact .undecodable p hread ((hsource p).1 hp) htext

/-- A search of a well-formed tree ends in one of these ways. -/
theorem discover_ending (hwf : ws.tree.WellFormed) (root : Path) (extensions : ExtensionSet) :
    Ending ws root extensions (discover ws root extensions) := by
  rcases hr : ws.resolve root with fault | ⟨place, l | inside⟩
  · rw [discover_of_unresolved hr]
    exact .unresolved fault hr
  · -- a root that is a file has nothing below it
    have hno : ∀ p, ¬ Matches ws root extensions p := by
      rintro p ⟨_, _, hdir, -⟩
      rw [hr] at hdir
      cases hdir
    have hread : ReadableBelow ws root := by
      intro _ _ hdir
      rw [hr] at hdir
      cases hdir
    rw [discover_eq, files, hr]
    refine .found .empty _ hr hread (fun p hp => absurd hp (hno p)) (fun p => ?_)
    simp [hno p]
  · exact discover_ending_dir (hwf.get? (Workspace.get?_of_resolve hr)) hr extensions

/-! ## Which way a search ends -/

variable {extensions : ExtensionSet}

theorem discover_walk_iff (hwf : ws.tree.WellFormed) :
    (∃ r detail, discover ws root extensions = .error (.walk r detail)) ↔
      (∃ fault, ws.resolve root = .error fault) ∨ ¬ ReadableBelow ws root := by
  have hending := discover_ending hwf root extensions
  generalize discover ws root extensions = result at hending
  cases hending with
  | unresolved fault h => exact ⟨fun _ => .inl ⟨fault, h⟩, fun _ => ⟨_, _, rfl⟩⟩
  | unreadable names h => exact ⟨fun _ => .inr h, fun _ => ⟨_, _, rfl⟩⟩
  | undecodable p hread hp htext =>
    obtain ⟨place, hr⟩ := hp.resolves
    simp [hr, hread]
  | found sources place hr hread htext hmem => simp [hr, hread]

/-- A path is never found twice. -/
theorem discover_ne_duplicate (hwf : ws.tree.WellFormed) (p : Path) :
    discover ws root extensions ≠ .error (.duplicate p) := by
  have hending := discover_ending hwf root extensions
  generalize discover ws root extensions = result at hending
  intro hdup
  rw [hdup] at hending
  cases hending

theorem discover_undecodable_iff (hwf : ws.tree.WellFormed) :
    (∃ text, discover ws root extensions = .error (.undecodable text)) ↔
      ReadableBelow ws root ∧ ∃ p, Matches ws root extensions p ∧ p.isText = false := by
  have hending := discover_ending hwf root extensions
  generalize discover ws root extensions = result at hending
  cases hending with
  | unresolved fault h =>
    have hno : ∀ p, ¬ Matches ws root extensions p := by
      intro p hp
      obtain ⟨place, hr⟩ := hp.resolves
      rw [h] at hr
      cases hr
    simp [walkError, hno]
  | unreadable names h => simp [unreadable, walkError, h]
  | undecodable p hread hp htext => exact ⟨fun _ => ⟨hread, p, hp, htext⟩, fun _ => ⟨_, rfl⟩⟩
  | found sources place hr hread htext hmem =>
    simp only [reduceCtorEq, exists_false, false_iff]
    rintro ⟨-, p, hp, hno⟩
    rw [htext p hp] at hno
    cases hno

theorem discover_ok_iff (hwf : ws.tree.WellFormed) :
    (∃ sources, discover ws root extensions = .ok sources) ↔
      (∃ place, ws.resolve root = .ok place) ∧ ReadableBelow ws root ∧
        ∀ p, Matches ws root extensions p → p.isText = true := by
  have hending := discover_ending hwf root extensions
  generalize discover ws root extensions = result at hending
  cases hending with
  | unresolved fault h => simp [h]
  | unreadable names h => simp [h]
  | undecodable p hread hp htext =>
    simp only [reduceCtorEq, exists_false, false_iff]
    rintro ⟨-, -, hall⟩
    rw [hall p hp] at htext
    cases htext
  | found sources place hr hread htext hmem => exact ⟨fun _ => ⟨⟨_, hr⟩, hread, htext⟩, fun _ => ⟨_, rfl⟩⟩

theorem mem_discover_iff (hwf : ws.tree.WellFormed) {sources : PathSet}
    (h : discover ws root extensions = .ok sources) (p : Path) :
    p ∈ sources.toList ↔ Matches ws root extensions p := by
  have hending := discover_ending hwf root extensions
  rw [h] at hending
  cases hending with
  | found _ place hr hread htext hmem => exact hmem p

end Configurator.Discovery
