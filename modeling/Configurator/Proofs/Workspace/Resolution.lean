/-
What resolving a path gives. A place that a path leads to stands in the tree under the names that were
found, so a directory below a well-formed tree is well-formed. A path that is short enough leads to the
same place with any number of `./` in front. Main statement: the order in which directories list their
entries plays no part in where a path leads.
-/
import Configurator.Proofs.Tree.Contents
import Configurator.Workspace

namespace Configurator

namespace Tree

/-! ## Places are real -/

section Places

variable {tree : Tree} {jump : List Name → List Bytes → Except Fault Place}

theorem get?_of_stepsWith
    (hjump : ∀ names parts place, jump names parts = .ok place →
      tree.get? place.names = some place.entry)
    {names : List Name} {parts : List Bytes} {place : Place}
    (h : tree.stepsWith jump names parts = .ok place) : tree.get? place.names = some place.entry := by
  induction parts generalizing names with
  | nil =>
    simp only [stepsWith] at h
    split at h
    · next entry hg =>
      cases h
      exact hg
    · cases h
  | cons part rest ih =>
    simp only [stepsWith] at h
    split at h
    · cases h
    · cases h
    · split at h
      · exact ih h
      · split at h
        · exact ih h
        · split at h
          · cases h
          · split at h
            · cases h
            · exact hjump _ _ _ h
            · exact ih h

end Places

theorem get?_of_steps {tree : Tree} {budget : Nat} {names : List Name} {parts : List Bytes}
    {place : Place} (h : tree.steps budget names parts = .ok place) :
    tree.get? place.names = some place.entry := by
  -- each link that is followed takes one from the budget
  induction budget generalizing names parts place with
  | zero => exact get?_of_stepsWith (fun _ _ _ hj => by cases hj) h
  | succ budget ih => exact get?_of_stepsWith (fun _ _ _ hj => ih hj) h

/-! ## The order of entries -/

/-- The answer of a resolution without what stands at the place. -/
def whereabouts (r : Except Fault Place) : Except Fault (List Name) := r.map Place.names

theorem whereabouts_stepsWith {t t' : Tree} (h : SameContents t t')
    {jump jump' : List Name → List Bytes → Except Fault Place}
    (hjump : ∀ names parts, whereabouts (jump names parts) = whereabouts (jump' names parts))
    (names : List Name) (parts : List Bytes) :
    whereabouts (t.stepsWith jump names parts) = whereabouts (t'.stepsWith jump' names parts) := by
  induction parts generalizing names with
  | nil =>
    simp only [stepsWith]
    rcases h.get?_cases names with ⟨hg, hg'⟩ | ⟨l, hg, hg'⟩ | ⟨_, _, hg, hg'⟩ <;>
      simp [hg, hg', whereabouts, Except.map]
  | cons part rest ih =>
    simp only [stepsWith]
    rcases h.get?_cases names with ⟨hg, hg'⟩ | ⟨l, hg, hg'⟩ | ⟨inside, _, hg, -⟩
    · rw [hg, hg']
    · rw [hg, hg']
    · obtain ⟨inside', hg', hin⟩ := h.dir hg
      rw [hg, hg']
      dsimp only
      split
      · exact ih _
      · split
        · exact ih _
        · split
          · rfl
          · -- both directories have the same kind of entry under the name
            have hpart := hin.get?_cases [part]
            simp only [get?_singleton] at hpart
            rcases hpart with ⟨hf, hf'⟩ | ⟨l, hf, hf'⟩ | ⟨_, _, hf, hf'⟩
            · rw [hf, hf']
            · rw [hf, hf']
              cases l with
              | file body executable => exact ih _
              | link target => exact hjump _ _
            · rw [hf, hf']
              exact ih _

theorem whereabouts_steps {t t' : Tree} (h : SameContents t t') (budget : Nat) (names : List Name)
    (parts : List Bytes) :
    whereabouts (t.steps budget names parts) = whereabouts (t'.steps budget names parts) := by
  induction budget generalizing names parts with
  | zero => exact whereabouts_stepsWith h (fun _ _ => rfl) names parts
  | succ budget ih => exact whereabouts_stepsWith h ih names parts

end Tree

namespace Workspace

/-! ## Whole paths -/

/-- Where a path leads, there stands what it leads to. -/
theorem get?_of_resolve {ws : Workspace} {path : Path} {place : Place}
    (h : ws.resolve path = .ok place) : ws.tree.get? place.names = some place.entry := by
  simp only [resolve, follow] at h
  split at h
  · cases h
  · split at h
    · cases h
    · split at h
      · cases h
      · exact Tree.get?_of_steps h

theorem bytes_ne_nil_of_resolve {ws : Workspace} {path : Path} {place : Place}
    (h : ws.resolve path = .ok place) : path.bytes ≠ [] := by
  rintro hnil
  simp [resolve, follow, hnil] at h

/-- The same contents seen from the same directory, entries in whatever order. -/
structure SameContents (ws ws' : Workspace) : Prop where
  tree : Tree.SameContents ws.tree ws'.tree
  here : ws.here = ws'.here

theorem SameContents.whereabouts {ws ws' : Workspace} (h : SameContents ws ws') (path : Path) :
    Tree.whereabouts (ws.resolve path) = Tree.whereabouts (ws'.resolve path) := by
  simp only [resolve, follow, start, h.here]
  split
  · rfl
  · split
    · rfl
    · split
      · rfl
      · exact Tree.whereabouts_steps h.tree _ _ _

theorem SameContents.symm {ws ws' : Workspace} (h : SameContents ws ws') : SameContents ws' ws :=
  ⟨h.tree.symm, h.here.symm⟩

theorem SameContents.resolve_ok {ws ws' : Workspace} (h : SameContents ws ws') {path : Path}
    {place : Place} (hr : ws.resolve path = .ok place) :
    ∃ place', ws'.resolve path = .ok place' ∧ place'.names = place.names := by
  have hw := h.whereabouts path
  rw [hr] at hw
  cases hr' : ws'.resolve path with
  | error fault' =>
    rw [hr'] at hw
    cases hw
  | ok place' =>
    rw [hr'] at hw
    exact ⟨place', rfl, (Except.ok.inj hw).symm⟩

/-- A path that leads to a directory leads to one with the same contents in any order of the
entries. -/
theorem SameContents.resolve_dir {ws ws' : Workspace} (h : SameContents ws ws') {path : Path}
    {names : List Name} {inside : Tree} (hr : ws.resolve path = .ok ⟨names, .dir inside⟩) :
    ∃ inside', ws'.resolve path = .ok ⟨names, .dir inside'⟩ ∧ Tree.SameContents inside inside' := by
  obtain ⟨⟨names', e⟩, hr', rfl⟩ := h.resolve_ok hr
  obtain ⟨inside', hg, hin⟩ := h.tree.dir (get?_of_resolve hr)
  rw [get?_of_resolve hr'] at hg
  cases hg
  exact ⟨inside', hr', hin⟩

theorem isDirectory_iff {ws : Workspace} {path : Path} :
    ws.isDirectory path = true ↔ ∃ names inside, ws.resolve path = .ok ⟨names, .dir inside⟩ := by
  unfold isDirectory
  split
  · next names inside hr => simp [hr]
  · next hr =>
    simp only [Bool.false_eq_true, false_iff]
    rintro ⟨names, inside, h⟩
    exact hr names inside h

theorem SameContents.isDirectory {ws ws' : Workspace} (h : SameContents ws ws') (path : Path) :
    ws.isDirectory path = ws'.isDirectory path := by
  have one : ∀ {v v' : Workspace}, SameContents v v' → v.isDirectory path = true →
      v'.isDirectory path = true := by
    intro v v' hv hd
    obtain ⟨names, inside, hr⟩ := isDirectory_iff.1 hd
    obtain ⟨inside', hr', -⟩ := hv.resolve_dir hr
    exact isDirectory_iff.2 ⟨names, inside', hr'⟩
  rw [Bool.eq_iff_iff]
  exact ⟨one h, one h.symm⟩

/-! ## Spellings of one path -/

/-- The path with `./` written in front of it a number of times. -/
def dotted (n : Nat) (p : Path) : Path := ⟨(List.replicate n [dot, slash]).flatten ++ p.bytes⟩

theorem dotted_succ (n : Nat) (p : Path) : dotted (n + 1) p = ⟨dot :: slash :: (dotted n p).bytes⟩ := by
  simp [dotted, List.replicate_succ]

theorem length_dotted (n : Nat) (p : Path) : (dotted n p).bytes.length = 2 * n + p.bytes.length := by
  induction n with
  | zero => simp [dotted]
  | succ n ih =>
    rw [dotted_succ]
    simp only [List.length_cons, ih]
    omega

theorem steps_dot {tree inside : Tree} {names : List Name} (h : tree.get? names = some (.dir inside))
    (budget : Nat) (rest : List Bytes) :
    tree.steps budget names ([dot] :: rest) = tree.steps budget names rest := by
  cases budget <;> simp [Tree.steps, Tree.stepsWith, h]

/-- Writing `./` in front of a relative path does not change where it leads. -/
theorem follow_dot_slash {ws : Workspace} {inside : Tree}
    (hhere : ws.tree.get? ws.here = some (.dir inside)) {p : Path} (hp : p.isAbsolute = false)
    (hne : p.bytes ≠ []) : ws.follow ⟨dot :: slash :: p.bytes⟩ = ws.follow p := by
  have hparts : Tree.parts (dot :: slash :: p.bytes) = [dot] :: Tree.parts p.bytes := rfl
  have hstart : ws.start ⟨dot :: slash :: p.bytes⟩ = ws.here := rfl
  have hstart' : ws.start p = ws.here := by rw [start, hp]; rfl
  have hnul : (dot :: slash :: p.bytes).contains 0 = p.bytes.contains 0 := rfl
  simp only [follow, hparts, hstart, hstart', hnul, hne, reduceCtorEq, if_false, steps_dot hhere]

theorem follow_dotted {ws : Workspace} {inside : Tree}
    (hhere : ws.tree.get? ws.here = some (.dir inside)) {p : Path} (hp : p.isAbsolute = false)
    (hne : p.bytes ≠ []) (n : Nat) : ws.follow (dotted n p) = ws.follow p := by
  induction n with
  | zero => rfl
  | succ n ih =>
    have hrelative : (dotted n p).isAbsolute = false := by
      cases n with
      | zero => exact hp
      | succ n => rw [dotted_succ]; rfl
    have hfull : (dotted n p).bytes ≠ [] := by simp [dotted, hne]
    rw [dotted_succ, follow_dot_slash hhere hrelative hfull, ih]

/-- However often `./` is written in front of a relative path, it leads to the same place, as long as the
system takes the path. -/
theorem resolve_dotted {ws : Workspace} {inside : Tree}
    (hhere : ws.tree.get? ws.here = some (.dir inside)) {p : Path} {place : Place}
    (hp : p.isAbsolute = false) (h : ws.resolve p = .ok place) {n : Nat}
    (hlength : (dotted n p).bytes.length ≤ pathLimit) : ws.resolve (dotted n p) = .ok place := by
  have hfollow : ws.follow p = .ok place := by
    simp only [resolve] at h
    split at h
    · cases h
    · split at h
      · cases h
      · exact h
  have hfollow' := (follow_dotted hhere hp (bytes_ne_nil_of_resolve h) n).trans hfollow
  have hnul : (dotted n p).bytes.contains 0 = false := by
    rw [follow] at hfollow'
    split at hfollow'
    · cases hfollow'
    · next hno => simpa using hno
  rw [resolve, hnul, if_neg (by simp), if_neg (Nat.not_lt.2 hlength), hfollow']

end Workspace

end Configurator
