/-
Making a directory. Where the working directory has no entry of a name, a new directory of that name is
made; where the name leads to a directory, links followed, nothing is done; else making it fails. Main
statement: when a directory is made, it is empty and the tree is the same besides.
-/
import Configurator.Proofs.Workspace.Resolution

namespace Configurator

namespace Tree

/-! ## One changed entry -/

theorem find?_put (name : Name) (e : Entry) (t : Tree) (n : Name) :
    (t.put name e).find? n = if name = n then some e else t.find? n := by
  induction t with
  | empty => cases e <;> rfl
  | leaf m l rest ih =>
    simp only [put]
    split
    · next hm =>
      subst hm
      cases e <;> simp only [find?] <;> split <;> rfl
    · next hm =>
      simp only [find?, ih]
      by_cases hn : m = n
      · subst hn
        rw [if_pos rfl, if_neg (Ne.symm hm)]
        simp
      · simp only [if_neg hn]
  | dir m inside rest _ ih =>
    simp only [put]
    split
    · next hm =>
      subst hm
      cases e <;> simp only [find?] <;> split <;> rfl
    · next hm =>
      simp only [find?, ih]
      by_cases hn : m = n
      · subst hn
        rw [if_pos rfl, if_neg (Ne.symm hm)]
        simp
      · simp only [if_neg hn]

theorem find?_modify {name : Name} {t inside : Tree} (h : t.find? name = some (.dir inside))
    (f : Tree → Tree) (n : Name) :
    (t.modify name f).find? n = if name = n then some (.dir (f inside)) else t.find? n := by
  induction t with
  | empty => cases h
  | leaf m l rest ih =>
    simp only [find?] at h
    split at h
    · cases h
    · next hm =>
      simp only [modify, find?, ih h]
      by_cases hn : m = n
      · subst hn
        simp only [if_pos, if_neg (Ne.symm hm)]
      · simp only [if_neg hn]
  | dir m i rest _ ih =>
    simp only [find?] at h
    simp only [modify]
    split at h
    · next hm =>
      cases h
      simp only [hm, if_true, find?]
      split <;> rfl
    · next hm =>
      simp only [if_neg hm, find?, ih h]
      by_cases hn : m = n
      · subst hn
        simp only [if_pos, if_neg (Ne.symm hm)]
      · simp only [if_neg hn]

/-! ## One changed directory -/

theorem find?_of_get?_cons {t inside : Tree} {name : Name} {names : List Name}
    (h : t.get? (name :: names) = some (.dir inside)) :
    ∃ i, t.find? name = some (.dir i) ∧ i.get? names = some (.dir inside) := by
  simp only [get?] at h
  split at h
  · next i hf => exact ⟨i, hf, h⟩
  · split at h <;> cases h
  · cases h

theorem get?_modifyAt_append {t inside : Tree} {names : List Name} (h : t.get? names = some (.dir inside))
    (f : Tree → Tree) (more : List Name) :
    (t.modifyAt names f).get? (names ++ more) = (f inside).get? more := by
  induction names generalizing t with
  | nil =>
    cases h
    rfl
  | cons n names ih =>
    obtain ⟨i, hf, hg⟩ := find?_of_get?_cons h
    simp only [modifyAt, List.cons_append, get?, find?_modify hf, if_true]
    exact ih hg

/-- Elsewhere the same files, links and directories stand as before. -/
theorem get?_modifyAt_of_not_prefix {t inside : Tree} {names : List Name}
    (h : t.get? names = some (.dir inside)) (f : Tree → Tree) {path : List Name} (hp : ¬ names <+: path) :
    ((t.modifyAt names f).get? path).map Entry.leaf? = (t.get? path).map Entry.leaf? := by
  induction names generalizing t path with
  | nil => exact absurd List.nil_prefix hp
  | cons n names ih =>
    obtain ⟨i, hf, hg⟩ := find?_of_get?_cons h
    cases path with
    | nil => rfl
    | cons m path =>
      simp only [modifyAt, get?, find?_modify hf]
      by_cases hm : n = m
      · subst hm
        simp only [if_true, hf]
        exact ih hg fun hpath => hp (List.prefix_cons_inj n |>.2 hpath)
      · simp only [if_neg hm]

/-- The second tree has an empty directory where nothing stands in the first one, and is the same
besides. -/
structure OneMore (t t' : Tree) (names : List Name) : Prop where
  vacant : t.get? names = none
  made : t'.get? names = some (.dir .empty)
  others : ∀ path, path ≠ names → (t'.get? path).map Entry.leaf? = (t.get? path).map Entry.leaf?

theorem get?_empty {names : List Name} (h : names ≠ []) : empty.get? names = none := by
  cases names with
  | nil => exact absurd rfl h
  | cons => rfl

/-- Putting an empty directory under a new name adds one directory. -/
theorem oneMore_put {t inside : Tree} {names : List Name} {name : Name}
    (h : t.get? names = some (.dir inside)) (hname : inside.find? name = none) :
    OneMore t (t.modifyAt names (put name (.dir .empty))) (names ++ [name]) where
  vacant := by rw [get?_append h, get?_singleton, hname]
  made := by rw [get?_modifyAt_append h, get?_singleton, find?_put, if_pos rfl]
  others path hpath := by
    by_cases hp : names <+: path
    · obtain ⟨more, rfl⟩ := hp
      rw [get?_modifyAt_append h, get?_append h]
      cases more with
      | nil => rfl
      | cons m more =>
        simp only [get?, find?_put]
        by_cases hm : name = m
        · -- below the new directory there is nothing, as there was below its name
          subst hm
          have hmore : more ≠ [] := by rintro rfl; exact hpath rfl
          simp only [if_true, hname, get?_empty hmore]
        · simp only [if_neg hm]
    · exact get?_modifyAt_of_not_prefix h _ hp

end Tree

namespace Workspace

/-! ## Making a directory unless it is there -/

/-- Nothing in the working directory has the name. -/
def Vacant (ws : Workspace) (name : Name) : Prop :=
  ∃ inside, ws.tree.get? ws.here = some (.dir inside) ∧ inside.find? name = none

/-- The name leads to a directory in the second workspace, for which nothing is done where the name is
taken and leads to one already. -/
inductive Provides (ws : Workspace) (name : Name) : Workspace → Prop
  | present (taken : ¬ ws.Vacant name) (h : ws.isDirectory ⟨name⟩ = true) : Provides ws name ws
  | made (vacant : ws.Vacant name) :
    Provides ws name { ws with tree := ws.tree.modifyAt ws.here (Tree.put name (.dir .empty)) }

theorem makeDirectoryAt_of_vacant {ws : Workspace} {name : Name} (h : ws.Vacant name) :
    ws.makeDirectoryAt ws.here name =
      .ok { ws with tree := ws.tree.modifyAt ws.here (Tree.put name (.dir .empty)) } := by
  obtain ⟨inside, hhere, hname⟩ := h
  simp only [makeDirectoryAt, hhere, hname]

theorem makeDirectoryAt_of_not_vacant {ws : Workspace} {name : Name} (h : ¬ ws.Vacant name) :
    ∃ fault, ws.makeDirectoryAt ws.here name = .error fault := by
  unfold makeDirectoryAt
  split
  · exact ⟨_, rfl⟩
  · exact ⟨_, rfl⟩
  · next inside hhere =>
    split
    · exact ⟨_, rfl⟩
    · next hname => exact absurd ⟨inside, hhere, hname⟩ h

/-- A directory is had exactly as `Provides` says. -/
theorem ensureDirectory_eq_ok_iff {ws made : Workspace} {name : Name} :
    ws.ensureDirectory name = .ok made ↔ ws.Provides name made := by
  unfold ensureDirectory
  by_cases hv : ws.Vacant name
  · rw [makeDirectoryAt_of_vacant hv]
    constructor
    · intro h
      cases h
      exact .made hv
    · rintro (⟨taken, -⟩ | _)
      · exact absurd hv taken
      · rfl
  · obtain ⟨fault, hfault⟩ := makeDirectoryAt_of_not_vacant hv
    rw [hfault]
    dsimp only
    constructor
    · intro h
      split at h
      · next hdir =>
        cases h
        exact .present hv hdir
      · cases h
    · rintro (⟨-, hdir⟩ | vacant)
      · rw [if_pos hdir]
      · exact absurd vacant hv

/-- Only where nothing has the name the tree changes, and then by one directory. -/
theorem Provides.effect {ws made : Workspace} {name : Name} (h : ws.Provides name made) :
    made.here = ws.here ∧
      (ws.isDirectory ⟨name⟩ = true ∧ made.tree = ws.tree ∨
        ws.tree.OneMore made.tree (ws.here ++ [name])) := by
  cases h with
  | present _ hdir => exact ⟨rfl, .inl ⟨hdir, rfl⟩⟩
  | made vacant =>
    obtain ⟨inside, hhere, hname⟩ := vacant
    exact ⟨rfl, .inr (Tree.oneMore_put hhere hname)⟩

theorem Provides.unique {ws made made' : Workspace} {name : Name} (h : ws.Provides name made)
    (h' : ws.Provides name made') : made' = made := by
  have := (ensureDirectory_eq_ok_iff.2 h').symm.trans (ensureDirectory_eq_ok_iff.2 h)
  exact Except.ok.inj this

end Workspace

end Configurator
