/-
Directory trees. A tree is the contents of a directory, entry by entry, in the order in which the
directory lists them: files, symbolic links, and directories with contents of their own. An entry
below a tree is named by the list of names that leads to it, links not followed. Main statement:
where names do not repeat, a walk comes past exactly the entries that can be looked up.
-/
import Configurator.Utf8

namespace Configurator

/-- The name of an entry. -/
abbrev Name := Bytes

/-- An entry without contents of its own. -/
inductive Leaf where
  | file (body : Bytes) (executable : Bool)
  | link (target : Bytes)
  deriving DecidableEq, Repr

/-- The contents of a directory. -/
inductive Tree where
  | empty
  | leaf (name : Name) (leaf : Leaf) (rest : Tree)
  | dir (name : Name) (inside rest : Tree)
  deriving DecidableEq, Repr, Inhabited

/-- What stands under a name. -/
inductive Entry where
  | leaf (leaf : Leaf)
  | dir (inside : Tree)
  deriving DecidableEq, Repr

namespace Tree

/-! ## Looking up -/

/-- The entry of a directory with a name. -/
def find? (name : Name) : Tree → Option Entry
  | empty => none
  | leaf n l rest => if n = name then some (.leaf l) else find? name rest
  | dir n inside rest => if n = name then some (.dir inside) else find? name rest

/-- The entry that a list of names leads to; no name leads to the directory itself. -/
def get? : List Name → Tree → Option Entry
  | [], t => some (.dir t)
  | name :: names, t =>
    match t.find? name with
    | some (.dir inside) => get? names inside
    | some (.leaf l) => if names = [] then some (.leaf l) else none
    | none => none

/-- Every entry below the directory with the names that lead to it, each directory before its
contents. -/
def walk : Tree → List (List Name × Entry)
  | empty => []
  | leaf n l rest => ([n], .leaf l) :: walk rest
  | dir n inside rest =>
    ([n], .dir inside) :: (walk inside).map (fun (names, e) => (n :: names, e)) ++ walk rest

/-- The names of a directory's own entries. -/
def names : Tree → List Name
  | empty => []
  | leaf n _ rest => n :: names rest
  | dir n _ rest => n :: names rest

/-- Whether no directory of the tree has two entries of one name. -/
def Distinct : Tree → Prop
  | empty => True
  | leaf n _ rest => n ∉ names rest ∧ Distinct rest
  | dir n inside rest => n ∉ names rest ∧ Distinct inside ∧ Distinct rest

/-! ## Changing -/

/-- Puts an entry under a name, in the place of one with that name or else last. -/
def put (name : Name) (e : Entry) : Tree → Tree
  | empty =>
    match e with
    | .leaf l => leaf name l empty
    | .dir inside => dir name inside empty
  | leaf n l rest =>
    if n = name then
      match e with
      | .leaf l => leaf name l rest
      | .dir inside => dir name inside rest
    else leaf n l (put name e rest)
  | dir n inside rest =>
    if n = name then
      match e with
      | .leaf l => leaf name l rest
      | .dir inside => dir name inside rest
    else dir n inside (put name e rest)

/-- Takes the entry with a name away. -/
def erase (name : Name) : Tree → Tree
  | empty => empty
  | leaf n l rest => if n = name then rest else leaf n l (erase name rest)
  | dir n inside rest => if n = name then rest else dir n inside (erase name rest)

/-- Changes the contents of the directory with a name. -/
def modify (name : Name) (f : Tree → Tree) : Tree → Tree
  | empty => empty
  | leaf n l rest => leaf n l (modify name f rest)
  | dir n inside rest => if n = name then dir n (f inside) rest else dir n inside (modify name f rest)

/-- Changes the contents of the directory that a list of names leads to. -/
def modifyAt : List Name → (Tree → Tree) → Tree → Tree
  | [], f => f
  | name :: names, f => modify name (modifyAt names f)

/-! ## Lookup and walk -/

theorem head_mem_names_of_mem_walk {t : Tree} {name : Name} {rest : List Name} {e : Entry}
    (h : (name :: rest, e) ∈ t.walk) : name ∈ t.names := by
  induction t with
  | empty => simp [walk] at h
  | leaf n l tail ih =>
    simp only [walk, List.mem_cons, Prod.mk.injEq, List.cons.injEq] at h
    rcases h with ⟨⟨rfl, -⟩, -⟩ | h
    · simp [names]
    · simp [names, ih h]
  | dir n inside tail _ ih =>
    simp only [walk, List.cons_append, List.mem_cons, List.mem_append, List.mem_map,
      Prod.mk.injEq, List.cons.injEq] at h
    rcases h with ⟨⟨rfl, -⟩, -⟩ | ⟨_, _, ⟨rfl, -⟩, -⟩ | h
    · simp [names]
    · simp [names]
    · simp [names, ih h]

theorem nil_not_mem_walk (t : Tree) (e : Entry) : ([], e) ∉ t.walk := by
  induction t with
  | empty => simp [walk]
  | leaf n l tail ih => simp [walk, ih]
  | dir n inside tail _ ih => simp [walk, ih]

/-- A walk comes past exactly the entries below the directory that can be looked up by their
names. -/
theorem mem_walk_iff {t : Tree} (h : t.Distinct) {path : List Name} {e : Entry} :
    (path, e) ∈ t.walk ↔ path ≠ [] ∧ t.get? path = some e := by
  cases path with
  | nil => simp [nil_not_mem_walk]
  | cons name rest =>
    simp only [ne_eq, List.cons_ne_nil, not_false_eq_true, true_and]
    induction t generalizing name rest with
    | empty => simp [walk, get?, find?]
    | leaf n l tail ih =>
      obtain ⟨hn, ht⟩ := h
      by_cases hname : n = name
      · subst hname
        -- the name occurs once, so the entries behind it have nothing to add
        have hno : (n :: rest, e) ∉ tail.walk := fun hm => hn (head_mem_names_of_mem_walk hm)
        cases rest <;> simp [walk, get?, find?, hno, eq_comm]
      · simp [walk, get?, find?, hname, Ne.symm hname, ih ht name rest]
    | dir n inside tail ihin ihtail =>
      obtain ⟨hn, hin, ht⟩ := h
      by_cases hname : n = name
      · subst hname
        have hno : (n :: rest, e) ∉ tail.walk := fun hm => hn (head_mem_names_of_mem_walk hm)
        cases rest with
        | nil => simp [walk, get?, find?, hno, nil_not_mem_walk, eq_comm]
        | cons m more =>
          have := ihin hin m more
          simp_all [walk, get?, find?]
      · have := ihtail ht name rest
        simp_all [walk, get?, find?, Ne.symm hname]

end Tree

end Configurator
