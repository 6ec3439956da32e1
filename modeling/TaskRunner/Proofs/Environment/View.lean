import TaskRunner.Environment
import TaskRunner.Proofs.Text.Order

/-! What can be seen in an environment.  The visible variables are those that a look-up finds, each
with the value that it finds, and they are listed in the order of the bytes of their names. -/

namespace TaskRunner

namespace Table

variable {α : Type}

theorem lookup_eq_none_of_lt {name : String} {entries : List (String × α)}
    (h : ∀ entry ∈ entries, name < entry.1) : entries.lookup name = none := by
  refine List.lookup_eq_none_iff.2 fun entry hentry => ?_
  have hne : name ≠ entry.1 := fun heq => String.lt_irrefl _ (heq ▸ h entry hentry)
  simpa using hne

theorem lookup_eq_some_iff {entries : List (String × α)}
    (hsorted : entries.Pairwise fun a b => a.1 < b.1) {name : String} {value : α} :
    entries.lookup name = some value ↔ (name, value) ∈ entries := by
  induction entries with
  | nil => simp
  | cons entry rest ih =>
    obtain ⟨hfirst, hrest⟩ := List.pairwise_cons.1 hsorted
    obtain ⟨first, firstValue⟩ := entry
    rw [List.lookup_cons, List.mem_cons, Prod.mk.injEq, ← ih hrest]
    by_cases heq : name = first
    · subst heq
      simp [lookup_eq_none_of_lt hfirst, eq_comm]
    · simp [heq, beq_eq_false_iff_ne.2 heq]

theorem get?_eq_some_iff {table : Table α} {name : String} {value : α} :
    table.get? name = some value ↔ (name, value) ∈ table.entries :=
  lookup_eq_some_iff table.sorted

theorem get?_foldl_insert {entries : List (String × α)}
    (hsorted : entries.Pairwise fun a b => a.1 < b.1) (table : Table α) (name : String) :
    (entries.foldl (fun t entry => t.insert entry.1 entry.2) table).get? name =
      (entries.lookup name).or (table.get? name) := by
  induction entries generalizing table with
  | nil => rfl
  | cons entry rest ih =>
    obtain ⟨hfirst, hrest⟩ := List.pairwise_cons.1 hsorted
    rw [List.foldl_cons, ih hrest, List.lookup_cons, get?_insert]
    by_cases heq : name = entry.1
    · subst heq
      simp [lookup_eq_none_of_lt hfirst]
    · simp [heq, beq_eq_false_iff_ne.2 heq]

@[simp] theorem get?_overlay (table inner : Table α) (name : String) :
    (table.overlay inner).get? name = (inner.get? name).or (table.get? name) :=
  get?_foldl_insert inner.sorted table name

end Table

namespace Environment

/-- The innermost binding of a name is the visible one. -/
theorem get?_visible (env : Environment) (name : String) :
    env.visible.get? name = env.scopes.findSome? fun scope => scope.values.get? name := by
  rw [visible]
  induction env.scopes with
  | nil => rfl
  | cons scope outer ih =>
    rw [List.foldr_cons, Table.get?_overlay, ih, List.findSome?_cons]
    cases scope.values.get? name <;> rfl

theorem getVariable_eq_ok_iff {env : Environment} {name : String} {value : Value} :
    env.getVariable name = .ok value ↔ env.visible.get? name = some value := by
  rw [get?_visible, getVariable, lookUp]
  cases env.scopes.findSome? fun scope => scope.values.get? name <;> simp

/-- The bindings are those that can be seen: each visible name with its innermost binding, in the
order of the bytes of the names. -/
structure IsView (env : Environment) (bindings : List (String × Value)) : Prop where
  ascending : bindings.Pairwise fun a b => utf8 a.1 < utf8 b.1
  innermost {name : String} {value : Value} :
    (name, value) ∈ bindings ↔ env.getVariable name = .ok value

theorem isView_visible (env : Environment) : env.IsView env.visible.entries where
  ascending := env.visible.sorted.imp utf8_lt
  innermost := (getVariable_eq_ok_iff.trans Table.get?_eq_some_iff).symm

end Environment

/-! ### Definitions that follow one another

Of several definitions of a name the last one counts, and a name without one keeps what it was bound
to. -/

section

variable {α β : Type}

/-- The entry is the last one with its name. -/
def IsLast (name : String) (value : α) (entries : List (String × α)) : Prop :=
  ∃ before after, entries = before ++ (name, value) :: after ∧ name ∉ after.map Prod.fst

theorem IsLast.of_append {name : String} {value : α} {entries more : List (String × α)}
    (h : IsLast name value (entries ++ more)) :
    IsLast name value more ∨ IsLast name value entries ∧ name ∉ more.map Prod.fst := by
  obtain ⟨before, after, hsplit, hafter⟩ := h
  rcases List.append_eq_append_iff.1 hsplit with ⟨middle, -, hmore⟩ | ⟨middle, hentries, hmore⟩
  · exact .inl ⟨middle, after, hmore, hafter⟩
  · cases middle with
    | nil => exact .inl ⟨[], after, hmore.symm, hafter⟩
    | cons entry middle =>
      rw [List.cons_append] at hmore
      obtain ⟨rfl, rfl⟩ := List.cons.inj hmore
      rw [List.map_append, List.mem_append, not_or] at hafter
      exact .inr ⟨⟨before, middle, hentries, hafter.1⟩, hafter.2⟩

theorem IsLast.of_singleton {name other : String} {value found : α}
    (h : IsLast name value [(other, found)]) : name = other ∧ value = found := by
  obtain ⟨before, after, hsplit, -⟩ := h
  cases before with
  | nil =>
    cases hsplit
    exact ⟨rfl, rfl⟩
  | cons entry before =>
    have hlength := congrArg List.length hsplit
    simp at hlength

/-- What the last entry with a name comes from, where something is left out of each entry. -/
theorem IsLast.of_map {name : String} {value : β} {f : α → β} {entries : List (String × α)}
    (h : IsLast name value (entries.map fun entry => (entry.1, f entry.2))) :
    ∃ found, f found = value ∧ IsLast name found entries := by
  obtain ⟨before, after, hsplit, hafter⟩ := h
  obtain ⟨front, back, rfl, -, hback⟩ := List.map_eq_append_iff.1 hsplit
  obtain ⟨entry, rest, rfl, hentry, rfl⟩ := List.map_eq_cons_iff.1 hback
  cases hentry
  rw [List.map_map] at hafter
  exact ⟨entry.2, rfl, front, rest, rfl, hafter⟩

/-- A name with an entry has a last one. -/
theorem exists_isLast {name : String} {entries : List (String × α)}
    (h : name ∈ entries.map Prod.fst) : ∃ value, IsLast name value entries := by
  induction entries with
  | nil => cases h
  | cons entry rest ih =>
    by_cases hrest : name ∈ rest.map Prod.fst
    · obtain ⟨value, before, after, rfl, hafter⟩ := ih hrest
      exact ⟨value, entry :: before, after, rfl, hafter⟩
    · rcases List.mem_cons.1 h with rfl | hmem
      · exact ⟨entry.2, [], rest, rfl, hrest⟩
      · exact absurd hmem hrest

namespace Table

variable {R : β → α → Prop}

/-- After the definitions, a name is bound to what its last definition gives.  A name that is not
defined is bound as before. -/
structure Updates (R : β → α → Prop) (entries : List (String × β)) (table after : Table α) :
    Prop where
  last {name : String} {found : β} : IsLast name found entries →
    ∃ value, R found value ∧ after.get? name = some value
  rest {name : String} : name ∉ entries.map Prod.fst → after.get? name = table.get? name

theorem Updates.refl (R : β → α → Prop) (table : Table α) : Updates R [] table table where
  last h := by
    obtain ⟨before, after, hsplit, -⟩ := h
    cases before <;> cases hsplit
  rest _ := rfl

theorem updates_insert (table : Table α) (name : String) {found : β} {value : α}
    (h : R found value) : Updates R [(name, found)] table (table.insert name value) where
  last hlast := by
    obtain ⟨rfl, rfl⟩ := hlast.of_singleton
    exact ⟨value, h, by rw [get?_insert, if_pos rfl]⟩
  rest hname := by
    rw [List.map_singleton, List.mem_singleton] at hname
    rw [get?_insert, if_neg hname]

theorem Updates.append {entries more : List (String × β)} {table middle after : Table α}
    (h : Updates R entries table middle) (hmore : Updates R more middle after) :
    Updates R (entries ++ more) table after where
  last hlast := by
    rcases hlast.of_append with hlater | ⟨hearlier, hname⟩
    · exact hmore.last hlater
    · rw [hmore.rest hname]
      exact h.last hearlier
  rest hname := by
    rw [List.map_append, List.mem_append, not_or] at hname
    rw [hmore.rest hname.2, h.rest hname.1]

end Table

end

/-! ### Look-ups

They are the same for variables and targets, whose tables stand side by side in every scope. -/

namespace Environment

variable {α : Type} {env other : Environment} {table : Scope → Table α}
  {missing : String → RunError} {name : String}

theorem lookUp_eq_error_iff {error : RunError} :
    env.lookUp table missing name = .error error ↔
      error = missing name ∧ ∀ found, env.lookUp table missing name ≠ .ok found := by
  rw [lookUp]
  cases List.findSome? _ env.scopes <;> simp [eq_comm]

/-- A look-up sees the tables of one kind only. -/
theorem lookUp_congr (h : env.scopes.map table = other.scopes.map table) :
    env.lookUp table missing name = other.lookUp table missing name := by
  have hfind : (env.scopes.findSome? fun scope => (table scope).get? name) =
      other.scopes.findSome? fun scope => (table scope).get? name := by
    have hmapped := congrArg (List.findSome? (·.get? name)) h
    rwa [List.findSome?_map, List.findSome?_map] at hmapped
  rw [lookUp, lookUp, hfind]

theorem lookUp_of_innermost {found : α} (h : (table env.innermost).get? name = some found) :
    env.lookUp table missing name = .ok found := by
  rw [lookUp, scopes, List.findSome?_cons, h]

theorem lookUp_eq_of_innermost
    (h : (table env.innermost).get? name = (table other.innermost).get? name)
    (houter : env.outer = other.outer) :
    env.lookUp table missing name = other.lookUp table missing name := by
  rw [lookUp, lookUp, scopes, scopes, List.findSome?_cons, List.findSome?_cons, h, houter]

/-- A new scope hides nothing. -/
theorem lookUp_push (h : table .empty = .empty) (env : Environment) (missing : String → RunError)
    (name : String) : env.push.lookUp table missing name = env.lookUp table missing name := by
  rw [lookUp, push, scopes, List.findSome?_cons, h, Table.get?_empty, lookUp]

end Environment

end TaskRunner
