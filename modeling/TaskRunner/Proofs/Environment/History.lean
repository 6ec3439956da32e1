import Mathlib.Data.List.Induction
import Mathlib.Data.List.Sort
import TaskRunner.Proofs.Environment.View

/-! Environments by their history.  What a name stands for is decided by the operations that made
the environment: the scopes that are still open, and in the innermost of those that bind the name
the binding that was made last. -/

namespace TaskRunner

namespace Table

variable {α : Type}

/-- A table is known by what it binds. -/
theorem ext_get? {table other : Table α} (h : ∀ name, table.get? name = other.get? name) :
    table = other := by
  let before (a b : String × α) : Prop := a.1 < b.1
  have : Std.Irrefl before := ⟨fun a => String.lt_irrefl a.1⟩
  have : Std.Antisymm before := ⟨fun _ _ hab hba => absurd hba (String.lt_asymm hab)⟩
  have hmem (entry : String × α) : entry ∈ table.entries ↔ entry ∈ other.entries := by
    rw [← get?_eq_some_iff, ← get?_eq_some_iff, h]
  cases table
  cases other
  congr
  exact List.Pairwise.eq_of_mem_iff (r := before) ‹_› ‹_› hmem

theorem insert_insert_comm (table : Table α) {name other : String} (h : name ≠ other)
    (value value' : α) :
    (table.insert name value).insert other value' =
      (table.insert other value').insert name value := by
  refine ext_get? fun asked => ?_
  simp only [get?_insert]
  grind

/-- The entries of the inner table can be laid over the other in any order. -/
theorem foldl_insert_of_perm {inner : Table α} {entries : List (String × α)}
    (h : entries.Perm inner.entries) (table : Table α) :
    entries.foldl (fun t entry => t.insert entry.1 entry.2) table = table.overlay inner := by
  rw [overlay]
  refine h.foldl_eq' (fun first hfirst second hsecond t => ?_) table
  by_cases hname : first.1 = second.1
  · have hfirst := get?_eq_some_iff.2 (h.subset hfirst)
    have hsecond := get?_eq_some_iff.2 (h.subset hsecond)
    rw [hname, hsecond, Option.some.injEq] at hfirst
    rw [Prod.ext hname hfirst.symm]
  · exact insert_insert_comm t hname first.2 second.2

end Table

namespace Environment

/-- What can be done to an environment. -/
inductive Operation where
  | push
  | pop
  | defineVariable (name : String) (value : Value)
  | defineTarget (name : String) (body : List Statement)

/-- The environment after an operation. -/
def perform (env : Environment) : Operation → Environment
  | .push => env.push
  | .pop => env.pop
  | .defineVariable name value => env.defineVariable name value
  | .defineTarget name body => env.defineTarget name body

/-- The environment that the operations make of a new one. -/
def after (operations : List Operation) : Environment :=
  operations.foldl perform initial

namespace Operation

/-- The number of open scopes inside the root scope after an operation, from the number before. -/
def depth (before : Nat) : Operation → Nat
  | push => before + 1
  | pop => before - 1
  | _ => before

/-- The variable that an operation binds, with its value. -/
def boundVariable : Operation → Option (String × Value)
  | defineVariable name value => if name = "" then none else some (name, value)
  | _ => none

/-- The target that an operation binds, with its statements. -/
def boundTarget : Operation → Option (String × List Statement)
  | defineTarget name body => if name = "" then none else some (name, body)
  | _ => none

end Operation

/-- The number of open scopes inside the root scope. -/
def depthAfter (operations : List Operation) : Nat :=
  operations.foldl Operation.depth 0

/-- The scope in which operation `i` was made is still open. -/
def IsOpen (operations : List Operation) (i : Nat) : Prop :=
  ∀ j, i ≤ j → j ≤ operations.length →
    depthAfter (operations.take i) ≤ depthAfter (operations.take j)

section Bindings

variable {α : Type} (bind? : Operation → Option (String × α))

/-- Operation `i` binds the name to the value in a scope that is still open, `depth` scopes inside
the root scope. -/
structure BoundAt (operations : List Operation) (name : String) (depth i : Nat) (value : α) :
    Prop where
  binds : operations[i]?.bind bind? = some (name, value)
  isOpen : IsOpen operations i
  depth_eq : depthAfter (operations.take i) = depth

/-- The value is that of the last binding of the name in the innermost open scope that binds it. -/
def IsCurrent (operations : List Operation) (name : String) (value : α) : Prop :=
  ∃ depth i, BoundAt bind? operations name depth i value ∧
    ∀ depth' j other, BoundAt bind? operations name depth' j other →
      depth' < depth ∨ depth' = depth ∧ j ≤ i

/-- The tables with the binding, if there is one, made in the innermost. -/
def bindInnermost : Option (String × α) → List (Table α) → List (Table α)
  | some (name, value), table :: outer => table.insert name value :: outer
  | _, tables => tables

/-- The tables of one kind of binding, the innermost first, after an operation. -/
def stack (tables : List (Table α)) : Operation → List (Table α)
  | .push => .empty :: tables
  | .pop =>
    match tables with
    | _ :: table :: outer => table :: outer
    | tables => tables
  | operation => bindInnermost (bind? operation) tables

variable {bind? : Operation → Option (String × α)}

theorem depthAfter_concat (operations : List Operation) (operation : Operation) :
    depthAfter (operations ++ [operation]) = operation.depth (depthAfter operations) := by
  simp [depthAfter]

theorem BoundAt.lt_length {operations : List Operation} {name : String} {depth i : Nat} {value : α}
    (h : BoundAt bind? operations name depth i value) : i < operations.length := by
  obtain ⟨operation, hoperation, -⟩ := Option.bind_eq_some_iff.1 h.binds
  exact (List.getElem?_eq_some_iff.1 hoperation).1

theorem BoundAt.le_depthAfter {operations : List Operation} {name : String} {depth i : Nat}
    {value : α} (h : BoundAt bind? operations name depth i value) :
    depth ≤ depthAfter operations := by
  have hle := h.isOpen operations.length h.lt_length.le le_rfl
  rwa [List.take_length, h.depth_eq] at hle

theorem isOpen_concat_iff {operations : List Operation} {operation : Operation} {i : Nat}
    (hi : i ≤ operations.length) :
    IsOpen (operations ++ [operation]) i ↔
      IsOpen operations i ∧
        depthAfter (operations.take i) ≤ depthAfter (operations ++ [operation]) := by
  have htake {j : Nat} (hj : j ≤ operations.length) :
      (operations ++ [operation]).take j = operations.take j :=
    List.take_append_of_le_length hj
  have hall : (operations ++ [operation]).take (operations.length + 1) =
      operations ++ [operation] := List.take_of_length_le (by simp)
  constructor
  · intro h
    refine ⟨fun j hij hj => ?_, ?_⟩
    · have := h j hij (by simp; omega)
      rwa [htake hi, htake hj] at this
    · have := h (operations.length + 1) (by omega) (by simp)
      rwa [htake hi, hall] at this
  · rintro ⟨hopen, hlast⟩ j hij hj
    rw [htake hi]
    rcases Nat.lt_or_eq_of_le hj with hlt | rfl
    · rw [htake (by simp at hlt; omega)]
      exact hopen j hij (by simp at hlt; omega)
    · rwa [List.length_append, List.length_singleton, hall]

/-- The bindings in the open scopes after one more operation: those from before whose scope is
still open, and the one that the operation makes. -/
theorem boundAt_concat_iff {operations : List Operation} {operation : Operation} {name : String}
    {depth i : Nat} {value : α} :
    BoundAt bind? (operations ++ [operation]) name depth i value ↔
      depth ≤ depthAfter (operations ++ [operation]) ∧
        (BoundAt bind? operations name depth i value ∨
          i = operations.length ∧ depth = depthAfter operations ∧
            bind? operation = some (name, value)) := by
  constructor
  · intro h
    refine ⟨h.le_depthAfter, ?_⟩
    have hi : i ≤ operations.length := by simpa [Nat.lt_succ_iff] using h.lt_length
    have hdepth := h.depth_eq
    rw [List.take_append_of_le_length hi] at hdepth
    have hbinds := h.binds
    rcases Nat.lt_or_eq_of_le hi with hlt | rfl
    · rw [List.getElem?_append_left hlt] at hbinds
      exact .inl ⟨hbinds, ((isOpen_concat_iff hi).1 h.isOpen).1, hdepth⟩
    · exact .inr ⟨rfl, by simpa using hdepth.symm, by simpa using hbinds⟩
  · rintro ⟨hdepth, h | ⟨rfl, rfl, hbinds⟩⟩
    · have hi := h.lt_length
      refine ⟨?_, (isOpen_concat_iff hi.le).2 ⟨h.isOpen, h.depth_eq ▸ hdepth⟩, ?_⟩
      · rw [List.getElem?_append_left hi]
        exact h.binds
      · rw [List.take_append_of_le_length hi.le]
        exact h.depth_eq
    · refine ⟨by simpa using hbinds, (isOpen_concat_iff le_rfl).2 ⟨fun j hlt hle => ?_, ?_⟩, ?_⟩
      · rw [le_antisymm hlt hle]
      · simpa using hdepth
      · simp

/-- What a table binds a name to, from the bindings that are made in its scope. -/
def IsLatest (made : Nat → α → Prop) : Option α → Prop
  | none => ∀ i value, ¬ made i value
  | some value => ∃ i, made i value ∧ ∀ j other, made j other → j ≤ i

/-- Each table of a stack binds the name as the operations bind it in the table's scope. -/
def Describes (bind? : Operation → Option (String × α)) (operations : List Operation)
    (name : String) : List (Table α) → Prop
  | [] => True
  | table :: outer =>
    IsLatest (BoundAt bind? operations name outer.length) (table.get? name) ∧
      Describes bind? operations name outer

theorem Describes.congr {operations operations' : List Operation} {name : String}
    {tables : List (Table α)}
    (h : ∀ depth < tables.length, ∀ i value,
      BoundAt bind? operations name depth i value ↔ BoundAt bind? operations' name depth i value)
    (htables : Describes bind? operations name tables) :
    Describes bind? operations' name tables := by
  induction tables with
  | nil => trivial
  | cons table outer ih =>
    obtain ⟨hhead, houter⟩ := htables
    have hiff : BoundAt bind? operations name outer.length =
        BoundAt bind? operations' name outer.length :=
      funext₂ fun i value => propext (h _ (by simp) i value)
    exact ⟨hiff ▸ hhead, ih (fun depth hdepth => h depth (by simp; omega)) houter⟩

/-- An operation that opens and closes no scope changes at most what the innermost table binds. -/
theorem describes_bindInnermost {operations : List Operation} {operation : Operation}
    {name : String} {table : Table α} {outer : List (Table α)}
    (hflat : depthAfter (operations ++ [operation]) = depthAfter operations)
    (hlength : outer.length = depthAfter operations)
    (h : Describes bind? operations name (table :: outer)) :
    Describes bind? (operations ++ [operation]) name
      (bindInnermost (bind? operation) (table :: outer)) := by
  obtain ⟨htable, houter⟩ := h
  have hbound (depth i : Nat) (value : α) :
      BoundAt bind? (operations ++ [operation]) name depth i value ↔
        BoundAt bind? operations name depth i value ∨
          i = operations.length ∧ depth = depthAfter operations ∧
            bind? operation = some (name, value) := by
    rw [boundAt_concat_iff, hflat, and_iff_right_iff_imp]
    rintro (h | ⟨-, rfl, -⟩)
    exacts [h.le_depthAfter, le_rfl]
  have houter' : Describes bind? (operations ++ [operation]) name outer := by
    refine houter.congr fun depth hdepth i value => ?_
    rw [hbound]
    exact ⟨.inl, fun h => h.resolve_right fun ⟨_, hlast, _⟩ => by omega⟩
  have hkept (hother : ∀ value, bind? operation ≠ some (name, value)) :
      IsLatest (BoundAt bind? (operations ++ [operation]) name outer.length)
        (table.get? name) := by
    have hiff : BoundAt bind? (operations ++ [operation]) name outer.length =
        BoundAt bind? operations name outer.length :=
      funext₂ fun i value => propext (by simp [hbound, hother])
    rwa [hiff]
  match hbind : bind? operation with
  | none => exact ⟨hkept (by simp [hbind]), houter'⟩
  | some (bound, value) =>
    refine ⟨?_, houter'⟩
    rw [Table.get?_insert]
    split
    next heq =>
      subst heq
      refine ⟨operations.length, (hbound ..).2 (.inr ⟨rfl, hlength, hbind⟩), fun j other hj => ?_⟩
      simpa [Nat.lt_succ_iff] using hj.lt_length
    next hne => exact hkept fun other => by simp [hbind, Ne.symm hne]

theorem describes_push {operations : List Operation} {name : String} {tables : List (Table α)}
    (hpush : bind? .push = none) (hlength : tables.length = depthAfter operations + 1)
    (h : Describes bind? operations name tables) :
    Describes bind? (operations ++ [.push]) name (.empty :: tables) := by
  have hiff (depth i : Nat) (value : α) :
      BoundAt bind? operations name depth i value ↔
        BoundAt bind? (operations ++ [.push]) name depth i value := by
    rw [boundAt_concat_iff, depthAfter_concat, Operation.depth, hpush]
    simp only [reduceCtorEq, and_false, or_false, iff_and_self]
    exact fun h => h.le_depthAfter.trans (Nat.le_succ _)
  refine ⟨fun i value hi => ?_, h.congr fun depth _ => hiff depth⟩
  have hle := ((hiff ..).2 hi).le_depthAfter
  omega

theorem describes_pop {operations : List Operation} {name : String} {tables : List (Table α)}
    (hpop : bind? .pop = none) (hlength : tables.length ≤ depthAfter operations - 1 + 1)
    (h : Describes bind? operations name tables) :
    Describes bind? (operations ++ [.pop]) name tables := by
  refine h.congr fun depth hdepth i value => ?_
  have hle : depth ≤ depthAfter operations - 1 := by omega
  rw [boundAt_concat_iff, depthAfter_concat, Operation.depth, hpop]
  simp [hle]

/-- One more operation keeps the stack in step with the history. -/
theorem describes_stack {operations : List Operation} (operation : Operation) {name : String}
    {tables : List (Table α)} (hpush : bind? .push = none) (hpop : bind? .pop = none)
    (hlength : tables.length = depthAfter operations + 1)
    (h : Describes bind? operations name tables) :
    (stack bind? tables operation).length = depthAfter (operations ++ [operation]) + 1 ∧
      Describes bind? (operations ++ [operation]) name (stack bind? tables operation) := by
  have hflat (hoperation : depthAfter (operations ++ [operation]) = depthAfter operations) :
      (bindInnermost (bind? operation) tables).length = depthAfter (operations ++ [operation]) + 1 ∧
      Describes bind? (operations ++ [operation]) name
        (bindInnermost (bind? operation) tables) := by
    obtain ⟨innermost, outer, rfl⟩ := List.exists_cons_of_length_eq_add_one hlength
    refine ⟨?_, describes_bindInnermost hoperation (Nat.succ.inj hlength) h⟩
    rw [hoperation, ← hlength]
    cases bind? operation <;> rfl
  cases operation with
  | push =>
    rw [depthAfter_concat]
    exact ⟨congrArg (· + 1) hlength, describes_push hpush hlength h⟩
  | pop =>
    rw [depthAfter_concat, Operation.depth]
    match tables with
    | [] => exact absurd hlength (by simp)
    | [table] =>
      have hroot : 1 = depthAfter operations - 1 + 1 := by simp at hlength; omega
      exact ⟨hroot, describes_pop hpop hroot.le h⟩
    | _ :: table :: outer =>
      have houter : (table :: outer).length = depthAfter operations - 1 + 1 := by
        simp at hlength ⊢
        omega
      exact ⟨houter, describes_pop hpop houter.le h.2⟩
  | defineVariable other value => exact hflat (depthAfter_concat ..)
  | defineTarget other body => exact hflat (depthAfter_concat ..)

/-- The stack that the operations make of one empty table is the one that they describe. -/
theorem describes_foldl_stack (hpush : bind? .push = none) (hpop : bind? .pop = none)
    (operations : List Operation) (name : String) :
    (operations.foldl (stack bind?) [.empty]).length = depthAfter operations + 1 ∧
      Describes bind? operations name (operations.foldl (stack bind?) [.empty]) := by
  induction operations using List.reverseRecOn with
  | nil => exact ⟨rfl, fun i value h => absurd h.lt_length (Nat.not_lt_zero i), trivial⟩
  | append_singleton operations operation ih =>
    rw [List.foldl_append]
    exact describes_stack operation hpush hpop ih.1 ih.2

/-- A look-up from the innermost table outward finds the current binding. -/
theorem Describes.findSome? {operations : List Operation} {name : String}
    {tables : List (Table α)} (h : Describes bind? operations name tables) :
    match tables.findSome? fun table => table.get? name with
    | none => ∀ depth < tables.length, ∀ i value, ¬ BoundAt bind? operations name depth i value
    | some value => ∃ depth i, BoundAt bind? operations name depth i value ∧
        ∀ depth' < tables.length, ∀ j other, BoundAt bind? operations name depth' j other →
          depth' < depth ∨ depth' = depth ∧ j ≤ i := by
  induction tables with
  | nil => simp
  | cons table outer ih =>
    obtain ⟨htable, houter⟩ := h
    have hcases {depth : Nat} (hlt : depth < (table :: outer).length) :
        depth < outer.length ∨ depth = outer.length := by
      rw [List.length_cons] at hlt
      omega
    rw [List.findSome?_cons]
    cases hfound : table.get? name with
    | some value =>
      rw [hfound] at htable
      obtain ⟨i, hi, hlatest⟩ := htable
      refine ⟨outer.length, i, hi, fun depth' hlt j other hj => (hcases hlt).imp_right ?_⟩
      rintro rfl
      exact ⟨rfl, hlatest j other hj⟩
    | none =>
      rw [hfound] at htable
      have hnone {depth' j : Nat} {other : α} (hlt : depth' < (table :: outer).length)
          (hj : BoundAt bind? operations name depth' j other) : depth' < outer.length :=
        (hcases hlt).resolve_right fun heq => htable j other (heq ▸ hj)
      specialize ih houter
      dsimp only
      revert ih
      cases outer.findSome? fun table => table.get? name with
      | none => exact fun hout depth hlt i value hi => hout depth (hnone hlt hi) i value hi
      | some value =>
        rintro ⟨depth, i, hi, hcurrent⟩
        exact ⟨depth, i, hi, fun depth' hlt j other hj =>
          hcurrent depth' (hnone hlt hj) j other hj⟩

/-- A look-up in the stack finds a value exactly when it is current. -/
theorem findSome?_foldl_stack_eq_some_iff (hpush : bind? .push = none) (hpop : bind? .pop = none)
    (operations : List Operation) (name : String) (value : α) :
    ((operations.foldl (stack bind?) [.empty]).findSome? fun table => table.get? name) =
        some value ↔
      IsCurrent bind? operations name value := by
  obtain ⟨hlength, hdescribes⟩ := describes_foldl_stack hpush hpop operations name
  have hfind := hdescribes.findSome?
  have hall {depth i : Nat} {other : α} (h : BoundAt bind? operations name depth i other) :
      depth < (operations.foldl (stack bind?) [.empty]).length := by
    have := h.le_depthAfter
    omega
  revert hfind
  cases (operations.foldl (stack bind?) [.empty]).findSome? fun table => table.get? name with
  | none =>
    refine fun hnone => ⟨nofun, ?_⟩
    rintro ⟨depth, i, hi, -⟩
    exact absurd hi (hnone depth (hall hi) i value)
  | some found =>
    rintro ⟨depth, i, hi, hcurrent⟩
    have hfound : IsCurrent bind? operations name found :=
      ⟨depth, i, hi, fun depth' j other hj => hcurrent depth' (hall hj) j other hj⟩
    refine ⟨fun h => Option.some.inj h ▸ hfound, ?_⟩
    rintro ⟨depth', j, hj, hcurrent'⟩
    have hle := hcurrent depth' (hall hj) j value hj
    have hge := hcurrent' depth i found hi
    obtain rfl : i = j := by omega
    have heq := hi.binds.symm.trans hj.binds
    simp only [Option.some.injEq, Prod.mk.injEq, true_and] at heq
    rw [heq]

/-- A kind of binding: the tables that hold it, and the operations that make it.  An operation does
to the tables what it does to a stack of them. -/
structure IsKind (table : Scope → Table α) (bind? : Operation → Option (String × α)) : Prop where
  empty : table .empty = .empty
  push : bind? .push = none
  pop : bind? .pop = none
  perform (env : Environment) (operation : Operation) :
    (env.perform operation).scopes.map table = stack bind? (env.scopes.map table) operation

theorem after_concat (operations : List Operation) (operation : Operation) :
    after (operations ++ [operation]) = (after operations).perform operation := by
  simp [after]

section Kind

variable {table : Scope → Table α} (hkind : IsKind table bind?)
include hkind

theorem IsKind.map_scopes (operations : List Operation) :
    (after operations).scopes.map table = operations.foldl (stack bind?) [.empty] := by
  induction operations using List.reverseRecOn with
  | nil => exact congrArg ([·]) hkind.empty
  | append_singleton operations operation ih =>
    rw [after_concat, List.foldl_append, ← ih]
    exact hkind.perform _ operation

/-- A look-up finds a value exactly when it is current. -/
theorem IsKind.findSome?_eq_some_iff (operations : List Operation) (name : String) (value : α) :
    ((after operations).scopes.findSome? fun scope => (table scope).get? name) = some value ↔
      IsCurrent bind? operations name value := by
  have hfind := findSome?_foldl_stack_eq_some_iff hkind.push hkind.pop operations name value
  rwa [← hkind.map_scopes, List.findSome?_map] at hfind

/-- A look-up finds what the operations bind the name to. -/
theorem IsKind.lookUp_eq_ok_iff {operations : List Operation} {missing : String → RunError}
    {name : String} {value : α} :
    (after operations).lookUp table missing name = .ok value ↔
      IsCurrent bind? operations name value := by
  rw [← hkind.findSome?_eq_some_iff, lookUp]
  cases (after operations).scopes.findSome? fun scope => (table scope).get? name <;> simp

/-- Operations that change no table of the kind can be left out. -/
theorem IsKind.map_scopes_filter {kept : Operation → Bool}
    (hdropped : ∀ operation, ¬ kept operation → ∀ tables, stack bind? tables operation = tables)
    (operations : List Operation) :
    (after (operations.filter kept)).scopes.map table = (after operations).scopes.map table := by
  rw [hkind.map_scopes, hkind.map_scopes]
  induction operations using List.reverseRecOn with
  | nil => rfl
  | append_singleton operations operation ih =>
    rw [List.filter_append, List.foldl_append, List.foldl_append, ih, List.filter_singleton]
    cases hoperation : kept operation with
    | true => rfl
    | false => exact (hdropped operation (by simp [hoperation]) _).symm

end Kind

end Bindings

theorem isKind_values : IsKind Scope.values Operation.boundVariable where
  empty := rfl
  push := rfl
  pop := rfl
  perform := by
    rintro ⟨innermost, outer⟩ operation
    cases operation with
    | push => rfl
    | pop => cases outer <;> rfl
    | defineVariable name value =>
      by_cases hname : name = "" <;>
        simp [perform, defineVariable, stack, Operation.boundVariable, hname, scopes, bindInnermost]
    | defineTarget name body =>
      by_cases hname : name = "" <;>
        simp [perform, defineTarget, stack, Operation.boundVariable, hname, scopes, bindInnermost]

theorem isKind_targets : IsKind Scope.targets Operation.boundTarget where
  empty := rfl
  push := rfl
  pop := rfl
  perform := by
    rintro ⟨innermost, outer⟩ operation
    cases operation with
    | push => rfl
    | pop => cases outer <;> rfl
    | defineVariable name value =>
      by_cases hname : name = "" <;>
        simp [perform, defineVariable, stack, Operation.boundTarget, hname, scopes, bindInnermost]
    | defineTarget name body =>
      by_cases hname : name = "" <;>
        simp [perform, defineTarget, stack, Operation.boundTarget, hname, scopes, bindInnermost]

theorem depth_after (operations : List Operation) :
    (after operations).depth = depthAfter operations := by
  have hlength : (operations.foldl (stack Operation.boundTarget) [.empty]).length =
      depthAfter operations + 1 := (describes_foldl_stack rfl rfl operations "").1
  rw [← isKind_targets.map_scopes, List.length_map] at hlength
  exact Nat.succ.inj hlength

/-- The scopes around a push stay as long as the scope of the push is open. -/
theorem scopes_after_push {operations : List Operation} (inner : List Operation)
    (hopen : ∀ k, depthAfter operations < depthAfter (operations ++ .push :: inner.take k)) :
    ∃ scope above, (after (operations ++ .push :: inner)).scopes =
      scope :: (above ++ (after operations).scopes) := by
  induction inner using List.reverseRecOn with
  | nil => exact ⟨.empty, [], by rw [after_concat]; rfl⟩
  | append_singleton inner operation ih =>
    have hinner (k : Nat) :
        depthAfter operations < depthAfter (operations ++ .push :: inner.take k) := by
      have := hopen (min k inner.length)
      rwa [List.take_append_of_le_length (Nat.min_le_right ..), ← List.take_eq_take_min] at this
    obtain ⟨scope, above, hscopes⟩ := ih hinner
    have hassoc : operations ++ .push :: (inner ++ [operation]) =
        (operations ++ .push :: inner) ++ [operation] := by simp
    have hlast := hopen (inner.length + 1)
    rw [List.take_of_length_le (by simp), hassoc, ← depth_after, ← depth_after, after_concat]
      at hlast
    rw [hassoc, after_concat]
    generalize after (operations ++ .push :: inner) = env at hscopes hlast
    obtain ⟨innermost, outer⟩ := env
    obtain ⟨rfl, rfl⟩ := List.cons.inj hscopes
    cases operation with
    | push => exact ⟨.empty, innermost :: above, rfl⟩
    | pop =>
      cases above with
      | nil => exact absurd hlast (Nat.lt_irrefl _)
      | cons first above => exact ⟨first, above, rfl⟩
    | defineVariable name value =>
      simp only [perform, defineVariable]
      split
      exacts [⟨_, above, rfl⟩, ⟨_, above, rfl⟩]
    | defineTarget name body =>
      simp only [perform, defineTarget]
      split
      exacts [⟨_, above, rfl⟩, ⟨_, above, rfl⟩]

/-- A push, operations that never close its scope, and the pop that does leave an environment as it
was. -/
theorem after_push_pop {operations inner : List Operation}
    (hopen : ∀ k, depthAfter operations < depthAfter (operations ++ .push :: inner.take k))
    (hlast : depthAfter (operations ++ .push :: inner) = depthAfter operations + 1) :
    after (operations ++ .push :: inner ++ [.pop]) = after operations := by
  obtain ⟨scope, above, hscopes⟩ := scopes_after_push inner hopen
  rw [← depth_after, ← depth_after] at hlast
  rw [after_concat]
  generalize after (operations ++ .push :: inner) = env at hscopes hlast
  obtain ⟨innermost, outer⟩ := env
  obtain ⟨rfl, rfl⟩ := List.cons.inj hscopes
  have habove : above = [] := by
    rw [← List.length_eq_zero_iff]
    simp only [depth, List.length_append, scopes, List.length_cons] at hlast
    omega
  subst habove
  rfl

theorem after_pop_root {operations : List Operation} (h : depthAfter operations = 0) :
    after (operations ++ [.pop]) = after operations := by
  rw [← depth_after] at h
  rw [after_concat]
  generalize after operations = env at h
  obtain ⟨innermost, outer⟩ := env
  obtain rfl : outer = [] := List.length_eq_zero_iff.1 h
  rfl

/-- The table that the entries of some scopes make, the innermost scope first.  The entries of a
scope are inserted, in the order in which it gives them, over those of the scopes around it. -/
def listing (orders : List (List (String × Value))) : Table Value :=
  orders.foldr (fun entries table => entries.foldl (fun t entry => t.insert entry.1 entry.2) table)
    .empty

/-- The order in which each scope gives its variables makes no difference to what is listed. -/
theorem listing_eq_visible {env : Environment} {orders : List (List (String × Value))}
    (h : List.Forall₂ (fun scope entries => entries.Perm scope.values.entries) env.scopes orders) :
    listing orders = env.visible := by
  rw [listing, visible]
  generalize env.scopes = scopes at h
  induction h with
  | nil => rfl
  | cons hperm _ ih => rw [List.foldr_cons, List.foldr_cons, ih, Table.foldl_insert_of_perm hperm]

theorem not_isCurrent_boundVariable_empty {operations : List Operation} {value : Value} :
    ¬ IsCurrent Operation.boundVariable operations "" value := by
  rintro ⟨depth, i, hi, -⟩
  obtain ⟨operation, -, hbinds⟩ := Option.bind_eq_some_iff.1 hi.binds
  cases operation with
  | defineVariable name value =>
    rw [Operation.boundVariable, Option.ite_none_left_eq_some] at hbinds
    exact hbinds.1 (Prod.mk.inj (Option.some.inj hbinds.2)).1
  | _ => cases hbinds

theorem visible_congr {env env' : Environment}
    (h : env.scopes.map Scope.values = env'.scopes.map Scope.values) :
    env.visible = env'.visible := by
  have hfold := congrArg (List.foldr (fun inner table => Table.overlay table inner) .empty) h
  rwa [List.foldr_map, List.foldr_map] at hfold

/-- Without the bindings of targets the variables are the same. -/
theorem values_filter_boundTarget (operations : List Operation) :
    (after (operations.filter (·.boundTarget.isNone))).scopes.map Scope.values =
      (after operations).scopes.map Scope.values := by
  refine isKind_values.map_scopes_filter (fun operation hdropped tables => ?_) operations
  cases operation with
  | defineTarget name body => rfl
  | _ => exact absurd rfl hdropped

/-- Without the bindings of variables the targets are the same. -/
theorem targets_filter_boundVariable (operations : List Operation) :
    (after (operations.filter (·.boundVariable.isNone))).scopes.map Scope.targets =
      (after operations).scopes.map Scope.targets := by
  refine isKind_targets.map_scopes_filter (fun operation hdropped tables => ?_) operations
  cases operation with
  | defineVariable name value => rfl
  | _ => exact absurd rfl hdropped

/-- What the operations that made an environment say about it. -/
structure KeepsHistory (operations : List Operation) : Prop where
  depth_eq : (after operations).depth = depthAfter operations
  variable_eq {name : String} {value : Value} :
    (after operations).getVariable name = .ok value ↔
      IsCurrent Operation.boundVariable operations name value
  target_eq {name : String} {body : List Statement} :
    (after operations).getTarget name = .ok body ↔
      IsCurrent Operation.boundTarget operations name body
  undefined_target {name : String} :
    (after operations).getTarget name = .error (.undefinedTarget name) ↔
      ∀ body, ¬ IsCurrent Operation.boundTarget operations name body
  listed {name : String} {value : Value} :
    (after operations).visible.get? name = some value ↔
      (after operations).getVariable name = .ok value
  omitted {name : String} :
    (after operations).visible.get? name = none ↔
      (after operations).getVariable name = .error (.undefinedVariable name)
  ascending :
    (after operations).visible.entries.Pairwise fun a b => utf8 a.1 < utf8 b.1
  named : ∀ entry ∈ (after operations).visible.entries, entry.1 ≠ ""
  /-- Each scope may give its variables in any order. -/
  any_order {orders : List (List (String × Value))} :
    List.Forall₂ (fun scope entries => entries.Perm scope.values.entries)
        (after operations).scopes orders →
      listing orders = (after operations).visible
  without_targets {name : String} :
    let others := after (operations.filter (·.boundTarget.isNone))
    others.getVariable name = (after operations).getVariable name ∧
      others.visible = (after operations).visible
  without_variables {name : String} :
    (after (operations.filter (·.boundVariable.isNone))).getTarget name =
      (after operations).getTarget name
  /-- The operations after the push never pop its scope, and the last pop does. -/
  nested {inner : List Operation} :
    (∀ k, depthAfter operations < depthAfter (operations ++ .push :: inner.take k)) →
    depthAfter (operations ++ .push :: inner) = depthAfter operations + 1 →
      after (operations ++ .push :: inner ++ [.pop]) = after operations
  pop_root :
    depthAfter operations = 0 → after (operations ++ [.pop]) = after operations

/-- An environment is what its history says, whatever the history. -/
theorem keepsHistory (operations : List Operation) : KeepsHistory operations where
  depth_eq := depth_after operations
  variable_eq := isKind_values.lookUp_eq_ok_iff
  target_eq := isKind_targets.lookUp_eq_ok_iff
  undefined_target {name} := by
    refine lookUp_eq_error_iff.trans ?_
    simp [isKind_targets.lookUp_eq_ok_iff]
  listed := getVariable_eq_ok_iff.symm
  omitted {name} := by
    rw [Option.eq_none_iff_forall_ne_some, getVariable, lookUp_eq_error_iff]
    simp [← getVariable_eq_ok_iff, getVariable]
  ascending := (isView_visible _).ascending
  named := by
    rintro ⟨name, value⟩ hentry rfl
    have hvalue := getVariable_eq_ok_iff.2 (Table.get?_eq_some_iff.2 hentry)
    exact not_isCurrent_boundVariable_empty (isKind_values.lookUp_eq_ok_iff.1 hvalue)
  any_order := listing_eq_visible
  without_targets {name} :=
    have hvalues := values_filter_boundTarget operations
    ⟨lookUp_congr hvalues, visible_congr hvalues⟩
  without_variables {name} := lookUp_congr (targets_filter_boundVariable operations)
  nested := after_push_pop
  pop_root := after_pop_root

theorem keepsHistory_shadowed :
    let outer : List Operation := [.defineVariable "a" (.text "1")]
    let inner : List Operation := [.defineVariable "a" (.text "2"), .defineVariable "" (.text "3")]
    (∀ k, depthAfter outer < depthAfter (outer ++ .push :: inner.take k)) ∧
      depthAfter (outer ++ .push :: inner) = depthAfter outer + 1 ∧
      (after (outer ++ .push :: inner)).getVariable "a" = .ok (.text "2") ∧
      after (outer ++ .push :: inner ++ [.pop]) = after outer ∧
      (after outer).getVariable "a" = .ok (.text "1") := by
  intro outer inner
  have hopen (k : Nat) : depthAfter outer < depthAfter (outer ++ .push :: inner.take k) := by
    match k with
    | 0 => exact Nat.zero_lt_one
    | 1 => exact Nat.zero_lt_one
    | n + 2 =>
      rw [List.take_of_length_le (show inner.length ≤ n + 2 from Nat.le_add_left 2 n)]
      exact Nat.zero_lt_one
  exact ⟨hopen, rfl, rfl, (keepsHistory outer).nested hopen rfl, rfl⟩

end Environment

end TaskRunner
