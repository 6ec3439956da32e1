import TaskRunner.Session
import TaskRunner.Proofs.Tree.Alike

/-! Environments that differ in scripts only.  They bind the same names, in the same scopes, to
texts that are equal and to runs and targets that differ in scripts only; whatever is looked up in
them agrees as well. -/

namespace TaskRunner

/-! ### Results that agree -/

/-- Both results are values that the relation holds between, or both are the same error. -/
inductive Agree {ε α β : Type} (V : α → β → Prop) : Except ε α → Except ε β → Prop where
  | ok {a : α} {b : β} (h : V a b) : Agree V (.ok a) (.ok b)
  | error (e : ε) : Agree V (.error e) (.error e)

section

variable {ε α β γ δ : Type} {V : α → β → Prop} {W : γ → δ → Prop}

theorem Agree.bind {first : Except ε α} {other : Except ε β} {next : α → Except ε γ}
    {after : β → Except ε δ} (h : Agree V first other)
    (hnext : ∀ a b, V a b → Agree W (next a) (after b)) :
    Agree W (first >>= next) (other >>= after) := by
  cases h with
  | ok hab => exact hnext _ _ hab
  | error e => exact .error e

theorem Agree.imp {W : α → β → Prop} {first : Except ε α} {other : Except ε β}
    (h : Agree V first other) (hVW : ∀ a b, V a b → W a b) : Agree W first other := by
  cases h with
  | ok hab => exact .ok (hVW _ _ hab)
  | error e => exact .error e

/-- What is made of equal values is equal. -/
theorem Agree.map {first other : Except ε α} (h : Agree (· = ·) first other) (f : α → γ) :
    Agree (· = ·) (first.map f) (other.map f) := by
  cases h with
  | ok hab => exact .ok (congrArg f hab)
  | error e => exact .error e

theorem Agree.mapM {f : α → Except ε γ} {g : β → Except ε δ}
    (hfg : ∀ a b, V a b → Agree W (f a) (g b)) {items : List α} {others : List β}
    (h : List.Forall₂ V items others) :
    Agree (List.Forall₂ W) (items.mapM f) (others.mapM g) := by
  induction h with
  | nil => exact .ok .nil
  | cons hab _ ih =>
    rw [List.mapM_cons, List.mapM_cons]
    exact (hfg _ _ hab).bind fun _ _ hfirst => ih.bind fun _ _ hmore => .ok (.cons hfirst hmore)

theorem Agree.orHalt {first : Except RunError α} {other : Except RunError β}
    (h : Agree V first other) : Agree V (orHalt first) (orHalt other) := by
  cases h with
  | ok hab => exact .ok hab
  | error e => exact .error _

end

/-! ### Tables -/

section

variable {α : Type} {R : α → α → Prop}

/-- The entries have the same name, and the relation holds between their values. -/
def Named (R : α → α → Prop) (entry other : String × α) : Prop :=
  entry.1 = other.1 ∧ R entry.2 other.2

/-- The tables have the same names, and the relation holds between the values of each. -/
def Table.Alike (R : α → α → Prop) (table other : Table α) : Prop :=
  List.Forall₂ (Named R) table.entries other.entries

theorem Table.Alike.empty : Table.Alike R Table.empty Table.empty := .nil

theorem forall₂_place {name : String} {value value' : α} (hvalue : R value value')
    {entries others : List (String × α)} (h : List.Forall₂ (Named R) entries others) :
    List.Forall₂ (Named R) (Table.place name value entries) (Table.place name value' others) := by
  induction h with
  | nil => exact .cons ⟨rfl, hvalue⟩ .nil
  | cons hentry hrest ih =>
    rw [Table.place, Table.place, ← hentry.1]
    split
    · exact .cons ⟨rfl, hvalue⟩ (.cons hentry hrest)
    split
    · exact .cons ⟨rfl, hvalue⟩ hrest
    · exact .cons hentry ih

theorem Table.Alike.insert {table other : Table α} (h : Table.Alike R table other) (name : String)
    {value value' : α} (hvalue : R value value') :
    Table.Alike R (table.insert name value) (other.insert name value') :=
  forall₂_place hvalue h

theorem rel_lookup (name : String) {entries others : List (String × α)}
    (h : List.Forall₂ (Named R) entries others) :
    Option.Rel R (entries.lookup name) (others.lookup name) := by
  induction h with
  | nil => exact .none
  | @cons entry other _ _ hentry _ ih =>
    obtain ⟨entryName, value⟩ := entry
    obtain ⟨otherName, value'⟩ := other
    obtain ⟨rfl, hvalue⟩ := hentry
    rw [List.lookup_cons, List.lookup_cons]
    cases name == entryName with
    | true => exact .some hvalue
    | false => exact ih

theorem Table.Alike.get? {table other : Table α} (h : Table.Alike R table other) (name : String) :
    Option.Rel R (table.get? name) (other.get? name) :=
  rel_lookup name h

theorem Table.Alike.overlay {table other inner inner' : Table α} (h : Table.Alike R table other)
    (hinner : Table.Alike R inner inner') :
    Table.Alike R (table.overlay inner) (other.overlay inner') := by
  refine List.rel_foldl (fun table other htable entry entry' hentry => ?_) h hinner
  obtain ⟨name, value⟩ := entry
  obtain ⟨name', value'⟩ := entry'
  obtain rfl : name = name' := hentry.1
  exact htable.insert name hentry.2

theorem rel_findSome? {σ τ : Type} {P : σ → τ → Prop} {f : σ → Option α} {g : τ → Option α}
    (hfg : ∀ a b, P a b → Option.Rel R (f a) (g b)) {items : List σ} {others : List τ}
    (h : List.Forall₂ P items others) : Option.Rel R (items.findSome? f) (others.findSome? g) := by
  induction h with
  | nil => exact .none
  | @cons a b _ _ hab _ ih =>
    have hfirst := hfg a b hab
    rw [List.findSome?_cons, List.findSome?_cons]
    revert hfirst
    generalize f a = first
    generalize g b = other
    rintro (hvalue | _)
    · exact .some hvalue
    · exact ih

end

/-! ### Environments -/

section

variable {V : Value → Value → Prop} {B : List Statement → List Statement → Prop}

/-- The scopes bind the same names, and the relations hold between the values and the targets. -/
structure Scope.Pairs (V : Value → Value → Prop) (B : List Statement → List Statement → Prop)
    (scope other : Scope) : Prop where
  values : Table.Alike V scope.values other.values
  targets : Table.Alike B scope.targets other.targets

/-- The environments have as many scopes, and the relations hold between what these bind. -/
structure Environment.Pairs (V : Value → Value → Prop)
    (B : List Statement → List Statement → Prop) (env other : Environment) : Prop where
  innermost : Scope.Pairs V B env.innermost other.innermost
  outer : List.Forall₂ (Scope.Pairs V B) env.outer other.outer

theorem Scope.Pairs.empty : Scope.Pairs V B Scope.empty Scope.empty := ⟨.nil, .nil⟩

namespace Environment.Pairs

variable {env other : Environment}

theorem scopes (h : Environment.Pairs V B env other) :
    List.Forall₂ (Scope.Pairs V B) env.scopes other.scopes :=
  .cons h.innermost h.outer

theorem push (h : Environment.Pairs V B env other) : Environment.Pairs V B env.push other.push :=
  ⟨Scope.Pairs.empty, h.scopes⟩

theorem pop (h : Environment.Pairs V B env other) : Environment.Pairs V B env.pop other.pop := by
  obtain ⟨innermost, outer⟩ := env
  obtain ⟨innermost', outer'⟩ := other
  cases h.outer with
  | nil => exact h
  | cons hscope houter => exact ⟨hscope, houter⟩

theorem defineVariable (h : Environment.Pairs V B env other) (name : String)
    {value value' : Value} (hvalue : V value value') :
    Environment.Pairs V B (env.defineVariable name value) (other.defineVariable name value') := by
  unfold Environment.defineVariable
  split
  · exact h
  · exact ⟨⟨h.innermost.values.insert name hvalue, h.innermost.targets⟩, h.outer⟩

theorem defineTarget (h : Environment.Pairs V B env other) (name : String)
    {body body' : List Statement} (hbody : B body body') :
    Environment.Pairs V B (env.defineTarget name body) (other.defineTarget name body') := by
  unfold Environment.defineTarget
  split
  · exact h
  · exact ⟨⟨h.innermost.values, h.innermost.targets.insert name hbody⟩, h.outer⟩

theorem getTarget (h : Environment.Pairs V B env other) (name : String) :
    Agree B (env.getTarget name) (other.getTarget name) := by
  have hfound := rel_findSome? (fun _ _ hscope => hscope.targets.get? name) h.scopes
  unfold Environment.getTarget Environment.lookUp
  revert hfound
  generalize (env.scopes.findSome? fun scope => scope.targets.get? name) = found
  generalize (other.scopes.findSome? fun scope => scope.targets.get? name) = found'
  rintro (hbody | _)
  · exact .ok hbody
  · exact .error _

theorem visible (h : Environment.Pairs V B env other) :
    Table.Alike V env.visible other.visible :=
  List.rel_foldr (fun _ _ hscope _ _ htable => htable.overlay hscope.values) Table.Alike.empty
    h.scopes

/-- If the same texts are paired with each other, the environments give the same texts. -/
theorem texts (hV : ∀ value value', V value value' →
      ∀ text, value = .text text ↔ value' = .text text)
    (h : Environment.Pairs V B env other) : env.texts = other.texts := by
  have htexts {entries others : List (String × Value)}
      (hentries : List.Forall₂ (Named V) entries others)
      (f : String × Value → Option (String × String))
      (hf : ∀ entry other, Named V entry other → f entry = f other) :
      entries.filterMap f = others.filterMap f := by
    induction hentries with
    | nil => rfl
    | cons hentry _ ih => rw [List.filterMap_cons, List.filterMap_cons, hf _ _ hentry, ih]
  refine htexts h.visible _ ?_
  rintro ⟨name, value⟩ ⟨name', value'⟩ ⟨hname, hvalue⟩
  obtain rfl : name = name' := hname
  have hsame := hV value value' hvalue
  cases value with
  | text text => rw [(hsame text).1 rfl]
  | pending run =>
    cases value' with
    | text text => cases (hsame text).2 rfl
    | pending run' => rfl

end Environment.Pairs

end

section

variable {S : String → String → Prop}

/-- The values are the same text, or runs that differ in scripts only. -/
inductive Value.Alike (S : String → String → Prop) : Value → Value → Prop where
  | text (text : String) : Value.Alike S (.text text) (.text text)
  | pending {run other : Run} (h : Run.Alike S run other) :
      Value.Alike S (.pending run) (.pending other)

/-- The scopes bind the same names to values and targets that differ in scripts only. -/
structure Scope.Alike (S : String → String → Prop) (scope other : Scope) : Prop where
  values : Table.Alike (Value.Alike S) scope.values other.values
  targets : Table.Alike (List.Forall₂ (Statement.Alike S)) scope.targets other.targets

/-- The environments have as many scopes, which differ in scripts only. -/
structure Environment.Alike (S : String → String → Prop) (env other : Environment) : Prop where
  innermost : Scope.Alike S env.innermost other.innermost
  outer : List.Forall₂ (Scope.Alike S) env.outer other.outer

theorem Value.Alike.text_iff {value other : Value} (h : Value.Alike S value other)
    (text : String) : value = .text text ↔ other = .text text := by
  cases h with
  | text text => exact Iff.rfl
  | pending hrun => exact ⟨nofun, nofun⟩

theorem Environment.alike_iff_pairs {env other : Environment} :
    Environment.Alike S env other ↔
      Environment.Pairs (Value.Alike S) (List.Forall₂ (Statement.Alike S)) env other := by
  have hscope {scope scope' : Scope} : Scope.Alike S scope scope' ↔
      Scope.Pairs (Value.Alike S) (List.Forall₂ (Statement.Alike S)) scope scope' :=
    ⟨fun h => ⟨h.values, h.targets⟩, fun h => ⟨h.values, h.targets⟩⟩
  constructor
  · exact fun h => ⟨hscope.1 h.innermost, h.outer.imp fun _ _ => hscope.1⟩
  · exact fun h => ⟨hscope.2 h.innermost, h.outer.imp fun _ _ => hscope.2⟩

namespace Environment.Alike

variable {env other : Environment}

theorem pairs (h : Environment.Alike S env other) :
    Environment.Pairs (Value.Alike S) (List.Forall₂ (Statement.Alike S)) env other :=
  alike_iff_pairs.1 h

theorem push (h : Environment.Alike S env other) : Environment.Alike S env.push other.push :=
  alike_iff_pairs.2 h.pairs.push

theorem pop (h : Environment.Alike S env other) : Environment.Alike S env.pop other.pop :=
  alike_iff_pairs.2 h.pairs.pop

theorem defineVariable (h : Environment.Alike S env other) (name : String) {value value' : Value}
    (hvalue : Value.Alike S value value') :
    Environment.Alike S (env.defineVariable name value) (other.defineVariable name value') :=
  alike_iff_pairs.2 (h.pairs.defineVariable name hvalue)

theorem defineTarget (h : Environment.Alike S env other) (name : String)
    {body body' : List Statement} (hbody : List.Forall₂ (Statement.Alike S) body body') :
    Environment.Alike S (env.defineTarget name body) (other.defineTarget name body') :=
  alike_iff_pairs.2 (h.pairs.defineTarget name hbody)

theorem getTarget (h : Environment.Alike S env other) (name : String) :
    Agree (List.Forall₂ (Statement.Alike S)) (env.getTarget name) (other.getTarget name) :=
  h.pairs.getTarget name

theorem targetOf (h : Environment.Alike S env other) {run run' : Run}
    (hrun : Run.Alike S run run') :
    Agree (List.Forall₂ (Statement.Alike S)) (env.targetOf run) (other.targetOf run') := by
  cases hrun with
  | mk name stage hbody =>
    cases name with
    | none => exact .ok .nil
    | some name => exact h.getTarget name

theorem visible (h : Environment.Alike S env other) :
    Table.Alike (Value.Alike S) env.visible other.visible :=
  h.pairs.visible

theorem texts (h : Environment.Alike S env other) : env.texts = other.texts :=
  h.pairs.texts fun _ _ hvalue => hvalue.text_iff

end Environment.Alike

/-! ### Scripts -/

/-- Where the relation holds between two scripts, it holds between what is run of them, both or none
are blank, and both are shown alike. -/
structure ShowsAlike (S : String → String → Prop) : Prop where
  refl (script : String) : S script script
  trimmed {script other : String} : S script other → S (trimScript script) (trimScript other)
  blank {script other : String} :
    S script other → (trimScript script = "" ↔ trimScript other = "")
  echo {script other : String} :
    S script other → echo (trimScript script) = echo (trimScript other)

/-- The scripts that a run leads to. -/
theorem Environment.Alike.scriptsOf (hS : ShowsAlike S) {env other : Environment}
    (h : Environment.Alike S env other) (fuel : Nat) {run run' : Run}
    (hrun : Run.Alike S run run') :
    Agree (List.Forall₂ S) (env.scriptsOf fuel run) (other.scriptsOf fuel run') := by
  induction fuel generalizing run run' with
  | zero => exact .error _
  | succ fuel ih =>
    have htarget := (h.targetOf hrun).orHalt
    cases hrun with
    | mk name stage hbody =>
      refine htarget.bind fun target target' htarget => ?_
      refine Agree.bind (V := List.Forall₂ (List.Forall₂ S)) ?_ fun found found' hfound => ?_
      · refine Agree.mapM (fun statement statement' hstatement => ?_)
          (List.rel_append hbody htarget)
        cases hstatement with
        | action hscript =>
          simp only [hS.blank hscript]
          split
          · exact .ok .nil
          · exact .ok (.cons (hS.trimmed hscript) .nil)
        | run hrun => exact ih hrun
        | _ => exact .ok .nil
      · exact .ok (List.rel_flatten hfound)

theorem toList_trimScript (script : String) : (trimScript script).toList = trim script.toList := by
  rw [trimScript, String.toList_ofList]

theorem trimScript_eq_empty_iff_dedent {script : String} :
    trimScript script = "" ↔ dedent (trim script.toList) = [] := by
  rw [dedent_trim_eq_nil_iff, ← toList_trimScript, String.toList_eq_nil_iff]

theorem SameDedent.trimScript {script other : String} (h : SameDedent script other) :
    SameDedent (trimScript script) (trimScript other) := by
  refine .of_isTrimmed ?_ ?_ ?_ <;> rw [toList_trimScript]
  · exact isTrimmed_trim _
  · exact isTrimmed_trim _
  · rw [toList_trimScript, h.trimmed]

/-- Scripts that are the same without their margins are shown alike. -/
theorem SameDedent.showsAlike : ShowsAlike SameDedent where
  refl := SameDedent.refl
  trimmed h := h.trimScript
  blank h := by rw [trimScript_eq_empty_iff_dedent, trimScript_eq_empty_iff_dedent, h.trimmed]
  echo h := by rw [echo, echo, h.trimScript.standing]

end

end TaskRunner
