import TaskRunner.Proofs.Session.Stages
import TaskRunner.Proofs.Tree.WellFormed

/-! What the statements of a file define.  Variables, targets and the configuration are bound in the
order of the statements, so the last definition of a name counts.  A file that only defines and
describes starts nothing but what is captured for its configuration. -/

namespace TaskRunner

variable {ω η α β γ δ : Type}

/-! ### Courses -/

namespace Walk

variable {step : α → Walk ω η β} {course : α → Session ω η → List γ} {items : List α}

theorem along_append (step : α → Walk ω η β) (course : α → Session ω η → List γ)
    (items more : List α) (session : Session ω η) :
    along step course (items ++ more) session =
      along step course items session ++
        match each step items session with
        | (.ok _, after) => along step course more after
        | (.error _, _) => [] := by
  induction items generalizing session with
  | nil => rfl
  | cons item rest ih =>
    rw [List.cons_append, along, along, each, List.append_assoc]
    rcases hrun : step item session with ⟨result, middle⟩
    cases result with
    | error halt =>
      rw [bind_error hrun]
      rfl
    | ok value =>
      rw [bind_ok hrun, bind_pure_apply]
      dsimp only
      rw [ih]
      rcases each step rest middle with ⟨results, after⟩
      cases results <;> rfl

theorem along_concat {session after : Session ω η} {values : List β}
    (h : each step items session = (.ok values, after)) (item : α) :
    along step course (items ++ [item]) session =
      along step course items session ++ course item after := by
  rw [along_append, h]
  refine congrArg _ ?_
  show along step course [item] after = course item after
  rw [along]
  split <;> exact List.append_nil _

theorem along_congr {course' : α → Session ω η → List γ}
    (h : ∀ item ∈ items, ∀ session, course item session = course' item session)
    (session : Session ω η) :
    along step course items session = along step course' items session := by
  induction items generalizing session with
  | nil => rfl
  | cons item rest ih =>
    obtain ⟨hitem, hrest⟩ := List.forall_mem_cons.1 h
    rw [along, along, hitem]
    split
    · rw [ih hrest]
    · rfl

theorem exists_of_mem_along {session : Session ω η} {point : γ}
    (h : point ∈ along step course items session) :
    ∃ item ∈ items, ∃ reached, point ∈ course item reached := by
  induction items generalizing session with
  | nil => cases h
  | cons item rest ih =>
    rw [along] at h
    rcases List.mem_append.1 h with hfirst | hlater
    · exact ⟨item, List.mem_cons_self, session, hfirst⟩
    · split at hlater
      · obtain ⟨other, hmem, reached, hpoint⟩ := ih hlater
        exact ⟨other, List.mem_cons_of_mem _ hmem, reached, hpoint⟩
      · cases hlater

theorem flatMap_along (f : γ → List δ) (session : Session ω η) :
    (along step course items session).flatMap f =
      along step (fun item session => (course item session).flatMap f) items session := by
  induction items generalizing session with
  | nil => rfl
  | cons item rest ih =>
    rw [along, along, List.flatMap_append]
    split
    · rw [ih]
    · rfl

/-- What is read off a course is a beginning of what is read off the items, and all of it if the
steps come to their end. -/
theorem along_isPrefix {f : γ → List δ} {g : α → List δ}
    (hbegins : ∀ item ∈ items, ∀ session, (course item session).flatMap f <+: g item)
    (hall : ∀ item ∈ items, ∀ session value, (step item session).1 = .ok value →
      (course item session).flatMap f = g item) (session : Session ω η) :
    (along step course items session).flatMap f <+: items.flatMap g ∧
      ∀ values, (each step items session).1 = .ok values →
        (along step course items session).flatMap f = items.flatMap g := by
  induction items generalizing session with
  | nil => exact ⟨List.prefix_rfl, fun _ _ => rfl⟩
  | cons item rest ih =>
    obtain ⟨hfirst, hmore⟩ := List.forall_mem_cons.1 hbegins
    obtain ⟨hfirstAll, hmoreAll⟩ := List.forall_mem_cons.1 hall
    rw [along, each, List.flatMap_append, List.flatMap_cons]
    rcases hrun : step item session with ⟨result, middle⟩
    cases result with
    | error halt =>
      rw [bind_error hrun, List.flatMap_nil, List.append_nil]
      refine ⟨(hfirst session).trans (List.prefix_append _ _), fun values hends => ?_⟩
      cases hends
    | ok value =>
      obtain ⟨hrest, hrestAll⟩ := ih hmore hmoreAll middle
      rw [bind_ok hrun, bind_pure_apply, hfirstAll session value (by rw [hrun])]
      refine ⟨(List.prefix_append_right_inj _).2 hrest, fun values hends => ?_⟩
      cases hvalues : (each step rest middle).1 with
      | error halt =>
        rw [hvalues] at hends
        cases hends
      | ok others => rw [hrestAll others hvalues]

theorem along_isPrefix_of_eq {f : γ → List δ} {g : α → List δ}
    (h : ∀ item ∈ items, ∀ session, (course item session).flatMap f = g item)
    (session : Session ω η) :
    (along step course items session).flatMap f <+: items.flatMap g ∧
      ∀ values, (each step items session).1 = .ok values →
        (along step course items session).flatMap f = items.flatMap g := by
  refine along_isPrefix (fun item hitem session => ?_) (fun item hitem session _ _ => ?_) session
  · rw [h item hitem session]
  · exact h item hitem session

/-- What ends the steps is found on their course if what ends one of them is. -/
theorem exists_of_each_halt {Q : γ → Halt → Prop}
    (h : ∀ item ∈ items, ∀ session halt, halt? (step item session).1 = some halt →
      ∃ point ∈ course item session, Q point halt) {session : Session ω η} {halt : Halt}
    (hends : halt? (each step items session).1 = some halt) :
    ∃ point ∈ along step course items session, Q point halt := by
  induction items generalizing session with
  | nil => cases hends
  | cons item rest ih =>
    obtain ⟨hitem, hrest⟩ := List.forall_mem_cons.1 h
    rw [each] at hends
    rw [along]
    rcases hrun : step item session with ⟨result, middle⟩
    cases result with
    | error other =>
      rw [bind_error hrun] at hends
      obtain ⟨point, hpoint, hhalt⟩ := hitem session halt (by rw [hrun]; exact hends)
      exact ⟨point, List.mem_append_left _ hpoint, hhalt⟩
    | ok value =>
      rw [bind_ok hrun, bind_pure_apply, halt?_map] at hends
      obtain ⟨point, hpoint, hhalt⟩ := ih hrest hends
      exact ⟨point, List.mem_append_right _ hpoint, hhalt⟩

end Walk

/-! ### What a file defines -/

namespace Statement

/-- The variables that a statement defines, each with its initializer. -/
def definedVariables : Statement → List (String × Statement)
  | .var items => items.map fun item => (item.name, item.initializer)
  | _ => []

/-- The targets that a statement defines, each with its body as it is written. -/
def definedTargets : Statement → List (String × List Statement)
  | .target name body => [(name, body)]
  | _ => []

/-- The names that a statement configures, each with its initializer. -/
def definedSettings : Statement → List (String × Statement)
  | .config items => items.map fun item => (item.name, item.initializer)
  | _ => []

/-- The lines that a statement describes. -/
def describedLines : Statement → List String
  | .describe lines => lines
  | _ => []

/-- The initializer gives a variable that value: a literal its text, and a run itself. -/
inductive Gives : Statement → Value → Prop where
  | literal (value : Literal) : Gives (.literal value) (.text value.value)
  | run (run : Run) : Gives (.run run) (.pending run)

/-- The statement only defines and describes: it is no run, no action and no extension, no value is
walked over, and no name is empty. -/
def OnlyDefines : Statement → Prop
  | .config items => ∀ item ∈ items, item.initializer.IsInitializer
  | .var items => ∀ item ∈ items, item.name ≠ "" ∧ item.initializer.IsInitializer
  | .target name _ => name ≠ ""
  | .describe _ => True
  | .literal _ => True
  | .run _ => False
  | .action _ => False
  | .extend _ => False

theorem isInitializer_iff {statement : Statement} :
    statement.isInitializer = true ↔ statement.IsInitializer := by
  cases statement <;> simp [isInitializer, IsInitializer]

theorem wellFormed_of_mem {p : List Statement → Prop} {statements : List Statement}
    (h : AllWellFormed p statements) : ∀ statement ∈ statements, statement.WellFormed p := by
  induction statements with
  | nil => exact fun _ hmem => nomatch hmem
  | cons statement rest ih => exact List.forall_mem_cons.2 ⟨h.1, ih h.2⟩

theorem binding_of_mem {p : List Statement → Prop} {items : List Binding}
    (h : Binding.AllWellFormed p items) :
    ∀ item ∈ items, item.name ≠ "" ∧ item.initializer.IsInitializer := by
  induction items with
  | nil => exact fun _ hmem => nomatch hmem
  | cons item rest ih =>
    obtain ⟨name, initializer⟩ := item
    exact List.forall_mem_cons.2 ⟨⟨h.1.1.ne_empty, h.1.2.1⟩, ih h.2⟩

end Statement

namespace Session

open Walk

/-- A name that is configured at some point of a walk: its initializer, and the session there. -/
abbrev Setting (ω η : Type) := String × Statement × Session ω η

/-- The initializer gives a configured name that value: a literal itself, and a run the text that is
captured of it. -/
inductive Sets (host : Host ω η) (fuel : Nat) : Statement × Session ω η → Literal → Prop where
  | literal (value : Literal) (session : Session ω η) :
      Sets host fuel (.literal value, session) value
  | run {run : Run} {session after : Session ω η} {text : String}
      (h : capture host fuel run session = (.ok text, after)) :
      Sets host fuel (.run run, session) (.string text)

/-- The names that a statement comes to configure. -/
def settingsOf (host : Host ω η) (fuel : Nat) (statement : Statement) (session : Session ω η) :
    List (Setting ω η) :=
  match statement with
  | .config items =>
    along (configure host fuel (execute host fuel))
      (fun item session => [(item.name, item.initializer, session)]) items session
  | _ => []

/-- The names that the statements of a file come to configure, in the order of the walk. -/
def settingsAlong (host : Host ω η) (fuel : Nat) (statements : List Statement)
    (session : Session ω η) : List (Setting ω η) :=
  along (execute host (fuel + 1)) (settingsOf host fuel) statements session

/-- The scripts that are started to configure a name. -/
def Setting.starts (host : Host ω η) (fuel : Nat) (setting : Setting ω η) : List Start :=
  match setting.2.1 with
  | .run run => captureStarts host fuel run setting.2.2
  | _ => []

/-- The name is to be configured with what is captured of a run, and the capture ends early. -/
def Setting.Fails (host : Host ω η) (fuel : Nat) (setting : Setting ω η) (halt : Halt) : Prop :=
  ∃ run, setting.2.1 = .run run ∧ halt? (capture host fuel run setting.2.2).1 = some halt

/-- From one session to the other, the statements have defined what they define. -/
structure Defines (host : Host ω η) (fuel : Nat) (statements : List Statement)
    (settings : List (Setting ω η)) (session after : Session ω η) : Prop where
  values : Table.Updates Statement.Gives (statements.flatMap Statement.definedVariables)
    session.environment.innermost.values after.environment.innermost.values
  targets : Table.Updates (fun body stored => stored = Statement.sortByStage body)
    (statements.flatMap Statement.definedTargets) session.environment.innermost.targets
    after.environment.innermost.targets
  config : Table.Updates (Sets host fuel) settings session.config after.config

variable {host : Host ω η} {fuel : Nat}

theorem Defines.refl (session : Session ω η) : Defines host fuel [] [] session session where
  values := .refl _ _
  targets := .refl _ _
  config := .refl _ _

theorem Defines.append {statements others : List Statement} {settings more : List (Setting ω η)}
    {session middle after : Session ω η} (h : Defines host fuel statements settings session middle)
    (h' : Defines host fuel others more middle after) :
    Defines host fuel (statements ++ others) (settings ++ more) session after where
  values := by
    rw [List.flatMap_append]
    exact h.values.append h'.values
  targets := by
    rw [List.flatMap_append]
    exact h.targets.append h'.targets
  config := h.config.append h'.config

/-! ### Single definitions -/

section

variable {step : Statement → Walk ω η (Option String)}

theorem of_configure_ok {item : Binding} (hitem : item.initializer.IsInitializer)
    {session after : Session ω η} (h : configure host fuel step item session = (.ok (), after)) :
    ∃ value world, Sets host fuel (item.initializer, session) value ∧
      after = { session with world, config := session.config.insert item.name value } := by
  obtain ⟨name, initializer⟩ := item
  cases initializer with
  | literal value =>
    cases h
    exact ⟨value, session.world, .literal value session, rfl⟩
  | run run =>
    obtain ⟨value, middle, hvalue, hset⟩ := of_bind_ok h
    obtain ⟨text, captured, hcapture, htext⟩ := of_bind_ok hvalue
    obtain ⟨world, hworld⟩ := snd_capture host fuel run session
    rw [hcapture] at hworld
    cases hworld
    cases htext
    cases hset
    exact ⟨.string text, world, .run hcapture, rfl⟩
  | _ => cases hitem

theorem of_configure_error {item : Binding} (hitem : item.initializer.IsInitializer)
    {session : Session ω η} {halt : Halt}
    (h : halt? (configure host fuel step item session).1 = some halt) :
    Setting.Fails host fuel (item.name, item.initializer, session) halt := by
  obtain ⟨name, initializer⟩ := item
  cases initializer with
  | literal value => cases h
  | run run =>
    refine ⟨run, rfl, ?_⟩
    let text : Walk ω η Literal := Walk.bind (capture host fuel run) fun text =>
      Walk.pure (.string text)
    rcases hcapture : capture host fuel run session with ⟨result, after⟩
    cases result with
    | ok captured =>
      have htext : text session = (.ok (.string captured), after) := bind_ok hcapture
      have hset : (configure host fuel step ⟨name, .run run⟩ session).1 = .ok () :=
        congrArg Prod.fst (bind_ok htext)
      rw [hset] at h
      cases h
    | error other =>
      have htext : text session = (.error other, after) := bind_error hcapture
      have hset : (configure host fuel step ⟨name, .run run⟩ session).1 = .error other :=
        congrArg Prod.fst (bind_error htext)
      rw [hset] at h
      exact h
  | _ => cases hitem

theorem bindVariable_ok (step : Statement → Walk ω η (Option String)) {item : Binding}
    (hitem : item.initializer.IsInitializer) (session : Session ω η) :
    ∃ value, item.initializer.Gives value ∧ bindVariable step item session =
      (.ok (), { session with
        environment := session.environment.defineVariable item.name value }) := by
  obtain ⟨name, initializer⟩ := item
  cases initializer with
  | literal value => exact ⟨_, .literal value, rfl⟩
  | run run => exact ⟨_, .run run, rfl⟩
  | _ => cases hitem

theorem updates_configure {items : List Binding}
    (hitems : ∀ item ∈ items, item.initializer.IsInitializer) {session after : Session ω η}
    {values : List Unit} (h : each (configure host fuel step) items session = (.ok values, after)) :
    Table.Updates (Sets host fuel)
        (along (configure host fuel step)
          (fun item session => [(item.name, item.initializer, session)]) items session)
        session.config after.config ∧ after.environment = session.environment := by
  induction items generalizing session values with
  | nil =>
    cases h
    exact ⟨.refl _ _, rfl⟩
  | cons item rest ih =>
    obtain ⟨hitem, hrest⟩ := List.forall_mem_cons.1 hitems
    obtain ⟨_, middle, more, hfirst, hmore, -⟩ := of_each_cons_ok h
    obtain ⟨hupdates, henv⟩ := ih hrest hmore
    rw [along, hfirst]
    obtain ⟨value, world, hvalue, rfl⟩ := of_configure_ok hitem hfirst
    exact ⟨(Table.updates_insert session.config item.name hvalue).append hupdates, henv⟩

theorem each_bindVariable (step : Statement → Walk ω η (Option String)) {items : List Binding}
    (hitems : ∀ item ∈ items, item.name ≠ "" ∧ item.initializer.IsInitializer)
    (session : Session ω η) :
    ∃ values env, each (bindVariable step) items session =
        (.ok values, { session with environment := env }) ∧
      Table.Updates Statement.Gives (items.map fun item => (item.name, item.initializer))
        session.environment.innermost.values env.innermost.values ∧
      env.innermost.targets = session.environment.innermost.targets := by
  induction items generalizing session with
  | nil => exact ⟨[], session.environment, rfl, .refl _ _, rfl⟩
  | cons item rest ih =>
    obtain ⟨⟨hname, hitem⟩, hrest⟩ := List.forall_mem_cons.1 hitems
    obtain ⟨value, hvalue, hfirst⟩ := bindVariable_ok step hitem session
    let bound := session.environment.defineVariable item.name value
    have hbound : bound.innermost =
        { session.environment.innermost with
          values := session.environment.innermost.values.insert item.name value } := by
      simp only [bound, Environment.defineVariable, if_neg hname]
    obtain ⟨values, env, hmore, hupdates, htargets⟩ :=
      ih hrest { session with environment := bound }
    rw [hbound] at hupdates htargets
    refine ⟨() :: values, env, ?_, ?_, htargets⟩
    · rw [each, bind_ok hfirst, bind_ok hmore]
      rfl
    · exact (Table.updates_insert _ item.name hvalue).append hupdates

end

/-! ### Statements that only define -/

theorem defines_execute {statement : Statement} (h : statement.OnlyDefines)
    {session after : Session ω η} {value : Option String}
    (hends : execute host (fuel + 1) statement session = (.ok value, after)) :
    Defines host fuel [statement] (settingsOf host fuel statement session) session after := by
  cases statement with
  | config items =>
    obtain ⟨_, _, heach, hnone⟩ := of_bind_ok hends
    cases hnone
    obtain ⟨hconfig, henv⟩ := updates_configure h heach
    refine ⟨?_, ?_, hconfig⟩ <;> rw [henv] <;> exact .refl _ _
  | var items =>
    obtain ⟨values, env, heach, hvalues, htargets⟩ :=
      each_bindVariable (execute host fuel) h session
    have hvar : execute host (fuel + 1) (.var items) session =
        (.ok none, { session with environment := env }) := bind_ok heach
    cases hends.symm.trans hvar
    refine ⟨?_, ?_, .refl _ _⟩
    · rw [List.flatMap_singleton]
      exact hvalues
    · rw [htargets]
      exact .refl _ _
  | target name body =>
    have hname : name ≠ "" := h
    cases hends
    refine ⟨?_, ?_, .refl _ _⟩ <;> simp only [Environment.defineTarget, if_neg hname]
    · exact .refl _ _
    · exact Table.updates_insert _ name rfl
  | describe lines =>
    have hlines : execute host (fuel + 1) (.describe lines) session = (.ok none, { session with
        queue := session.queue ++ lines.map fun line => .text (descriptionLine line) }) :=
      bind_ok (each_enqueue lines session)
    cases hends.symm.trans hlines
    exact ⟨.refl _ _, .refl _ _, .refl _ _⟩
  | literal value =>
    cases hends
    exact ⟨.refl _ _, .refl _ _, .refl _ _⟩
  | run run => cases h
  | action script => cases h
  | extend paths => cases h

/-- Only what is captured for the configuration can end the walk. -/
theorem fails_of_execute {statement : Statement} (h : statement.OnlyDefines)
    (session : Session ω η) (halt : Halt)
    (hends : halt? (execute host (fuel + 1) statement session).1 = some halt) :
    ∃ setting ∈ settingsOf host fuel statement session, setting.Fails host fuel halt := by
  cases statement with
  | config items =>
    have hconfig : (execute host (fuel + 1) (.config items) session).1 =
        (each (configure host fuel (execute host fuel)) items session).1.map fun _ => none :=
      congrArg Prod.fst (bind_pure_apply _ (fun _ => none) session)
    rw [hconfig, halt?_map] at hends
    exact exists_of_each_halt
      (fun item hitem session halt hhalt =>
        ⟨_, List.mem_singleton.2 rfl, of_configure_error (h item hitem) hhalt⟩) hends
  | var items =>
    obtain ⟨values, env, heach, -⟩ := each_bindVariable (execute host fuel) h session
    have hvar : (execute host (fuel + 1) (.var items) session).1 = .ok none :=
      congrArg Prod.fst (bind_ok heach)
    rw [hvar] at hends
    cases hends
  | target name body => cases hends
  | describe lines =>
    have hlines : (execute host (fuel + 1) (.describe lines) session).1 = .ok none :=
      congrArg Prod.fst (bind_ok (each_enqueue lines session))
    rw [hlines] at hends
    cases hends
  | literal value => cases hends
  | run run => cases h
  | action script => cases h
  | extend paths => cases h

theorem all_isInitializer {items : List Binding}
    (h : ∀ item ∈ items, item.initializer.IsInitializer) :
    items.all fun item => item.initializer.isInitializer :=
  List.all_eq_true.2 fun item hitem => Statement.isInitializer_iff.2 (h item hitem)

/-- The statement leads to no other point. -/
theorem course_of_onlyDefines {statement : Statement} (h : statement.OnlyDefines)
    (files : List String) (session : Session ω η) :
    course host (fuel + 1) files statement session =
      [⟨fuel, files, .statement statement, session⟩] := by
  cases statement with
  | config items => rw [course, along_bindings_eq_nil (all_isInitializer h)]
  | var items =>
    rw [course, along_bindings_eq_nil (all_isInitializer fun item hitem => (h item hitem).2)]
  | run run => cases h
  | action script => cases h
  | extend paths => cases h
  | _ => rfl

/-- All that the statement starts is captured for the configuration. -/
theorem starts_of_onlyDefines {statement : Statement} (h : statement.OnlyDefines)
    (session : Session ω η) :
    starts host (fuel + 1) statement session =
      (settingsOf host fuel statement session).flatMap (Setting.starts host fuel) := by
  cases statement with
  | config items =>
    rw [starts, settingsOf, flatMap_along]
    refine along_congr (fun item hitem session => ?_) session
    have hinitializer := h item hitem
    rw [List.flatMap_singleton, configureStarts, Setting.starts]
    cases hvalue : item.initializer with
    | literal value => rfl
    | run run => rfl
    | _ =>
      rw [hvalue] at hinitializer
      cases hinitializer
  | var items =>
    exact along_bindings_eq_nil (all_isInitializer fun item hitem => (h item hitem).2) session
  | run run => cases h
  | action script => cases h
  | extend paths => cases h
  | _ => rfl

/-! ### Files that only define -/

section

variable {statements : List Statement}

theorem defines_each (h : ∀ statement ∈ statements, statement.OnlyDefines)
    {session after : Session ω η} {values : List (Option String)}
    (hends : each (execute host (fuel + 1)) statements session = (.ok values, after)) :
    Defines host fuel statements (settingsAlong host fuel statements session) session after := by
  induction statements generalizing session values with
  | nil =>
    cases hends
    exact .refl _
  | cons statement rest ih =>
    obtain ⟨hstatement, hrest⟩ := List.forall_mem_cons.1 h
    obtain ⟨_, middle, more, hfirst, hmore, -⟩ := of_each_cons_ok hends
    rw [settingsAlong, along, hfirst]
    exact (defines_execute hstatement hfirst).append (ih hrest hmore)

theorem courseOf_of_onlyDefines (h : ∀ statement ∈ statements, statement.OnlyDefines)
    (session : Session ω η) :
    courseOf host (fuel + 1) statements session =
      along (execute host (fuel + 1))
        (fun statement session => [⟨fuel, [], .statement statement, session⟩]) statements session :=
  along_congr (fun statement hmem => course_of_onlyDefines (h statement hmem) []) session

theorem startsOf_of_onlyDefines (h : ∀ statement ∈ statements, statement.OnlyDefines)
    (session : Session ω η) :
    startsOf host (fuel + 1) statements session =
      (settingsAlong host fuel statements session).flatMap (Setting.starts host fuel) := by
  rw [settingsAlong, flatMap_along]
  exact along_congr (fun statement hmem => starts_of_onlyDefines (h statement hmem)) session

/-- The names are configured in the order in which they are written. -/
theorem settings_isPrefix (host : Host ω η) (fuel : Nat) (statements : List Statement)
    (session : Session ω η) :
    let settings := settingsAlong host fuel statements session
    settings.map (fun setting => (setting.1, setting.2.1)) <+:
        statements.flatMap Statement.definedSettings ∧
      ∀ values, (each (execute host (fuel + 1)) statements session).1 = .ok values →
        settings.map (fun setting => (setting.1, setting.2.1)) =
          statements.flatMap Statement.definedSettings := by
  -- A statement that fails has come to some of its names, and one that does not to all of them.
  have hitems (items : List Binding) (session : Session ω η) :
      (settingsOf host fuel (.config items) session).flatMap
          (fun setting => [(setting.1, setting.2.1)]) <+:
            Statement.definedSettings (.config items) ∧
        ∀ values, (each (configure host fuel (execute host fuel)) items session).1 = .ok values →
          (settingsOf host fuel (.config items) session).flatMap
            (fun setting => [(setting.1, setting.2.1)]) =
              Statement.definedSettings (.config items) := by
    rw [settingsOf, Statement.definedSettings, List.map_eq_flatMap]
    refine along_isPrefix_of_eq (fun item _ session => ?_) session
    rw [List.flatMap_singleton]
  intro settings
  rw [List.map_eq_flatMap]
  refine along_isPrefix (fun statement _ session => ?_)
    (fun statement _ session value hvalue => ?_) session
  · cases statement with
    | config items => exact (hitems items session).1
    | _ => exact List.nil_prefix
  · cases statement with
    | config items =>
      have hconfig : (execute host (fuel + 1) (.config items) session).1 =
          (each (configure host fuel (execute host fuel)) items session).1.map fun _ => none :=
        congrArg Prod.fst (bind_pure_apply _ (fun _ => none) session)
      rw [hconfig] at hvalue
      cases heach : (each (configure host fuel (execute host fuel)) items session).1 with
      | ok values => exact (hitems items session).2 values heach
      | error halt =>
        rw [heach] at hvalue
        cases hvalue
    | _ => rfl

/-- Descriptions are all that is queued. -/
theorem queue_of_onlyDefines (h : ∀ statement ∈ statements, statement.OnlyDefines)
    (session : Session ω η) :
    let walked := each (execute host (fuel + 1)) statements session
    ∃ entries, entries <+: (statements.flatMap Statement.describedLines).map
          (fun line => Entry.text (descriptionLine line)) ∧
      walked.2.queue = session.queue ++ entries ∧
      ∀ values, walked.1 = .ok values →
        entries = (statements.flatMap Statement.describedLines).map
          fun line => .text (descriptionLine line) := by
  intro walked
  have hentries : ∀ statement ∈ statements, ∀ session : Session ω η,
      [(⟨fuel, [], .statement statement, session⟩ : Point ω η)].flatMap (Point.entries host) =
        statement.describedLines.map fun line => .text (descriptionLine line) := by
    intro statement hmem session
    rw [List.flatMap_singleton]
    have hdefines := h statement hmem
    cases statement <;> first | rfl | cases hdefines
  refine ⟨(courseOf host (fuel + 1) statements session).flatMap (Point.entries host), ?_,
    tells_courseOf (isAccount_queue host) (fuel + 1) statements session, fun values hvalues => ?_⟩
  · rw [courseOf_of_onlyDefines h, List.map_flatMap]
    exact (along_isPrefix_of_eq hentries session).1
  · rw [courseOf_of_onlyDefines h, List.map_flatMap]
    exact (along_isPrefix_of_eq hentries session).2 values hvalues

end

end Session

end TaskRunner
