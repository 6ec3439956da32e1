import TaskRunner.Proofs.Session.Alike
import TaskRunner.Proofs.Session.Course
import TaskRunner.Proofs.Session.Resolution

/-! The same statements, walked over from two sessions.  What two sessions have to have in common so
that the walks from them end alike is said as a relation that every step respects; some reasons to
end early may be excused in the first of the walks.  The first use of it is that a walk which has
come to its end does not change if it may go deeper. -/

namespace TaskRunner

variable {ω η α β : Type}

namespace Walk

/-- From related sessions, both steps end alike and in related sessions, unless the first ends early
for a reason that is excused. -/
def Matches (E : Halt → Prop) (R : Session ω η → Session ω η → Prop)
    (step other : Walk ω η α) : Prop :=
  ∀ session session', R session session' →
    (∃ halt, E halt ∧ (step session).1 = .error halt) ∨
      ((step session).1 = (other session').1 ∧ R (step session).2 (other session').2)

section

variable {E : Halt → Prop} {R : Session ω η → Session ω η → Prop}

theorem matches_pure (value : α) :
    Matches E R (Pure.pure value : Walk ω η α) (Pure.pure value) :=
  fun _ _ h => .inr ⟨rfl, h⟩

theorem matches_self (step : Walk ω η α) : Matches E Eq step step := by
  rintro session _ rfl
  exact .inr ⟨rfl, rfl⟩

theorem matches_modify {change : Session ω η → Session ω η}
    (h : ∀ session session', R session session' → R (change session) (change session')) :
    Matches E R (modify change) (modify change) :=
  fun session session' hsession => .inr ⟨rfl, h session session' hsession⟩

theorem matches_ofExcept {found found' : Except Halt α}
    (h : (∃ halt, E halt ∧ found = .error halt) ∨ found = found') :
    Matches E R (ofExcept found) (ofExcept found') :=
  fun _ _ hsession => h.imp id fun heq => ⟨heq, hsession⟩

theorem Matches.bind {step other : Walk ω η α} {next after : α → Walk ω η β}
    (h : Matches E R step other) (hnext : ∀ value, Matches E R (next value) (after value)) :
    Matches E R (step >>= next) (other >>= after) := by
  intro session session' hsession
  show (∃ halt, E halt ∧ (Walk.bind step next session).1 = .error halt) ∨
    ((Walk.bind step next session).1 = (Walk.bind other after session').1 ∧
      R (Walk.bind step next session).2 (Walk.bind other after session').2)
  have hfirst := h session session' hsession
  rcases hstep : step session with ⟨result, middle⟩
  rcases hother : other session' with ⟨result', middle'⟩
  rw [hstep, hother] at hfirst
  rcases hfirst with ⟨halt, hexcused, hhalt⟩ | ⟨hresult, hmiddle⟩
  · obtain rfl : result = .error halt := hhalt
    exact .inl ⟨halt, hexcused, by rw [bind_error hstep]⟩
  · obtain rfl : result = result' := hresult
    cases result with
    | error halt =>
      rw [bind_error hstep, bind_error hother]
      exact .inr ⟨rfl, hmiddle⟩
    | ok value =>
      rw [bind_ok hstep, bind_ok hother]
      exact hnext value middle middle' hmiddle

theorem matches_each {step other : α → Walk ω η β}
    (h : ∀ item, Matches E R (step item) (other item)) (items : List α) :
    Matches E R (each step items) (each other items) := by
  induction items with
  | nil => exact matches_pure []
  | cons item rest ih => exact (h item).bind fun _ => ih.bind fun _ => matches_pure _

theorem Matches.between {first last : Session ω η → Session ω η} {step other : Walk ω η α}
    (hfirst : ∀ session session', R session session' → R (first session) (first session'))
    (hlast : ∀ session session', R session session' → R (last session) (last session'))
    (h : Matches E R step other) :
    Matches E R (between first last step) (between first last other) := by
  intro session session' hsession
  exact (h _ _ (hfirst session session' hsession)).imp id
    fun ⟨hresult, hafter⟩ => ⟨hresult, hlast _ _ hafter⟩

end

/-- The step without its value. -/
def ending (step : Walk ω η α) : Walk ω η Unit :=
  bind step fun _ => pure ()

theorem ending_of_ok {step : Walk ω η α} {session after : Session ω η} {value : α}
    (h : step session = (.ok value, after)) : ending step session = (.ok (), after) := by
  rw [ending, bind_ok h, pure]

theorem ending_of_error {step : Walk ω η α} {session after : Session ω η} {halt : Halt}
    (h : step session = (.error halt, after)) : ending step session = (.error halt, after) := by
  rw [ending, bind_error h]

/-- The steps for two lists are those for the first and then those for the second. -/
theorem each_append (step : α → Walk ω η β) (items more : List α) :
    each step (items ++ more) =
      bind (each step items) fun values =>
        bind (each step more) fun others => pure (values ++ others) := by
  induction items with
  | nil =>
    funext session
    show each step more session = bind (each step more) _ session
    rcases hmore : each step more session with ⟨result, after⟩
    cases result with
    | error halt => rw [bind_error hmore]
    | ok others => rw [bind_ok hmore, pure, List.nil_append]
  | cons item rest ih =>
    funext session
    rw [List.cons_append, each, each, ih]
    simp only [bind]
    rcases step item session with ⟨result, middle⟩
    cases result with
    | error halt => rfl
    | ok value =>
      dsimp only
      rcases each step rest middle with ⟨results, last⟩
      cases results with
      | error halt => rfl
      | ok values =>
        dsimp only [pure]
        rcases each step more last with ⟨others, after⟩
        cases others <;> rfl

theorem ending_bind_bind {γ : Type} (step : Walk ω η α) (other : Walk ω η β) (f : α → β → γ) :
    ending (bind step fun a => bind other fun b => pure (f a b)) =
      bind (ending step) fun _ => ending other := by
  funext session
  rcases hfirst : step session with ⟨result, middle⟩
  cases result with
  | error halt => rw [bind_error (ending_of_error hfirst), ending, bind_error (bind_error hfirst)]
  | ok a =>
    rw [bind_ok (ending_of_ok hfirst), ending]
    rcases hother : other middle with ⟨result, after⟩
    cases result with
    | error halt =>
      rw [ending_of_error hother, bind_error ((bind_ok hfirst).trans (bind_error hother))]
    | ok b => rw [ending_of_ok hother, bind_ok ((bind_ok hfirst).trans (bind_ok hother)), pure]

theorem ending_each_cons (step : α → Walk ω η β) (item : α) (rest : List α) :
    ending (each step (item :: rest)) =
      bind (ending (step item)) fun _ => ending (each step rest) := by
  rw [each, ending_bind_bind]

theorem ending_each_append (step : α → Walk ω η β) (items more : List α) :
    ending (each step (items ++ more)) =
      bind (ending (each step items)) fun _ => ending (each step more) := by
  rw [each_append, ending_bind_bind]

/-- The relation respects every change that a walk makes, and related sessions show a walk the same:
the same environment, the same directory, and the same files and processes.  What is excused may
keep the first session from reading in a file, or from starting a script. -/
structure IsMatching (host : Host ω η) (E : Halt → Prop)
    (R : Session ω η → Session ω η → Prop) : Prop where
  environment {s t : Session ω η} : R s t → s.environment = t.environment
  directory {s t : Session ω η} : R s t → Path.parent s.origin = Path.parent t.origin
  queued {s t : Session ω η} (text : String) : R s t →
    R { s with queue := s.queue ++ [.text text] } { t with queue := t.queue ++ [.text text] }
  ran (script : String) (exports : List (String × String)) :
    Matches E R (Session.runScript host script exports) (Session.runScript host script exports)
  launched (script : String) (exports : List (String × String)) :
    Matches E R
      (do
        let process ← Session.startScript host script exports
        Session.enqueue (.process script process))
      (do
        let process ← Session.startScript host script exports
        Session.enqueue (.process script process))
  configured {s t : Session ω η} (name : String) (value : Literal) : R s t →
    R { s with config := s.config.insert name value }
      { t with config := t.config.insert name value }
  rebound {s t : Session ω η} (environment : Environment) : R s t →
    R { s with environment } { t with environment }
  opened {s t : Session ω η} (path : String) : R s t →
    (∃ error, E (.error error) ∧ Session.opened host path s = .error error) ∨
      Agree (fun found other => found.1 = other.1 ∧ R found.2 other.2)
        (Session.opened host path s) (Session.opened host path t)
  closed {s t inside inside' : Session ω η} : R s t → R inside inside' →
    R { inside with origin := s.origin, chain := s.chain }
      { inside' with origin := t.origin, chain := t.chain }

end Walk

namespace Session

open Walk

section

variable {host : Host ω η} {E : Halt → Prop} {R : Session ω η → Session ω η → Prop}
  {fuel more : Nat}

theorem matches_environment (h : IsMatching host E R) :
    Matches E R (Walk.get environment) (Walk.get environment) :=
  fun _ _ hsession => .inr ⟨congrArg Except.ok (h.environment hsession), hsession⟩

theorem matches_capture (h : IsMatching host E R) (hle : fuel ≤ more)
    (hdeeper : fuel < more → E .exhausted) (run : Run) :
    Matches E R (capture host fuel run) (capture host more run) := by
  refine (matches_environment h).bind fun env => ?_
  refine (matches_ofExcept ?_).bind fun scripts =>
    (matches_each (fun script => h.ran script _) scripts).bind fun _ => matches_pure _
  rcases hle.eq_or_lt with rfl | hlt
  · exact .inr rfl
  by_cases hends : env.scriptsOf fuel run = .error .exhausted
  · exact .inl ⟨_, hdeeper hlt, hends⟩
  · exact .inr (Environment.scriptsOf_eq_of_le hle hends).symm

theorem matches_resolve (h : IsMatching host E R) (hle : fuel ≤ more)
    (hdeeper : fuel < more → E .exhausted) (entry : String × Value) :
    Matches E R (resolve host fuel entry) (resolve host more entry) := by
  unfold resolve
  cases entry.2 with
  | text text => exact matches_pure _
  | pending run => exact (matches_capture h hle hdeeper run).bind fun _ => matches_pure _

theorem matches_enqueue (h : IsMatching host E R) (text : String) :
    Matches E R (enqueue (.text text)) (enqueue (.text text)) :=
  matches_modify fun _ _ => h.queued text

theorem matches_action (h : IsMatching host E R) (hle : fuel ≤ more)
    (hdeeper : fuel < more → E .exhausted) (script : String) :
    Matches E R (action host fuel script) (action host more script) := by
  unfold action
  by_cases hscript : trimScript script = ""
  · rw [if_pos hscript, if_pos hscript]
    exact matches_pure ()
  · rw [if_neg hscript, if_neg hscript]
    refine (matches_environment h).bind fun env => ?_
    refine (matches_each (matches_resolve h hle hdeeper) env.visible.entries).bind
      fun exports => ?_
    exact (matches_enqueue h _).bind fun _ => h.launched (trimScript script) exports

variable {step other : Statement → Walk ω η (Option String)}

theorem matches_configure (h : IsMatching host E R) (hle : fuel ≤ more)
    (hdeeper : fuel < more → E .exhausted)
    (hstep : ∀ statement, Matches E R (step statement) (other statement)) (item : Binding) :
    Matches E R (configure host fuel step item) (configure host more other item) := by
  have hset (value : Literal) : Matches E R
      (Walk.modify fun session : Session ω η =>
        { session with config := session.config.insert item.name value })
      (Walk.modify fun session : Session ω η =>
        { session with config := session.config.insert item.name value }) :=
    matches_modify fun _ _ => h.configured item.name value
  unfold configure
  cases item.initializer with
  | literal value => exact (matches_pure value).bind hset
  | run run =>
    exact ((matches_capture h hle hdeeper run).bind fun _ => matches_pure _).bind hset
  | _ => exact (hstep _).bind fun _ => (matches_pure _).bind hset

theorem matches_rebind (h : IsMatching host E R) (change : Environment → Environment) :
    Matches E R
      (Walk.modify fun session : Session ω η =>
        { session with environment := change session.environment })
      (Walk.modify fun session : Session ω η =>
        { session with environment := change session.environment }) := by
  refine matches_modify fun session session' hsession => ?_
  rw [← h.environment hsession]
  exact h.rebound _ hsession

theorem matches_bindVariable (h : IsMatching host E R)
    (hstep : ∀ statement, Matches E R (step statement) (other statement)) (item : Binding) :
    Matches E R (bindVariable step item) (bindVariable other item) := by
  have hset (value : Value) :=
    matches_rebind h fun environment => environment.defineVariable item.name value
  unfold bindVariable
  cases item.initializer with
  | literal value => exact (matches_pure _).bind hset
  | run run => exact (matches_pure _).bind hset
  | _ => exact (hstep _).bind fun _ => (matches_pure _).bind hset

theorem matches_runBlock (h : IsMatching host E R)
    (hstep : ∀ statement, Matches E R (step statement) (other statement)) (run : Run) :
    Matches E R (runBlock step run) (runBlock other run) := by
  have hchange (change : Environment → Environment) (session session' : Session ω η)
      (hsession : R session session') :
      R { session with environment := change session.environment }
        { session' with environment := change session'.environment } := by
    rw [← h.environment hsession]
    exact h.rebound _ hsession
  refine (matches_environment h).bind fun env => ?_
  refine (matches_ofExcept (.inr rfl)).bind fun target => ?_
  exact (Matches.between (hchange Environment.push) (hchange Environment.pop)
    (matches_each hstep _)).bind fun _ => matches_pure ()

/-- Where the same file is found, and both sessions refuse it or neither does, both read in the same
or neither does. -/
theorem agree_opened {path : String} {session other : Session ω η}
    (hkey : host.canonicalPath session.world path = host.canonicalPath other.world path)
    (htext : host.readText path session.world = host.readText path other.world)
    (hrefused : session.chain.any (Path.same (host.canonicalPath other.world path)) =
      other.chain.any (Path.same (host.canonicalPath other.world path)))
    (hinside : R
      { session with
        origin := path, chain := session.chain ++ [host.canonicalPath other.world path] }
      { other with
        origin := path, chain := other.chain ++ [host.canonicalPath other.world path] }) :
    Agree (fun found found' => found.1 = found'.1 ∧ R found.2 found'.2)
      (opened host path session) (opened host path other) := by
  unfold opened
  dsimp only
  rw [hkey, htext, hrefused]
  split
  · exact .error _
  cases host.readText path other.world with
  | error fault => exact .error _
  | ok source =>
    dsimp only
    cases parseSource source with
    | error error => exact .error _
    | ok statements => exact .ok ⟨rfl, hinside⟩

theorem matches_readIn (h : IsMatching host E R)
    (hstep : ∀ statement, Matches E R (execute host fuel statement) (execute host more statement))
    (path : String) :
    Matches E R (readIn host (execute host fuel) path) (readIn host (execute host more) path) := by
  intro session session' hsession
  have hopened := h.opened path hsession
  rcases hfirst : opened host path session with error | ⟨statements, inside⟩
  · rw [readIn_of_opened_error hfirst]
    rw [hfirst] at hopened
    rcases hopened with ⟨error', hexcused, heq⟩ | hagree
    · cases heq
      exact .inl ⟨_, hexcused, rfl⟩
    · generalize hother : opened host path session' = found at hagree
      cases hagree
      rw [readIn_of_opened_error hother]
      exact .inr ⟨rfl, hsession⟩
  · rw [readIn_execute_of_opened_ok hfirst]
    rw [hfirst] at hopened
    rcases hopened with ⟨_, _, heq⟩ | hagree
    · cases heq
    generalize hother : opened host path session' = found at hagree
    cases hagree with
    | @ok _ found hfound =>
      obtain ⟨statements', inside'⟩ := found
      obtain ⟨rfl, hinside⟩ := hfound
      rw [readIn_execute_of_opened_ok hother]
      rcases matches_each hstep statements inside inside' hinside with
        ⟨halt, hexcused, hhalt⟩ | ⟨hresult, hafter⟩
      · exact .inl ⟨halt, hexcused, by rw [hhalt]; rfl⟩
      · exact .inr ⟨by rw [hresult], h.closed hsession hafter⟩

/-- A path leads from the directory of the file that is being read. -/
theorem extendBy_of_text {path : Literal} {relative : String} (hpath : path.text? = some relative)
    (step : Statement → Walk ω η (Option String)) (session : Session ω η) :
    extendBy host step path session =
      readIn host step (Path.join (Path.parent session.origin) relative) session := by
  rw [extendBy, hpath]
  rfl

theorem matches_extendBy (h : IsMatching host E R)
    (hstep : ∀ statement, Matches E R (execute host fuel statement) (execute host more statement))
    (path : Literal) :
    Matches E R (extendBy host (execute host fuel) path)
      (extendBy host (execute host more) path) := by
  intro session session' hsession
  cases hpath : path.text? with
  | none =>
    simp only [extendBy, hpath]
    exact .inr ⟨rfl, hsession⟩
  | some relative =>
    rw [extendBy_of_text hpath, extendBy_of_text hpath, ← h.directory hsession]
    exact matches_readIn h hstep _ session session' hsession

/-- The walks over a statement from related sessions end alike, and in related sessions, unless the
first ends for an excused reason.  The second may go deeper if it is excused that the first may
not. -/
theorem matches_execute (h : IsMatching host E R) (hle : fuel ≤ more)
    (hdeeper : fuel < more → E .exhausted) (statement : Statement) :
    Matches E R (execute host fuel statement) (execute host more statement) := by
  -- The induction is on the fuel of the first walk.  When it has none left, either the second has
  -- none left either, or the first is excused.
  induction fuel generalizing more statement with
  | zero =>
    rcases hle.eq_or_lt with rfl | hlt
    · exact matches_ofExcept (.inr rfl)
    · exact fun _ _ _ => .inl ⟨_, hdeeper hlt, rfl⟩
  | succ fuel ih =>
    obtain ⟨more, rfl⟩ : ∃ less, more = less + 1 := Nat.exists_eq_succ_of_ne_zero (by omega)
    have hle : fuel ≤ more := Nat.le_of_succ_le_succ hle
    have hdeeper : fuel < more → E .exhausted := fun hlt => hdeeper (Nat.succ_lt_succ hlt)
    have hstep (statement : Statement) :
        Matches E R (execute host fuel statement) (execute host more statement) :=
      ih hle hdeeper statement
    have hnone (_ : List Unit) : Matches E R (Pure.pure (none : Option String)) (Pure.pure none) :=
      matches_pure none
    cases statement with
    | config items =>
      exact (matches_each (matches_configure h hle hdeeper hstep) items).bind hnone
    | var items => exact (matches_each (matches_bindVariable h hstep) items).bind hnone
    | target name body =>
      exact (matches_rebind h fun environment =>
        environment.defineTarget name (Statement.sortByStage body)).bind fun _ => matches_pure none
    | run run => exact (matches_runBlock h hstep run).bind fun _ => matches_pure none
    | action script =>
      exact (matches_action h hle hdeeper script).bind fun _ => matches_pure none
    | describe lines =>
      exact (matches_each (fun _ => matches_enqueue h _) lines).bind hnone
    | extend paths => exact (matches_each (matches_extendBy h hstep) paths).bind hnone
    | literal value => exact matches_pure _

end

/-! ### Walks that may go deeper -/

theorem isMatching_eq (host : Host ω η) : IsMatching host (· = .exhausted) Eq where
  environment h := h ▸ rfl
  directory h := h ▸ rfl
  queued _ h := h ▸ rfl
  ran _ _ := matches_self _
  launched _ _ := matches_self _
  configured _ _ h := h ▸ rfl
  rebound _ h := h ▸ rfl
  opened {s t} path h := by
    subst h
    cases opened host path s with
    | ok found => exact .inr (.ok ⟨rfl, rfl⟩)
    | error error => exact .inr (.error error)
  closed h hinside := h ▸ hinside ▸ rfl

/-- A walk that has not run out of fuel is the same with more of it. -/
theorem each_execute_of_le {host : Host ω η} {fuel more : Nat} (hle : fuel ≤ more)
    {statements : List Statement} {session : Session ω η}
    (h : (Walk.each (execute host fuel) statements session).1 ≠ .error .exhausted) :
    Walk.each (execute host more) statements session =
      Walk.each (execute host fuel) statements session := by
  rcases matches_each (matches_execute (isMatching_eq host) hle fun _ => rfl) statements session
    session rfl with ⟨halt, rfl, hhalt⟩ | ⟨hresult, hafter⟩
  · exact absurd hhalt h
  · exact (Prod.ext hresult hafter).symm

end Session

end TaskRunner
