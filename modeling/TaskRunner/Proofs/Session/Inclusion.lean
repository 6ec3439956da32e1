import TaskRunner.Proofs.Session.Chain
import TaskRunner.Proofs.Session.Matching
import TaskRunner.Proofs.Session.Queue
import TaskRunner.Proofs.Scan.Symbols
import TaskRunner.Proofs.Text.Directory

/-! Files that are read in, and their statements written in place.  A walk sees of the file that is
being read no more than its directory, and of the chain no more than which files are refused.  So a
file of the same directory does what its statements do where the extension stands, unless the
evaluation comes to a file that is being read. -/

namespace TaskRunner

variable {ω η : Type}

/-- A file is extended in a circle. -/
def Halt.IsCircular (halt : Halt) : Prop :=
  ∃ path, halt = .error (.circularExtends path)

namespace Walk

/-- Steps that come to their end are followed by the course of the next one. -/
theorem mem_along_of_each_ok {α β γ : Type} {step : α → Walk ω η β}
    {course : α → Session ω η → List γ} {items more : List α} {item : α}
    {session after : Session ω η} {values : List β} {x : γ}
    (h : each step items session = (.ok values, after)) (hx : x ∈ course item after) :
    x ∈ along step course (items ++ item :: more) session := by
  induction items generalizing session values with
  | nil =>
    cases h
    exact List.mem_append_left _ hx
  | cons first rest ih =>
    obtain ⟨value, middle, others, hfirst, hrest, -⟩ := of_each_cons_ok h
    rw [List.cons_append, along, hfirst]
    exact List.mem_append_right _ (ih hrest)

end Walk

namespace Session

open Walk

/-! ### Sessions in one directory -/

/-- The second session is in the directory of the first, among no other files, and is the same in
everything else. -/
structure Beside (session other : Session ω η) : Prop where
  directory : Path.parent session.origin = Path.parent other.origin
  chain : other.chain ⊆ session.chain
  environment : session.environment = other.environment
  config : session.config = other.config
  queue : session.queue = other.queue
  world : session.world = other.world

theorem Beside.shell {session other : Session ω η} (h : Beside session other) :
    session.shell = other.shell := by
  rw [Session.shell, Session.shell, h.config]

/-- Back at the same file, the sessions are the same. -/
theorem Beside.eq_of_same_place {session other : Session ω η} (h : Beside session other) :
    { session with origin := other.origin, chain := other.chain } = other := by
  obtain ⟨-, -, henvironment, hconfig, hqueue, hworld⟩ := h
  rw [henvironment, hconfig, hqueue, hworld]

theorem matches_startScript_beside (host : Host ω η) (script : String)
    (exports : List (String × String)) :
    Matches Halt.IsCircular Beside (startScript host script exports)
      (startScript host script exports) := by
  intro session other h
  unfold startScript
  rw [h.shell, h.world]
  rcases host.start ⟨other.shell, script, exports⟩ other.world with ⟨started, world⟩
  cases started <;> exact .inr ⟨rfl, { h with world := rfl }⟩

/-- Where files are read from one directory, the same files are found, but the first session may
refuse more of them. -/
theorem Beside.opened {session other : Session ω η} (h : Beside session other) (host : Host ω η)
    (path : String) :
    (∃ error, Halt.IsCircular (.error error) ∧ Session.opened host path session = .error error) ∨
      Agree (fun found found' => found.1 = found'.1 ∧ Beside found.2 found'.2)
        (Session.opened host path session) (Session.opened host path other) := by
  set key := host.canonicalPath other.world path with hkey
  by_cases hrefused : session.chain.any (Path.same key) = true
  · rw [hkey, ← h.world] at hrefused
    exact .inl ⟨_, ⟨path, rfl⟩, if_pos hrefused⟩
  have hfree : ¬other.chain.any (Path.same key) = true := fun hany => by
    obtain ⟨file, hfile, hsame⟩ := List.any_eq_true.1 hany
    exact hrefused (List.any_eq_true.2 ⟨file, h.chain hfile, hsame⟩)
  right
  refine agree_opened (by rw [h.world]) (by rw [h.world])
    ((Bool.eq_false_of_not_eq_true hrefused).trans (Bool.eq_false_of_not_eq_true hfree).symm) ?_
  exact { h with
    directory := rfl
    chain := List.append_subset.2
      ⟨List.subset_append_of_subset_left _ h.chain, List.subset_append_right _ _⟩ }

theorem isMatching_beside (host : Host ω η) : IsMatching host Halt.IsCircular Beside where
  environment h := h.environment
  directory h := h.directory
  queued text h := { h with queue := by rw [h.queue] }
  ran script exports := by
    refine (matches_startScript_beside host script exports).bind
      fun process session session' h => .inr ?_
    simp only [finish, h.world]
    exact ⟨trivial, { h with world := rfl }⟩
  launched script exports := by
    refine (matches_startScript_beside host script exports).bind
      fun process => matches_modify fun session session' h => ?_
    exact { h with queue := by rw [h.queue] }
  configured name value h := { h with config := by rw [h.config] }
  rebound environment h := { h with environment := rfl }
  opened path h := h.opened host path
  closed h hinside := { hinside with directory := h.directory, chain := h.chain }

/-! ### The statements of a file in its place -/

variable {host : Host ω η} {path : Literal} {name source : String} {inside : List Statement}

/-- An extension by one file reads in the file. -/
theorem execute_extend_single (host : Host ω η) (hpath : path.text? = some name) (fuel : Nat)
    (session : Session ω η) :
    execute host (fuel + 1) (.extend [path]) session =
      ((readIn host (execute host fuel) (Path.join (Path.parent session.origin) name) session).1.map
          fun _ => none,
        (readIn host (execute host fuel) (Path.join (Path.parent session.origin) name)
          session).2) := by
  show Walk.bind (Walk.bind (extendBy host (execute host fuel) path) _) _ session = _
  simp only [Walk.bind, extendBy_of_text hpath]
  rcases readIn host (execute host fuel) (Path.join (Path.parent session.origin) name) session with
    ⟨result, after⟩
  cases result <;> rfl

/-- An extension by a file of the same directory ends in a circle, or does what the statements of
the file do. -/
theorem execute_extend_sibling (hpath : path.text? = some name) (hname : Path.IsName name)
    {session : Session ω η}
    (hread : host.readText (Path.join (Path.parent session.origin) name) session.world = .ok source)
    (hparse : parseSource source = .ok inside) (fuel : Nat) :
    (∃ halt : Halt, halt.IsCircular ∧
        (ending (execute host (fuel + 1) (.extend [path])) session).1 = .error halt) ∨
      ending (execute host (fuel + 1) (.extend [path])) session =
        ending (each (execute host fuel) inside) session := by
  have hsingle := execute_extend_single host hpath fuel session
  set file := Path.join (Path.parent session.origin) name with hfile
  rcases hopened : opened host file session with error | ⟨found, within⟩
  · -- The file can be read and parsed, so it is refused.
    left
    rw [readIn_of_opened_error hopened] at hsingle
    rw [ending_of_error hsingle]
    unfold opened at hopened
    rw [hread] at hopened
    dsimp only at hopened
    rw [hparse] at hopened
    split at hopened
    · cases hopened
      exact ⟨_, ⟨file, rfl⟩, rfl⟩
    · cases hopened
  · obtain ⟨-, ⟨text, htext, hfound⟩, rfl⟩ := of_opened_ok hopened
    obtain rfl : source = text := Except.ok.inj (hread.symm.trans htext)
    obtain rfl : inside = found := Except.ok.inj (hparse.symm.trans hfound)
    rw [readIn_execute_of_opened_ok hopened] at hsingle
    have hbeside : Beside { session with
        origin := file, chain := session.chain ++ [host.canonicalPath session.world file] }
        session :=
      { directory := Path.parent_join_parent hname session.origin
        chain := List.subset_append_left _ _
        environment := rfl
        config := rfl
        queue := rfl
        world := rfl }
    rcases matches_each (fun statement =>
      matches_execute (isMatching_beside host) (le_refl fuel)
        (fun hlt => absurd hlt (lt_irrefl fuel)) statement) inside _ _ hbeside with
      ⟨halt, hcircular, hhalt⟩ | ⟨hresult, hafter⟩
    · rw [hhalt] at hsingle
      exact .inl ⟨halt, hcircular, congrArg Prod.fst (ending_of_error hsingle)⟩
    · have hcontinues := continues_each host fuel inside session
      have hplace := hafter.eq_of_same_place
      rw [hcontinues.origin, hcontinues.chain] at hplace
      rw [hresult, hplace] at hsingle
      right
      rcases hinside : each (execute host fuel) inside session with ⟨result, after⟩
      rw [hinside] at hsingle
      cases result with
      | error halt => rw [ending_of_error hsingle, ending_of_error hinside]
      | ok values => rw [ending_of_ok hsingle, ending_of_ok hinside]

/-- The walk over statements with those of a file among them, which goes no deeper there than an
extension by the file would. -/
def inPlace (host : Host ω η) (fuel : Nat) (pre inside post : List Statement) : Walk ω η Unit :=
  Walk.bind (ending (each (execute host (fuel + 1)) pre)) fun _ =>
    Walk.bind (ending (each (execute host fuel) inside)) fun _ =>
      ending (each (execute host (fuel + 1)) post)

/-- Statements with an extension by a file of the same directory among them end in a circle, or do
what they do with the statements of the file in place of it. -/
theorem ending_extend_sibling {pre post : List Statement} (hpath : path.text? = some name)
    (hname : Path.IsName name) {session : Session ω η}
    (hread : host.readText (Path.join (Path.parent session.origin) name) session.world = .ok source)
    (hparse : parseSource source = .ok inside) (fuel : Nat)
    (hfiles : ∀ point ∈ courseOf host (fuel + 1) (pre ++ .extend [path] :: post) session,
      host.SameFiles session.world point.session.world) :
    (∃ halt : Halt, halt.IsCircular ∧
        (ending (each (execute host (fuel + 1)) (pre ++ .extend [path] :: post)) session).1 =
          .error halt) ∨
      ending (each (execute host (fuel + 1)) (pre ++ .extend [path] :: post)) session =
        inPlace host fuel pre inside post session := by
  rw [ending_each_append, ending_each_cons, inPlace]
  rcases hpre : each (execute host (fuel + 1)) pre session with ⟨result, middle⟩
  cases result with
  | error halt => exact .inr (by rw [bind_error (ending_of_error hpre),
      bind_error (ending_of_error hpre)])
  | ok values =>
    rw [bind_ok (ending_of_ok hpre), bind_ok (ending_of_ok hpre)]
    have horigin : middle.origin = session.origin := by
      have hcontinues := continues_each host (fuel + 1) pre session
      rw [hpre] at hcontinues
      exact hcontinues.origin
    have hsame : host.SameFiles session.world middle.world :=
      hfiles ⟨fuel, [], .statement (.extend [path]), middle⟩
        (mem_along_of_each_ok hpre (by rw [course]; exact List.mem_cons_self))
    have hthere : host.readText (Path.join (Path.parent middle.origin) name) middle.world =
        .ok source := by
      rw [horigin, ← hsame.readText, hread]
    rcases execute_extend_sibling hpath hname hthere hparse fuel with
      ⟨halt, hcircular, hhalt⟩ | heq
    · exact .inl ⟨halt, hcircular, by rw [bind_error (Prod.ext hhalt rfl)]⟩
    · exact .inr (by rw [Walk.bind, heq, ← Walk.bind])

/-- As far as they go, the statements are walked over the same with the fuel of an extension or a
bit more or less. -/
theorem matches_inPlace (host : Host ω η) (fuel : Nat) (pre inside post : List Statement) :
    Matches (· = .exhausted) Eq (ending (each (execute host fuel) (pre ++ inside ++ post)))
        (inPlace host fuel pre inside post) ∧
      Matches (· = .exhausted) Eq (inPlace host fuel pre inside post)
        (ending (each (execute host (fuel + 1)) (pre ++ inside ++ post))) := by
  have hmore {less more : Nat} (hle : less ≤ more) (statements : List Statement) :
      Matches (· = .exhausted) Eq (ending (each (execute host less) statements) : Walk ω η Unit)
        (ending (each (execute host more) statements)) :=
    (matches_each (matches_execute (isMatching_eq host) hle fun _ => rfl) statements).bind
      fun _ => matches_pure ()
  rw [inPlace, List.append_assoc, ending_each_append, ending_each_append, ending_each_append,
    ending_each_append]
  exact
    ⟨(hmore (Nat.le_succ _) pre).bind fun _ =>
      (hmore le_rfl inside).bind fun _ => hmore (Nat.le_succ _) post,
    (hmore le_rfl pre).bind fun _ =>
      (hmore (Nat.le_succ _) inside).bind fun _ => hmore le_rfl post⟩

/-- The evaluations write the same, end in the same session, and end in the same error or else with
the one list of results and with the other. -/
structure EndsLike (values others : List (Option String)) (done other : Evaluation ω η) : Prop where
  sink : done.sink = other.sink
  session : done.session = other.session
  result : ∃ ended : Except RunError Unit,
    done.result = ended.map (fun _ => values) ∧ other.result = ended.map fun _ => others

/-- Statements over which the walks end the same are evaluated the same. -/
theorem evaluate_of_ending_eq {fuel more : Nat} {statements others : List Statement}
    {session : Session ω η}
    (h : ending (each (execute host fuel) statements) session =
      ending (each (execute host more) others) session) {sink : Sink} {done : Evaluation ω η}
    (hdone : evaluate host fuel statements session sink = some done) :
    ∃ other, evaluate host more others session sink = some other ∧
      EndsLike (statements.map Statement.value?) (others.map Statement.value?) done other := by
  rcases hwalk : each (execute host fuel) statements session with ⟨result, after⟩
  rcases hother : each (execute host more) others session with ⟨result', after'⟩
  cases result with
  | error halt =>
    rw [ending_of_error hwalk] at h
    cases result' with
    | ok values => rw [ending_of_ok hother] at h; cases h
    | error halt' =>
      rw [ending_of_error hother] at h
      cases h
      cases halt with
      | exhausted => rw [evaluate_of_each_exhausted hwalk] at hdone; cases hdone
      | error error =>
        rw [evaluate_of_each_error hwalk] at hdone
        cases hdone
        exact ⟨_, evaluate_of_each_error hother sink, rfl, rfl, .error error, rfl, rfl⟩
  | ok values =>
    rw [ending_of_ok hwalk] at h
    cases result' with
    | error halt' => rw [ending_of_error hother] at h; cases h
    | ok values' =>
      rw [ending_of_ok hother] at h
      cases h
      obtain rfl := values_of_each_ok hwalk
      obtain rfl := values_of_each_ok hother
      rw [evaluate_of_each_ok hwalk] at hdone
      cases hdone
      exact ⟨_, evaluate_of_each_ok hother sink, rfl, rfl, _, rfl, rfl⟩

theorem EndsLike.symm {values others : List (Option String)} {done other : Evaluation ω η}
    (h : EndsLike values others done other) : EndsLike others values other done := by
  obtain ⟨hsink, hsession, ended, hresult, hresult'⟩ := h
  exact ⟨hsink.symm, hsession.symm, ended, hresult', hresult⟩

/-- There is an evaluation unless the walk runs out of fuel. -/
theorem evaluate_eq_none_iff {fuel : Nat} {statements : List Statement} {session : Session ω η}
    {sink : Sink} :
    evaluate host fuel statements session sink = none ↔
      (ending (each (execute host fuel) statements) session).1 = .error .exhausted := by
  rcases hwalk : each (execute host fuel) statements session with ⟨result, after⟩
  match result with
  | .ok values => simp [ending_of_ok hwalk, evaluate_of_each_ok hwalk]
  | .error (.error error) => simp [ending_of_error hwalk, evaluate_of_each_error hwalk]
  | .error .exhausted => simp [ending_of_error hwalk, evaluate_of_each_exhausted hwalk]

theorem result_of_ending_error {fuel : Nat} {statements : List Statement} {session : Session ω η}
    {sink : Sink} {done : Evaluation ω η} {error : RunError}
    (h : (ending (each (execute host fuel) statements) session).1 = .error (.error error))
    (hdone : evaluate host fuel statements session sink = some done) :
    done.result = .error error := by
  rcases hwalk : each (execute host fuel) statements session with ⟨result, after⟩
  cases result with
  | ok values => rw [ending_of_ok hwalk] at h; cases h
  | error halt =>
    rw [ending_of_error hwalk] at h
    cases h
    rw [evaluate_of_each_error hwalk] at hdone
    cases hdone
    rfl

/-- To extend a file of the same directory is to write its statements in place of the extension.
Where files do not change, one of the evaluations comes to its end just if the other does, and
unless that with the extension ends because a file is extended in a circle, both write the same, end
in the same error if any and in the same session, and have the same results, except that the
extension has one empty result and the statements of the file have their own. -/
theorem evaluate_extend_sibling (host : Host ω η) {pre post inside : List Statement}
    {path : Literal} {name source : String} {session : Session ω η}
    (hpath : path.text? = some name) (hname : Path.IsName name)
    (hread : host.readText (Path.join (Path.parent session.origin) name) session.world = .ok source)
    (hparse : parseSource source = .ok inside)
    (hfiles : ∀ fuel, ∀ point ∈ courseOf host fuel (pre ++ .extend [path] :: post) session,
      host.SameFiles session.world point.session.world) (fuel : Nat) (sink : Sink) :
    let values := pre.map Statement.value? ++ none :: post.map Statement.value?
    let others :=
      pre.map Statement.value? ++ inside.map Statement.value? ++ post.map Statement.value?
    (∀ done, evaluate host fuel (pre ++ .extend [path] :: post) session sink = some done →
      (∃ file, done.result = .error (.circularExtends file)) ∨
        ∃ other, evaluate host fuel (pre ++ inside ++ post) session sink = some other ∧
          EndsLike values others done other) ∧
    ∀ other, evaluate host fuel (pre ++ inside ++ post) session sink = some other →
      ∃ done, evaluate host (fuel + 1) (pre ++ .extend [path] :: post) session sink = some done ∧
        ((∃ file, done.result = .error (.circularExtends file)) ∨
          EndsLike values others done other) := by
  intro values others
  have hvalues : (pre ++ .extend [path] :: post).map Statement.value? = values := by
    rw [List.map_append, List.map_cons]
    rfl
  have hothers : (pre ++ inside ++ post).map Statement.value? = others := by
    rw [List.map_append, List.map_append]
  have hsame (fuel : Nat) :=
    ending_extend_sibling hpath hname hread hparse fuel (hfiles (fuel + 1))
  constructor
  · intro done hdone
    have hends : (ending (each (execute host fuel) (pre ++ .extend [path] :: post)) session).1 ≠
        .error .exhausted := fun hexhausted => by
      rw [evaluate_eq_none_iff.2 hexhausted] at hdone
      cases hdone
    cases fuel with
    | zero =>
      -- Without fuel not even the first statement is walked over.
      refine absurd ?_ hends
      cases pre <;> rfl
    | succ fuel =>
      rcases hsame fuel with ⟨_, ⟨file, rfl⟩, hhalt⟩ | heq
      · exact .inl ⟨file, result_of_ending_error hhalt hdone⟩
      · -- Behind an extension the statements of the file are a level deeper than in its place.
        rcases (matches_inPlace host fuel pre inside post).2 session session rfl with
          ⟨_, rfl, hhalt⟩ | hmatch
        · exact absurd ((congrArg Prod.fst heq).trans hhalt) hends
        · rw [← hvalues, ← hothers]
          exact .inr (evaluate_of_ending_eq (heq.trans (Prod.ext hmatch.1 hmatch.2)) hdone)
  · intro other hother
    have hends : (ending (each (execute host fuel) (pre ++ inside ++ post)) session).1 ≠
        .error .exhausted := fun hexhausted => by
      rw [evaluate_eq_none_iff.2 hexhausted] at hother
      cases hother
    rcases hsame fuel with ⟨_, ⟨file, rfl⟩, hhalt⟩ | heq
    · have hsome : evaluate host (fuel + 1) (pre ++ .extend [path] :: post) session sink ≠ none :=
        fun hnone => by
          rw [evaluate_eq_none_iff, hhalt] at hnone
          cases hnone
      obtain ⟨done, hdone⟩ := Option.ne_none_iff_exists'.1 hsome
      exact ⟨done, hdone, .inl ⟨file, result_of_ending_error hhalt hdone⟩⟩
    · rcases (matches_inPlace host fuel pre inside post).1 session session rfl with
        ⟨_, rfl, hhalt⟩ | hmatch
      · exact absurd hhalt hends
      · rw [← hvalues, ← hothers]
        obtain ⟨done, hdone, hlike⟩ := evaluate_of_ending_eq
          ((Prod.ext hmatch.1 hmatch.2).trans heq.symm) hother
        exact ⟨done, hdone, .inr hlike.symm⟩

/-- A file that extends another one, binds a variable anew and runs a script, between a binding of
that variable and a second script.  What a script says to its second output arrives first. -/
theorem evaluate_extend_sibling_library :
    let source := "extends \x7b c.rny \x7d\nvar \x7b x \"1\" \x7d\nrun \x7b printf b \x7d"
    let host := Host.recordedBeside
      [("lib/b.rny", source), ("lib/c.rny", "desc \x7b \"from c\" \x7d")]
      fun invocation =>
        ⟨⟨utf8 (String.join (invocation.exports.map Prod.snd)), utf8 "so\n", [.stderr]⟩, .code 0⟩
    let inside : List Statement := [.extend [.identifier "c.rny"],
      .var [⟨"x", .literal (.string "1")⟩], .run ⟨none, [.action "printf b"], .during⟩]
    let pre : List Statement := [.var [⟨"x", .literal (.string "0")⟩]]
    let post : List Statement :=
      [.run ⟨none, [.action "printf d"], .during⟩, .literal (.number "7")]
    let session := start host "lib/a.rny" []
    let sink : Sink := ⟨[], none, false⟩
    Path.IsName "b.rny" ∧
      host.readText (Path.join (Path.parent session.origin) "b.rny") session.world = .ok source ∧
      parseSource source = .ok inside ∧
      (∀ fuel, ∀ point ∈ courseOf host fuel (pre ++ .extend [.string "b.rny"] :: post) session,
        host.SameFiles session.world point.session.world) ∧
      ∃ done other,
        evaluate host 5 (pre ++ .extend [.string "b.rny"] :: post) session sink = some done ∧
          evaluate host 5 (pre ++ inside ++ post) session sink = some other ∧
          done.result = .ok [none, none, none, some "7"] ∧
          other.result = .ok [none, none, none, none, none, some "7"] ∧
          done.sink.taken = utf8 "> from c\nprintf b\nso\n1\nprintf d\nso\n1\n" ∧
          done.sink = other.sink ∧ done.session = other.session := by
  intro source host inside pre post session sink
  have hname : Path.IsName "b.rny" := ⟨by decide, by decide⟩
  have hread : host.readText (Path.join (Path.parent session.origin) "b.rny") session.world =
      .ok source := by decide +kernel
  have hparse : parseSource source = .ok inside :=
    parseSource_eq_ok_iff.2 ⟨[.extend [some (.identifier "c.rny")],
      .var [.binding "x" (.literal (.string "1"))], .run .during (.block [.script "printf b"])],
      by decide +kernel, by decide, rfl⟩
  have hfiles : ∀ fuel,
      ∀ point ∈ courseOf host fuel (pre ++ .extend [.string "b.rny"] :: post) session,
        host.SameFiles session.world point.session.world :=
    fun _ _ _ => ⟨fun _ => rfl, fun _ => rfl⟩
  have hresult : (evaluate host 5 (pre ++ .extend [.string "b.rny"] :: post) session sink).map
      (fun done => (done.result, done.sink.taken)) =
        some (.ok [none, none, none, some "7"],
          utf8 "> from c\nprintf b\nso\n1\nprintf d\nso\n1\n") := by
    decide +kernel
  obtain ⟨done, hdone, hfound⟩ := Option.map_eq_some_iff.1 hresult
  obtain ⟨hvalues, htaken⟩ := Prod.mk.inj hfound
  rcases (evaluate_extend_sibling host rfl hname hread hparse hfiles 5 sink).1 done hdone with
    ⟨file, hcircular⟩ | ⟨other, hother, hlike⟩
  · rw [hvalues] at hcircular
    cases hcircular
  · obtain ⟨hsink, hsession, ended, hended, hended'⟩ := hlike
    refine ⟨hname, hread, hparse, hfiles, done, other, hdone, hother, hvalues, ?_, htaken, hsink,
      hsession⟩
    cases ended with
    | error error =>
      rw [hvalues] at hended
      cases hended
    | ok _ => exact hended'

end Session

end TaskRunner
