import TaskRunner.Proofs.Session.Awaited
import TaskRunner.Proofs.Session.Simulation

/-! Evaluations one after the other.  In steady surroundings it makes no difference whether
statements are evaluated at once or in two parts: nothing but scopes, configuration and files passes
from the first part to the second, and what the first part queued is written before what the second
part queues.  However an evaluation ends, the session can be used again, and all that it keeps of
what was evaluated are the bindings of the root scope and the configuration. -/

namespace TaskRunner

variable {ω η : Type}

/-- The sink takes every write and can be flushed. -/
structure Sink.AcceptsAll (sink : Sink) : Prop where
  limit : sink.limit = none
  sound : sink.broken = false

theorem Sink.AcceptsAll.admits {sink : Sink} (h : sink.AcceptsAll) (count : Nat) :
    sink.admits count := by
  rw [Sink.admits, h.limit]

/-- What becomes of a script depends on nothing but its invocation.  Files may change. -/
structure Host.Determines (host : Host ω η) (outcome : Invocation → Except Fault Outcome)
    (due : ω → η → Option Outcome) : Prop where
  started {invocation : Invocation} {world after : ω} {process : η} :
    host.start invocation world = (.ok process, after) →
      due world process = none ∧ ∃ result, outcome invocation = .ok result ∧
        due after process = some result
  refused {invocation : Invocation} {world after : ω} {fault : Fault} :
    host.start invocation world = (.error fault, after) → outcome invocation = .error fault
  started_running (invocation : Invocation) (world : ω) {process : η} {result : Outcome} :
    due world process = some result →
      due (host.start invocation world).2 process = some result
  finished {process : η} {world : ω} {result : Outcome} :
    due world process = some result → (host.finish process world).1 = result
  finished_running {process other : η} {world : ω} {result : Outcome} :
    other ≠ process → due world other = some result →
      due (host.finish process world).2 other = some result

namespace Session

open Walk

section

variable {host : Host ω η} {outcome : Invocation → Except Fault Outcome}
  {due : ω → η → Option Outcome} {fuel : Nat} {statements more : List Statement}
  {session after : Session ω η} {outcomes : List (Entry Outcome)} {sink : Sink}

/-- An evaluation is the same if the walk may go deeper. -/
theorem evaluate_of_le {deeper : Nat} (hle : fuel ≤ deeper) {done : Evaluation ω η}
    (hdone : evaluate host fuel statements session sink = some done) :
    evaluate host deeper statements session sink = some done := by
  have hends : (each (execute host fuel) statements session).1 ≠ .error .exhausted := by
    intro hexhausted
    rw [evaluate_of_each_exhausted (Prod.ext hexhausted rfl)] at hdone
    cases hdone
  rw [← hdone, evaluate, evaluate, each_execute_of_le hle hends]

/-! ### Two parts -/

/-- In steady surroundings, a sink that accepts everything is given all that the queue stands for up
to the first failure. -/
theorem drain_of_awaited (h : host.IsSteady outcome due) {queue : List (Entry η)} {world : ω}
    (hawaited : Entry.Awaited (due world) queue outcomes) (hsink : sink.AcceptsAll) :
    ∃ later, (outcomes.findSome? Entry.failure? = none → host.SameFiles world later) ∧
      drain host sink queue world =
        (verdictOf (outcomes.findSome? Entry.failure?), sink.after (Entry.output outcomes),
          later) := by
  obtain ⟨later, hdrain⟩ := drain_eq_writes host (hsink.admits _) hsink.sound
  rw [Entry.settled_eq h hawaited] at hdrain
  refine ⟨later, fun hnone => ?_, hdrain⟩
  have hfiles := sameFiles_drain h (show (drain host sink queue world).1 = .ok () by
    rw [hdrain, hnone]
    rfl)
  rwa [hdrain] at hfiles

/-- The evaluation of some statements comes to its end without an error. -/
def Succeeds (host : Host ω η) (fuel : Nat) (statements : List Statement) (session : Session ω η)
    (sink : Sink) (done : Evaluation ω η) : Prop :=
  evaluate host fuel statements session sink = some done ∧ ∃ values, done.result = .ok values

theorem not_succeeds_of_each_error {halt : Halt} {done : Evaluation ω η}
    (hwalk : each (execute host fuel) statements session = (.error halt, after)) :
    ¬Succeeds host fuel statements session sink done := by
  rintro ⟨hdone, values, hvalues⟩
  cases halt with
  | exhausted =>
    rw [evaluate_of_each_exhausted hwalk] at hdone
    cases hdone
  | error error =>
    rw [evaluate_of_each_error hwalk] at hdone
    cases hdone
    cases hvalues

/-- After a walk that comes to its end, an evaluation succeeds just if no process fails. -/
theorem succeeds_iff (h : host.IsSteady outcome due) {values : List (Option String)}
    (hwalk : each (execute host fuel) statements session = (.ok values, after))
    (hawaited : Entry.Awaited (due after.world) after.queue outcomes) (hsink : sink.AcceptsAll) :
    ∃ world, (outcomes.findSome? Entry.failure? = none → host.SameFiles after.world world) ∧
      ∀ done, Succeeds host fuel statements session sink done ↔
        outcomes.findSome? Entry.failure? = none ∧
          done = ⟨.ok values, { after with queue := [], world },
            sink.after (Entry.output outcomes)⟩ := by
  obtain ⟨world, hfiles, hdrain⟩ := drain_of_awaited h hawaited hsink
  refine ⟨world, hfiles, fun done => ?_⟩
  rw [Succeeds, evaluate_of_each_ok hwalk, hdrain]
  cases outcomes.findSome? Entry.failure? with
  | none =>
    constructor
    · rintro ⟨hdone, -⟩
      cases hdone
      exact ⟨rfl, rfl⟩
    · rintro ⟨-, rfl⟩
      exact ⟨rfl, values, rfl⟩
  | some error =>
    constructor
    · rintro ⟨hdone, others, hothers⟩
      cases hdone
      cases hothers
    · rintro ⟨hnone, -⟩
      cases hnone

/-- The evaluation does what two others do one after the other, the second of them with another
sink. -/
structure Joins (sink other : Sink) (first second done : Evaluation ω η) : Prop where
  results : ∃ values more, first.result = .ok values ∧ second.result = .ok more ∧
    done.result = .ok (values ++ more)
  sinks : ∃ bytes more, first.sink = sink.after bytes ∧ second.sink = other.after more ∧
    done.sink = sink.after (bytes ++ more)
  environment : done.session.environment = second.session.environment
  config : done.session.config = second.session.config
  origin : done.session.origin = second.session.origin
  chain : done.session.chain = second.session.chain
  queue : done.session.queue = [] ∧ second.session.queue = []

/-- Some statements and then others are evaluated successfully, with one sink, just if both are
evaluated successfully one after the other, with that sink and with another, and then to the same
end. -/
structure Composes (host : Host ω η) (fuel : Nat) (statements more : List Statement)
    (session : Session ω η) (sink other : Sink) : Prop where
  iff : (∃ done, Succeeds host fuel (statements ++ more) session sink done) ↔
    ∃ first second, Succeeds host fuel statements session sink first ∧
      Succeeds host fuel more first.session other second
  joins {first second done : Evaluation ω η} : Succeeds host fuel statements session sink first →
    Succeeds host fuel more first.session other second →
      Succeeds host fuel (statements ++ more) session sink done → Joins sink other first second done

variable {other : Sink} {values others : List (Option String)} {middle late : Session ω η}

theorem composes_of_not_succeeds
    (hparts : ∀ first second, Succeeds host fuel statements session sink first →
      ¬Succeeds host fuel more first.session other second)
    (hwhole : ∀ done, ¬Succeeds host fuel (statements ++ more) session sink done) :
    Composes host fuel statements more session sink other where
  iff := ⟨fun ⟨done, hdone⟩ => absurd hdone (hwhole done),
    fun ⟨first, second, hbegins, hends⟩ => absurd hends (hparts first second hbegins)⟩
  joins hbegins hends := absurd hends (hparts _ _ hbegins)

/-- Where the walk over the second part fails, neither the whole nor the second part is evaluated
successfully. -/
theorem composes_of_late_error (h : host.IsSteady outcome due) {halt : Halt}
    (hwalk : each (execute host fuel) statements session = (.ok values, middle))
    (hlate : each (execute host fuel) more middle = (.error halt, late))
    (hawaited : Entry.Awaited (due middle.world) middle.queue outcomes) (hsink : sink.AcceptsAll) :
    Composes host fuel statements more session sink other := by
  have hwhole : each (execute host fuel) (statements ++ more) session = (.error halt, late) := by
    rw [each_append, Walk.bind_ok hwalk, Walk.bind_error hlate]
  obtain ⟨world, hfiles, hfirst⟩ := succeeds_iff h hwalk hawaited hsink
  refine composes_of_not_succeeds (fun first second hbegins => ?_)
    fun done => not_succeeds_of_each_error hwhole
  obtain ⟨hnone, rfl⟩ := (hfirst first).1 hbegins
  have hbehind := (behind_each h fuel more (behind_of_awaited hawaited (hfiles hnone))).1
  rcases hnext : each (execute host fuel) more { middle with queue := [], world } with
    ⟨result, last⟩
  rw [hlate, hnext] at hbehind
  obtain rfl : Except.error halt = result := hbehind
  exact not_succeeds_of_each_error hnext

/-- Where both walks come to their end, the second part goes on behind what the first part queued as
it does after that was written. -/
theorem composes_of_ok (h : host.IsSteady outcome due)
    (hwalk : each (execute host fuel) statements session = (.ok values, middle))
    (hlate : each (execute host fuel) more middle = (.ok others, late))
    (hawaited : Entry.Awaited (due middle.world) middle.queue outcomes) (hsink : sink.AcceptsAll)
    (hother : other.AcceptsAll) : Composes host fuel statements more session sink other := by
  have hwhole : each (execute host fuel) (statements ++ more) session =
      (.ok (values ++ others), late) := by
    rw [each_append, Walk.bind_ok hwalk, Walk.bind_ok hlate, Walk.pure]
  obtain ⟨world, hfiles, hfirst⟩ := succeeds_iff h hwalk hawaited hsink
  by_cases hnone : outcomes.findSome? Entry.failure? = none
  · have hbehind := behind_each h fuel more (behind_of_awaited hawaited (hfiles hnone))
    rcases hnext : each (execute host fuel) more { middle with queue := [], world } with
      ⟨result, last⟩
    rw [hlate, hnext] at hbehind
    obtain ⟨rfl, hafter⟩ := hbehind
    obtain ⟨later, hlater, hlast⟩ := hafter.awaited
    obtain ⟨_, -, hdone⟩ := succeeds_iff h hwhole hlater hsink
    obtain ⟨_, -, hsecond⟩ := succeeds_iff h hnext hlast hother
    rw [List.findSome?_append, hnone, Option.none_or] at hdone
    constructor
    case iff =>
      constructor
      · rintro ⟨done, hall⟩
        obtain ⟨hok, -⟩ := (hdone done).1 hall
        exact ⟨_, _, (hfirst _).2 ⟨hnone, rfl⟩, (hsecond _).2 ⟨hok, rfl⟩⟩
      · rintro ⟨first, second, hbegins, hends⟩
        obtain ⟨-, rfl⟩ := (hfirst first).1 hbegins
        obtain ⟨hok, -⟩ := (hsecond second).1 hends
        exact ⟨_, (hdone _).2 ⟨hok, rfl⟩⟩
    case joins =>
      intro first second done hbegins hends hall
      obtain ⟨-, rfl⟩ := (hfirst first).1 hbegins
      obtain ⟨-, rfl⟩ := (hsecond second).1 hends
      obtain ⟨-, rfl⟩ := (hdone done).1 hall
      exact
        { results := ⟨values, others, rfl, rfl, rfl⟩
          sinks := ⟨Entry.output outcomes, Entry.output later, rfl, rfl, by
            rw [Entry.output_append later hnone]⟩
          environment := hafter.environment
          config := hafter.config
          origin := hafter.origin
          chain := hafter.chain
          queue := ⟨rfl, rfl⟩ }
  · -- A process of the first part fails, whatever is queued behind it.
    obtain ⟨later, hlater⟩ := awaited_each h fuel more hawaited
    rw [hlate] at hlater
    obtain ⟨_, -, hdone⟩ := succeeds_iff h hwhole hlater hsink
    refine composes_of_not_succeeds
      (fun first _ hbegins => absurd ((hfirst first).1 hbegins).1 hnone) fun done hall => ?_
    obtain ⟨hok, -⟩ := (hdone done).1 hall
    rw [List.findSome?_append, Option.or_eq_none_iff] at hok
    exact hnone hok.1

/-- Evaluation composes.  In steady surroundings, and with sinks that accept everything, some
statements and then others are evaluated successfully just if both are evaluated successfully one
after the other, and then to the same end.  If the walk over the first fails, the others make no
difference. -/
theorem evaluate_append (h : host.IsSteady outcome due) (hready : session.IsReady due)
    (hsink : sink.AcceptsAll) (hother : other.AcceptsAll) (fuel : Nat)
    (statements more : List Statement) :
    Composes host fuel statements more session sink other ∧
      ∀ error, (each (execute host fuel) statements session).1 = .error (.error error) →
        evaluate host fuel (statements ++ more) session sink =
            evaluate host fuel statements session sink ∧
          ∃ done, evaluate host fuel statements session sink = some done ∧
            done.result = .error error := by
  rcases hwalk : each (execute host fuel) statements session with ⟨result, middle⟩
  cases result with
  | error halt =>
    have hwhole : each (execute host fuel) (statements ++ more) session =
        (.error halt, middle) := by
      rw [each_append, Walk.bind_error hwalk]
    refine ⟨composes_of_not_succeeds
      (fun _ _ hbegins => absurd hbegins (not_succeeds_of_each_error hwalk))
      fun _ => not_succeeds_of_each_error hwhole, fun error herror => ?_⟩
    obtain rfl : halt = .error error := Except.error.inj herror
    rw [evaluate_of_each_error hwhole, evaluate_of_each_error hwalk]
    exact ⟨rfl, _, rfl, rfl⟩
  | ok values =>
    refine ⟨?_, fun error herror => nomatch herror⟩
    obtain ⟨initial, hinitial⟩ := hready.awaited
    obtain ⟨added, hawaited⟩ := awaited_each h fuel statements hinitial
    rw [hwalk] at hawaited
    rcases hlate : each (execute host fuel) more middle with ⟨result, late⟩
    cases result with
    | error halt => exact composes_of_late_error h hwalk hlate hawaited hsink
    | ok others => exact composes_of_ok h hwalk hlate hawaited hsink hother

/-- Two parts that bind a variable, describe and run scripts, at once and one after the other.  What
a script says to its second output arrives first. -/
theorem evaluate_append_greeting :
    let outcome (invocation : Invocation) : Outcome :=
      ⟨⟨utf8 (String.join (invocation.exports.map Prod.snd)), utf8 "so\n", [.stderr]⟩, .code 0⟩
    let host := Host.recorded outcome
    let statements : List Statement :=
      [.var [⟨"x", .literal (.string "hi")⟩], .run ⟨none, [.action "printf $x"], .during⟩]
    let more : List Statement :=
      [.describe ["again"], .run ⟨none, [.action "printf $x"], .during⟩]
    let session := start host "runny.rny" []
    let sink : Sink := ⟨[], none, false⟩
    host.IsSteady (fun invocation => .ok (outcome invocation))
        (fun world process => world[process]?.join) ∧
      session.IsReady (fun world process => world[process]?.join) ∧ sink.AcceptsAll ∧
      ∃ first second done, Succeeds host 4 statements session sink first ∧
        Succeeds host 4 more first.session sink second ∧
        Succeeds host 4 (statements ++ more) session sink done ∧
        Joins sink sink first second done ∧
        done.sink.taken = utf8 "printf $x\nso\nhi\n> again\nprintf $x\nso\nhi\n" := by
  intro outcome host statements more session sink
  have hsteady := Host.isSteady_recorded outcome
  have hready : session.IsReady (fun world process => world[process]?.join) :=
    ⟨fun _ hprocess => (nomatch hprocess), List.nodup_nil⟩
  have hsink : sink.AcceptsAll := ⟨rfl, rfl⟩
  have hresult : (evaluate host 4 (statements ++ more) session sink).map
      (fun done => (done.result, done.sink.taken)) =
        some (.ok [none, none, none, none],
          utf8 "printf $x\nso\nhi\n> again\nprintf $x\nso\nhi\n") := by
    decide +kernel
  obtain ⟨done, hdone, hfound⟩ := Option.map_eq_some_iff.1 hresult
  obtain ⟨hvalues, htaken⟩ := Prod.mk.inj hfound
  have hsucceeds : Succeeds host 4 (statements ++ more) session sink done := ⟨hdone, _, hvalues⟩
  obtain ⟨hcomposes, -⟩ := evaluate_append hsteady hready hsink hsink 4 statements more
  obtain ⟨first, second, hfirst, hsecond⟩ := hcomposes.iff.1 ⟨done, hsucceeds⟩
  exact ⟨hsteady, hready, hsink, first, second, done, hfirst, hsecond, hsucceeds,
    hcomposes.joins hfirst hsecond hsucceeds, htaken⟩

/-- Where a process makes a file, the two ways differ: the second part extends the file, which is
there once the first part has been written, and not yet while its process runs. -/
theorem evaluate_append_needs_files :
    let outcome (_ : Invocation) : Outcome := ⟨⟨[], [], []⟩, .code 0⟩
    let host : Host (List (Option Outcome)) Nat :=
      { Host.recorded outcome with
        readText := fun path world =>
          if path = "x.rny" ∧ none ∈ world then .ok "desc \x7b \"hi\" \x7d" else .error .notFound }
    let statements : List Statement := [.run ⟨none, [.action "make x.rny"], .during⟩]
    let more : List Statement := [.extend [.string "x.rny"]]
    let session := start host "runny.rny" []
    let sink : Sink := ⟨[], none, false⟩
    host.Determines (fun invocation => .ok (outcome invocation))
        (fun world process => world[process]?.join) ∧
      session.IsReady (fun world process => world[process]?.join) ∧ sink.AcceptsAll ∧
      (∃ first second, Succeeds host 4 statements session sink first ∧
        Succeeds host 4 more first.session sink second) ∧
      ∀ fuel done, ¬Succeeds host fuel (statements ++ more) session sink done := by
  intro outcome host statements more session sink
  have hsteady := Host.isSteady_recorded outcome
  have hdetermines : host.Determines (fun invocation => .ok (outcome invocation))
      (fun world process => world[process]?.join) :=
    { started := @fun invocation => @hsteady.started invocation
      refused := @fun invocation => @hsteady.refused invocation
      started_running := fun invocation world _ _ =>
        (hsteady.started_keeps invocation world).running
      finished := hsteady.finished
      finished_running := hsteady.finished_running }
  refine ⟨hdetermines, ⟨fun _ hprocess => (nomatch hprocess), List.nodup_nil⟩, ⟨rfl, rfl⟩, ?_, ?_⟩
  · have hparts : ((evaluate host 4 statements session sink).bind fun first =>
        (evaluate host 4 more first.session sink).map fun second =>
          (first.result, second.result)) = some (.ok [none], .ok [none]) := by decide +kernel
    obtain ⟨first, hfirst, hrest⟩ := Option.bind_eq_some_iff.1 hparts
    obtain ⟨second, hsecond, hresults⟩ := Option.map_eq_some_iff.1 hrest
    obtain ⟨hvalues, hothers⟩ := Prod.mk.inj hresults
    exact ⟨first, second, ⟨hfirst, _, hvalues⟩, ⟨hsecond, _, hothers⟩⟩
  · rintro fuel done ⟨hdone, values, hvalues⟩
    have hfails : (evaluate host 4 (statements ++ more) session sink).map Evaluation.result =
        some (.error (.unreadable "x.rny" .notFound)) := by decide +kernel
    obtain ⟨other, hother, herror⟩ := Option.map_eq_some_iff.1 hfails
    -- With the larger fuel of the two, both are the same evaluation.
    have hsame := (evaluate_of_le (le_max_left fuel 4) hdone).symm.trans
      (evaluate_of_le (le_max_right fuel 4) hother)
    obtain rfl := Option.some.inj hsame
    rw [hvalues] at herror
    cases herror

/-! ### Sessions that are used again -/

/-- The session is back where it began: in the root scope, at the first file and in no other, and
with nothing queued. -/
structure IsUnwound (host : Host ω η) (origin : String) (first : ω) (session : Session ω η) :
    Prop where
  depth : session.environment.depth = 0
  chain : session.chain = (start host origin first).chain
  origin : session.origin = origin
  queue : session.queue = []

variable {origin : String} {first : ω}

/-- An evaluation leads back to where it began, however it ends. -/
theorem IsUnwound.evaluate (h : IsUnwound host origin first session) {done : Evaluation ω η}
    (hdone : evaluate host fuel statements session sink = some done) :
    IsUnwound host origin first done.session := by
  obtain ⟨horigin, hchain, houter, hqueue⟩ := continues_evaluate hdone
  exact
    { depth := (congrArg List.length houter).trans h.depth
      chain := hchain.trans h.chain
      origin := horigin.trans h.origin
      queue := hqueue }

theorem Arises.isUnwound (h : Arises host origin first session) :
    IsUnwound host origin first session := by
  induction h with
  | start => exact ⟨rfl, rfl, rfl, rfl⟩
  | evaluated _ hdone ih => exact ih.evaluate hdone

theorem IsUnwound.environment_eq {other : Session ω η} (h : IsUnwound host origin first session)
    (hother : IsUnwound host origin first other)
    (hroot : session.environment.innermost = other.environment.innermost) :
    session.environment = other.environment := by
  have houter : session.environment.outer = other.environment.outer :=
    (List.length_eq_zero_iff.1 h.depth).trans (List.length_eq_zero_iff.1 hother.depth).symm
  calc session.environment
      = ⟨session.environment.innermost, session.environment.outer⟩ := rfl
    _ = ⟨other.environment.innermost, other.environment.outer⟩ := by rw [hroot, houter]

/-- What unwound sessions keep are the bindings of the root scope and the configuration. -/
theorem IsUnwound.eq {other : Session ω η} (h : IsUnwound host origin first session)
    (hother : IsUnwound host origin first other)
    (hroot : session.environment.innermost = other.environment.innermost)
    (hconfig : session.config = other.config) (world : ω) :
    { session with world } = { other with world } := by
  rw [h.chain, h.origin, h.queue, hconfig, h.environment_eq hother hroot, hother.chain,
    hother.origin, hother.queue]

/-- The evaluations ended with the same result, wrote the same, and left the same session in worlds
that may differ. -/
structure SameBesideWorld (done other : Evaluation ω η) : Prop where
  result : done.result = other.result
  sink : done.sink = other.sink
  session : { done.session with world := other.session.world } = other.session

/-- In steady surroundings, evaluations from sessions that differ in the world alone differ in the
world alone. -/
theorem evaluate_beside_world (h : host.IsSteady outcome due) {other : Session ω η}
    (hbehind : Behind host due [] session other) (fuel : Nat) (statements : List Statement)
    (sink : Sink) :
    Option.Rel SameBesideWorld (evaluate host fuel statements session sink)
      (evaluate host fuel statements other sink) := by
  have hwalked := behind_each h fuel statements hbehind
  rcases hwalk : each (execute host fuel) statements session with ⟨result, after⟩
  rcases hwalk' : each (execute host fuel) statements other with ⟨result', after'⟩
  rw [hwalk, hwalk'] at hwalked
  obtain ⟨rfl, hafter⟩ := hwalked
  obtain ⟨outcomes, hawaited, hawaited'⟩ := hafter.awaited
  have hwritten := drain_eq_of_settled_eq host
    ((Entry.settled_eq h hawaited).trans (Entry.settled_eq h hawaited').symm) sink
  have hsession (world : ω) :
      { after with queue := ([] : List (Entry η)), world } =
        { after' with queue := [], world } := by
    rw [hafter.origin, hafter.chain, hafter.environment, hafter.config]
  match result with
  | .ok values =>
    rw [evaluate_of_each_ok hwalk, evaluate_of_each_ok hwalk', hwritten.1, hwritten.2]
    exact .some ⟨rfl, rfl, hsession _⟩
  | .error (.error error) =>
    rw [evaluate_of_each_error hwalk, evaluate_of_each_error hwalk', hwritten.2]
    exact .some ⟨rfl, rfl, hsession _⟩
  | .error .exhausted =>
    rw [evaluate_of_each_exhausted hwalk, evaluate_of_each_exhausted hwalk']
    exact .none

/-- A session can be used again after any evaluations, however they ended.  It is back where it
began, and two sessions that have the same root scope and the same configuration evaluate all
statements alike: in the same world to the very same end, and in steady surroundings to the same end
in any two worlds with the same files. -/
theorem Arises.evaluates_alike (h : Arises host origin first session) :
    IsUnwound host origin first session ∧
      ∀ other, Arises host origin first other →
        session.environment.innermost = other.environment.innermost →
          session.config = other.config →
            (∀ world fuel statements sink,
              evaluate host fuel statements { session with world } sink =
                evaluate host fuel statements { other with world } sink) ∧
            ∀ outcome due, host.IsSteady outcome due →
              host.SameFiles session.world other.world → ∀ fuel statements sink,
                Option.Rel SameBesideWorld (evaluate host fuel statements session sink)
                  (evaluate host fuel statements other sink) := by
  have hsession := h.isUnwound
  refine ⟨hsession, fun other hother hroot hconfig => ?_⟩
  have hother := hother.isUnwound
  refine ⟨fun world fuel statements sink => by rw [hsession.eq hother hroot hconfig world],
    fun outcome due hsteady hfiles => ?_⟩
  have hbehind : Behind host due [] session other :=
    { origin := hsession.origin.trans hother.origin.symm
      chain := hsession.chain.trans hother.chain.symm
      environment := hsession.environment_eq hother hroot
      config := hconfig
      files := hfiles
      awaited := ⟨[], by rw [hsession.queue]; exact .nil, by rw [hother.queue]; exact .nil⟩ }
  exact evaluate_beside_world hsteady hbehind

/-- Three evaluations that fail, in a run inside a run, because of a process and because of the
sink: the session goes on like one in which only the variable was bound. -/
theorem Arises.evaluates_alike_after_failures :
    let outcome (invocation : Invocation) : Outcome :=
      ⟨⟨[], [], []⟩, .code (if invocation.script = "false" then 1 else 0)⟩
    let host := Host.recorded outcome
    let due (world : List (Option Outcome)) (process : Nat) := world[process]?.join
    let binds : Statement := .var [⟨"x", .literal (.string "1")⟩]
    let nested : Statement := .run ⟨none, [.run ⟨some "missing", [], .during⟩], .during⟩
    let session := Session.start host "runny.rny" []
    let sink : Sink := ⟨[], none, false⟩
    ∃ lost failed refused bound : Evaluation (List (Option Outcome)) Nat,
      evaluate host 5 [binds, nested] session sink = some lost ∧
        lost.result = .error (.undefinedTarget "missing") ∧
      evaluate host 5 [.run ⟨none, [.action "false"], .during⟩] lost.session sink = some failed ∧
        failed.result = .error (.commandFailed "false" (.code 1)) ∧
      evaluate host 5 [.describe ["too long"]] failed.session ⟨[], some 3, false⟩ = some refused ∧
        refused.result = .error (.output .full) ∧
      evaluate host 5 [binds] session sink = some bound ∧
      Arises host "runny.rny" [] refused.session ∧ Arises host "runny.rny" [] bound.session ∧
      host.IsSteady (fun invocation => .ok (outcome invocation)) due ∧
      host.SameFiles refused.session.world bound.session.world ∧
      IsUnwound host "runny.rny" [] refused.session ∧
      (∀ world fuel statements sink,
        evaluate host fuel statements { refused.session with world } sink =
          evaluate host fuel statements { bound.session with world } sink) ∧
      ∀ fuel statements sink, Option.Rel SameBesideWorld
        (evaluate host fuel statements refused.session sink)
        (evaluate host fuel statements bound.session sink) := by
  intro outcome host due binds nested session sink
  let after (world : List (Option Outcome)) : Session (List (Option Outcome)) Nat :=
    ⟨"runny.rny", ["runny.rny"], Environment.initial.defineVariable "x" (.text "1"), .empty, [],
      world⟩
  obtain ⟨bound, hbound, hboundSession⟩ : ∃ done,
      evaluate host 5 [binds] session sink = some done ∧ done.session = after [] := ⟨_, rfl, rfl⟩
  obtain ⟨lost, hlost, hlostResult, hlostSession⟩ : ∃ done,
      evaluate host 5 [binds, nested] session sink = some done ∧
        done.result = .error (.undefinedTarget "missing") ∧ done.session = after [] :=
    ⟨_, rfl, rfl, rfl⟩
  obtain ⟨failed, hfailed, hfailedResult, hfailedSession⟩ : ∃ done,
      evaluate host 5 [.run ⟨none, [.action "false"], .during⟩] (after []) sink = some done ∧
        done.result = .error (.commandFailed "false" (.code 1)) ∧ done.session = after [none] :=
    ⟨_, rfl, rfl, rfl⟩
  obtain ⟨refused, hrefused, hrefusedResult, hrefusedSession⟩ : ∃ done,
      evaluate host 5 [.describe ["too long"]] (after [none]) ⟨[], some 3, false⟩ = some done ∧
        done.result = .error (.output .full) ∧ done.session = after [none] :=
    ⟨_, rfl, rfl, rfl⟩
  rw [← hlostSession] at hfailed
  rw [← hfailedSession] at hrefused
  have harises := ((Arises.start.evaluated hlost).evaluated hfailed).evaluated hrefused
  have hother := Arises.start.evaluated hbound
  have hsteady : host.IsSteady (fun invocation => .ok (outcome invocation)) due :=
    Host.isSteady_recorded outcome
  have hfiles : host.SameFiles refused.session.world bound.session.world :=
    ⟨fun _ => rfl, fun _ => rfl⟩
  obtain ⟨hunwound, halike⟩ := harises.evaluates_alike
  obtain ⟨hworld, hanywhere⟩ := halike _ hother (by rw [hrefusedSession, hboundSession])
    (by rw [hrefusedSession, hboundSession])
  exact ⟨lost, failed, refused, bound, hlost, hlostResult, hfailed, hfailedResult, hrefused,
    hrefusedResult, hbound, harises, hother, hsteady, hfiles, hunwound, hworld,
    hanywhere _ _ hsteady hfiles⟩

end

end Session

end TaskRunner
