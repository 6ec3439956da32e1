import TaskRunner.Proofs.Session.Chain
import TaskRunner.Proofs.Session.Matching
import TaskRunner.Proofs.Session.Queue
import TaskRunner.Proofs.Session.Steady

/-! What a session waits for.  In steady surroundings it is known of every queued process what it
will have done, so the queue stands for a list of outcomes, and to write the queue is to write that
list.  Entries that wait at the front of the queue make no difference to a walk: it adds the same
outcomes behind them as it would without them. -/

namespace TaskRunner

variable {ω η : Type}

/-! ### Outcomes of queued entries -/

namespace Entry

/-- What a queued entry comes to: a text stays as it is, and a process will have done what is
due. -/
inductive Due (due : η → Option Outcome) : Entry η → Entry Outcome → Prop where
  | text (text : String) : Due due (.text text) (.text text)
  | process {command : String} {process : η} {result : Outcome} (h : due process = some result) :
      Due due (.process command process) (.process command result)

theorem Due.mono {due due' : η → Option Outcome} {queue : List (Entry η)}
    {outcomes : List (Entry Outcome)} (h : List.Forall₂ (Due due) queue outcomes)
    (hdue : ∀ process ∈ processes queue, ∀ result, due process = some result →
      due' process = some result) : List.Forall₂ (Due due') queue outcomes := by
  induction h with
  | nil => exact .nil
  | cons hentry _ ih =>
    cases hentry with
    | text text => exact .cons (.text text) (ih hdue)
    | process hfirst =>
      obtain ⟨hrunning, hmore⟩ := List.forall_mem_cons.1 hdue
      exact .cons (.process (hrunning _ hfirst)) (ih hmore)

/-- Every process that something is due of was started. -/
theorem Due.exists_due {due : η → Option Outcome} {queue : List (Entry η)}
    {outcomes : List (Entry Outcome)} (h : List.Forall₂ (Due due) queue outcomes) :
    ∀ process ∈ processes queue, ∃ result, due process = some result := by
  induction h with
  | nil => simp [processes]
  | cons hentry _ ih =>
    cases hentry with
    | text text => exact ih
    | process hdue => exact List.forall_mem_cons.2 ⟨⟨_, hdue⟩, ih⟩

/-- Something is due of processes that were started. -/
theorem exists_outcomes {due : η → Option Outcome} {queue : List (Entry η)}
    (h : ∀ process ∈ processes queue, ∃ result, due process = some result) :
    ∃ outcomes, List.Forall₂ (Due due) queue outcomes := by
  induction queue with
  | nil => exact ⟨[], .nil⟩
  | cons entry rest ih =>
    cases entry with
    | text text =>
      obtain ⟨outcomes, houtcomes⟩ := ih h
      exact ⟨_, .cons (.text text) houtcomes⟩
    | process command process =>
      obtain ⟨⟨result, hresult⟩, hmore⟩ := List.forall_mem_cons.1 h
      obtain ⟨outcomes, houtcomes⟩ := ih hmore
      exact ⟨_, .cons (.process hresult) houtcomes⟩

/-- The outcomes that a queue stands for. -/
structure Awaited (due : η → Option Outcome) (queue : List (Entry η))
    (outcomes : List (Entry Outcome)) : Prop where
  entries : List.Forall₂ (Due due) queue outcomes
  nodup : (processes queue).Nodup

namespace Awaited

variable {due : ω → η → Option Outcome} {world after : ω} {queue : List (Entry η)}
  {outcomes : List (Entry Outcome)}

theorem nil : Awaited (due world) [] [] := ⟨.nil, List.nodup_nil⟩

theorem keeps {host : Host ω η} (h : Awaited (due world) queue outcomes)
    (hworld : host.Keeps due world after) : Awaited (due after) queue outcomes :=
  ⟨Due.mono h.entries fun _ _ _ => hworld.running, h.nodup⟩

theorem text (h : Awaited (due world) queue outcomes) (text : String) :
    Awaited (due world) (queue ++ [.text text]) (outcomes ++ [.text text]) :=
  ⟨List.rel_append h.entries (.cons (.text text) .nil), by simpa [processes] using h.nodup⟩

/-- A process that was not running before may be waited for. -/
theorem process {host : Host ω η} (h : Awaited (due world) queue outcomes)
    (hworld : host.Keeps due world after) {process : η} {result : Outcome}
    (hfresh : due world process = none) (hdue : due after process = some result)
    (command : String) :
    Awaited (due after) (queue ++ [.process command process])
      (outcomes ++ [.process command result]) :=
  ⟨List.rel_append (h.keeps hworld).entries (.cons (.process hdue) .nil),
    nodup_processes_append h.nodup (Due.exists_due h.entries) hfresh command⟩

end Awaited

/-- All bytes that are written of some outcomes. -/
def output (outcomes : List (Entry Outcome)) : Bytes :=
  ((shown outcomes).flatMap writes).flatten

theorem shown_append {outcomes : List (Entry Outcome)} (more : List (Entry Outcome))
    (h : outcomes.findSome? failure? = none) :
    shown (outcomes ++ more) = outcomes ++ shown more := by
  induction outcomes with
  | nil => rfl
  | cons entry rest ih =>
    rw [List.findSome?_eq_none_iff, List.forall_mem_cons] at h
    rw [List.cons_append, shown, h.1, Option.isSome_none, if_neg Bool.false_ne_true,
      ih (List.findSome?_eq_none_iff.2 h.2), List.cons_append]

/-- Where no process failed, all bytes of the first outcomes come before those of the others. -/
theorem output_append {outcomes : List (Entry Outcome)} (more : List (Entry Outcome))
    (h : outcomes.findSome? failure? = none) :
    output (outcomes ++ more) = output outcomes ++ output more := by
  have hall : shown outcomes = outcomes := by simpa [shown] using shown_append [] h
  rw [output, output, output, shown_append more h, hall, List.flatMap_append, List.flatten_append]

end Entry

section

variable {host : Host ω η} {outcome : Invocation → Except Fault Outcome}
  {due : ω → η → Option Outcome}

/-- When its processes are waited for, a queue comes to what is due. -/
theorem Entry.settled_eq (h : host.IsSteady outcome due) {queue : List (Entry η)} {world : ω}
    {outcomes : List (Entry Outcome)} (hawaited : Awaited (due world) queue outcomes) :
    settled host queue world = outcomes := by
  obtain ⟨hdue, hnodup⟩ := hawaited
  induction queue generalizing world outcomes with
  | nil =>
    cases hdue
    rfl
  | cons entry rest ih =>
    obtain ⟨first, others, hentry, hrest, rfl⟩ := List.forall₂_cons_left_iff.1 hdue
    cases hentry with
    | text text => rw [settled, wait, ih hrest hnodup]
    | @process command process result hresult =>
      obtain ⟨hfresh, hmore⟩ := List.nodup_cons.1 hnodup
      rw [settled, wait, h.finished hresult, ih (Due.mono hrest fun other hother _ => ?_) hmore]
      exact h.finished_running fun heq => hfresh (heq ▸ hother)

/-- Files stay as they are while a queue is written without a failure. -/
theorem sameFiles_drain (h : host.IsSteady outcome due) {queue : List (Entry η)} {world : ω}
    {sink : Sink} (hok : (drain host sink queue world).1 = .ok ()) :
    host.SameFiles world (drain host sink queue world).2.2 := by
  induction queue generalizing world sink with
  | nil => exact Host.SameFiles.refl host world
  | cons entry rest ih =>
    have hwait : host.SameFiles world (entry.wait host world).2 := by
      cases entry with
      | text text => exact Host.SameFiles.refl host world
      | process command process => exact h.finished_files process world
    rw [drain_cons] at hok ⊢
    rcases hreceive : sink.receive (entry.wait host world).1 with ⟨error | ⟨⟩, taken⟩
    · rw [hreceive] at hok
      cases hok
    · rw [hreceive] at hok
      exact hwait.trans (ih hok)

namespace Session

open Walk

/-! ### Entries that wait at the front -/

/-- The sessions are at the same place and bind the same, and the queue of the first stands for some
pending outcomes and then for those of the second. -/
structure Behind (host : Host ω η) (due : ω → η → Option Outcome) (pending : List (Entry Outcome))
    (session other : Session ω η) : Prop where
  origin : session.origin = other.origin
  chain : session.chain = other.chain
  environment : session.environment = other.environment
  config : session.config = other.config
  files : host.SameFiles session.world other.world
  awaited : ∃ outcomes, Entry.Awaited (due session.world) session.queue (pending ++ outcomes) ∧
    Entry.Awaited (due other.world) other.queue outcomes

variable {pending : List (Entry Outcome)}

namespace Behind

variable {session other : Session ω η}

theorem shell (h : Behind host due pending session other) : session.shell = other.shell := by
  rw [Session.shell, Session.shell, h.config]

theorem keeps (h : Behind host due pending session other) {world world' : ω}
    (hworld : host.Keeps due session.world world) (hworld' : host.Keeps due other.world world') :
    Behind host due pending { session with world } { other with world := world' } := by
  obtain ⟨outcomes, hsession, hother⟩ := h.awaited
  exact { h with
    files := (hworld.files.symm.trans h.files).trans hworld'.files
    awaited := ⟨outcomes, hsession.keeps hworld, hother.keeps hworld'⟩ }

theorem queued (h : Behind host due pending session other) (text : String) :
    Behind host due pending { session with queue := session.queue ++ [.text text] }
      { other with queue := other.queue ++ [.text text] } := by
  obtain ⟨outcomes, hsession, hother⟩ := h.awaited
  refine { h with awaited := ⟨outcomes ++ [.text text], ?_, hother.text text⟩ }
  rw [← List.append_assoc]
  exact hsession.text text

/-- New processes of which the same is due are queued. -/
theorem launched (h : Behind host due pending session other) {world world' : ω}
    (hworld : host.Keeps due session.world world) (hworld' : host.Keeps due other.world world')
    {process process' : η} {result : Outcome}
    (hnew : due session.world process = none ∧ due world process = some result)
    (hnew' : due other.world process' = none ∧ due world' process' = some result)
    (command : String) :
    Behind host due pending
      { session with world, queue := session.queue ++ [.process command process] }
      { other with world := world', queue := other.queue ++ [.process command process'] } := by
  obtain ⟨outcomes, hsession, hother⟩ := h.awaited
  refine { h with
    files := (hworld.files.symm.trans h.files).trans hworld'.files
    awaited := ⟨outcomes ++ [.process command result], ?_,
      hother.process hworld' hnew'.1 hnew'.2 command⟩ }
  rw [← List.append_assoc]
  exact hsession.process hworld hnew.1 hnew.2 command

theorem opened (h : Behind host due pending session other) (path : String) :
    Agree (fun found found' => found.1 = found'.1 ∧ Behind host due pending found.2 found'.2)
      (opened host path session) (opened host path other) := by
  refine agree_opened (h.files.canonicalPath path).symm (h.files.readText path) (by rw [h.chain]) ?_
  exact { h with origin := rfl, chain := by rw [h.chain] }

end Behind

theorem isMatching_behind (h : host.IsSteady outcome due) (pending : List (Entry Outcome)) :
    IsMatching host (fun _ => False) (Behind host due pending) where
  environment hsession := hsession.environment
  directory hsession := congrArg Path.parent hsession.origin
  queued text hsession := hsession.queued text
  ran script exports session other hsession := by
    obtain ⟨world, hworld, hrun⟩ := runScript_eq h script exports session
    obtain ⟨world', hworld', hrun'⟩ := runScript_eq h script exports other
    rw [hrun, hrun', hsession.shell]
    right
    cases outcome ⟨other.shell, script, exports⟩ <;> exact ⟨rfl, hsession.keeps hworld hworld'⟩
  launched script exports session other hsession := by
    right
    show (Walk.bind (startScript host script exports) _ session).1 =
        (Walk.bind (startScript host script exports) _ other).1 ∧
      Behind host due pending (Walk.bind (startScript host script exports) _ session).2
        (Walk.bind (startScript host script exports) _ other).2
    obtain ⟨world, hworld, hcases⟩ := startScript_cases h script exports session
    obtain ⟨world', hworld', hcases'⟩ := startScript_cases h script exports other
    rw [hsession.shell] at hcases
    rcases hcases with
      ⟨process, result, hresult, hfresh, hdue, hstart⟩ | ⟨fault, hfault, hstart⟩ <;>
      rcases hcases' with
        ⟨process', result', hresult', hfresh', hdue', hstart'⟩ | ⟨fault', hfault', hstart'⟩
    · -- Both scripts are started, with the same outcome due.
      obtain rfl : result = result' := Except.ok.inj (hresult.symm.trans hresult')
      rw [Walk.bind_ok hstart, Walk.bind_ok hstart']
      exact ⟨rfl, hsession.launched hworld hworld' ⟨hfresh, hdue⟩ ⟨hfresh', hdue'⟩ script⟩
    · cases hresult.symm.trans hfault'
    · cases hfault.symm.trans hresult'
    · obtain rfl : fault = fault' := Except.error.inj (hfault.symm.trans hfault')
      rw [Walk.bind_error hstart, Walk.bind_error hstart']
      exact ⟨rfl, hsession.keeps hworld hworld'⟩
  configured name value hsession := { hsession with config := by rw [hsession.config] }
  rebound environment hsession := { hsession with environment := rfl }
  opened path hsession := .inr (hsession.opened path)
  closed hsession hinside :=
    { hinside with origin := hsession.origin, chain := hsession.chain }

/-- From sessions one of which has more pending, walks end alike. -/
theorem behind_each (h : host.IsSteady outcome due) (fuel : Nat) (statements : List Statement)
    {session other : Session ω η} (hsession : Behind host due pending session other) :
    (each (execute host fuel) statements session).1 =
        (each (execute host fuel) statements other).1 ∧
      Behind host due pending (each (execute host fuel) statements session).2
        (each (execute host fuel) statements other).2 :=
  (matches_each (fun statement =>
      matches_execute (isMatching_behind h pending) le_rfl
        (fun hlt => absurd hlt (lt_irrefl fuel)) statement)
    statements session other hsession).resolve_left fun ⟨_, hfalse, _⟩ => hfalse

/-- All that a session waits for is pending in front of the same session with an empty queue. -/
theorem behind_of_awaited {session : Session ω η} {world : ω}
    (hsession : Entry.Awaited (due session.world) session.queue pending)
    (hfiles : host.SameFiles session.world world) :
    Behind host due pending session { session with queue := [], world } where
  origin := rfl
  chain := rfl
  environment := rfl
  config := rfl
  files := hfiles
  awaited := ⟨[], by rwa [List.append_nil], .nil⟩

/-- What is waited for stays in front of what a walk adds. -/
theorem awaited_each (h : host.IsSteady outcome due) (fuel : Nat) (statements : List Statement)
    {session : Session ω η} (hsession : Entry.Awaited (due session.world) session.queue pending) :
    ∃ outcomes, Entry.Awaited (due (each (execute host fuel) statements session).2.world)
      (each (execute host fuel) statements session).2.queue (pending ++ outcomes) := by
  obtain ⟨outcomes, hawaited, -⟩ := (behind_each h fuel statements
    (behind_of_awaited hsession (Host.SameFiles.refl host _))).2.awaited
  exact ⟨outcomes, hawaited⟩

theorem IsReady.awaited {session : Session ω η} (h : session.IsReady due) :
    ∃ outcomes, Entry.Awaited (due session.world) session.queue outcomes := by
  obtain ⟨outcomes, houtcomes⟩ := Entry.exists_outcomes h.running
  exact ⟨outcomes, houtcomes, h.nodup⟩

end Session

end

end TaskRunner
