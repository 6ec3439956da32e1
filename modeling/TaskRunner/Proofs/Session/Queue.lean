import TaskRunner.Proofs.Session.Course
import TaskRunner.Proofs.Session.Resolution

/-! What an evaluation shows.  A walk queues what the descriptions and the actions of its course
have to say, in that order, however it ends; and what is queued is written up to the first process
that fails.  The lines of the two outputs of a process are written as they arrived.  The error of
the walk comes before that of the process. -/

namespace TaskRunner

variable {ω η α β : Type}

/-! ### What a walk queues -/

/-- What is queued at a point of a walk: a text for each line of a description, and what an action
that is not blank shows and starts. -/
inductive Point.Queues (host : Host ω η) (point : Point ω η) : List (Entry η) → Prop where
  | lines {lines : List String} (hturn : point.turn = .statement (.describe lines)) :
      Point.Queues host point (lines.map fun line => .text ("> " ++ line ++ "\n"))
  | action {script : String} {entries : List (Entry η)} {result : Except Halt (Option String)}
      {world : ω} (hturn : point.turn = .statement (.action script))
      (hsolid : isBlankText script.toList = false)
      (hacts : Session.ActsOn host script point.session entries result world) :
      Point.Queues host point entries
  | blank {script : String} (hturn : point.turn = .statement (.action script))
      (hblank : isBlankText script.toList = true) : Point.Queues host point []
  | other (hlines : ∀ lines, point.turn ≠ .statement (.describe lines))
      (haction : ∀ script, point.turn ≠ .statement (.action script)) : Point.Queues host point []

/-- What is queued at a point of a walk, computed. -/
def Point.entries (host : Host ω η) (point : Point ω η) : List (Entry η) :=
  match point.turn with
  | .statement (.describe lines) => lines.map fun line => .text (descriptionLine line)
  | .statement (.action script) => Session.actionEntries host point.fuel script point.session
  | _ => []

namespace Session

variable {host : Host ω η}

/-- What is captured changes nothing but the world. -/
theorem snd_capture (host : Host ω η) (fuel : Nat) (run : Run) (session : Session ω η) :
    ∃ world, (capture host fuel run session).2 = { session with world } := by
  cases hscripts : session.environment.scriptsOf fuel run with
  | error halt =>
    rw [capture_of_scriptsOf_error hscripts]
    exact ⟨session.world, rfl⟩
  | ok scripts =>
    rcases capture_of_scriptsOf host hscripts with
      ⟨_, world, _, hcapture⟩ | ⟨_, world, _, hcapture⟩ <;> rw [hcapture] <;> exact ⟨world, rfl⟩

theorem isAccount_queue (host : Host ω η) :
    Walk.IsAccount host fun _ session points _ after =>
      after.queue = session.queue ++ points.flatMap (Point.entries host) where
  none _ _ := (List.append_nil _).symm
  seq h h' := by rw [h', h, List.flatMap_append, List.append_assoc]
  exhausted _ _ := (List.append_nil _).symm
  undefined _ _ _ _ _ := (List.append_nil _).symm
  invalid _ _ _ := (List.append_nil _).symm
  captured _ s fuel run := by
    obtain ⟨world, hworld⟩ := snd_capture host fuel run s
    rw [hworld, List.flatMap_nil, List.append_nil]
  configured _ _ _ _ := (List.append_nil _).symm
  boundVariable _ _ _ _ := (List.append_nil _).symm
  declared _ _ _ _ _ := (List.append_nil _).symm
  described _ _ _ _ := by rw [List.flatMap_singleton]; rfl
  acted _ s fuel script := by
    obtain ⟨world, hworld⟩ := snd_action host fuel script s
    rw [hworld, List.flatMap_singleton]
    rfl
  entered fuel statement hbasic h := by
    rw [h, List.flatMap_cons]
    cases statement <;> first | rfl | cases hbasic
  scope h := h
  closed _ _ _ _ _ _ := (List.append_nil _).symm
  file _ _ _ _ _ hopened h := by
    obtain ⟨-, -, rfl⟩ := of_opened_ok hopened
    exact h

/-- If a walk was followed to its end, what is queued at its points is told by what they are. -/
theorem isAccount_queues (host : Host ω η) :
    Walk.IsAccount host fun _ _ points halt _ =>
      halt ≠ some .exhausted → ∀ point ∈ points, point.Queues host (point.entries host) where
  none _ _ _ := by simp
  seq h h' hne := List.forall_mem_append.2 ⟨h (by simp), h' hne⟩
  exhausted _ _ _ := by simp
  undefined _ _ _ _ _ _ := by simp
  invalid _ _ _ _ := by simp
  captured _ _ _ _ _ := by simp
  configured _ _ _ _ _ := by simp
  boundVariable _ _ _ _ _ := by simp
  declared _ _ _ _ _ _ := List.forall_mem_singleton.2 (.other (by simp) (by simp))
  described _ _ _ _ _ := List.forall_mem_singleton.2 (.lines rfl)
  acted _ s fuel script hne := by
    refine List.forall_mem_singleton.2 ?_
    cases hblank : isBlankText script.toList with
    | true =>
      have hentries : actionEntries host fuel script s = [] := by
        rw [actionEntries, if_pos (trimScript_eq_empty_iff.2 hblank)]
      show Point.Queues host _ (actionEntries host fuel script s)
      rw [hentries]
      exact .blank rfl hblank
    | false =>
      refine .action rfl hblank (action_acts host fuel s hblank fun hexhausted => hne ?_)
      rw [hexhausted]
      rfl
  entered fuel statement hbasic h hne := by
    refine List.forall_mem_cons.2 ⟨?_, h hne⟩
    cases statement <;> first | exact .other (by simp) (by simp) | cases hbasic
  scope h := h
  closed _ _ _ _ _ _ _ := List.forall_mem_singleton.2 (.other (by simp) (by simp))
  file _ _ _ _ _ _ h hne := List.forall_mem_cons.2 ⟨.other (by simp) (by simp), h hne⟩

end Session

/-! ### Entries that are settled -/

/-- The output of a process as it is shown: a last line that is not complete is completed. -/
def completed (bytes : Bytes) : Bytes :=
  if bytes = [] ∨ bytes.getLast? = some lineFeed then bytes else bytes ++ [lineFeed]

namespace Entry

/-- What becomes of an entry when its process is waited for, and the world after it. -/
def wait (host : Host ω η) : Entry η → ω → Entry Outcome × ω
  | .text t, world => (.text t, world)
  | .process command running, world =>
    (.process command (host.finish running world).1, (host.finish running world).2)

/-- What becomes of queued entries when their processes are waited for, one after the other. -/
def settled (host : Host ω η) : List (Entry η) → ω → List (Entry Outcome)
  | [], _ => []
  | entry :: rest, world => (entry.wait host world).1 :: settled host rest (entry.wait host world).2

/-- The error of a process that exited unsuccessfully. -/
def failure? : Entry Outcome → Option RunError
  | .text _ => none
  | .process command outcome =>
    if outcome.status.isSuccess then none else some (.commandFailed command outcome.status)

/-- The entries up to the first process that exited unsuccessfully, and with it. -/
def shown : List (Entry Outcome) → List (Entry Outcome)
  | [] => []
  | entry :: rest => entry :: if entry.failure?.isSome then [] else shown rest

/-- The writes that show an entry. -/
def writes : Entry Outcome → List Bytes
  | .text t => [utf8 t]
  | .process _ outcome => outcome.toTranscript.chunks

/-- The bytes of an entry: those of a text, and for a process its output. -/
def rendering : Entry Outcome → Bytes
  | .text t => utf8 t
  | .process _ outcome => completed (outcome.stdout ++ outcome.stderr)

/-- The entry is no process that wrote to both its outputs. -/
def IsOneSided : Entry Outcome → Prop
  | .text _ => True
  | .process _ outcome => outcome.stdout = [] ∨ outcome.stderr = []

end Entry

/-- What a writing comes to: nothing, or the error that ends it. -/
def verdictOf : Option RunError → Except RunError Unit
  | none => .ok ()
  | some error => .error error

theorem outputLines_eq_nil_iff {bytes : Bytes} : outputLines bytes = [] ↔ bytes = [] := by
  cases bytes with
  | nil => simp
  | cons b bytes =>
    rw [outputLines_cons]
    unfold addToLines
    split
    · simp
    · split <;> simp

theorem completed_cons (b : UInt8) {bytes : Bytes} (h : bytes ≠ []) :
    completed (b :: bytes) = b :: completed bytes := by
  obtain ⟨c, rest, rfl⟩ := List.exists_cons_of_ne_nil h
  simp only [completed, List.getLast?_cons_cons, reduceCtorEq, false_or]
  split <;> rfl

theorem flatten_outputLines (bytes : Bytes) : (outputLines bytes).flatten = completed bytes := by
  induction bytes with
  | nil => rfl
  | cons b bytes ih =>
    rw [outputLines_cons]
    unfold addToLines
    cases hlines : outputLines bytes with
    | nil =>
      obtain rfl := outputLines_eq_nil_iff.1 hlines
      by_cases hb : b = lineFeed <;> simp [completed, hb]
    | cons line more =>
      have hne : bytes ≠ [] := fun hnil => by
        rw [outputLines_eq_nil_iff.2 hnil] at hlines
        cases hlines
      rw [completed_cons b hne, ← ih, hlines]
      by_cases hb : b = lineFeed <;> simp [hb]

/-- The lines are those of two outputs, in which each keeps its order. -/
inductive Interleaves : List Bytes → List Bytes → List Bytes → Prop where
  | nil : Interleaves [] [] []
  | stdout {line : Bytes} {out err lines : List Bytes} (h : Interleaves out err lines) :
      Interleaves (line :: out) err (line :: lines)
  | stderr {line : Bytes} {out err lines : List Bytes} (h : Interleaves out err lines) :
      Interleaves out (line :: err) (line :: lines)

theorem interleaves_append (out err : List Bytes) : Interleaves out err (out ++ err) := by
  induction out with
  | nil =>
    induction err with
    | nil => exact .nil
    | cons line err ih => exact .stderr ih
  | cons line out ih => exact .stdout ih

/-- The lines of a process are written in any order in which they can arrive, and in no other. -/
theorem interleaves_iff {out err lines : List Bytes} :
    Interleaves out err lines ↔ ∃ arrivals, lines = interleave arrivals out err := by
  constructor
  · intro h
    induction h with
    | nil => exact ⟨[], rfl⟩
    | @stdout line out err _ _ ih =>
      obtain ⟨arrivals, rfl⟩ := ih
      exact ⟨.stdout :: arrivals, by rw [interleave]⟩
    | @stderr line out err _ _ ih =>
      obtain ⟨arrivals, rfl⟩ := ih
      exact ⟨.stderr :: arrivals, by rw [interleave]⟩
  · rintro ⟨arrivals, rfl⟩
    induction arrivals, out, err using interleave.induct with
    | case1 out err => exact interleaves_append out err
    | case2 arrivals line out err ih => exact .stdout ih
    | case3 arrivals err ih => exact ih
    | case4 arrivals out line err ih =>
      rw [interleave]
      exact .stderr ih
    | case5 arrivals out ih =>
      rw [interleave]
      exact ih

/-- Lines that come from one output only arrive in their order. -/
theorem interleave_nil_right (arrivals : List StandardOutput) (out : List Bytes) :
    interleave arrivals out [] = out := by
  induction arrivals generalizing out with
  | nil => rw [interleave, List.append_nil]
  | cons output arrivals ih =>
    cases output with
    | stdout => cases out <;> rw [interleave, ih]
    | stderr => rw [interleave, ih]

theorem interleave_nil_left (arrivals : List StandardOutput) (err : List Bytes) :
    interleave arrivals [] err = err := by
  induction arrivals generalizing err with
  | nil => rfl
  | cons output arrivals ih =>
    cases output with
    | stdout => rw [interleave, ih]
    | stderr => cases err <;> rw [interleave, ih]

theorem Transcript.chunks_of_isOneSided {transcript : Transcript}
    (h : transcript.stdout = [] ∨ transcript.stderr = []) :
    transcript.chunks = outputLines (transcript.stdout ++ transcript.stderr) := by
  rw [chunks]
  rcases h with h | h <;> simp [h, interleave_nil_left, interleave_nil_right]

/-! ### Sinks with room -/

/-- The sink with more bytes taken. -/
def Sink.after (sink : Sink) (bytes : Bytes) : Sink :=
  { sink with taken := sink.taken ++ bytes }

@[simp] theorem Sink.after_nil (sink : Sink) : sink.after [] = sink := by
  rw [after, List.append_nil]

theorem Sink.after_append (sink : Sink) (bytes more : Bytes) :
    (sink.after bytes).after more = sink.after (bytes ++ more) := by
  simp only [after, List.append_assoc]

theorem Sink.admits_after {sink : Sink} {bytes : Bytes} {count : Nat} :
    (sink.after bytes).admits count = sink.admits (bytes.length + count) := by
  unfold admits after
  cases sink.limit with
  | none => rfl
  | some limit => simp only [List.length_append, Nat.add_assoc]

theorem Sink.admits_of_le {sink : Sink} {count more : Nat} (h : sink.admits more)
    (hle : count ≤ more) : sink.admits count := by
  unfold admits at *
  cases hlimit : sink.limit with
  | none => rfl
  | some limit =>
    simp only [hlimit, decide_eq_true_eq] at h ⊢
    omega

/-- A sink with room for all writes takes them all. -/
theorem Sink.writeAll_of_admits {chunks : List Bytes} {sink : Sink}
    (h : sink.admits chunks.flatten.length) :
    sink.writeAll chunks = (.ok (), sink.after chunks.flatten) := by
  induction chunks generalizing sink with
  | nil => rw [List.flatten_nil, after_nil, writeAll]
  | cons chunk chunks ih =>
    rw [List.flatten_cons, List.length_append] at h
    have hfirst : sink.write chunk = (.ok (), sink.after chunk) := by
      rw [write, if_pos (Sink.admits_of_le h (Nat.le_add_right _ _))]
      rfl
    have hrest : (sink.after chunk).admits chunks.flatten.length := by rw [admits_after]; exact h
    rw [writeAll, hfirst]
    dsimp only
    rw [ih hrest, after_append, List.flatten_cons]

/-! ### Writing -/

theorem Entry.flatten_writes {entry : Entry Outcome} (h : entry.IsOneSided) :
    entry.writes.flatten = entry.rendering := by
  cases entry with
  | text text => simp [writes, rendering]
  | process command outcome =>
    rw [writes, Transcript.chunks_of_isOneSided h, flatten_outputLines]
    rfl

theorem Entry.flatten_flatMap_writes {entries : List (Entry Outcome)}
    (h : ∀ entry ∈ entries, entry.IsOneSided) :
    (entries.flatMap Entry.writes).flatten = entries.flatMap Entry.rendering := by
  induction entries with
  | nil => rfl
  | cons entry rest ih =>
    obtain ⟨hfirst, hmore⟩ := List.forall_mem_cons.1 h
    rw [List.flatMap_cons, List.flatMap_cons, List.flatten_append, flatten_writes hfirst, ih hmore]

/-- What a sink says to an entry: the error that refuses a write of it, or else its verdict. -/
def Sink.receive (sink : Sink) (entry : Entry Outcome) : Except RunError Unit × Sink :=
  match sink.writeAll entry.writes with
  | (.error error, taken) => (.error error, taken)
  | (.ok (), taken) => (verdictOf entry.failure?, taken)

/-- An entry that is written whole, and whose process did not fail, was waited for.  A process that
failed was waited for too, and one whose output is refused is given up. -/
theorem Entry.present_eq (host : Host ω η) (sink : Sink) (entry : Entry η) (world : ω) :
    ∃ after, entry.present host sink world =
        ((sink.receive (entry.wait host world).1).1, (sink.receive (entry.wait host world).1).2,
          after) ∧
      ((sink.receive (entry.wait host world).1).1 = .ok () →
        after = (entry.wait host world).2) := by
  cases entry with
  | text t =>
    refine ⟨world, ?_, fun _ => rfl⟩
    simp only [present, Entry.wait, Sink.receive, writes, failure?, verdictOf, Sink.writeAll]
    rcases sink.write (utf8 t) with ⟨error | ⟨⟩, taken⟩ <;> rfl
  | process command running =>
    simp only [present, Entry.wait, Sink.receive, writes, Host.finish]
    rcases sink.writeAll (host.collect running world).1.chunks with ⟨error | ⟨⟩, taken⟩
    · exact ⟨_, rfl, fun hok => by cases hok⟩
    · refine ⟨_, ?_, fun _ => rfl⟩
      simp only [ExitStatus.verdict, failure?, verdictOf]
      split <;> rfl

/-- The first entry of a queue is waited for and written.  The rest is written after it, or given up
with an error. -/
theorem drain_cons (host : Host ω η) (sink : Sink) (entry : Entry η) (rest : List (Entry η))
    (world : ω) :
    drain host sink (entry :: rest) world =
      match sink.receive (entry.wait host world).1 with
      | (.error error, taken) =>
        (.error error, taken, abandonAll host rest (entry.present host sink world).2.2)
      | (.ok (), taken) => drain host taken rest (entry.wait host world).2 := by
  rw [drain]
  obtain ⟨after, hpresent, hafter⟩ := entry.present_eq host sink world
  rw [hpresent]
  rcases hreceived : sink.receive (entry.wait host world).1 with ⟨error | ⟨⟩, taken⟩
  · rfl
  · rw [hreceived] at hafter
    rw [hafter rfl]

/-- What is written, and how the writing ends, depends on what becomes of the entries alone. -/
theorem drain_eq_of_settled_eq (host : Host ω η) {queue other : List (Entry η)} {world world' : ω}
    (h : Entry.settled host queue world = Entry.settled host other world') (sink : Sink) :
    (drain host sink queue world).1 = (drain host sink other world').1 ∧
      (drain host sink queue world).2.1 = (drain host sink other world').2.1 := by
  induction queue generalizing other world world' sink with
  | nil =>
    cases other with
    | nil => exact ⟨rfl, rfl⟩
    | cons entry rest => cases h
  | cons entry queue ih =>
    cases other with
    | nil => cases h
    | cons entry' other =>
      rw [Entry.settled, Entry.settled] at h
      obtain ⟨hentry, hrest⟩ := List.cons.inj h
      rw [drain_cons, drain_cons, hentry]
      rcases sink.receive (entry'.wait host world').1 with ⟨error | ⟨⟩, taken⟩
      · exact ⟨rfl, rfl⟩
      · exact ih hrest taken

/-- Queued entries are written up to the first process that fails, whose error ends the writing. -/
theorem drain_eq_writes (host : Host ω η) {queue : List (Entry η)} {world : ω} {sink : Sink}
    (hroom : sink.admits
      ((Entry.shown (Entry.settled host queue world)).flatMap Entry.writes).flatten.length)
    (hsound : sink.broken = false) :
    ∃ after, drain host sink queue world =
      (verdictOf ((Entry.settled host queue world).findSome? Entry.failure?),
        sink.after
          ((Entry.shown (Entry.settled host queue world)).flatMap Entry.writes).flatten,
        after) := by
  induction queue generalizing world sink with
  | nil =>
    refine ⟨world, ?_⟩
    rw [drain, Sink.flush, hsound, Entry.settled, Entry.shown, List.flatMap_nil, List.flatten_nil,
      Sink.after_nil]
    rfl
  | cons entry rest ih =>
    rw [Entry.settled, Entry.shown] at hroom ⊢
    rw [List.flatMap_cons, List.flatten_append, List.length_append] at hroom
    -- Room for all that is shown is room for this entry, and after it for the others.
    have hwritten : sink.writeAll (entry.wait host world).1.writes =
        (.ok (), sink.after (entry.wait host world).1.writes.flatten) :=
      Sink.writeAll_of_admits (Sink.admits_of_le hroom (Nat.le_add_right _ _))
    rw [drain_cons, Sink.receive]
    simp only [hwritten, List.findSome?_cons, List.flatMap_cons]
    cases hfailure : (entry.wait host world).1.failure? with
    | some error =>
      simp only [verdictOf, Option.isSome_some, if_true, List.flatMap_nil, List.append_nil]
      exact ⟨_, rfl⟩
    | none =>
      simp only [hfailure, Option.isSome_none, Bool.false_eq_true, if_false] at hroom ⊢
      rw [← Sink.admits_after] at hroom
      obtain ⟨after, hafter⟩ := ih hroom hsound
      refine ⟨after, hafter.trans ?_⟩
      rw [Sink.after_append, List.flatten_append]

/-- If no process that is shown wrote to both its outputs, the bytes are those of the entries. -/
theorem drain_eq (host : Host ω η) {queue : List (Entry η)} {world : ω} {sink : Sink}
    (hsides : ∀ entry ∈ Entry.shown (Entry.settled host queue world), entry.IsOneSided)
    (hroom : sink.admits
      ((Entry.shown (Entry.settled host queue world)).flatMap Entry.rendering).length)
    (hsound : sink.broken = false) :
    ∃ after, drain host sink queue world =
      (verdictOf ((Entry.settled host queue world).findSome? Entry.failure?),
        sink.after ((Entry.shown (Entry.settled host queue world)).flatMap Entry.rendering),
        after) := by
  rw [← Entry.flatten_flatMap_writes hsides] at hroom ⊢
  exact drain_eq_writes host hroom hsound

/-! ### Evaluations -/

/-- The result of a statement: a literal has its value, and nothing else has one. -/
def Statement.value? : Statement → Option String
  | .literal value => some value.value
  | _ => none

namespace Session

variable {host : Host ω η} {fuel : Nat}

theorem value_of_execute_ok {statement : Statement} {session after : Session ω η}
    {value : Option String} (h : execute host fuel statement session = (.ok value, after)) :
    value = statement.value? := by
  cases fuel with
  | zero => cases h
  | succ fuel =>
    cases statement with
    | literal literal =>
      cases h
      rfl
    | target name body =>
      cases h
      rfl
    | _ =>
      obtain ⟨_, _, -, hvalue⟩ := Walk.of_bind_ok h
      cases hvalue
      rfl

/-- A walk that comes to its end has one result for each statement. -/
theorem values_of_each_ok {statements : List Statement} {session after : Session ω η}
    {values : List (Option String)}
    (h : Walk.each (execute host fuel) statements session = (.ok values, after)) :
    values = statements.map Statement.value? := by
  induction statements generalizing session values with
  | nil =>
    cases h
    rfl
  | cons statement rest ih =>
    obtain ⟨value, middle, more, hfirst, hrest, rfl⟩ := Walk.of_each_cons_ok h
    rw [List.map_cons, ← value_of_execute_ok hfirst, ← ih hrest]

/-- After a walk that comes to its end, the result is what the writing comes to. -/
theorem evaluate_of_each_ok {statements : List Statement} {session after : Session ω η}
    {values : List (Option String)}
    (h : Walk.each (execute host fuel) statements session = (.ok values, after)) (sink : Sink) :
    evaluate host fuel statements session sink =
      some ⟨(drain host sink after.queue after.world).1.map fun _ => values,
        { after with queue := [], world := (drain host sink after.queue after.world).2.2 },
        (drain host sink after.queue after.world).2.1⟩ := by
  unfold evaluate
  rw [h]

/-- After a walk that fails, the result is its error, whatever the writing comes to. -/
theorem evaluate_of_each_error {statements : List Statement} {session after : Session ω η}
    {error : RunError}
    (h : Walk.each (execute host fuel) statements session = (.error (.error error), after))
    (sink : Sink) :
    evaluate host fuel statements session sink =
      some ⟨.error error,
        { after with queue := [], world := (drain host sink after.queue after.world).2.2 },
        (drain host sink after.queue after.world).2.1⟩ := by
  unfold evaluate
  rw [h]

theorem evaluate_of_each_exhausted {statements : List Statement} {session after : Session ω η}
    (h : Walk.each (execute host fuel) statements session = (.error .exhausted, after))
    (sink : Sink) : evaluate host fuel statements session sink = none := by
  unfold evaluate
  rw [h]

/-- An evaluation writes what its walk has queued and leaves nothing queued.  It ends with the error
of the walk, or else as the writing does. -/
theorem ends_of_evaluate {statements : List Statement} {session : Session ω η} {sink : Sink}
    {done : Evaluation ω η} (h : evaluate host fuel statements session sink = some done) :
    let walked := Walk.each (execute host fuel) statements session
    let written := drain host sink walked.2.queue walked.2.world
    done.session.queue = [] ∧ done.sink = written.2.1 ∧
      ((∃ error, walked.1 = .error (.error error) ∧ done.result = .error error) ∨
        ∃ values, walked.1 = .ok values ∧ done.result = written.1.map fun _ => values) := by
  intro walked written
  have hqueue := (continues_evaluate h).2.2.2
  rcases hwalk : walked with ⟨result, after⟩
  match result with
  | .ok values =>
    rw [evaluate_of_each_ok hwalk] at h
    cases h
    exact ⟨hqueue, by simp [written, hwalk], .inr ⟨values, rfl, by simp [written, hwalk]⟩⟩
  | .error (.error error) =>
    rw [evaluate_of_each_error hwalk] at h
    cases h
    exact ⟨hqueue, by simp [written, hwalk], .inl ⟨error, rfl, rfl⟩⟩
  | .error .exhausted =>
    rw [evaluate_of_each_exhausted hwalk] at h
    cases h

/-- What becomes of the entries that the walk over some statements queues. -/
def outcomesOf (host : Host ω η) (fuel : Nat) (statements : List Statement)
    (session : Session ω η) : List (Entry Outcome) :=
  let walked := Walk.each (execute host fuel) statements session
  Entry.settled host walked.2.queue walked.2.world

/-- What a walk from an empty queue queues is what is queued at the points of its course, one after
the other. -/
theorem queue_of_each {statements : List Statement} {session : Session ω η}
    (hqueue : session.queue = [])
    (hends : (Walk.each (execute host fuel) statements session).1 ≠ .error .exhausted) :
    ∃ rows, List.Forall₂ (Point.Queues host) (courseOf host fuel statements session) rows ∧
      (Walk.each (execute host fuel) statements session).2.queue = rows.flatten := by
  have hentries := tells_courseOf (isAccount_queue host) fuel statements session
  have hqueues := tells_courseOf (isAccount_queues host) fuel statements session
  rw [hqueue, List.nil_append, List.flatMap_def] at hentries
  refine ⟨_, ?_, hentries⟩
  rw [List.forall₂_map_right_iff]
  refine List.forall₂_same.2 (hqueues fun hexhausted => hends ?_)
  cases hresult : (Walk.each (execute host fuel) statements session).1 with
  | ok values =>
    rw [hresult] at hexhausted
    cases hexhausted
  | error halt =>
    rw [hresult] at hexhausted
    cases hexhausted
    rfl

/-- What an evaluation shows, and how it ends.  The walk queues what is to be said at the points of
its course, one after the other.  The entries that it queued, up to the first process that failed,
are written even if the walk failed.  The error of the walk comes first, then that of the process;
without either there is one result for each statement.  Nothing stays queued. -/
theorem evaluate_shows (host : Host ω η) (fuel : Nat) (statements : List Statement)
    (session : Session ω η) (sink : Sink) (hqueue : session.queue = [])
    (hends : (Walk.each (execute host fuel) statements session).1 ≠ .error .exhausted)
    (hsides : ∀ entry ∈ Entry.shown (outcomesOf host fuel statements session), entry.IsOneSided)
    (hroom : sink.admits
      ((Entry.shown (outcomesOf host fuel statements session)).flatMap Entry.rendering).length)
    (hsound : sink.broken = false) :
    (∃ rows, List.Forall₂ (Point.Queues host) (courseOf host fuel statements session) rows ∧
      (Walk.each (execute host fuel) statements session).2.queue = rows.flatten) ∧
    ∃ done, evaluate host fuel statements session sink = some done ∧
      done.sink = sink.after
        ((Entry.shown (outcomesOf host fuel statements session)).flatMap Entry.rendering) ∧
      done.result =
        (match (Walk.each (execute host fuel) statements session).1,
            (outcomesOf host fuel statements session).findSome? Entry.failure? with
        | .error (.error error), _ => .error error
        | _, some error => .error error
        | _, none => .ok (statements.map Statement.value?)) ∧
      done.session.queue = [] := by
  refine ⟨queue_of_each hqueue hends, ?_⟩
  obtain ⟨world, hdrain⟩ := drain_eq host hsides hroom hsound
  unfold outcomesOf at *
  unfold evaluate
  dsimp only at *
  rw [hdrain]
  generalize Entry.settled host _ _ = outcomes
  rcases hwalked : Walk.each (execute host fuel) statements session with ⟨result, after⟩
  rw [hwalked] at hends
  cases result with
  | error halt =>
    cases halt with
    | exhausted => exact absurd rfl hends
    | error error => exact ⟨_, rfl, rfl, rfl, rfl⟩
  | ok values =>
    obtain rfl := values_of_each_ok hwalked
    refine ⟨_, rfl, rfl, ?_, rfl⟩
    cases outcomes.findSome? Entry.failure? <;> rfl

/-- A script of several lines with a margin, and a process that failed before the walk did: what
stands before the end of the process is shown, and the error is that of the walk. -/
theorem evaluate_shows_both_failures :
    let host := Host.recorded fun invocation =>
      if invocation.script = "false" then ⟨⟨[], [], []⟩, .code 1⟩
      else ⟨⟨utf8 "b", [], []⟩, .code 0⟩
    let script := "\n\t\tif true; then\n\t\t\tprintf b \n\n\t\tfi\n\t"
    let trimmed := "if true; then\n\t\t\tprintf b \n\n\t\tfi"
    let statements : List Statement :=
      [.describe ["a"], .run ⟨none, [.action script], .during⟩,
        .run ⟨none, [.action "false"], .during⟩, .describe ["c"], .run ⟨some "t", [], .during⟩]
    let session := start host "runny.rny" []
    let sink : Sink := ⟨[], none, false⟩
    session.queue = [] ∧
      (Walk.each (execute host 4) statements session).1 = .error (.error (.undefinedTarget "t")) ∧
      Entry.shown (outcomesOf host 4 statements session) =
        [.text "> a\n", .text "if true; then\n\tprintf b\n\nfi\n",
          .process trimmed ⟨⟨utf8 "b", [], []⟩, .code 0⟩,
          .text "false\n", .process "false" ⟨⟨[], [], []⟩, .code 1⟩] ∧
      (∃ rows, List.Forall₂ (Point.Queues host) (courseOf host 4 statements session) rows ∧
        rows.flatten = [.text "> a\n", .text "if true; then\n\tprintf b\n\nfi\n",
          .process trimmed 0, .text "false\n", .process "false" 1, .text "> c\n"]) ∧
      ∃ done, evaluate host 4 statements session sink = some done ∧
        done.sink.taken = utf8 "> a\nif true; then\n\tprintf b\n\nfi\nb\nfalse\n" ∧
        done.result = .error (.undefinedTarget "t") ∧ done.session.queue = [] := by
  intro host script trimmed statements session sink
  have hwalk : (Walk.each (execute host 4) statements session).1 =
      .error (.error (.undefinedTarget "t")) := by decide +kernel
  have hwalked : (Walk.each (execute host 4) statements session).2.queue =
      [.text "> a\n", .text "if true; then\n\tprintf b\n\nfi\n", .process trimmed 0,
        .text "false\n", .process "false" 1, .text "> c\n"] := by decide +kernel
  have hshown : Entry.shown (outcomesOf host 4 statements session) =
      [.text "> a\n", .text "if true; then\n\tprintf b\n\nfi\n",
        .process trimmed ⟨⟨utf8 "b", [], []⟩, .code 0⟩,
        .text "false\n", .process "false" ⟨⟨[], [], []⟩, .code 1⟩] := by decide +kernel
  have hsides : ∀ entry ∈ Entry.shown (outcomesOf host 4 statements session),
      entry.IsOneSided := by
    rw [hshown]
    simp [Entry.IsOneSided]
  obtain ⟨⟨rows, hrows, hflatten⟩, done, hdone, hsink, hresult, hqueue⟩ :=
    evaluate_shows host 4 statements session sink rfl (by rw [hwalk]; simp) hsides rfl rfl
  refine ⟨rfl, hwalk, hshown, ⟨rows, hrows, hflatten.symm.trans hwalked⟩, done, hdone, ?_, ?_,
    hqueue⟩
  · rw [hsink, hshown]
    decide +kernel
  · rw [hresult, hwalk]

end Session

end TaskRunner
