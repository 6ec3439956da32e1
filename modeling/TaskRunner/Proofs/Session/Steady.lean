import TaskRunner.Proofs.Session.Alike

/-! Steady surroundings.  What a script does depends on nothing but its invocation, whenever it is
started and whatever else runs, and files stay as they are.  What it does includes the order in
which the lines of its two outputs arrive, since they are shown in that order.  Two sessions in such
surroundings are alike if they are at the same place, differ in scripts only, and wait for processes
that will have done the same. -/

namespace TaskRunner

variable {ω η : Type}

/-- The same files can be read. -/
structure Host.SameFiles (host : Host ω η) (world other : ω) : Prop where
  readText (path : String) : host.readText path world = host.readText path other
  canonical (path : String) : host.canonical? path world = host.canonical? path other

/-- From the first world to the second, processes that run go on to the same outcome, and files stay
as they are. -/
structure Host.Keeps (host : Host ω η) (due : ω → η → Option Outcome) (world after : ω) :
    Prop where
  running {process : η} {result : Outcome} :
    due world process = some result → due after process = some result
  files : host.SameFiles world after

/-- The surroundings are steady.  `outcome` is what becomes of a script, with the order in which its
lines arrive, and `due` is what a process that was started, and that nobody has waited for yet, will
have done. -/
structure Host.IsSteady (host : Host ω η) (outcome : Invocation → Except Fault Outcome)
    (due : ω → η → Option Outcome) : Prop where
  /-- A process that is started is another one than those that run. -/
  started {invocation : Invocation} {world after : ω} {process : η} :
    host.start invocation world = (.ok process, after) →
      due world process = none ∧ ∃ result, outcome invocation = .ok result ∧
        due after process = some result
  refused {invocation : Invocation} {world after : ω} {fault : Fault} :
    host.start invocation world = (.error fault, after) → outcome invocation = .error fault
  started_keeps (invocation : Invocation) (world : ω) :
    host.Keeps due world (host.start invocation world).2
  finished {process : η} {world : ω} {result : Outcome} :
    due world process = some result → (host.finish process world).1 = result
  finished_running {process other : η} {world : ω} {result : Outcome} :
    other ≠ process → due world other = some result →
      due (host.finish process world).2 other = some result
  finished_files (process : η) (world : ω) :
    host.SameFiles world (host.finish process world).2

theorem Host.SameFiles.refl (host : Host ω η) (world : ω) : host.SameFiles world world :=
  ⟨fun _ => rfl, fun _ => rfl⟩

theorem Host.SameFiles.symm {host : Host ω η} {world other : ω} (h : host.SameFiles world other) :
    host.SameFiles other world :=
  ⟨fun path => (h.readText path).symm, fun path => (h.canonical path).symm⟩

theorem Host.SameFiles.trans {host : Host ω η} {world other third : ω}
    (h : host.SameFiles world other) (h' : host.SameFiles other third) :
    host.SameFiles world third :=
  ⟨fun path => (h.readText path).trans (h'.readText path),
    fun path => (h.canonical path).trans (h'.canonical path)⟩

/-! ### Sessions that are alike -/

/-- The entries show the same: equal texts, or processes that will have done the same and whose
commands the relation holds between. -/
inductive Entry.Alike (S : String → String → Prop) (due due' : η → Option Outcome) :
    Entry η → Entry η → Prop where
  | text (text : String) : Entry.Alike S due due' (.text text) (.text text)
  | process {command command' : String} {process process' : η} {result : Outcome}
      (hcommand : S command command') (hdue : due process = some result)
      (hdue' : due' process' = some result) :
      Entry.Alike S due due' (.process command process) (.process command' process')

/-- The processes of queued entries. -/
def Entry.processes (queue : List (Entry η)) : List η :=
  queue.filterMap fun entry =>
    match entry with
    | .text _ => none
    | .process _ started => some started

/-- The queues show the same, and no process is queued twice. -/
structure Entry.QueuesAlike (S : String → String → Prop) (due due' : η → Option Outcome)
    (queue other : List (Entry η)) : Prop where
  entries : List.Forall₂ (Entry.Alike S due due') queue other
  nodup : (Entry.processes queue).Nodup
  nodup' : (Entry.processes other).Nodup

/-- The sessions are at the same place, differ in scripts only, and their queues show the same. -/
structure Session.Alike (host : Host ω η) (due : ω → η → Option Outcome)
    (S : String → String → Prop) (session other : Session ω η) : Prop where
  origin : session.origin = other.origin
  chain : session.chain = other.chain
  config : session.config = other.config
  environment : Environment.Alike S session.environment other.environment
  files : host.SameFiles session.world other.world
  queue : Entry.QueuesAlike S (due session.world) (due other.world) session.queue other.queue

section

variable {host : Host ω η} {due : ω → η → Option Outcome} {S : String → String → Prop}

/-- Queues go on to show the same while their processes run. -/
theorem Entry.rel_mono {due₁ due₂ due₁' due₂' : η → Option Outcome} {queue other : List (Entry η)}
    (h : List.Forall₂ (Entry.Alike S due₁ due₂) queue other)
    (hdue : ∀ process ∈ Entry.processes queue, ∀ result, due₁ process = some result →
      due₁' process = some result)
    (hdue' : ∀ process ∈ Entry.processes other, ∀ result, due₂ process = some result →
      due₂' process = some result) :
    List.Forall₂ (Entry.Alike S due₁' due₂') queue other := by
  induction h with
  | nil => exact .nil
  | cons hentry _ ih =>
    cases hentry with
    | text text => exact .cons (.text text) (ih hdue hdue')
    | process hcommand hfirst hfirst' =>
      obtain ⟨hrunning, hmore⟩ := List.forall_mem_cons.1 hdue
      obtain ⟨hrunning', hmore'⟩ := List.forall_mem_cons.1 hdue'
      exact .cons (.process hcommand (hrunning _ hfirst) (hrunning' _ hfirst')) (ih hmore hmore')

/-- Sessions stay alike while the world goes on around them. -/
theorem Session.Alike.keeps {session other : Session ω η}
    (h : Session.Alike host due S session other) {world world' : ω}
    (hworld : host.Keeps due session.world world)
    (hworld' : host.Keeps due other.world world') :
    Session.Alike host due S { session with world } { other with world := world' } where
  origin := h.origin
  chain := h.chain
  config := h.config
  environment := h.environment
  files := (hworld.files.symm.trans h.files).trans hworld'.files
  queue :=
    { entries := Entry.rel_mono h.queue.entries (fun _ _ _ => hworld.running)
        fun _ _ _ => hworld'.running
      nodup := h.queue.nodup
      nodup' := h.queue.nodup' }

theorem Session.Alike.shell {session other : Session ω η}
    (h : Session.Alike host due S session other) : session.shell = other.shell := by
  unfold Session.shell
  rw [h.config]

/-- The session can go on: what it waits for was started, and nothing is waited for twice. -/
structure Session.IsReady (due : ω → η → Option Outcome) (session : Session ω η) : Prop where
  running : ∀ process ∈ Entry.processes session.queue,
    ∃ result, due session.world process = some result
  nodup : (Entry.processes session.queue).Nodup

theorem Environment.Alike.refl (h : ∀ script, S script script) (env : Environment) :
    Environment.Alike S env env := by
  have hvalue (value : Value) : Value.Alike S value value := by
    cases value with
    | text text => exact .text text
    | pending run => exact .pending (Run.Alike.refl h run)
  have hscope (scope : Scope) : Scope.Alike S scope scope :=
    ⟨List.forall₂_same.2 fun entry _ => ⟨rfl, hvalue entry.2⟩,
      List.forall₂_same.2 fun entry _ => ⟨rfl, Statement.alike_refl_row h entry.2⟩⟩
  exact ⟨hscope _, List.forall₂_same.2 fun scope _ => hscope scope⟩

/-- A session that can go on is like itself. -/
theorem Session.IsReady.alike (h : ∀ script, S script script) {session : Session ω η}
    (hready : session.IsReady due) : Session.Alike host due S session session where
  origin := rfl
  chain := rfl
  config := rfl
  environment := Environment.Alike.refl h _
  files := Host.SameFiles.refl host _
  queue :=
    { entries := by
        refine List.forall₂_same.2 fun entry hentry => ?_
        cases entry with
        | text text => exact .text text
        | process command running =>
          obtain ⟨result, hresult⟩ := hready.running running
            (List.mem_filterMap.2 ⟨_, hentry, rfl⟩)
          exact .process (h command) hresult hresult
      nodup := hready.nodup
      nodup' := hready.nodup }

theorem Entry.processes_append (queue : List (Entry η)) (command : String) (process : η) :
    Entry.processes (queue ++ [.process command process]) = Entry.processes queue ++ [process] := by
  simp [Entry.processes]

/-- Every process of queues that show the same was started. -/
theorem Entry.exists_due {due₁ due₂ : η → Option Outcome} {queue other : List (Entry η)}
    (h : List.Forall₂ (Entry.Alike S due₁ due₂) queue other) :
    (∀ process ∈ Entry.processes queue, ∃ result, due₁ process = some result) ∧
      ∀ process ∈ Entry.processes other, ∃ result, due₂ process = some result := by
  induction h with
  | nil => simp [Entry.processes]
  | cons hentry _ ih =>
    cases hentry with
    | text text => simpa [Entry.processes] using ih
    | process hcommand hdue hdue' =>
      exact ⟨List.forall_mem_cons.2 ⟨⟨_, hdue⟩, ih.1⟩, List.forall_mem_cons.2 ⟨⟨_, hdue'⟩, ih.2⟩⟩

/-- A process that was not running before may be queued. -/
theorem Entry.nodup_processes_append {queue : List (Entry η)} {running : η → Option Outcome}
    (hqueue : (Entry.processes queue).Nodup)
    (hdue : ∀ process ∈ Entry.processes queue, ∃ result, running process = some result)
    {process : η} (hfresh : running process = none) (command : String) :
    (Entry.processes (queue ++ [.process command process])).Nodup := by
  rw [Entry.processes_append]
  refine List.nodup_append.2 ⟨hqueue, List.pairwise_singleton _ process, ?_⟩
  rintro other hother last hlast rfl
  obtain ⟨result, hresult⟩ := hdue other hother
  rw [List.mem_singleton.1 hlast, hfresh] at hresult
  cases hresult

end

/-! ### Scripts in steady surroundings -/

/-- The surroundings are steady, and scripts that the relation holds between have the same outcome
and are shown alike. -/
structure Host.TreatsAlike (host : Host ω η) (outcome : Invocation → Except Fault Outcome)
    (due : ω → η → Option Outcome) (S : String → String → Prop) : Prop where
  steady : host.IsSteady outcome due
  shows : ShowsAlike S
  same {script other : String} (shell : String) (exports : List (String × String)) :
    S script other → outcome ⟨shell, script, exports⟩ = outcome ⟨shell, other, exports⟩

namespace Session

section

variable {host : Host ω η} {outcome : Invocation → Except Fault Outcome}
  {due : ω → η → Option Outcome}

/-- A script is started, as another process than those that run and with its outcome due, or it is
refused; everything else goes on. -/
theorem startScript_cases (h : host.IsSteady outcome due) (script : String)
    (exports : List (String × String)) (session : Session ω η) :
    ∃ world, host.Keeps due session.world world ∧
      ((∃ process result, outcome ⟨session.shell, script, exports⟩ = .ok result ∧
          due session.world process = none ∧ due world process = some result ∧
          startScript host script exports session = (.ok process, { session with world })) ∨
        ∃ fault, outcome ⟨session.shell, script, exports⟩ = .error fault ∧
          startScript host script exports session =
            (.error (.error (.notStarted session.shell fault)), { session with world })) := by
  have hkeeps := h.started_keeps ⟨session.shell, script, exports⟩ session.world
  cases hstart : host.start ⟨session.shell, script, exports⟩ session.world with
  | mk started world =>
    rw [hstart] at hkeeps
    refine ⟨world, hkeeps, ?_⟩
    cases started with
    | ok process =>
      obtain ⟨hfresh, result, hresult, hdue⟩ := h.started hstart
      exact .inl ⟨process, result, hresult, hfresh, hdue, by simp [startScript, hstart]⟩
    | error fault => exact .inr ⟨fault, h.refused hstart, by simp [startScript, hstart]⟩

/-- A script that runs to its end yields its outcome, and everything else goes on. -/
theorem runScript_eq (h : host.IsSteady outcome due) (script : String)
    (exports : List (String × String)) (session : Session ω η) :
    ∃ world, host.Keeps due session.world world ∧
      runScript host script exports session =
        match outcome ⟨session.shell, script, exports⟩ with
        | .ok result => (.ok result, { session with world })
        | .error fault =>
          (.error (.error (.notStarted session.shell fault)), { session with world }) := by
  show ∃ world, _ ∧ Walk.bind (startScript host script exports) (finish host) session = _
  obtain ⟨world, hkeeps, hcases⟩ := startScript_cases h script exports session
  rcases hcases with ⟨process, result, hresult, hfresh, hdue, hstart⟩ | ⟨fault, hfault, hstart⟩
  · refine ⟨(host.finish process world).2, ⟨fun {other} _ hother => ?_, ?_⟩, ?_⟩
    · refine h.finished_running (fun heq => ?_) (hkeeps.running hother)
      rw [heq, hfresh] at hother
      cases hother
    · exact hkeeps.files.trans (h.finished_files process world)
    · rw [Walk.bind_ok hstart, hresult, ← h.finished hdue]
      rfl
  · refine ⟨world, hkeeps, ?_⟩
    rw [Walk.bind_error hstart, hfault]

end

end Session

/-! ### Surroundings that can be seen through -/

/-- The outcome of a process that has nothing to say. -/
def Outcome.silent : Outcome := ⟨⟨[], [], []⟩, .code 0⟩

/-- Surroundings in which a script does what `outcome` says and nothing can be read.  The state
holds what the processes will have done, in the order in which they were started; a process is known
by its number. -/
def Host.recorded (outcome : Invocation → Outcome) : Host (List (Option Outcome)) Nat where
  start invocation world := (.ok world.length, world ++ [some (outcome invocation)])
  collect process world := ((world[process]?.join.getD .silent).toTranscript, world)
  wait process world := ((world[process]?.join.getD .silent).status, world.set process none)
  abandon process world := world.set process none
  readText _ _ := .error .notFound
  canonical? _ _ := none

theorem Host.isSteady_recorded (outcome : Invocation → Outcome) :
    (Host.recorded outcome).IsSteady (fun invocation => .ok (outcome invocation))
      (fun world process => world[process]?.join) where
  started h := by
    cases h
    simp
  refused h := by cases h
  started_keeps invocation world := by
    refine ⟨fun {process} _ hdue => ?_, ⟨fun _ => rfl, fun _ => rfl⟩⟩
    have hlt : process < world.length := by
      by_contra hge
      simp [List.getElem?_eq_none (Nat.not_lt.1 hge)] at hdue
    simpa [Host.recorded, List.getElem?_append_left hlt] using hdue
  finished h := by simp [Host.recorded, Host.finish, h]
  finished_running hne h := by
    simpa [Host.recorded, Host.finish, List.getElem?_set_ne hne.symm] using h
  finished_files process world := ⟨fun _ => rfl, fun _ => rfl⟩

/-- The same surroundings with some files, each under its canonical path. -/
def Host.recordedBeside (files : List (String × String)) (outcome : Invocation → Outcome) :
    Host (List (Option Outcome)) Nat :=
  { Host.recorded outcome with
    readText := fun path _ =>
      match files.lookup path with
      | some text => .ok text
      | none => .error .notFound
    canonical? := fun path _ => (files.lookup path).map fun _ => path }

end TaskRunner
