import Mathlib.Data.List.Basic
import TaskRunner.Proofs.Session.Queue

/-! What a sink with a limit takes.  Queued output is written in chunks: the texts, and the lines of
the processes up to the first that fails.  A sink takes the chunks before the first that would pass
its limit, and nothing after it. -/

namespace TaskRunner

variable {ω η : Type}

/-! ### Chunks -/

/-- The lines of an output.  Each ends with its only line feed, and together they are the output, of
which a last line that is not complete is completed. -/
structure IsLinesOf (bytes : Bytes) (ls : List Bytes) : Prop where
  whole : ls.flatten = completed bytes
  ended : ∀ line ∈ ls, ∃ front, line = front ++ [lineFeed] ∧ lineFeed ∉ front

namespace Entry

/-- The chunks of some entries, in order: one for each text that is not empty, and one for each line
of a process. -/
inductive Chunked : List (Entry Outcome) → List Bytes → Prop where
  | nil : Chunked [] []
  | empty {rest : List (Entry Outcome)} {chunks : List Bytes} (hrest : Chunked rest chunks) :
      Chunked (.text "" :: rest) chunks
  | text {text : String} {rest : List (Entry Outcome)} {chunks : List Bytes} (hne : text ≠ "")
      (hrest : Chunked rest chunks) : Chunked (.text text :: rest) (utf8 text :: chunks)
  | process {command : String} {outcome : Outcome} {ls : List Bytes} {rest : List (Entry Outcome)}
      {chunks : List Bytes} (hlines : IsLinesOf (outcome.stdout ++ outcome.stderr) ls)
      (hrest : Chunked rest chunks) : Chunked (.process command outcome :: rest) (ls ++ chunks)

/-- The chunks of an entry. -/
def chunks : Entry Outcome → List Bytes
  | .text t => if t = "" then [] else [utf8 t]
  | .process _ outcome => outputLines (outcome.stdout ++ outcome.stderr)

end Entry

theorem exists_front_of_mem_outputLines {bytes line : Bytes} (h : line ∈ outputLines bytes) :
    ∃ front, line = front ++ [lineFeed] ∧ lineFeed ∉ front := by
  induction bytes generalizing line with
  | nil => cases h
  | cons b bytes ih =>
    rw [outputLines_cons] at h
    unfold addToLines at h
    split at h
    · rcases List.mem_cons.1 h with rfl | hmem
      · exact ⟨[], rfl, List.not_mem_nil⟩
      · exact ih hmem
    next hb =>
      have hne : lineFeed ≠ b := fun heq => hb heq.symm
      cases hlines : outputLines bytes with
      | nil =>
        rw [hlines] at h
        obtain rfl := List.mem_singleton.1 h
        exact ⟨[b], rfl, by simpa using hne⟩
      | cons first more =>
        rw [hlines] at h ih
        rcases List.mem_cons.1 h with rfl | hmem
        · obtain ⟨front, rfl, hfront⟩ := ih List.mem_cons_self
          exact ⟨b :: front, rfl, by simp [hne, hfront]⟩
        · exact ih (List.mem_cons_of_mem _ hmem)

theorem isLinesOf_outputLines (bytes : Bytes) : IsLinesOf bytes (outputLines bytes) where
  whole := flatten_outputLines bytes
  ended _ := exists_front_of_mem_outputLines

theorem eq_of_append_lineFeed_eq {front other more rest : Bytes} (h : lineFeed ∉ front)
    (hother : lineFeed ∉ other) (heq : front ++ lineFeed :: more = other ++ lineFeed :: rest) :
    front = other ∧ more = rest := by
  induction front generalizing other with
  | nil =>
    cases other with
    | nil => exact ⟨rfl, (List.cons.inj heq).2⟩
    | cons b other => exact absurd (List.mem_cons.2 (.inl (List.cons.inj heq).1)) hother
  | cons b front ih =>
    cases other with
    | nil => exact absurd (List.mem_cons.2 (.inl (List.cons.inj heq).1.symm)) h
    | cons c other =>
      obtain ⟨rfl, htail⟩ := List.cons.inj heq
      obtain ⟨rfl, hmore⟩ := ih (fun hmem => h (List.mem_cons_of_mem _ hmem))
        (fun hmem => hother (List.mem_cons_of_mem _ hmem)) htail
      exact ⟨rfl, hmore⟩

/-- An output has its lines in one way only. -/
theorem IsLinesOf.unique {bytes : Bytes} {ls others : List Bytes} (h : IsLinesOf bytes ls)
    (h' : IsLinesOf bytes others) : ls = others := by
  have hflatten : ls.flatten = others.flatten := h.whole.trans h'.whole.symm
  have hended := h.ended
  have hended' := h'.ended
  clear h h'
  induction ls generalizing others with
  | nil =>
    cases others with
    | nil => rfl
    | cons other more =>
      obtain ⟨front, rfl, -⟩ := hended' other List.mem_cons_self
      simp at hflatten
  | cons line rest ih =>
    obtain ⟨⟨front, rfl, hfront⟩, hrest⟩ := List.forall_mem_cons.1 hended
    cases others with
    | nil => simp at hflatten
    | cons other more =>
      obtain ⟨⟨front', rfl, hfront'⟩, hmore⟩ := List.forall_mem_cons.1 hended'
      simp only [List.flatten_cons, List.append_assoc, List.singleton_append] at hflatten
      obtain ⟨hsame, htail⟩ := eq_of_append_lineFeed_eq hfront hfront' hflatten
      rw [hsame, ih htail hrest hmore]

theorem Entry.chunked_iff {entries : List (Entry Outcome)} {chunks : List Bytes} :
    Entry.Chunked entries chunks ↔ chunks = entries.flatMap Entry.chunks := by
  constructor
  · intro h
    induction h with
    | nil => rfl
    | empty _ ih => exact ih
    | text hne _ ih => rw [List.flatMap_cons, Entry.chunks, if_neg hne, ih, List.singleton_append]
    | process hlines _ ih =>
      rw [List.flatMap_cons, Entry.chunks, ih, hlines.unique (isLinesOf_outputLines _)]
  · rintro rfl
    induction entries with
    | nil => exact .nil
    | cons entry rest ih =>
      rw [List.flatMap_cons]
      cases entry with
      | process command outcome => exact .process (isLinesOf_outputLines _) ih
      | text text =>
        by_cases hempty : text = ""
        · subst hempty
          exact .empty ih
        · rw [Entry.chunks, if_neg hempty]
          exact .text hempty ih

/-! ### What a sink takes -/

/-- The longest run of leading chunks that a limit leaves room for: the chunk after it would pass
the limit. -/
structure IsLongestRun (limit : Nat) (chunks run : List Bytes) : Prop where
  leads : run <+: chunks
  fits : run.flatten.length ≤ limit
  stops : ∀ next, run ++ [next] <+: chunks → limit < (run ++ [next]).flatten.length

/-- A greater limit leaves room for a run that goes on. -/
theorem IsLongestRun.mono {limit more : Nat} {chunks run longer : List Bytes}
    (h : IsLongestRun limit chunks run) (h' : IsLongestRun more chunks longer)
    (hle : limit ≤ more) : run <+: longer := by
  rcases List.prefix_or_prefix_of_prefix h.leads h'.leads with hrun | ⟨rest, hrest⟩
  · exact hrun
  · cases rest with
    | nil =>
      rw [List.append_nil] at hrest
      rw [hrest]
    | cons next rest =>
      -- The run would go past the chunk that the greater limit has no room for.
      have hnext : longer ++ [next] <+: run := ⟨rest, by rw [← hrest]; simp⟩
      have hstops := h'.stops next (hnext.trans h.leads)
      obtain ⟨tail, htail⟩ := hnext
      have hflatten : run.flatten = (longer ++ [next]).flatten ++ tail.flatten := by
        rw [← htail, List.flatten_append]
      have hlength := congrArg List.length hflatten
      rw [List.length_append] at hlength
      have hfits := h.fits
      omega

namespace Sink

/-- The chunks that a sink takes, up to the first that it refuses. -/
def leading (sink : Sink) : List Bytes → List Bytes
  | [] => []
  | chunk :: rest =>
    if sink.admits chunk.length then chunk :: (sink.after chunk).leading rest else []

theorem writeAll_eq (sink : Sink) (chunks : List Bytes) :
    sink.writeAll chunks =
      (if sink.leading chunks = chunks then .ok () else .error (.output .full),
        sink.after (sink.leading chunks).flatten) := by
  induction chunks generalizing sink with
  | nil => rw [writeAll, leading, if_pos rfl, List.flatten_nil, after_nil]
  | cons chunk rest ih =>
    by_cases hroom : sink.admits chunk.length
    · have hfirst : sink.write chunk = (.ok (), sink.after chunk) := by
        rw [write, if_pos hroom]
        rfl
      rw [writeAll, hfirst, leading, if_pos hroom]
      dsimp only
      rw [ih, List.flatten_cons, ← after_append]
      simp only [List.cons_inj_right]
    · have hfirst : sink.write chunk = (.error (.output .full), sink) := by
        rw [write, if_neg hroom]
      rw [writeAll, hfirst, leading, if_neg hroom, if_neg (by simp), List.flatten_nil, after_nil]

theorem writeAll_append (sink : Sink) (chunks more : List Bytes) :
    sink.writeAll (chunks ++ more) =
      match sink.writeAll chunks with
      | (.ok (), sink) => sink.writeAll more
      | (.error error, sink) => (.error error, sink) := by
  induction chunks generalizing sink with
  | nil => rfl
  | cons chunk rest ih =>
    rw [List.cons_append, writeAll, writeAll]
    rcases sink.write chunk with ⟨error | ⟨⟩, taken⟩
    · rfl
    · exact ih taken

theorem leading_isPrefix (sink : Sink) (chunks : List Bytes) : sink.leading chunks <+: chunks := by
  induction chunks generalizing sink with
  | nil => exact List.prefix_rfl
  | cons chunk rest ih =>
    rw [leading]
    split
    · exact List.prefix_cons_inj chunk |>.2 (ih _)
    · exact List.nil_prefix

/-- A sink within its limit stays within it. -/
theorem admits_after_leading {sink : Sink} (h : sink.admits 0) (chunks : List Bytes) :
    (sink.after (sink.leading chunks).flatten).admits 0 := by
  induction chunks generalizing sink with
  | nil =>
    rw [leading, List.flatten_nil, after_nil]
    exact h
  | cons chunk rest ih =>
    rw [leading]
    split
    next hroom =>
      rw [List.flatten_cons, ← after_append]
      refine ih ?_
      rw [admits_after]
      exact hroom
    · rw [List.flatten_nil, after_nil]
      exact h

/-- The chunk after those that were taken is one that the sink has no room for. -/
theorem not_admits_of_leading_append {sink : Sink} {chunks : List Bytes} {next : Bytes}
    (h : sink.leading chunks ++ [next] <+: chunks) :
    (sink.after (sink.leading chunks).flatten).admits next.length = false := by
  induction chunks generalizing sink with
  | nil =>
    have hlength := h.length_le
    simp at hlength
  | cons chunk rest ih =>
    rw [leading] at h ⊢
    split at h
    next hroom =>
      rw [if_pos hroom, List.flatten_cons, ← after_append]
      rw [List.cons_append, List.prefix_cons_inj] at h
      exact ih h
    next hroom =>
      rw [List.nil_append, List.cons_prefix_cons] at h
      rw [if_neg hroom, List.flatten_nil, after_nil, h.1]
      simpa using hroom

theorem isLongestRun_leading (limit : Nat) (broken : Bool) (chunks : List Bytes) :
    IsLongestRun limit chunks (leading ⟨[], some limit, broken⟩ chunks) where
  leads := leading_isPrefix _ chunks
  fits := by
    have hroom : (⟨[], some limit, broken⟩ : Sink).admits 0 := by simp [admits]
    have hfits := admits_after_leading hroom chunks
    simpa [admits, after] using hfits
  stops next hnext := by
    have hrefused := not_admits_of_leading_append hnext
    simpa [admits, after] using hrefused

/-- A sink without a limit takes everything. -/
theorem leading_of_unlimited {sink : Sink} (h : sink.limit = none) (chunks : List Bytes) :
    sink.leading chunks = chunks := by
  induction chunks generalizing sink with
  | nil => rfl
  | cons chunk rest ih =>
    have hroom : sink.admits chunk.length := by rw [admits, h]
    have hmore : (sink.after chunk).leading rest = rest := ih h
    rw [leading, if_pos hroom, hmore]

/-- An empty text needs no room, and of the two outputs of a process one is empty. -/
theorem writeAll_writes {sink : Sink} (hroom : sink.admits 0) {entry : Entry Outcome}
    (hside : entry.IsOneSided) : sink.writeAll entry.writes = sink.writeAll entry.chunks := by
  cases entry with
  | text text =>
    by_cases hempty : text = ""
    · subst hempty
      have hwritten : sink.writeAll [utf8 ""] = (.ok (), sink.after [utf8 ""].flatten) :=
        writeAll_of_admits hroom
      rw [Entry.writes, hwritten, Entry.chunks, if_pos rfl, writeAll]
      exact congrArg (Prod.mk _) (after_nil sink)
    · rw [Entry.writes, Entry.chunks, if_neg hempty]
  | process command outcome =>
    rw [Entry.writes, Entry.chunks, Transcript.chunks_of_isOneSided hside]

end Sink

/-! ### Failures among the entries that are shown -/

namespace Entry

variable {entries : List (Entry Outcome)}

/-- The process that ends the output is the first that failed. -/
theorem findSome?_failure?_of_mem {entry : Entry Outcome} {error : RunError}
    (hmem : entry ∈ shown entries) (hfails : entry.failure? = some error) :
    entries.findSome? failure? = some error := by
  induction entries with
  | nil => cases hmem
  | cons first rest ih =>
    rw [shown] at hmem
    rw [List.findSome?_cons]
    cases hfirst : first.failure? with
    | some other =>
      rw [hfirst, Option.isSome_some, if_pos rfl] at hmem
      rw [List.mem_singleton.1 hmem, hfirst] at hfails
      exact hfails
    | none =>
      rw [hfirst, Option.isSome_none, if_neg Bool.false_ne_true] at hmem
      rcases List.mem_cons.1 hmem with rfl | hlater
      · rw [hfirst] at hfails
        cases hfails
      · exact ih hlater

theorem findSome?_failure?_eq_none (h : ∀ entry ∈ shown entries, entry.failure? = none) :
    entries.findSome? failure? = none := by
  induction entries with
  | nil => rfl
  | cons first rest ih =>
    rw [shown] at h
    obtain ⟨hfirst, hrest⟩ := List.forall_mem_cons.1 h
    rw [hfirst, Option.isSome_none, if_neg Bool.false_ne_true] at hrest
    rw [List.findSome?_cons, hfirst]
    exact ih hrest

end Entry

/-! ### Writing to a sink with a limit -/

/-- Queued entries are written as the chunks of those that are shown.  If all of them are taken, the
writing ends with the process that failed, or else with the flush of the sink. -/
theorem drain_eq_writeAll (host : Host ω η) {queue : List (Entry η)} {world : ω} {sink : Sink}
    (hsides : ∀ entry ∈ Entry.shown (Entry.settled host queue world), entry.IsOneSided)
    (hroom : sink.admits 0) :
    ∃ after, drain host sink queue world =
      match sink.writeAll ((Entry.shown (Entry.settled host queue world)).flatMap Entry.chunks) with
      | (.error error, taken) => (.error error, taken, after)
      | (.ok (), taken) =>
        (match (Entry.settled host queue world).findSome? Entry.failure? with
          | some error => .error error
          | none => taken.flush, taken, after) := by
  induction queue generalizing world sink with
  | nil => exact ⟨world, rfl⟩
  | cons entry rest ih =>
    rw [Entry.settled, Entry.shown] at hsides ⊢
    obtain ⟨hside, hmore⟩ := List.forall_mem_cons.1 hsides
    rw [drain_cons, Sink.receive, Sink.writeAll_writes hroom hside, List.flatMap_cons,
      Sink.writeAll_append, List.findSome?_cons]
    have hafter := Sink.admits_after_leading hroom (entry.wait host world).1.chunks
    rw [Sink.writeAll_eq sink]
    generalize sink.after (sink.leading (entry.wait host world).1.chunks).flatten = taken
      at hafter ⊢
    by_cases htaken : sink.leading (entry.wait host world).1.chunks =
        (entry.wait host world).1.chunks
    · rw [if_pos htaken]
      dsimp only
      cases hfailure : (entry.wait host world).1.failure? with
      | some error =>
        rw [Option.isSome_some, if_pos rfl]
        exact ⟨_, rfl⟩
      | none =>
        rw [hfailure, Option.isSome_none, if_neg Bool.false_ne_true] at hmore
        rw [Option.isSome_none, if_neg Bool.false_ne_true]
        exact ih hmore hafter
    · rw [if_neg htaken]
      exact ⟨_, rfl⟩

/-- How a writing ends, by whether a chunk was refused and whether the sink is broken. -/
structure EndsRightly (shown : List (Entry Outcome)) (isRefused : Prop) (broken : Bool)
    (result : Except RunError Unit) : Prop where
  refused : isRefused → result = .error (.output .full)
  failed {command : String} {outcome : Outcome} : ¬isRefused →
    .process command outcome ∈ shown → outcome.status.isSuccess = false →
      result = .error (.commandFailed command outcome.status)
  finished : ¬isRefused →
    (∀ command outcome, .process command outcome ∈ shown → outcome.status.isSuccess = true) →
      result = if broken then .error (.output .broken) else .ok ()

theorem endsRightly_refused {shown : List (Entry Outcome)} {isRefused : Prop} {broken : Bool}
    (h : isRefused) : EndsRightly shown isRefused broken (.error (.output .full)) where
  refused _ := rfl
  failed htaken := absurd h htaken
  finished htaken := absurd h htaken

theorem endsRightly_taken {entries : List (Entry Outcome)} {isRefused : Prop} (sink : Sink)
    (h : ¬isRefused) :
    EndsRightly (Entry.shown entries) isRefused sink.broken
      (match entries.findSome? Entry.failure? with
        | some error => .error error
        | none => sink.flush) where
  refused hrefused := absurd hrefused h
  failed {command outcome} _ hmem hstatus := by
    have hfails : (Entry.process command outcome).failure? =
        some (.commandFailed command outcome.status) := by
      rw [Entry.failure?, hstatus, if_neg Bool.false_ne_true]
    rw [Entry.findSome?_failure?_of_mem hmem hfails]
  finished _ hall := by
    have hnone : ∀ entry ∈ Entry.shown entries, entry.failure? = none := by
      intro entry hmem
      cases entry with
      | text text => rfl
      | process command outcome => rw [Entry.failure?, hall command outcome hmem, if_pos rfl]
    rw [Entry.findSome?_failure?_eq_none hnone, Sink.flush]

/-- The sink ends up with the chunks that it takes, and that decides how the writing ends. -/
theorem drain_eq_leading (host : Host ω η) {queue : List (Entry η)} {world : ω} {sink : Sink}
    (hsides : ∀ entry ∈ Entry.shown (Entry.settled host queue world), entry.IsOneSided)
    (hroom : sink.admits 0) {chunks : List Bytes}
    (hchunks : Entry.Chunked (Entry.shown (Entry.settled host queue world)) chunks) :
    (drain host sink queue world).2.1 = sink.after (sink.leading chunks).flatten ∧
      EndsRightly (Entry.shown (Entry.settled host queue world)) (sink.leading chunks ≠ chunks)
        sink.broken (drain host sink queue world).1 := by
  obtain rfl := Entry.chunked_iff.1 hchunks
  obtain ⟨after, hdrain⟩ := drain_eq_writeAll host hsides hroom
  generalize (Entry.shown (Entry.settled host queue world)).flatMap Entry.chunks = chunks
    at hdrain ⊢
  rw [hdrain, Sink.writeAll_eq]
  by_cases htaken : sink.leading chunks = chunks
  · rw [if_pos htaken]
    exact ⟨rfl, endsRightly_taken (sink.after _) (not_not.2 htaken)⟩
  · rw [if_neg htaken]
    exact ⟨rfl, endsRightly_refused htaken⟩

namespace Session

/-- What is written of queued output to a sink with a limit.  The sink ends up with the longest run
of leading chunks that the limit leaves room for: a part of what it takes without a limit, and no
less the greater the limit is.  A chunk that is refused is the reason why the writing ends, else a
process that failed, else a sink that is broken.  An evaluation that comes to write that output
leaves nothing queued, however the writing ends. -/
theorem drain_takes_longest_run (host : Host ω η) (queue : List (Entry η)) (world : ω)
    (hsides : ∀ entry ∈ Entry.shown (Entry.settled host queue world), entry.IsOneSided) :
    let shown := Entry.shown (Entry.settled host queue world)
    let written (limit : Option Nat) (broken : Bool) := drain host ⟨[], limit, broken⟩ queue world
    (∃ chunks, Entry.Chunked shown chunks) ∧
      (∀ chunks, Entry.Chunked shown chunks →
        (∀ broken, (written none broken).2.1 = ⟨chunks.flatten, none, broken⟩ ∧
          EndsRightly shown False broken (written none broken).1) ∧
        ∀ limit broken, ∃ run, IsLongestRun limit chunks run ∧
          (written (some limit) broken).2.1 = ⟨run.flatten, some limit, broken⟩ ∧
          EndsRightly shown (run ≠ chunks) broken (written (some limit) broken).1) ∧
      (∀ limit more broken, limit ≤ more →
        (written (some limit) broken).2.1.taken <+: (written (some more) broken).2.1.taken) ∧
      ∀ fuel statements session sink done,
        let walked := Walk.each (execute host fuel) statements session
        walked.2.queue = queue → walked.2.world = world →
          evaluate host fuel statements session sink = some done →
            done.session.queue = [] ∧ done.sink = (drain host sink queue world).2.1 ∧
              ∀ values, walked.1 = .ok values →
                done.result = (drain host sink queue world).1.map fun _ => values := by
  intro shown written
  have hroom (limit : Option Nat) (broken : Bool) : (⟨[], limit, broken⟩ : Sink).admits 0 := by
    cases limit <;> simp [Sink.admits]
  have hexists : Entry.Chunked shown (shown.flatMap Entry.chunks) := Entry.chunked_iff.2 rfl
  have hlimited (limit : Nat) (broken : Bool) {chunks : List Bytes}
      (hchunks : Entry.Chunked shown chunks) :
      ∃ run, IsLongestRun limit chunks run ∧
        (written (some limit) broken).2.1 = ⟨run.flatten, some limit, broken⟩ ∧
        EndsRightly shown (run ≠ chunks) broken (written (some limit) broken).1 :=
    ⟨_, Sink.isLongestRun_leading limit broken chunks,
      drain_eq_leading host hsides (hroom (some limit) broken) hchunks⟩
  refine ⟨⟨_, hexists⟩, fun chunks hchunks => ⟨fun broken => ?_, fun limit broken => ?_⟩, ?_, ?_⟩
  · have hall : (⟨[], none, broken⟩ : Sink).leading chunks = chunks :=
      Sink.leading_of_unlimited rfl chunks
    obtain ⟨hsink, hends⟩ := drain_eq_leading host hsides (hroom none broken) hchunks
    rw [hall] at hsink hends
    exact ⟨hsink, by simpa using hends⟩
  · exact hlimited limit broken hchunks
  · intro limit more broken hle
    obtain ⟨run, hrun, hsink, -⟩ := hlimited limit broken hexists
    obtain ⟨longer, hlonger, hmore, -⟩ := hlimited more broken hexists
    obtain ⟨tail, rfl⟩ := hrun.mono hlonger hle
    rw [hsink, hmore]
    exact ⟨tail.flatten, List.flatten_append.symm⟩
  · intro fuel statements session sink done walked hqueue hworld hdone
    obtain ⟨hnone, hsink, hends⟩ := ends_of_evaluate hdone
    rw [hqueue, hworld] at hsink hends
    refine ⟨hnone, hsink, fun values hvalues => ?_⟩
    rcases hends with ⟨_, herror, -⟩ | ⟨others, hothers, hresult⟩
    · cases hvalues.symm.trans herror
    · cases hvalues.symm.trans hothers
      exact hresult

/-- A limit that is passed by the second line of a process, in front of one that fails. -/
theorem drain_takes_longest_run_cut :
    let host := Host.recorded fun _ => ⟨⟨[], [], []⟩, .code 0⟩
    let queue : List (Entry Nat) :=
      [.text "a\n", .process "p" 0, .text "", .process "q" 1, .text "never\n"]
    let world : List (Option Outcome) :=
      [some ⟨⟨utf8 "b\nc", [], []⟩, .code 0⟩, some ⟨⟨[], utf8 "d\n", []⟩, .code 3⟩]
    let shown := Entry.shown (Entry.settled host queue world)
    let chunks := [utf8 "a\n", utf8 "b\n", utf8 "c\n", utf8 "d\n"]
    (∀ entry ∈ shown, entry.IsOneSided) ∧ Entry.Chunked shown chunks ∧
      (drain host ⟨[], none, false⟩ queue world).1 = .error (.commandFailed "q" (.code 3)) ∧
      ∃ run, IsLongestRun 5 chunks run ∧ run.flatten = utf8 "a\nb\n" ∧
        (drain host ⟨[], some 5, true⟩ queue world).2.1 = ⟨run.flatten, some 5, true⟩ ∧
        (drain host ⟨[], some 5, true⟩ queue world).1 = .error (.output .full) := by
  intro host queue world shown chunks
  have hshown : shown = [.text "a\n", .process "p" ⟨⟨utf8 "b\nc", [], []⟩, .code 0⟩, .text "",
      .process "q" ⟨⟨[], utf8 "d\n", []⟩, .code 3⟩] := by decide +kernel
  have hsides : ∀ entry ∈ shown, entry.IsOneSided := by
    rw [hshown]
    simp [Entry.IsOneSided]
  have hchunks : Entry.Chunked shown chunks := by
    rw [Entry.chunked_iff, hshown]
    decide +kernel
  have hoverflow : (drain host ⟨[], some 5, true⟩ queue world).2.1.taken = utf8 "a\nb\n" := by
    decide +kernel
  obtain ⟨-, hflush, -⟩ := drain_takes_longest_run host queue world hsides
  obtain ⟨hunlimited, hlimited⟩ := hflush chunks hchunks
  obtain ⟨run, hrun, hsink, hends⟩ := hlimited 5 true
  have htaken : run.flatten = utf8 "a\nb\n" := by rw [← hoverflow, hsink]
  have hcut : run ≠ chunks := by
    rintro rfl
    exact absurd htaken (by decide +kernel)
  have hfails : .process "q" ⟨⟨[], utf8 "d\n", []⟩, .code 3⟩ ∈ shown := by
    rw [hshown]
    simp
  exact ⟨hsides, hchunks, (hunlimited false).2.failed not_false hfails rfl, run, hrun, htaken,
    hsink, hends.refused hcut⟩

end Session

end TaskRunner
