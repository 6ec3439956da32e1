import TaskRunner.Proofs.Grammar.Soundness
import TaskRunner.Proofs.Grammar.Part

/-! Where the parser stops.  What was read up to there can be completed to the part that was being
read.  Either the next symbol is a brace that may stand there and for which there is no room, or no
completion goes on with it.

Each theorem follows one function of the parser, as those about what is read do, and says so of the
part that the function reads. -/

namespace TaskRunner.Grammar

open Parse

section Braces

variable {inside : Part} {room : Nat} {input : List Symbol} {stop : Stop}

/-- Where an opening brace is not read there is none, or no room for it. -/
theorem opening_stops (hword : ∃ word, inside.Spells word)
    (h : opening room input = .error stop) : StopsRightly inside.opened room input stop := by
  obtain ⟨word, hword⟩ := hword
  have hopened : inside.opened.Spells (.openBrace :: word) := ⟨word, rfl, hword⟩
  unfold opening at h
  split at h
  next rest =>
    cases room with
    | zero =>
      cases h
      exact ⟨[], rfl, fits_nil 0, ⟨_, hopened⟩,
        .inl ⟨rfl, ⟨rest, rfl⟩, ⟨word, hopened⟩, not_fits_openBrace_zero⟩⟩
    | succ inner => cases h
  next hinput =>
    cases h
    refine StopsRightly.here ⟨_, hopened⟩ (by simp) ?_
    rintro _ ⟨tail, rfl, -⟩
    exact ⟨_, tail, rfl, hinput⟩

/-- Reading a block stops before it or inside. -/
theorem opening_bind_stops {α : Type} {next : Parsed Nat input → Except Stop α}
    (hword : ∃ word, inside.Spells word)
    (hnext : ∀ parsed, next parsed = .error stop →
      StopsRightly inside parsed.value parsed.rest stop)
    (h : opening room input >>= next = .error stop) :
    StopsRightly inside.opened room input stop := by
  rcases bind_eq_error_iff.1 h with hopen | ⟨parsed, hopen, hinside⟩
  · exact opening_stops hword hopen
  obtain ⟨inner, rest, shorter⟩ := parsed
  obtain ⟨rfl, rfl⟩ := yields_opening.1 ⟨shorter, hopen⟩
  refine (hnext _ hinside).behind [.openBrace] (fun _ => fits_openBrace_succ) ?_ ?_
  · intro word hspells
    exact ⟨[], word ++ [], rfl, by rwa [List.append_nil]⟩
  · intro more _ hbegins
    obtain ⟨tail, htail, hinside⟩ := Part.begins_opened_iff.1 hbegins
    obtain rfl := (List.cons.inj htail).2
    exact hinside

theorem closing_stops (room : Nat) (h : closing input = .error stop) :
    StopsRightly .closing room input stop := by
  unfold closing at h
  split at h
  next rest => cases h
  next hinput =>
    cases h
    refine .here ⟨_, rfl⟩ (by simp) ?_
    rintro _ rfl
    exact ⟨_, [], rfl, hinput⟩

end Braces

theorem descriptions_stops {input : List Symbol} {stop : Stop} (room : Nat)
    (h : descriptions input = .error stop) : StopsRightly (.items lineSymbol) room input stop := by
  fun_induction descriptions input with
  | case1 =>
    cases h
    exact .noItem (by simp) (by simp) (by simp)
  | case2 rest => cases h
  | case3 rest ih =>
    exact (ih (bind_pure_eq_error_iff.1 h)).item none (lineSymbol_ne_openBrace _)
      (lineSymbol_ne_closeBrace _)
  | case4 text rest ih =>
    exact (ih (bind_pure_eq_error_iff.1 h)).item (some text) (lineSymbol_ne_openBrace _)
      (lineSymbol_ne_closeBrace _)
  | case5 input hnil hclose hcomma hstring =>
    cases h
    refine .noItem (by simp) hclose ?_
    rintro (_ | text)
    · exact hcomma
    · exact hstring text

theorem paths_stops {input : List Symbol} {stop : Stop} (room : Nat)
    (h : paths input = .error stop) : StopsRightly (.items pathSymbol) room input stop := by
  fun_induction paths input with
  | case1 =>
    cases h
    exact .noItem (by simp) (by simp) (by simp)
  | case2 rest => cases h
  | case3 rest ih =>
    exact (ih (bind_pure_eq_error_iff.1 h)).item none (pathSymbol_ne_openBrace _)
      (pathSymbol_ne_closeBrace _)
  | case4 path rest ih =>
    exact (ih (bind_pure_eq_error_iff.1 h)).item (some path) (pathSymbol_ne_openBrace _)
      (pathSymbol_ne_closeBrace _)
  | case5 input hnil hclose hcomma hliteral =>
    cases h
    refine .noItem (by simp) hclose ?_
    rintro (_ | path)
    · exact hcomma
    · exact hliteral path

/-- Every stop on an input of fewer than `n` symbols is right. -/
structure StopsBelow (n : Nat) : Prop where
  run : ∀ {room stage input stop}, input.length < n →
    Parse.run room stage input = .error stop → StopsRightly .call room input stop
  statements : ∀ {room input stop}, input.length < n →
    Parse.statements room input = .error stop → StopsRightly .body room input stop
  bindings : ∀ {room role input stop}, input.length < n →
    Parse.bindings room role input = .error stop → StopsRightly .entries room input stop

theorem StopsBelow.mono {m n : Nat} (h : StopsBelow n) (hmn : m ≤ n) : StopsBelow m where
  run hlt := h.run (Nat.lt_of_lt_of_le hlt hmn)
  statements hlt := h.statements (Nat.lt_of_lt_of_le hlt hmn)
  bindings hlt := h.bindings (Nat.lt_of_lt_of_le hlt hmn)

/-- What is read behind `run` ends before what is left: a block that could follow is read. -/
theorem run_endsBefore {room : Nat} {stage : Stage} {call : Call} {rest : List Symbol} {value : Run}
    (h : (run room stage (call.symbols ++ rest)).Yields value rest) : call.EndsBefore rest := by
  cases call with
  | name name =>
    rintro more rfl
    rw [Call.symbols, List.cons_append, List.nil_append, run] at h
    simp only [Reading.yields_bind, Reading.yields_pure] at h
    obtain ⟨body, left, hlt, -, -, rfl⟩ := h
    exact Nat.lt_irrefl _ hlt
  | _ => trivial

theorem statement_endsBefore {room : Nat} {phrase : Phrase} {rest : List Symbol} {value : Statement}
    (h : (statement room (phrase.symbols ++ rest)).Yields value rest) : phrase.EndsBefore rest := by
  cases phrase with
  | run stage call =>
    rw [Phrase.symbols, List.cons_append, statement] at h
    simp only [Reading.yields_bind, Reading.yields_pure] at h
    obtain ⟨value, left, -, hrun, -, rfl⟩ := h
    exact run_endsBefore hrun
  | _ => trivial

section Steps

variable {room : Nat} {input : List Symbol} {stop : Stop}

theorem block_stops (ih : StopsBelow input.length) (h : block room input = .error stop) :
    StopsRightly Part.body.opened room input stop := by
  rw [block] at h
  refine opening_bind_stops ⟨_, [], rfl⟩ (fun inside hinside => ?_) h
  exact ih.statements inside.shorter (bind_pure_eq_error_iff.1 hinside)

theorem statement_stops (ih : StopsBelow input.length) (h : statement room input = .error stop) :
    StopsRightly .phrase room input stop := by
  rw [statement.eq_def] at h
  split at h
  next rest =>
    have hstop : StopsRightly Part.entries.opened room rest stop :=
      opening_bind_stops ⟨_, [], rfl⟩ (fun inside hinside =>
        ih.bindings (Nat.lt_succ_of_lt inside.shorter) (bind_pure_eq_error_iff.1 hinside)) h
    exact hstop.tail (by simp) (by simp) not_phrase_spells_nil (fun _ => phrase_spells_config_iff)
      fun _ _ => trivial
  next rest =>
    have hstop : StopsRightly Part.entries.opened room rest stop :=
      opening_bind_stops ⟨_, [], rfl⟩ (fun inside hinside =>
        ih.bindings (Nat.lt_succ_of_lt inside.shorter) (bind_pure_eq_error_iff.1 hinside)) h
    exact hstop.tail (by simp) (by simp) not_phrase_spells_nil (fun _ => phrase_spells_var_iff)
      fun _ _ => trivial
  next name rest =>
    have hstop : StopsRightly Part.body.opened room rest stop :=
      block_stops (ih.mono (by simp only [List.length_cons]; omega)) (bind_pure_eq_error_iff.1 h)
    have hnamed : StopsRightly .named room (.literal (.identifier name) :: rest) stop :=
      hstop.tail (by simp) (by simp) (by simp [Part.named]) (fun _ => named_spells_name_iff)
        fun _ _ => trivial
    exact hnamed.tail (by simp) (by simp) not_phrase_spells_nil (fun _ => phrase_spells_target_iff)
      fun _ _ => trivial
  next rest hname =>
    cases h
    have hstop : StopsRightly .named room rest ⟨.name .target, rest⟩ := by
      refine .here ⟨_, "", [], rfl⟩ (by simp) ?_
      rintro _ ⟨name, body, rfl⟩
      exact ⟨_, _, rfl, hname name⟩
    exact hstop.tail (by simp) (by simp) not_phrase_spells_nil (fun _ => phrase_spells_target_iff)
      fun _ _ => trivial
  next stage rest =>
    have hstop : StopsRightly .call room rest stop :=
      ih.run (Nat.lt_succ_self _) (bind_pure_eq_error_iff.1 h)
    exact hstop.tail (by simp) (by simp) not_phrase_spells_nil (fun _ => phrase_spells_run_iff)
      fun _ => id
  next rest =>
    have hstop : StopsRightly (Part.items lineSymbol).opened room rest stop :=
      opening_bind_stops ⟨_, [], rfl⟩ (fun inside hinside =>
        descriptions_stops inside.value (bind_pure_eq_error_iff.1 hinside)) h
    exact hstop.tail (by simp) (by simp) not_phrase_spells_nil (fun _ => phrase_spells_desc_iff)
      fun _ _ => trivial
  next rest =>
    have hstop : StopsRightly (Part.items pathSymbol).opened room rest stop :=
      opening_bind_stops ⟨_, [], rfl⟩ (fun inside hinside =>
        paths_stops inside.value (bind_pure_eq_error_iff.1 hinside)) h
    exact hstop.tail (by simp) (by simp) not_phrase_spells_nil (fun _ => phrase_spells_extend_iff)
      fun _ _ => trivial
  next text rest => cases h
  next value rest => cases h
  next hconfig hvar htarget hname hrun hdesc hextend hscript hliteral =>
    cases h
    refine .here ⟨_, .script "", rfl⟩ (by simp) ?_
    rintro _ ⟨phrase, rfl⟩
    -- The parser has a case for every symbol that may begin a phrase.
    obtain ⟨symbol, tail, hsymbols, hopen, hclose, hcomma⟩ := phrase.exists_symbols_eq
    refine ⟨symbol, tail, hsymbols, ?_⟩
    rintro more rfl
    cases symbol <;> simp_all

theorem run_stops (ih : StopsBelow input.length) {stage : Stage}
    (h : run room stage input = .error stop) : StopsRightly .call room input stop := by
  rw [run.eq_def] at h
  split at h
  next name rest =>
    have hstop : StopsRightly Part.body.opened room (.openBrace :: rest) stop :=
      block_stops (ih.mono (by simp)) (bind_pure_eq_error_iff.1 h)
    refine hstop.cons (by simp) (by simp) ?_ ?_
    · rintro _ ⟨_, rfl, body, rfl⟩
      exact ⟨[], .both name body, by simp [Call.symbols, braced]⟩
    · rintro more hmore ⟨_, after, heq, ⟨call, rfl⟩, hafter⟩
      -- A brace is next, so the name alone is not what follows `run`.
      obtain ⟨tail, rfl⟩ := List.head?_eq_some_iff.1 hmore
      cases call with
      | block body => cases heq
      | name name => exact absurd (List.cons.inj heq).2.symm (hafter tail)
      | both name body =>
        exact ⟨braced (Phrase.rowSymbols body), after, (List.cons.inj heq).2,
          ⟨_, rfl, body, rfl⟩, trivial⟩
  next name rest hblock => cases h
  next rest =>
    have hstop : StopsRightly Part.body.opened room (.openBrace :: rest) stop :=
      block_stops ih (bind_pure_eq_error_iff.1 h)
    refine hstop.behind [] (fun _ => Iff.rfl) ?_ ?_
    · rintro _ ⟨_, rfl, body, rfl⟩
      exact ⟨[], .block body, by simp [Call.symbols, braced]⟩
    · rintro more hmore ⟨_, after, rfl, ⟨call, rfl⟩, -⟩
      cases call with
      | block body => exact ⟨_, after, rfl, ⟨_, rfl, body, rfl⟩, trivial⟩
      | name name => cases hmore
      | both name body => cases hmore
  next hblock hname hopen =>
    cases h
    refine .here ⟨_, .name "", rfl⟩ (by simp) ?_
    rintro _ ⟨call, rfl⟩
    cases call with
    | block body => exact ⟨_, _, rfl, hopen⟩
    | name name => exact ⟨_, _, rfl, hname name⟩
    | both name body => exact ⟨_, _, rfl, hname name⟩

/-- Reading a row stops in its first phrase or behind it. -/
theorem statement_bind_stops {α : Type} {ending : List Symbol} {precedes : List Symbol → Prop}
    {symbol : Symbol} {rest : List Symbol}
    {next : Parsed Statement (symbol :: rest) → Except Stop α}
    (ih : StopsBelow (symbol :: rest).length) (hends : EndsRow ending precedes)
    (hsymbol : ∀ after, precedes after → symbol ∉ (ending ++ after).head?)
    (hnext : ∀ first, next first = .error stop →
      StopsRightly (.row ending precedes) room first.rest stop)
    (h : statement room (symbol :: rest) >>= next = .error stop) :
    StopsRightly (.row ending precedes) room (symbol :: rest) stop := by
  rcases bind_eq_error_iff.1 h with hfirst | ⟨first, hfirst, hmore⟩
  · exact (statement_stops ih hfirst).first hends hsymbol
  have hstop := hnext first hmore
  obtain ⟨value, left, shorter⟩ := first
  have hyields : (statement room (symbol :: rest)).Yields value left := ⟨shorter, hfirst⟩
  obtain ⟨phrase, -, hinput, hdepth⟩ := statement_sound (soundBelow _) hyields
  rw [hinput] at hyields ⊢
  exact hstop.next hends hdepth (statement_endsBefore hyields)

theorem statements_stops (ih : StopsBelow input.length)
    (h : statements room input = .error stop) : StopsRightly .body room input stop := by
  rw [statements.eq_def] at h
  split at h
  next =>
    cases h
    refine .here ⟨_, [], rfl⟩ (by simp) ?_
    rintro _ ⟨phrases, rfl⟩
    obtain ⟨symbol, tail, heq⟩ := List.exists_cons_of_ne_nil (List.concat_ne_nil _ _)
    exact ⟨symbol, tail, heq, by simp⟩
  next rest => cases h
  next symbol rest hclose =>
    refine statement_bind_stops ih endsRow_body ?_ (fun first hmore => ?_) h
    · rintro after - hsymbol
      exact hclose (Option.some.inj hsymbol).symm
    · exact ih.statements first.shorter (bind_pure_eq_error_iff.1 hmore)

/-- Reading a run up to its closing brace stops in what follows `run` or at the brace. -/
theorem command_stops {α : Type} {stage : Stage} {rest : List Symbol}
    {next : (run : Parsed Run rest) → Parsed Unit run.rest → α} (ih : StopsBelow (rest.length + 1))
    (h : (do let run ← run room stage rest; let close ← closing run.rest; return next run close) =
      .error stop) : StopsRightly .command room (.run stage :: rest) stop := by
  rcases bind_eq_error_iff.1 h with hrun | ⟨⟨value, left, shorter⟩, hrun, hclose⟩
  · refine (ih.run (Nat.lt_succ_self _) hrun).cons (by simp) (by simp) ?_ ?_
    · rintro _ ⟨call, rfl⟩
      exact ⟨[.closeBrace], stage, call, rfl⟩
    · rintro more - ⟨_, after, heq, ⟨stage', call, rfl⟩, -⟩
      refine ⟨call.symbols, .closeBrace :: after, ?_, ⟨call, rfl⟩, NoBlock.closeBrace after⟩
      simpa using (List.cons.inj heq).2
  have hyields : (run room stage rest).Yields value left := ⟨shorter, hrun⟩
  obtain ⟨call, -, rfl, hdepth⟩ := run_sound (soundBelow _) hyields
  have hends := run_endsBefore hyields
  have hstop : StopsRightly .closing room left stop :=
    closing_stops room (bind_pure_eq_error_iff.1 hclose)
  refine hstop.behind (.run stage :: call.symbols) (fun more => ?_) ?_ ?_
  · simp [call.nests.fits_append, hdepth]
  · rintro _ rfl
    exact ⟨[], stage, call, rfl⟩
  · rintro more hmore ⟨_, after, heq, ⟨stage', call', rfl⟩, -⟩
    have heq : call.symbols ++ more = call'.symbols ++ .closeBrace :: after := by
      simpa using (List.cons.inj heq).2
    obtain ⟨-, rfl⟩ := Call.symbols_append_inj _ _ (hends.congr hmore) (.closeBrace after) heq
    exact ⟨_, after, rfl, rfl, trivial⟩

theorem initializer_stops (ih : StopsBelow input.length) {name : String}
    (h : initializer room name input = .error stop) : StopsRightly .initial room input stop := by
  rw [initializer.eq_def] at h
  split at h
  next value rest => cases h
  next rest =>
    have hstop : StopsRightly Part.command.opened room (.openBrace :: rest) stop := by
      refine opening_bind_stops ⟨_, .during, .name "", rfl⟩ (fun inside hinside => ?_) h
      split at hinside
      next stage rest' hrest =>
        have hshorter := inside.shorter
        rw [hrest] at hshorter ⊢
        exact command_stops (ih.mono (Nat.le_of_lt hshorter)) hinside
      next other hrest =>
        cases hinside
        refine .here ⟨_, .during, .name "", rfl⟩ (by simp) ?_
        rintro _ ⟨stage, call, rfl⟩
        exact ⟨_, _, rfl, hrest stage⟩
    refine hstop.behind [] (fun _ => Iff.rfl) ?_ ?_
    · rintro _ ⟨_, rfl, stage, call, rfl⟩
      exact ⟨[], .run stage call, by simp [Initial.symbols, braced]⟩
    · rintro more hmore ⟨_, after, rfl, ⟨initial, rfl⟩, -⟩
      cases initial with
      | literal value => cases hmore
      | run stage call => exact ⟨_, after, rfl, ⟨_, rfl, stage, call, rfl⟩, trivial⟩
  next hliteral hopen =>
    cases h
    refine .here ⟨_, .literal (.string ""), rfl⟩ (by simp) ?_
    rintro _ ⟨initial, rfl⟩
    cases initial with
    | literal value => exact ⟨_, _, rfl, hliteral value⟩
    | run stage call => exact ⟨_, _, rfl, hopen⟩

theorem bindings_stops (ih : StopsBelow input.length) {role : NameRole}
    (h : bindings room role input = .error stop) : StopsRightly .entries room input stop := by
  rw [bindings.eq_def] at h
  split at h
  next =>
    cases h
    refine .here ⟨_, [], rfl⟩ (by simp) ?_
    rintro _ ⟨entries, rfl⟩
    obtain ⟨symbol, tail, heq⟩ := List.exists_cons_of_ne_nil (List.concat_ne_nil _ _)
    exact ⟨symbol, tail, heq, by simp⟩
  next rest => cases h
  next rest =>
    have hstop : StopsRightly .entries room rest stop :=
      ih.bindings (Nat.lt_succ_self _) (bind_pure_eq_error_iff.1 h)
    exact hstop.tail (by simp) (by simp) (by simp [Part.entries])
      (fun _ => entries_spells_comma_iff) fun _ _ => trivial
  next name rest =>
    rcases bind_eq_error_iff.1 h with hvalue | ⟨⟨value, left, shorter⟩, hvalue, hmore⟩
    · refine (initializer_stops (ih.mono (by simp)) hvalue).cons (by simp) (by simp) ?_ ?_
      · rintro _ ⟨initial, rfl⟩
        exact ⟨[.closeBrace], [.binding name initial], by simp [Entry.rowSymbols, Entry.symbols]⟩
      · intro more _ hbegins
        obtain ⟨initial, after, heq, -⟩ := exists_value_of_begins_entries hbegins
        exact ⟨_, after, heq, ⟨initial, rfl⟩, trivial⟩
    have hyields : (initializer room name rest).Yields value left := ⟨shorter, hvalue⟩
    obtain ⟨initial, -, rfl, hdepth⟩ := initializer_sound (soundBelow _) hyields
    have hstop : StopsRightly .entries room left stop :=
      ih.bindings (Nat.lt_succ_of_lt shorter) (bind_pure_eq_error_iff.1 hmore)
    refine hstop.behind (.literal (.identifier name) :: initial.symbols) (fun more => ?_) ?_ ?_
    · simp [initial.nests.fits_append, hdepth]
    · rintro _ ⟨entries, rfl⟩
      exact ⟨[], .binding name initial :: entries, by simp [Entry.rowSymbols, Entry.symbols]⟩
    · intro more _ hbegins
      obtain ⟨initial', after, heq, hentries⟩ := exists_value_of_begins_entries hbegins
      obtain ⟨-, rfl⟩ := Initial.symbols_append_inj _ _ heq
      exact hentries
  next hnil hclose hcomma hname =>
    cases h
    refine .here ⟨_, [], rfl⟩ (by simp) ?_
    rintro _ ⟨entries, rfl⟩
    cases entries with
    | nil => exact ⟨_, _, rfl, hclose⟩
    | cons entry entries =>
      cases entry with
      | comma => exact ⟨_, _, rfl, hcomma⟩
      | binding name value => exact ⟨_, _, rfl, hname name⟩

end Steps

theorem stopsBelow (n : Nat) : StopsBelow n := by
  induction n with
  | zero => constructor <;> intros <;> contradiction
  | succ n ih =>
    have below {input : List Symbol} (h : input.length < n + 1) : StopsBelow input.length :=
      ih.mono (Nat.le_of_lt_succ h)
    exact
      { run := fun hlt => run_stops (below hlt)
        statements := fun hlt => statements_stops (below hlt)
        bindings := fun hlt => bindings_stops (below hlt) }

/-- A program that is not read stops rightly. -/
theorem program_stops {room : Nat} {input : List Symbol} {stop : Stop}
    (h : program room input = .error stop) : StopsRightly .program room input stop := by
  fun_induction program room input with
  | case1 => cases h
  | case2 symbol rest ih =>
    refine statement_bind_stops (stopsBelow _) endsRow_program ?_ (fun first hmore => ?_) h
    · rintro _ rfl
      simp
    · exact ih first (bind_pure_eq_error_iff.1 hmore)

end TaskRunner.Grammar
