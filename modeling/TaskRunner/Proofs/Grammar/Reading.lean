import TaskRunner.Statement.Parse

/-! What a reading yields: a value and the symbols that are left, without the proof that they are
fewer than before. -/

namespace TaskRunner

/-- The reading succeeds with a value and leaves `rest`. -/
def Reading.Yields {α : Type} {input : List Symbol} (reading : Reading α input) (value : α)
    (rest : List Symbol) : Prop :=
  ∃ shorter, reading = .ok ⟨value, rest, shorter⟩

/-- Two computations one after the other succeed if both do. -/
theorem bind_eq_ok_iff {ε α β : Type} {first : Except ε α} {next : α → Except ε β} {result : β} :
    first >>= next = .ok result ↔ ∃ value, first = .ok value ∧ next value = .ok result := by
  cases first <;> simp [bind, Except.bind]

/-- Two computations one after the other fail if the first does, or the second behind it. -/
theorem bind_eq_error_iff {ε α β : Type} {first : Except ε α} {next : α → Except ε β} {error : ε} :
    first >>= next = .error error ↔
      first = .error error ∨ ∃ value, first = .ok value ∧ next value = .error error := by
  cases first <;> simp [bind, Except.bind]

theorem bind_pure_eq_error_iff {ε α β : Type} {first : Except ε α} {f : α → β} {error : ε} :
    (do let value ← first; return f value) = .error error ↔ first = .error error := by
  cases first <;> simp [bind, Except.bind, pure, Except.pure]

namespace Reading

variable {α β : Type} {input other rest : List Symbol} {value : α}

@[simp] theorem yields_ok {parsed : Parsed α input} :
    Yields (.ok parsed) value rest ↔ parsed.value = value ∧ parsed.rest = rest := by
  obtain ⟨v, r, shorter⟩ := parsed
  constructor
  · rintro ⟨_, h⟩
    cases h
    exact ⟨rfl, rfl⟩
  · rintro ⟨rfl, rfl⟩
    exact ⟨shorter, rfl⟩

@[simp] theorem yields_pure {parsed : Parsed α input} :
    Yields (pure parsed) value rest ↔ parsed.value = value ∧ parsed.rest = rest :=
  yields_ok

@[simp] theorem not_yields_error {stop : Stop} :
    ¬Yields (.error stop : Reading α input) value rest := by
  rintro ⟨_, h⟩
  cases h

/-- Two readings one after the other. -/
@[simp] theorem yields_bind {first : Reading β other} {next : Parsed β other → Reading α input} :
    Yields (first >>= next) value rest ↔
      ∃ middle left shorter, first.Yields middle left ∧
        (next ⟨middle, left, shorter⟩).Yields value rest := by
  cases first with
  | error stop => simp [bind, Except.bind]
  | ok parsed =>
    constructor
    · intro h
      exact ⟨parsed.value, parsed.rest, parsed.shorter, yields_ok.2 ⟨rfl, rfl⟩, h⟩
    · rintro ⟨middle, left, shorter, hfirst, hnext⟩
      obtain ⟨rfl, rfl⟩ := yields_ok.1 hfirst
      exact hnext

theorem Yields.length_lt {reading : Reading α input} (h : reading.Yields value rest) :
    rest.length < input.length := by
  obtain ⟨shorter, _⟩ := h
  exact shorter

end Reading

namespace Parse

variable {room inner : Nat} {input rest : List Symbol}

/-- An opening brace is read where there is room for it. -/
@[simp] theorem yields_opening :
    (opening room input).Yields inner rest ↔ input = .openBrace :: rest ∧ room = inner + 1 := by
  unfold opening
  split
  next tail =>
    cases room with
    | zero => simp
    | succ room => simp [and_comm]
  next hinput =>
    simp only [Reading.not_yields_error, false_iff]
    rintro ⟨rfl, -⟩
    exact hinput _ rfl

@[simp] theorem yields_closing {value : Unit} :
    (closing input).Yields value rest ↔ input = .closeBrace :: rest := by
  unfold closing
  split
  · simp
  next hinput => simpa using fun h => hinput _ h

end Parse

end TaskRunner
