import TaskRunner.Proofs.Grammar.Derivation

/-! How many braces are open at once in a row of symbols.  The bound is said of the fronts of the
row, without a look at its structure.  What a derivation derives has its braces paired, and there it
is a bound on the depth of the derivation. -/

namespace TaskRunner.Grammar

/-- At most `room` braces are open at any point of the row. -/
def Fits (room : Nat) (input : List Symbol) : Prop :=
  ∀ front, front <+: input → front.count .openBrace ≤ front.count .closeBrace + room

/-- The bound of a row from the bound of what follows its first symbol. -/
theorem fits_cons_iff {room room' : Nat} {symbol : Symbol} {input : List Symbol}
    (h : ∀ front, (symbol :: front).count .openBrace ≤ (symbol :: front).count .closeBrace + room ↔
      front.count .openBrace ≤ front.count .closeBrace + room') :
    Fits room (symbol :: input) ↔ Fits room' input := by
  constructor
  · intro hfits front hfront
    exact (h front).1 (hfits _ ((List.prefix_cons_inj symbol).2 hfront))
  · intro hfits front hfront
    rcases List.prefix_cons_iff.1 hfront with rfl | ⟨tail, rfl, htail⟩
    · simp
    · exact (h tail).2 (hfits tail htail)

@[simp] theorem fits_nil (room : Nat) : Fits room [] := by
  intro front hfront
  simp [List.prefix_nil.1 hfront]

@[simp] theorem fits_openBrace_succ {room : Nat} {input : List Symbol} :
    Fits (room + 1) (.openBrace :: input) ↔ Fits room input :=
  fits_cons_iff fun front => by
    rw [List.count_cons_self, List.count_cons_of_ne (by simp)]
    omega

@[simp] theorem not_fits_openBrace_zero {input : List Symbol} :
    ¬Fits 0 (.openBrace :: input) := by
  intro h
  have := h [.openBrace] (List.prefix_append [.openBrace] input)
  simp at this

@[simp] theorem fits_closeBrace {room : Nat} {input : List Symbol} :
    Fits room (.closeBrace :: input) ↔ Fits (room + 1) input :=
  fits_cons_iff fun front => by
    rw [List.count_cons_self, List.count_cons_of_ne (by simp)]
    omega

@[simp] theorem fits_cons {room : Nat} {symbol : Symbol} {input : List Symbol}
    (hopen : symbol ≠ .openBrace) (hclose : symbol ≠ .closeBrace) :
    Fits room (symbol :: input) ↔ Fits room input :=
  fits_cons_iff fun front => by
    rw [List.count_cons_of_ne hopen, List.count_cons_of_ne hclose]

/-! ### Paired braces -/

/-- The braces of the row are paired, and `depth` is the greatest number of them open at once. -/
inductive Nests : Nat → List Symbol → Prop where
  | nil : Nests 0 []
  | cons {depth : Nat} {symbol : Symbol} {more : List Symbol} (hopen : symbol ≠ .openBrace)
      (hclose : symbol ≠ .closeBrace) (hmore : Nests depth more) : Nests depth (symbol :: more)
  | block {inner depth : Nat} {inside more : List Symbol} (hinside : Nests inner inside)
      (hmore : Nests depth more) : Nests (max (inner + 1) depth) (braced inside ++ more)

theorem Nests.append {depth depth' : Nat} {input input' : List Symbol} (h : Nests depth input)
    (h' : Nests depth' input') : Nests (max depth depth') (input ++ input') := by
  induction h with
  | nil => rwa [Nat.zero_max]
  | cons hopen hclose _ ih => exact .cons hopen hclose ih
  | block hinside _ _ ih =>
    rw [Nat.max_assoc, List.append_assoc]
    exact .block hinside ih

theorem Nests.braced {depth : Nat} {inside : List Symbol} (h : Nests depth inside) :
    Nests (depth + 1) (braced inside) := by
  simpa using Nests.block h .nil

theorem nests_map {α : Type} {f : α → Symbol} (hopen : ∀ a, f a ≠ .openBrace)
    (hclose : ∀ a, f a ≠ .closeBrace) (as : List α) : Nests 0 (as.map f) := by
  induction as with
  | nil => exact .nil
  | cons a as ih => exact .cons (hopen a) (hclose a) ih

mutual

/-- A phrase nests as deep as its depth says. -/
theorem Phrase.nests : (phrase : Phrase) → Nests phrase.depth phrase.symbols
  | .config entries => .cons (by simp) (by simp) (Entry.nests_row entries).braced
  | .var entries => .cons (by simp) (by simp) (Entry.nests_row entries).braced
  | .target _ body =>
    .cons (by simp) (by simp) (.cons (by simp) (by simp) (Phrase.nests_row body).braced)
  | .run _ call => .cons (by simp) (by simp) call.nests
  | .describe lines =>
    .cons (by simp) (by simp)
      (nests_map lineSymbol_ne_openBrace lineSymbol_ne_closeBrace lines).braced
  | .extend paths =>
    .cons (by simp) (by simp)
      (nests_map pathSymbol_ne_openBrace pathSymbol_ne_closeBrace paths).braced
  | .script _ => .cons (by simp) (by simp) .nil
  | .literal _ => .cons (by simp) (by simp) .nil

theorem Phrase.nests_row : (phrases : List Phrase) →
    Nests (Phrase.rowDepth phrases) (Phrase.rowSymbols phrases)
  | [] => .nil
  | phrase :: phrases => phrase.nests.append (Phrase.nests_row phrases)

theorem Call.nests : (call : Call) → Nests call.depth call.symbols
  | .block body => (Phrase.nests_row body).braced
  | .name _ => .cons (by simp) (by simp) .nil
  | .both _ body => .cons (by simp) (by simp) (Phrase.nests_row body).braced

theorem Entry.nests_row : (entries : List Entry) →
    Nests (Entry.rowDepth entries) (Entry.rowSymbols entries)
  | [] => .nil
  | .comma :: entries => .cons (by simp) (by simp) (Entry.nests_row entries)
  | .binding _ value :: entries =>
    .cons (by simp) (by simp) (value.nests.append (Entry.nests_row entries))

theorem Initial.nests : (value : Initial) → Nests value.depth value.symbols
  | .literal _ => .cons (by simp) (by simp) .nil
  | .run _ call => (Nests.cons (by simp) (by simp) call.nests).braced

end

/-- A row with paired braces fits where its depth does. -/
theorem Nests.fits_append {depth : Nat} {input : List Symbol} (h : Nests depth input) (room : Nat)
    (rest : List Symbol) : Fits room (input ++ rest) ↔ depth ≤ room ∧ Fits room rest := by
  induction h generalizing room rest with
  | nil => simp
  | cons hopen hclose _ ih => rw [List.cons_append, fits_cons hopen hclose, ih]
  | block _ _ hinside hmore =>
    rw [List.append_assoc, braced_append]
    cases room with
    | zero => simp
    | succ room =>
      rw [fits_openBrace_succ, hinside, fits_closeBrace, hmore, Nat.max_le,
        Nat.add_le_add_iff_right, and_assoc]

/-- The bound on open braces is the bound on the depth of the derivation. -/
theorem Phrase.fits_rowSymbols_iff (phrases : List Phrase) (room : Nat) :
    Fits room (Phrase.rowSymbols phrases) ↔ Phrase.rowDepth phrases ≤ room := by
  have h := (Phrase.nests_row phrases).fits_append room []
  rw [List.append_nil] at h
  rw [h]
  exact and_iff_left (fits_nil room)

end TaskRunner.Grammar
