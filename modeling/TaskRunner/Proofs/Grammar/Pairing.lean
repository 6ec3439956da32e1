import TaskRunner.Proofs.Grammar.Acceptance

/-! The braces of a derivation are paired: at no point more of them are closed than opened, and in
the end as many.  Among the tokens each closing brace has the opening one that it belongs to. -/

namespace TaskRunner.Grammar

/-! ### Symbols -/

theorem Nests.count_eq {depth : Nat} {input : List Symbol} (h : Nests depth input) :
    input.count .closeBrace = input.count .openBrace := by
  induction h with
  | nil => rfl
  | cons hopen hclose _ ih => rw [List.count_cons_of_ne hopen, List.count_cons_of_ne hclose, ih]
  | @block _ _ inside _ _ _ hinside hmore =>
    have hblock : (Grammar.braced inside).count .closeBrace =
        (Grammar.braced inside).count .openBrace := by
      simp [Grammar.braced, hinside]
    rw [List.count_append, List.count_append, hblock, hmore]

theorem Nests.count_le {depth : Nat} {input front : List Symbol} (h : Nests depth input)
    (hfront : front <+: input) : front.count .closeBrace ≤ front.count .openBrace := by
  induction h generalizing front with
  | nil => simp [List.prefix_nil.1 hfront]
  | cons hopen hclose _ ih =>
    rcases List.prefix_cons_iff.1 hfront with rfl | ⟨tail, rfl, htail⟩
    · simp
    · rw [List.count_cons_of_ne hopen, List.count_cons_of_ne hclose]
      exact ih htail
  | @block _ _ inside _ hinside _ ihinside ihmore =>
    -- The front ends before the closing brace of the block or behind it.
    rw [braced_append] at hfront
    rcases List.prefix_cons_iff.1 hfront with rfl | ⟨tail, rfl, rest, hrest⟩
    · simp
    rw [List.count_cons_self, List.count_cons_of_ne (by simp)]
    rcases List.append_eq_append_iff.1 hrest with ⟨left, hleft, -⟩ | ⟨left, rfl, hleft⟩
    · exact Nat.le_succ_of_le (ihinside ⟨left, hleft.symm⟩)
    rw [List.count_append, List.count_append, hinside.count_eq]
    cases left with
    | nil => simp
    | cons symbol left =>
      obtain ⟨rfl, hmore⟩ := List.cons.inj hleft
      have hle := ihmore ⟨rest, hmore.symm⟩
      rw [List.count_cons_self, List.count_cons_of_ne (by simp)]
      omega

/-! ### Tokens -/

/-- Every closing brace among the tokens closes one that was opened before, and every brace that is
opened is closed. -/
structure IsPaired (tokens : List Token) : Prop where
  within : ∀ front, front <+: tokens →
    front.countP (·.kind == .rightBrace) ≤ front.countP (·.kind == .leftBrace)
  settled : tokens.countP (·.kind == .rightBrace) = tokens.countP (·.kind == .leftBrace)

/-- A token behind paired ones that is no brace. -/
theorem IsPaired.concat {tokens : List Token} (h : IsPaired tokens) {last : Token}
    (hopen : last.kind ≠ .leftBrace) (hclose : last.kind ≠ .rightBrace) :
    IsPaired (tokens ++ [last]) := by
  have hsettled : (tokens ++ [last]).countP (·.kind == .rightBrace) =
      (tokens ++ [last]).countP (·.kind == .leftBrace) := by
    simp [h.settled, hopen, hclose]
  refine ⟨fun front hfront => ?_, hsettled⟩
  rcases List.prefix_concat_iff.1 hfront with rfl | hfront
  · exact Nat.le_of_eq hsettled
  · exact h.within front hfront

/-- The braces of tokens that phrases derive are paired. -/
theorem Derives.isPaired {phrases : List Phrase} {tokens : List Token}
    (h : Derives phrases tokens) : IsPaired tokens := by
  have hnests := Phrase.nests_row phrases
  have hcount {n : Nat} {kind : Token.Kind} {symbol : Symbol}
      (hkind : ∀ {token : Token}, token.symbol? = some symbol ↔ token.kind = kind) :
      (tokens.take n).countP (·.kind == kind) =
        ((Phrase.rowSymbols phrases).take n).count symbol := by
    refine countP_eq_count ?_ hkind
    rw [List.map_take, List.map_take, h]
  constructor
  · intro front hfront
    rw [List.prefix_iff_eq_take.1 hfront, hcount symbol?_eq_openBrace_iff,
      hcount symbol?_eq_closeBrace_iff]
    exact hnests.count_le (List.take_prefix _ _)
  · rw [countP_eq_count h symbol?_eq_openBrace_iff, countP_eq_count h symbol?_eq_closeBrace_iff]
    exact hnests.count_eq

/-- Where more braces are opened than closed, there is a last one that stays open. -/
theorem exists_opening {front : List Token}
    (h : ∃ part, part <:+ front ∧
      part.countP (·.kind == .rightBrace) < part.countP (·.kind == .leftBrace)) :
    ∃ before opening inside, front = before ++ opening :: inside ∧ opening.kind = .leftBrace ∧
      IsPaired inside := by
  induction front with
  | nil =>
    obtain ⟨part, hpart, hlt⟩ := h
    rw [List.suffix_nil.1 hpart] at hlt
    simp at hlt
  | cons first front ih =>
    by_cases hlater : ∃ part, part <:+ front ∧
        part.countP (·.kind == .rightBrace) < part.countP (·.kind == .leftBrace)
    · obtain ⟨before, opening, inside, rfl, hkind, hpaired⟩ := ih hlater
      exact ⟨first :: before, opening, inside, rfl, hkind, hpaired⟩
    have hle (part : List Token) (hpart : part <:+ front) :
        part.countP (·.kind == .leftBrace) ≤ part.countP (·.kind == .rightBrace) :=
      Nat.le_of_not_lt fun hlt => hlater ⟨part, hpart, hlt⟩
    -- No brace of `front` stays open, so `first` does, and all behind it are paired.
    obtain ⟨part, hpart, hlt⟩ := h
    rcases List.suffix_cons_iff.1 hpart with rfl | hpart
    · have hfront := hle front List.suffix_rfl
      have hkind : first.kind = .leftBrace := by
        by_contra hne
        rw [List.countP_cons, List.countP_cons_of_neg (by simpa using hne)] at hlt
        omega
      have hsettled :
          front.countP (·.kind == .rightBrace) = front.countP (·.kind == .leftBrace) := by
        simp [hkind] at hlt
        omega
      refine ⟨[], first, front, rfl, hkind, fun part hpart => ?_, hsettled⟩
      obtain ⟨rest, rfl⟩ := hpart
      have hrest := hle rest (List.suffix_append part rest)
      rw [List.countP_append, List.countP_append] at hsettled
      omega
    · exact absurd ⟨part, hpart, hlt⟩ hlater

end TaskRunner.Grammar
