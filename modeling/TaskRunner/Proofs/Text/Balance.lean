import TaskRunner.Token.Lexeme
import TaskRunner.Proofs.Text.Trim
import Mathlib.Data.List.Infix

/-! Braces inside a script.  The scanner takes a script up to the brace that closes its block, so
what it takes along is balanced, and a balanced text is taken along whole. -/

namespace TaskRunner

/-- Every closing brace of the text closes one that the text opened before, and every brace that the
text opens is closed. -/
structure IsBalanced (text : List Char) : Prop where
  within : ∀ front, front <+: text → front.count '\x7d' ≤ front.count '\x7b'
  settled : text.count '\x7d' = text.count '\x7b'

instance (text : List Char) : Decidable (IsBalanced text) :=
  decidable_of_iff
    ((∀ front ∈ text.inits, front.count '\x7d' ≤ front.count '\x7b') ∧
      text.count '\x7d' = text.count '\x7b')
    ⟨fun h => ⟨fun front hfront => h.1 front ((List.mem_inits _ _).2 hfront), h.2⟩,
      fun h => ⟨fun front hfront => h.within front ((List.mem_inits _ _).1 hfront), h.settled⟩⟩

theorem count_solid {brace : Char} (h : isBlank brace = false) (text : List Char) :
    (solid text).count brace = text.count brace :=
  List.count_filter (by simp [h])

/-! ### The text up to the closing brace -/

/-- With `depth` blocks open before the text, no brace of it closes more than are open. -/
def StaysOpen (depth : Nat) (text : List Char) : Prop :=
  ∀ front, front <+: text → front.count '\x7d' ≤ front.count '\x7b' + depth

/-- With `depth` blocks open before the text, none is open after it. -/
def ClosesAll (depth : Nat) (text : List Char) : Prop :=
  text.count '\x7d' = text.count '\x7b' + depth

theorem isBalanced_iff {text : List Char} :
    IsBalanced text ↔ StaysOpen 0 text ∧ ClosesAll 0 text :=
  ⟨fun h => ⟨h.within, h.settled⟩, fun h => ⟨h.1, h.2⟩⟩

/-- White space has no part in what a text opens and closes. -/
theorem StaysOpen.congr {depth : Nat} {text other : List Char} (h : solid text = solid other)
    (htext : StaysOpen depth text) : StaysOpen depth other := by
  have hopen : isBlank '\x7b' = false := by decide
  have hclose : isBlank '\x7d' = false := by decide
  intro front hfront
  obtain ⟨front', hfront', hsolid⟩ : ∃ front', front' <+: text ∧ solid front' = solid front := by
    have hkept : solid front <+: solid text := h ▸ hfront.filter _
    obtain ⟨front', hfront', hsolid⟩ := List.prefix_filter_iff.1 hkept
    exact ⟨front', hfront', hsolid.symm⟩
  have hwithin := htext front' hfront'
  rwa [← count_solid hopen, ← count_solid hclose, hsolid, count_solid hopen,
    count_solid hclose] at hwithin

theorem ClosesAll.congr {depth : Nat} {text other : List Char} (h : solid text = solid other)
    (htext : ClosesAll depth text) : ClosesAll depth other := by
  have hopen : isBlank '\x7b' = false := by decide
  have hclose : isBlank '\x7d' = false := by decide
  have hsettled : text.count '\x7d' = text.count '\x7b' + depth := htext
  rwa [← count_solid hopen, ← count_solid hclose, h, count_solid hopen,
    count_solid hclose] at hsettled

theorem IsBalanced.congr {text other : List Char} (h : solid text = solid other)
    (htext : IsBalanced text) : IsBalanced other := by
  obtain ⟨hopen, hclose⟩ := isBalanced_iff.1 htext
  exact isBalanced_iff.2 ⟨hopen.congr h, hclose.congr h⟩

theorem isBalanced_iff_of_solid_eq {text other : List Char} (h : solid text = solid other) :
    IsBalanced text ↔ IsBalanced other :=
  ⟨IsBalanced.congr h, IsBalanced.congr h.symm⟩

/-- A character moves as many braces from one side of the count to the other as it opens. -/
theorem count_cons_add {depth : Nat} {c : Char} (h : ¬(c = '\x7d' ∧ depth = 0))
    (text : List Char) :
    (c :: text).count '\x7b' + depth + text.count '\x7d' =
      (c :: text).count '\x7d' + (text.count '\x7b' + depthAfter depth c) := by
  unfold depthAfter
  by_cases hopen : c = '\x7b'
  · subst hopen
    rw [List.count_cons_self, List.count_cons_of_ne (by decide), if_pos rfl]
    omega
  by_cases hclose : c = '\x7d'
  · subst hclose
    rw [List.count_cons_self, List.count_cons_of_ne (by decide), if_neg hopen, if_pos rfl]
    have hdepth : depth ≠ 0 := fun hzero => h ⟨rfl, hzero⟩
    omega
  · rw [List.count_cons_of_ne hopen, List.count_cons_of_ne hclose, if_neg hopen, if_neg hclose]
    omega

theorem closesAll_cons_iff {depth : Nat} {c : Char} (h : ¬(c = '\x7d' ∧ depth = 0))
    {text : List Char} : ClosesAll depth (c :: text) ↔ ClosesAll (depthAfter depth c) text := by
  have hcount := count_cons_add h text
  unfold ClosesAll
  omega

theorem staysOpen_nil (depth : Nat) : StaysOpen depth [] := by
  intro front hfront
  simp [List.prefix_nil.1 hfront]

theorem staysOpen_cons_iff {depth : Nat} {c : Char} {text : List Char} :
    StaysOpen depth (c :: text) ↔
      ¬(c = '\x7d' ∧ depth = 0) ∧ StaysOpen (depthAfter depth c) text := by
  constructor
  · intro hopen
    have hc : ¬(c = '\x7d' ∧ depth = 0) := by
      rintro ⟨rfl, rfl⟩
      have := hopen ['\x7d'] (List.prefix_append ['\x7d'] text)
      simp at this
    refine ⟨hc, fun front hfront => ?_⟩
    have := hopen (c :: front) ((List.prefix_cons_inj c).2 hfront)
    have hcount := count_cons_add hc front
    omega
  · rintro ⟨hc, hopen⟩ front hfront
    rcases List.prefix_cons_iff.1 hfront with rfl | ⟨tail, rfl, htail⟩
    · simp
    · have := hopen tail htail
      have hcount := count_cons_add hc tail
      omega

theorem splitScript_append_closing {depth : Nat} {text : List Char} (hopen : StaysOpen depth text)
    (hclose : ClosesAll depth text) (rest : List Char) :
    splitScript depth (text ++ '\x7d' :: rest) = (text, '\x7d' :: rest) := by
  induction text generalizing depth with
  | nil =>
    have hdepth : depth = 0 := by simpa [ClosesAll] using hclose.symm
    simp [splitScript, hdepth]
  | cons c text ih =>
    obtain ⟨hc, hopen⟩ := staysOpen_cons_iff.1 hopen
    rw [List.cons_append, splitScript, if_neg hc, ih hopen ((closesAll_cons_iff hc).1 hclose)]

/-- A text that stays open is taken along up to its end. -/
theorem splitScript_of_staysOpen {depth : Nat} {text : List Char} (h : StaysOpen depth text) :
    splitScript depth text = (text, []) := by
  induction text generalizing depth with
  | nil => rfl
  | cons c text ih =>
    obtain ⟨hc, hopen⟩ := staysOpen_cons_iff.1 h
    rw [splitScript, if_neg hc, ih hopen]

/-- What is taken along stays open.  Where it does not reach the end of the text, a closing brace
follows it and all else is closed. -/
theorem splitScript_sound (depth : Nat) (text : List Char) :
    StaysOpen depth (splitScript depth text).1 ∧
      ((splitScript depth text).2 = [] ∨
        ClosesAll depth (splitScript depth text).1 ∧
          ∃ rest, (splitScript depth text).2 = '\x7d' :: rest) := by
  induction text generalizing depth with
  | nil => exact ⟨staysOpen_nil depth, .inl rfl⟩
  | cons c text ih =>
    by_cases hc : c = '\x7d' ∧ depth = 0
    · rw [splitScript, if_pos hc]
      exact ⟨staysOpen_nil depth, .inr ⟨hc.2.symm ▸ rfl, text, by rw [hc.1]⟩⟩
    · obtain ⟨hopen, hrest⟩ := ih (depthAfter depth c)
      rw [splitScript, if_neg hc]
      exact ⟨staysOpen_cons_iff.2 ⟨hc, hopen⟩,
        hrest.imp_right (And.imp_left (closesAll_cons_iff hc).2)⟩

/-- A balanced script is taken along whole. -/
theorem IsBalanced.splitScript_append {script : List Char} (h : IsBalanced script)
    (rest : List Char) : splitScript 0 (script ++ '\x7d' :: rest) = (script, '\x7d' :: rest) :=
  splitScript_append_closing (isBalanced_iff.1 h).1 (isBalanced_iff.1 h).2 rest

/-- A script that is taken along up to a closing brace is balanced. -/
theorem isBalanced_of_splitScript {text script rest : List Char}
    (h : splitScript 0 text = (script, rest)) (hrest : rest ≠ []) :
    IsBalanced script ∧ ∃ more, rest = '\x7d' :: more := by
  obtain ⟨hopen, hend⟩ := splitScript_sound 0 text
  rw [h] at hopen hend
  obtain ⟨hclose, hmore⟩ := hend.resolve_left hrest
  exact ⟨isBalanced_iff.2 ⟨hopen, hclose⟩, hmore⟩

end TaskRunner
