import TaskRunner.Text.Blank
import Mathlib.Data.List.DropRight

/-! What a text loses at its ends.  Characters of some kind are taken off the end of a text, or off
both its ends, as long as there are any, and nothing else is.  A trimmed text loses white space; the
characters that are no white space are the same before and after. -/

namespace TaskRunner

/-- The text neither begins nor ends with white space. -/
structure IsTrimmed (text : List Char) : Prop where
  head : ∀ c ∈ text.head?, isBlank c = false
  last : ∀ c ∈ text.getLast?, isBlank c = false

/-- The characters of a text that are no white space. -/
def solid (text : List Char) : List Char :=
  text.filter fun c => !isBlank c

/-- A text loses the characters at its end that satisfy `p`, and no others. -/
structure LosesEnd (p : Char → Bool) (text kept : List Char) : Prop where
  split : ∃ tail, text = kept ++ tail ∧ tail.all p = true
  last : ∀ c ∈ kept.getLast?, p c = false

/-- A text loses the characters at either end that satisfy `p`, and no others. -/
structure LosesEnds (p : Char → Bool) (text kept : List Char) : Prop where
  split : ∃ before after, text = before ++ (kept ++ after) ∧ before.all p = true ∧
    after.all p = true
  head : ∀ c ∈ kept.head?, p c = false
  last : ∀ c ∈ kept.getLast?, p c = false

section

variable {p : Char → Bool} {text kept : List Char}

theorem dropEndWhile_eq_rdropWhile (p : Char → Bool) (text : List Char) :
    dropEndWhile p text = text.rdropWhile p := by
  induction text with
  | nil => rfl
  | cons c cs ih =>
    rw [dropEndWhile, ih, List.rdropWhile, List.rdropWhile, List.reverse_cons,
      List.dropWhile_append]
    cases hkept : cs.reverse.dropWhile p with
    | nil => by_cases hc : p c = true <;> simp [hc]
    | cons d ds =>
      obtain ⟨last, kept, hrev⟩ := List.exists_cons_of_ne_nil
        (List.reverse_ne_nil_iff.2 (List.cons_ne_nil d ds))
      simp only [List.isEmpty_cons, Bool.false_eq_true, if_false, List.reverse_append,
        List.reverse_singleton, List.singleton_append]
      rw [hrev]

theorem dropEndWhile_append_of_all {tail : List Char} (h : tail.all p = true) :
    dropEndWhile p (text ++ tail) = dropEndWhile p text := by
  have htail : ∀ c ∈ tail.reverse, p c = true := by simpa using h
  simp only [dropEndWhile_eq_rdropWhile, List.rdropWhile, List.reverse_append]
  rw [List.dropWhile_append_of_pos htail]

theorem dropEndWhile_eq_self_iff :
    dropEndWhile p text = text ↔ ∀ c ∈ text.getLast?, p c = false := by
  rw [dropEndWhile_eq_rdropWhile, List.rdropWhile_eq_self_iff]
  cases hlast : text.getLast? with
  | none => simp [List.getLast?_eq_none_iff.1 hlast]
  | some c =>
    have hne : text ≠ [] := fun hnil => by simp [hnil] at hlast
    rw [List.getLast?_eq_some_getLast hne, Option.some_inj] at hlast
    simp [hne, hlast]

theorem dropWhile_eq_self_iff_head : text.dropWhile p = text ↔ ∀ c ∈ text.head?, p c = false := by
  cases text with
  | nil => simp
  | cons c cs => simp [List.dropWhile_eq_self_iff]

/-- What is left of a text that loses characters at its end. -/
theorem losesEnd_iff : LosesEnd p text kept ↔ kept = dropEndWhile p text := by
  constructor
  · rintro ⟨⟨tail, rfl, htail⟩, hlast⟩
    rw [dropEndWhile_append_of_all htail, dropEndWhile_eq_self_iff.2 hlast]
  · rintro rfl
    refine ⟨exists_dropEndWhile_append p text, dropEndWhile_eq_self_iff.1 ?_⟩
    rw [dropEndWhile_eq_rdropWhile, dropEndWhile_eq_rdropWhile]
    exact List.rdropWhile_idempotent p text

/-- What is left of a text that loses characters at either end. -/
theorem losesEnds_iff : LosesEnds p text kept ↔ kept = dropEndWhile p (text.dropWhile p) := by
  constructor
  · rintro ⟨⟨before, after, rfl, hbefore, hafter⟩, hhead, hlast⟩
    rw [List.dropWhile_append_of_pos (by simpa using hbefore)]
    cases kept with
    | nil =>
      have hall : after.dropWhile p = [] := List.dropWhile_eq_nil_iff.2 (by simpa using hafter)
      rw [List.nil_append, hall]
      rfl
    | cons c cs =>
      have hc : (c :: cs ++ after).dropWhile p = c :: cs ++ after :=
        dropWhile_eq_self_iff_head.2 (by simpa using hhead)
      rw [hc, dropEndWhile_append_of_all hafter, dropEndWhile_eq_self_iff.2 hlast]
  · rintro rfl
    obtain ⟨⟨after, hsplit, hafter⟩, hlast⟩ :=
      losesEnd_iff.2 (rfl : _ = dropEndWhile p (text.dropWhile p))
    refine ⟨⟨text.takeWhile p, after, ?_, List.all_takeWhile, hafter⟩, ?_, hlast⟩
    · rw [← hsplit, List.takeWhile_append_dropWhile]
    · -- What is left begins as it did before the end was taken off, unless nothing is left.
      have hhead := List.head?_dropWhile_not p text
      rw [hsplit] at hhead
      cases hkept : dropEndWhile p (text.dropWhile p) with
      | nil => simp
      | cons c cs =>
        rw [hkept] at hhead
        simpa using hhead

theorem losesEnds_nil_iff : LosesEnds p text [] ↔ text.all p = true := by
  constructor
  · rintro ⟨⟨before, after, rfl, hbefore, hafter⟩, -, -⟩
    rw [List.nil_append, List.all_append, hbefore, hafter]
    rfl
  · intro h
    exact ⟨⟨text, [], by simp, h, rfl⟩, by simp, by simp⟩

end

/-! ### Trimmed texts -/

theorem trimEnd_eq_self_iff {text : List Char} :
    trimEnd text = text ↔ ∀ c ∈ text.getLast?, isBlank c = false :=
  dropEndWhile_eq_self_iff

/-- Nothing blank is left at the end of a text whose end is trimmed. -/
theorem eq_nil_of_trimEnd_append {text tail : List Char}
    (h : trimEnd (text ++ tail) = text ++ tail) (htail : isBlankText tail = true) : tail = [] := by
  by_contra hne
  have hlast := trimEnd_eq_self_iff.1 h (tail.getLast hne) (by
    rw [List.getLast?_append_of_ne_nil text hne, List.getLast?_eq_some_getLast hne]
    rfl)
  rw [isBlankText, List.all_eq_true] at htail
  rw [htail _ (List.getLast_mem hne)] at hlast
  exact Bool.noConfusion hlast

theorem isTrimmed_iff {text : List Char} :
    IsTrimmed text ↔ trimStart text = text ∧ trimEnd text = text := by
  rw [trimStart, dropWhile_eq_self_iff_head, trimEnd_eq_self_iff]
  exact ⟨fun h => ⟨h.head, h.last⟩, fun h => ⟨h.1, h.2⟩⟩

theorem trimEnd_trimEnd (text : List Char) : trimEnd (trimEnd text) = trimEnd text :=
  dropEndWhile_eq_self_iff.2 (losesEnd_iff.2 rfl).last

theorem losesEnds_trim (text : List Char) : LosesEnds isBlank text (trim text) :=
  losesEnds_iff.2 rfl

/-- White space goes with the text at its ends; nothing else does. -/
theorem exists_trim_append (text : List Char) :
    ∃ before after, text = before ++ (trim text ++ after) ∧ isBlankText before = true ∧
      isBlankText after = true :=
  (losesEnds_trim text).split

theorem isTrimmed_trim (text : List Char) : IsTrimmed (trim text) :=
  ⟨(losesEnds_trim text).head, (losesEnds_trim text).last⟩

/-- A trimmed text comes back from between white space. -/
theorem trim_append_of_blank {before text after : List Char} (hbefore : isBlankText before = true)
    (htext : IsTrimmed text) (hafter : isBlankText after = true) :
    trim (before ++ (text ++ after)) = text :=
  (losesEnds_iff.1 ⟨⟨before, after, rfl, hbefore, hafter⟩, htext.head, htext.last⟩).symm

theorem IsTrimmed.trim_eq {text : List Char} (h : IsTrimmed text) : trim text = text := by
  obtain ⟨hhead, hlast⟩ := isTrimmed_iff.1 h
  rw [trim, hhead, hlast]

/-! ### The characters that are no white space -/

@[simp] theorem solid_nil : solid [] = [] := rfl

@[simp] theorem solid_append (text more : List Char) :
    solid (text ++ more) = solid text ++ solid more :=
  List.filter_append ..

theorem solid_eq_nil_iff {text : List Char} : solid text = [] ↔ isBlankText text = true := by
  simp [solid, isBlankText]

theorem solid_trimEnd (text : List Char) : solid (trimEnd text) = solid text := by
  obtain ⟨tail, hsplit, htail⟩ := exists_dropEndWhile_append isBlank text
  conv_rhs => rw [hsplit, solid_append, solid_eq_nil_iff.2 htail, List.append_nil]
  rfl

theorem solid_trim (text : List Char) : solid (trim text) = solid text := by
  obtain ⟨before, after, hsplit, hbefore, hafter⟩ := exists_trim_append text
  conv_rhs => rw [hsplit]
  simp [solid_eq_nil_iff.2 hbefore, solid_eq_nil_iff.2 hafter]

end TaskRunner
