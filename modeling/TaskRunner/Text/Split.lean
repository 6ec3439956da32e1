/-! Text cut at a character, and put together again. -/

namespace TaskRunner

/-- The stretches of a text between the occurrences of `sep`: one more than there are of these. -/
def splitAt (sep : Char) : List Char → List (List Char)
  | [] => [[]]
  | c :: cs =>
    if c = sep then [] :: splitAt sep cs
    else
      match splitAt sep cs with
      | [] => [[c]]
      | part :: parts => (c :: part) :: parts

/-- The parts with one `sep` between neighbours. -/
def joinWith (sep : Char) (parts : List (List Char)) : List Char :=
  List.intercalate [sep] parts

theorem splitAt_ne_nil (sep : Char) (text : List Char) : splitAt sep text ≠ [] := by
  cases text with
  | nil => simp [splitAt]
  | cons c cs =>
    rw [splitAt]
    split
    · simp
    · split <;> simp

@[simp] theorem joinWith_nil (sep : Char) : joinWith sep [] = [] := rfl

@[simp] theorem joinWith_singleton (sep : Char) (part : List Char) :
    joinWith sep [part] = part := by
  simp [joinWith, List.intercalate]

theorem joinWith_cons_cons (sep : Char) (part next : List Char) (parts : List (List Char)) :
    joinWith sep (part :: next :: parts) = part ++ sep :: joinWith sep (next :: parts) := by
  simp [joinWith, List.intercalate]

/-- The parts, joined again, are the text. -/
theorem joinWith_splitAt (sep : Char) (text : List Char) :
    joinWith sep (splitAt sep text) = text := by
  induction text with
  | nil => rfl
  | cons c cs ih =>
    rw [splitAt]
    cases h : splitAt sep cs with
    | nil => exact absurd h (splitAt_ne_nil sep cs)
    | cons part parts =>
      rw [h] at ih
      split
      next hc => rw [joinWith_cons_cons, ih, hc, List.nil_append]
      next hc =>
        cases parts with
        | nil =>
          rw [joinWith_singleton] at ih
          simp [ih]
        | cons next parts =>
          rw [joinWith_cons_cons] at ih
          simp [joinWith_cons_cons, ih]

/-- No part holds the character at which the text was cut. -/
theorem not_mem_of_mem_splitAt {sep : Char} {text part : List Char} (h : part ∈ splitAt sep text) :
    sep ∉ part := by
  induction text generalizing part with
  | nil =>
    rw [splitAt, List.mem_singleton] at h
    simp [h]
  | cons c cs ih =>
    rw [splitAt] at h
    split at h
    · rcases List.mem_cons.1 h with rfl | h
      · exact List.not_mem_nil
      · exact ih h
    next hc =>
      split at h
      next => rw [List.mem_singleton] at h; simp [h, Ne.symm hc]
      next first parts hsplit =>
        rcases List.mem_cons.1 h with rfl | h
        · have := ih (hsplit ▸ List.mem_cons_self)
          simp [Ne.symm hc, this]
        · exact ih (by rw [hsplit]; exact List.mem_cons_of_mem _ h)

end TaskRunner
