import TaskRunner.Session
import TaskRunner.Proofs.Text.Trim

/-! The double quotes around a text.  A value is given to a process without any of the double quotes
at its ends.  These come in pairs around the text, as many before it as behind it, unless there are
more of them at one end than at the other. -/

namespace TaskRunner

/-- The text neither begins nor ends with a double quote. -/
structure IsBare (text : List Char) : Prop where
  head : text.head? ≠ some '"'
  last : text.getLast? ≠ some '"'

/-- The text without the pairs of double quotes around it. -/
def withoutPairs : List Char → List Char
  | [] => []
  | c :: rest =>
    if c = '"' ∧ rest.getLast? = some '"' then withoutPairs rest.dropLast else c :: rest
termination_by text => text.length
decreasing_by
  simp only [List.length_dropLast, List.length_cons]
  omega

/-- The text without the double quotes at its ends. -/
def withoutQuotes (text : List Char) : List Char :=
  dropEndWhile (· == '"') (text.dropWhile (· == '"'))

theorem unquote_eq (text : String) : unquote text = String.ofList (withoutQuotes text.toList) := rfl

theorem isBare_iff {text : List Char} :
    IsBare text ↔ (∀ c ∈ text.head?, (c == '"') = false) ∧
      ∀ c ∈ text.getLast?, (c == '"') = false := by
  have hnone (found : Option Char) : (∀ c ∈ found, (c == '"') = false) ↔ found ≠ some '"' := by
    cases found <;> simp
  rw [hnone, hnone]
  exact ⟨fun h => ⟨h.head, h.last⟩, fun h => ⟨h.1, h.2⟩⟩

/-- What is left neither begins nor ends with a double quote. -/
theorem isBare_withoutQuotes (text : List Char) : IsBare (withoutQuotes text) := by
  have hloses : LosesEnds (· == '"') text (withoutQuotes text) := losesEnds_iff.2 rfl
  exact isBare_iff.2 ⟨hloses.head, hloses.last⟩

/-- A text stays as it is just if it neither begins nor ends with a double quote. -/
theorem withoutQuotes_eq_self_iff {text : List Char} : withoutQuotes text = text ↔ IsBare text := by
  constructor
  · intro h
    rw [← h]
    exact isBare_withoutQuotes text
  · intro h
    obtain ⟨hhead, hlast⟩ := isBare_iff.1 h
    rw [withoutQuotes, dropWhile_eq_self_iff_head.2 hhead]
    exact dropEndWhile_eq_self_iff.2 hlast

/-- A pair of double quotes goes with the others. -/
theorem withoutQuotes_pair (text : List Char) :
    withoutQuotes ('"' :: (text ++ ['"'])) = withoutQuotes text := by
  rw [withoutQuotes, withoutQuotes, List.dropWhile_cons_of_pos (by simp), List.dropWhile_append]
  cases hkept : text.dropWhile (· == '"') with
  | nil => rfl
  | cons c rest =>
    rw [List.isEmpty_cons, if_neg Bool.false_ne_true, dropEndWhile_eq_rdropWhile,
      dropEndWhile_eq_rdropWhile, List.rdropWhile_concat_pos _ _ _ (by simp)]

theorem withoutQuotes_withoutPairs (text : List Char) :
    withoutQuotes (withoutPairs text) = withoutQuotes text := by
  induction text using withoutPairs.induct with
  | case1 => rw [withoutPairs]
  | case2 c rest hpair ih =>
    obtain ⟨rfl, hlast⟩ := hpair
    rw [withoutPairs, if_pos ⟨rfl, hlast⟩, ih]
    conv_rhs => rw [← List.dropLast_append_getLast? _ hlast, withoutQuotes_pair]
  | case3 c rest hpair => rw [withoutPairs, if_neg hpair]

/-- A text loses its pairs of double quotes and nothing else just if these leave no double quote at
either end. -/
theorem withoutQuotes_eq_withoutPairs_iff {text : List Char} :
    withoutQuotes text = withoutPairs text ↔ IsBare (withoutPairs text) := by
  rw [← withoutQuotes_withoutPairs, withoutQuotes_eq_self_iff]

end TaskRunner
