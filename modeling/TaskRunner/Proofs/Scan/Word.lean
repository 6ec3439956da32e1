import TaskRunner.Token.Scan
import TaskRunner.Statement.Symbol
import Mathlib.Data.List.TakeWhile

/-! The words of a source text.  A word is reserved if it is a keyword or a keyword with a mark
after a colon; every other word stands for itself. -/

namespace TaskRunner

/-- The words that begin statements. -/
def keywords : List String := ["var", "target", "run", "config", "desc", "extends"]

/-- The words that no name and no literal can be: the keywords, also with a mark. -/
def reservedWords : List String :=
  keywords ++ keywords.map (· ++ ":before") ++ keywords.map (· ++ ":after")

/-- The text can stand as a name or as a word among literals. -/
structure IsWord (word : String) : Prop where
  begins : ∃ c cs, word.toList = c :: cs ∧ isWordStart c = true
  chars : ∀ c ∈ word.toList, isWordChar c = true
  free : word ∉ reservedWords

theorem isWord_iff {word : String} :
    IsWord word ↔ word.toList.head?.any isWordStart = true ∧ word.toList.all isWordChar = true ∧
      word ∉ reservedWords := by
  have hbegins : word.toList.head?.any isWordStart = true ↔
      ∃ c cs, word.toList = c :: cs ∧ isWordStart c = true := by
    cases word.toList <;> simp
  rw [hbegins, List.all_eq_true]
  exact ⟨fun h => ⟨h.begins, h.chars, h.free⟩, fun h => ⟨h.1, h.2.1, h.2.2⟩⟩

theorem IsWord.ne_empty {word : String} (h : IsWord word) : word ≠ "" := by
  rintro rfl
  obtain ⟨c, cs, hword, -⟩ := h.begins
  cases hword

instance (word : String) : Decidable (IsWord word) :=
  decidable_of_iff _ isWord_iff.symm

theorem isWordChar_of_isWordStart {c : Char} (h : isWordStart c = true) : isWordChar c = true := by
  rw [isWordStart, Bool.or_eq_true] at h
  rcases h with h | h <;> simp [isWordChar, h]

theorem isWordChar_of_isDigit {c : Char} (h : c.isDigit = true) : isWordChar c = true := by
  simp [isWordChar, isNumeral_of_isDigit h]

theorem keyword?_mem_keywords {kind : Token.Kind} {word : String} (h : kind.keyword? = some word) :
    word ∈ keywords := by
  cases kind <;> simp_all [Token.Kind.keyword?, keywords]

theorem ofKeyword?_ne_none_iff {word : String} :
    Token.Kind.ofKeyword? word ≠ none ↔ word ∈ keywords := by
  constructor
  · intro h
    obtain ⟨kind, hkind⟩ := Option.ne_none_iff_exists'.1 h
    exact keyword?_mem_keywords (Token.Kind.ofKeyword?_eq_some_iff.1 hkind)
  · intro h
    simp only [keywords, List.mem_cons, List.not_mem_nil, or_false] at h
    rcases h with rfl | rfl | rfl | rfl | rfl | rfl <;> decide

/-- A word is a plain one or of the kind of a keyword. -/
theorem classifyWord_kind (word : List Char) :
    (classifyWord word).1 = .identifier ∨
      ∃ keyword, (classifyWord word).1.keyword? = some keyword := by
  rw [classifyWord]
  split
  next kind hkind => exact .inr ⟨_, Token.Kind.ofKeyword?_eq_some_iff.1 hkind⟩
  next =>
    split
    · exact .inl rfl
    · split
      next hkind _ => exact .inr ⟨_, Token.Kind.ofKeyword?_eq_some_iff.1 hkind⟩
      next => exact .inl rfl

theorem mark?_mem_marks {stage : Stage} {mark : String} (h : stage.mark? = some mark) :
    mark = "before" ∨ mark = "after" := by
  cases stage <;> simp_all [Stage.mark?]

theorem eq_keyword_colon_mark {word mark : List Char} {c : Char}
    (h : word.dropWhile (· != ':') = c :: mark) :
    String.ofList word =
      String.ofList (word.takeWhile (· != ':')) ++ ":" ++ String.ofList mark := by
  have hcolon : c = ':' := by
    have := List.head?_dropWhile_not (· != ':') word
    rw [h] at this
    simpa using this
  have hword : word.takeWhile (· != ':') ++ ':' :: mark = word := by
    rw [← congrArg (· :: mark) hcolon, ← h, List.takeWhile_append_dropWhile]
  refine String.toList_injective ?_
  simp [hword]

/-- A word that is not classified as a plain one is reserved. -/
theorem mem_reservedWords_of_classifyWord {word : List Char}
    (h : (classifyWord word).1 ≠ .identifier) : String.ofList word ∈ reservedWords := by
  rw [reservedWords, List.mem_append, List.mem_append, List.mem_map, List.mem_map]
  rw [classifyWord] at h
  split at h
  next kind hkind =>
    exact .inl (.inl (ofKeyword?_ne_none_iff.1 (by rw [hkind]; exact Option.some_ne_none kind)))
  next =>
    split at h
    · exact absurd rfl h
    next c mark hdrop =>
      split at h
      next kind stage hkind hstage =>
        have hkeyword := ofKeyword?_ne_none_iff.1 (by rw [hkind]; exact Option.some_ne_none kind)
        rcases mark?_mem_marks (Stage.ofMark?_eq_some_iff.1 hstage) with hmark | hmark
        · refine .inl (.inr ⟨_, hkeyword, ?_⟩)
          rw [eq_keyword_colon_mark hdrop, hmark, String.append_assoc]
          rfl
        · refine .inr ⟨_, hkeyword, ?_⟩
          rw [eq_keyword_colon_mark hdrop, hmark, String.append_assoc]
          rfl
      next => exact absurd rfl h

theorem classifyWord_ne_identifier_of_mem :
    ∀ word ∈ reservedWords, (classifyWord word.toList).1 ≠ .identifier := by
  decide +kernel

/-- The plain words are those that are not reserved. -/
theorem classifyWord_eq_identifier_iff {word : List Char} :
    (classifyWord word).1 = .identifier ↔ String.ofList word ∉ reservedWords := by
  constructor
  · intro h hmem
    have hne := classifyWord_ne_identifier_of_mem _ hmem
    rw [String.toList_ofList] at hne
    exact hne h
  · intro h
    by_contra hne
    exact h (mem_reservedWords_of_classifyWord hne)

end TaskRunner
