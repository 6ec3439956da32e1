/-! White space, and text with the white space at its ends removed. -/

namespace TaskRunner

/-- The characters with the Unicode property `White_Space`. -/
def isBlank (c : Char) : Bool :=
  let n := c.toNat
  (9 ≤ n && n ≤ 13) || n == 0x20 || n == 0x85 || n == 0xa0 || n == 0x1680 ||
    (0x2000 ≤ n && n ≤ 0x200a) || n == 0x2028 || n == 0x2029 || n == 0x202f || n == 0x205f ||
    n == 0x3000

/-- Text without the white space it begins with. -/
def trimStart (text : List Char) : List Char :=
  text.dropWhile isBlank

/-- Text without the characters at its end that satisfy `p`. -/
def dropEndWhile (p : Char → Bool) : List Char → List Char
  | [] => []
  | c :: cs =>
    match dropEndWhile p cs with
    | [] => if p c then [] else [c]
    | kept => c :: kept

/-- Text without the white space it ends with. -/
def trimEnd (text : List Char) : List Char :=
  dropEndWhile isBlank text

/-- Text without the white space at either end. -/
def trim (text : List Char) : List Char :=
  trimEnd (trimStart text)

/-- The text holds nothing but white space. -/
def isBlankText (text : List Char) : Bool :=
  text.all isBlank

@[simp] theorem trimEnd_nil : trimEnd [] = [] := rfl

@[simp] theorem trimStart_nil : trimStart [] = [] := rfl

@[simp] theorem trim_nil : trim [] = [] := rfl

theorem dropEndWhile_eq_nil_iff {p : Char → Bool} {text : List Char} :
    dropEndWhile p text = [] ↔ text.all p = true := by
  induction text with
  | nil => simp [dropEndWhile]
  | cons c cs ih =>
    simp only [List.all_cons, Bool.and_eq_true] at ih ⊢
    rw [dropEndWhile]
    cases h : dropEndWhile p cs with
    | nil => by_cases hc : p c = true <;> simp [hc, ← ih, h]
    | cons d ds => simp [← ih, h]

/-- Only characters that satisfy `p` are dropped. -/
theorem exists_dropEndWhile_append (p : Char → Bool) (text : List Char) :
    ∃ tail, text = dropEndWhile p text ++ tail ∧ tail.all p = true := by
  induction text with
  | nil => exact ⟨[], rfl, rfl⟩
  | cons c cs ih =>
    obtain ⟨tail, hcs, htail⟩ := ih
    rw [dropEndWhile]
    cases h : dropEndWhile p cs with
    | nil =>
      rw [h, List.nil_append] at hcs
      by_cases hc : p c = true
      · exact ⟨c :: cs, by simp [hc], by rw [hcs]; simp [hc, htail]⟩
      · exact ⟨cs, by simp [hc], by rw [hcs]; exact htail⟩
    | cons d ds =>
      rw [h] at hcs
      exact ⟨tail, by simpa using hcs, htail⟩

theorem trimEnd_eq_nil_iff {text : List Char} : trimEnd text = [] ↔ isBlankText text = true :=
  dropEndWhile_eq_nil_iff

end TaskRunner
