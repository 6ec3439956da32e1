import TaskRunner.Proofs.Scan.Pieces
import TaskRunner.Proofs.Scan.Tiling

/-! Rows of lexemes in front of a text.  A lexeme is read off its own characters, and how it ends
depends on the next character only, so the lexemes in front of a text are the same whatever comes
behind that character. -/

namespace TaskRunner

/-! ### How texts begin -/

/-- The text is empty or begins with the character that `other` begins with. -/
def BeginsLike (text other : List Char) : Prop :=
  ∀ c ∈ text.head?, c ∈ other.head?

theorem BeginsLike.nil (other : List Char) : BeginsLike [] other := nofun

theorem BeginsLike.cons (c : Char) (cs other : List Char) : BeginsLike (c :: cs) (c :: other) :=
  fun _ h => h

theorem BeginsLike.append {text other : List Char} (h : BeginsLike text other)
    (front : List Char) : BeginsLike (front ++ text) (front ++ other) := by
  cases front with
  | nil => exact h
  | cons c front => exact BeginsLike.cons c _ _

theorem BeginsLike.forall {text other : List Char} (h : BeginsLike text other)
    {p : Char → Prop} (hother : ∀ c ∈ other.head?, p c) : ∀ c ∈ text.head?, p c :=
  fun c hc => hother c (h c hc)

/-! ### A lexeme in front of a text -/

namespace Lexeme

/-- In front of `rest` the lexeme is read off the characters that spell it. -/
def IsRead (raw : Bool) (lexeme : Lexeme) (rest : List Char) : Prop :=
  ∃ c cs, lexeme.spelling ++ rest = c :: cs ∧ read raw c cs = .ok (lexeme, rest)

theorem isRead_of_read {raw : Bool} {c : Char} {cs rest : List Char} {lexeme : Lexeme}
    (h : read raw c cs = .ok (lexeme, rest)) : lexeme.IsRead raw rest :=
  ⟨c, cs, spelling_append_of_read h, h⟩

/-- The lexeme ends before `rest`.  With `raw`, the script of an opening brace goes on to the brace
that closes its block or to the end of the text. -/
def EndsBefore (raw : Bool) : Lexeme → List Char → Prop
  | .openBrace script, rest =>
    if raw then
      StaysOpen 0 script ∧ (rest = [] ∨ ClosesAll 0 script ∧ ∃ more, rest = '\x7d' :: more)
    else script = []
  | lexeme, rest => lexeme.IsFollowed rest

theorem endsBefore_of_read {raw : Bool} {c : Char} {cs rest : List Char} {lexeme : Lexeme}
    (h : read raw c cs = .ok (lexeme, rest)) : lexeme.EndsBefore raw rest := by
  have hfollowed := isFollowed_of_read h
  cases lexeme with
  | openBrace script =>
    obtain rfl : '\x7b' = c := (List.cons.inj (spelling_append_of_read h)).1
    cases raw with
    | false =>
      have hread : read false '\x7b' cs = .ok (openBrace [], cs) := rfl
      cases hread.symm.trans h
      rfl
    | true =>
      have hread : read true '\x7b' cs =
          .ok (openBrace (splitScript 0 cs).1, (splitScript 0 cs).2) := rfl
      cases hread.symm.trans h
      exact splitScript_sound 0 cs
  | _ => exact hfollowed

/-- A script is split off where it ends. -/
theorem splitScript_append_of_endsBefore {script rest : List Char}
    (h : (openBrace script).EndsBefore true rest) :
    splitScript 0 (script ++ rest) = (script, rest) := by
  obtain ⟨hopen, rfl | ⟨hclose, more, rfl⟩⟩ := h
  · rw [List.append_nil]
    exact splitScript_of_staysOpen hopen
  · exact splitScript_append_closing hopen hclose more

theorem isRead_iff {raw : Bool} {lexeme : Lexeme} {rest : List Char} :
    lexeme.IsRead raw rest ↔ lexeme.IsSpelled ∧ lexeme.EndsBefore raw rest := by
  constructor
  · rintro ⟨c, cs, -, hread⟩
    exact ⟨isSpelled_of_read hread, endsBefore_of_read hread⟩
  rintro ⟨hspelled, hends⟩
  cases lexeme with
  | space c => exact ⟨c, rest, rfl, read_space hends raw rest⟩
  | comment text =>
    obtain ⟨hinside, hnext⟩ := hends
    obtain ⟨htake, hdrop⟩ := takeWhile_append_eq (p := (· != '\n'))
      (fun c hc => bne_iff_ne.2 fun hnewline => hinside (hnewline ▸ hc))
      (fun c hc => by simp [hnext c hc])
    refine ⟨'#', text ++ rest, rfl, ?_⟩
    rw [read, if_neg (by decide), if_pos rfl, htake, hdrop]
  | openBrace script =>
    refine ⟨'\x7b', script ++ rest, rfl, ?_⟩
    cases raw with
    | false =>
      obtain rfl : script = [] := hends
      rfl
    | true =>
      have hsplit := splitScript_append_of_endsBefore hends
      show Except.ok (openBrace (splitScript 0 (script ++ rest)).1,
        (splitScript 0 (script ++ rest)).2) = _
      rw [hsplit]
  | closeBrace => exact ⟨'\x7d', rest, rfl, rfl⟩
  | comma => exact ⟨',', rest, rfl, rfl⟩
  | quoted quote text =>
    refine ⟨quote, text ++ quote :: rest, by simp [spelling], ?_⟩
    exact read_quoted hspelled.1 hspelled.2 raw rest
  | number digits =>
    obtain ⟨hne, hall⟩ := hspelled
    obtain ⟨c, cs, rfl⟩ := List.exists_cons_of_ne_nil hne
    obtain ⟨hc, hcs⟩ := List.forall_mem_cons.1 hall
    exact ⟨c, cs ++ rest, rfl, read_number hc hcs hends raw⟩
  | word text =>
    obtain ⟨⟨c, cs, rfl, hc⟩, hall⟩ := hspelled
    exact ⟨c, cs ++ rest, rfl, read_word hc (List.forall_mem_cons.1 hall).2 hends raw⟩

/-- What comes behind the next character does not matter to a lexeme, nor whether there is a next
character. -/
theorem EndsBefore.of_beginsLike {raw : Bool} {lexeme : Lexeme} {rest rest' : List Char}
    (h : lexeme.EndsBefore raw rest) (hrest : BeginsLike rest' rest) :
    lexeme.EndsBefore raw rest' := by
  cases lexeme with
  | openBrace script =>
    cases raw with
    | false => exact h
    | true =>
      refine ⟨h.1, ?_⟩
      cases rest' with
      | nil => exact .inl rfl
      | cons c more =>
        have hc : c ∈ rest.head? := hrest c rfl
        rcases h.2 with rfl | ⟨hclose, after, rfl⟩
        · exact absurd hc (by simp)
        · obtain rfl : '\x7d' = c := by simpa using hc
          exact .inr ⟨hclose, more, rfl⟩
  | comment text => exact ⟨h.1, hrest.forall h.2⟩
  | number digits => exact hrest.forall h
  | word text => exact hrest.forall h
  | _ => exact h

theorem IsRead.of_beginsLike {raw : Bool} {lexeme : Lexeme} {rest rest' : List Char}
    (h : lexeme.IsRead raw rest) (hrest : BeginsLike rest' rest) : lexeme.IsRead raw rest' := by
  obtain ⟨hspelled, hends⟩ := isRead_iff.1 h
  exact isRead_iff.2 ⟨hspelled, hends.of_beginsLike hrest⟩

end Lexeme

/-! ### A row of lexemes in front of a text -/

namespace Scanner

/-- The scanner behind a row of lexemes. -/
def behind (scanner : Scanner) (row : List Lexeme) : Scanner :=
  row.foldl advance scanner

/-- In front of `rest` the lexemes of the row are read one after the other. -/
def Reads (scanner : Scanner) : List Lexeme → List Char → Prop
  | [], _ => True
  | lexeme :: more, rest =>
    lexeme.IsRead scanner.expectsScript (more.flatMap Lexeme.spelling ++ rest) ∧
      (scanner.advance lexeme).Reads more rest

theorem place_behind (scanner : Scanner) (row : List Lexeme) :
    (scanner.behind row).place = scanner.place.after (row.flatMap Lexeme.spelling) := by
  induction row generalizing scanner with
  | nil => rfl
  | cons lexeme more ih =>
    have hplace : (scanner.advance lexeme).place = scanner.place.after lexeme.spelling := by
      cases lexeme <;> rfl
    rw [List.flatMap_cons, Place.after_append, ← hplace, ← ih]
    rfl

@[simp] theorem lexemes_nil (scanner : Scanner) : scanner.lexemes [] = .ok [] := by
  rw [Scanner.lexemes]

/-- A lexeme that is read goes before the lexemes of the text behind it. -/
theorem lexemes_of_isRead {scanner : Scanner} {lexeme : Lexeme} {rest : List Char}
    (h : lexeme.IsRead scanner.expectsScript rest) :
    scanner.lexemes (lexeme.spelling ++ rest) =
      ((scanner.advance lexeme).lexemes rest).map (lexeme :: ·) := by
  obtain ⟨c, cs, htext, hread⟩ := h
  rw [htext, Scanner.lexemes]
  split
  next hfound => cases hread.symm.trans hfound
  next hfound =>
    cases hread.symm.trans hfound
    cases (scanner.advance lexeme).lexemes rest <;> rfl

/-- The lexemes of a row go before those of the text behind it. -/
theorem Reads.lexemes_eq {scanner : Scanner} {row : List Lexeme} {rest : List Char}
    (h : scanner.Reads row rest) :
    scanner.lexemes (row.flatMap Lexeme.spelling ++ rest) =
      ((scanner.behind row).lexemes rest).map (row ++ ·) := by
  induction row generalizing scanner with
  | nil =>
    show scanner.lexemes rest = (scanner.lexemes rest).map ([] ++ ·)
    cases scanner.lexemes rest <;> rfl
  | cons lexeme more ih =>
    obtain ⟨hread, hmore⟩ := h
    rw [List.flatMap_cons, List.append_assoc, lexemes_of_isRead hread, ih hmore]
    show _ = (((scanner.advance lexeme).behind more).lexemes rest).map _
    cases ((scanner.advance lexeme).behind more).lexemes rest <;> rfl

theorem Reads.of_beginsLike {scanner : Scanner} {row : List Lexeme} {rest rest' : List Char}
    (h : scanner.Reads row rest) (hrest : BeginsLike rest' rest) : scanner.Reads row rest' := by
  induction row generalizing scanner with
  | nil => trivial
  | cons lexeme more ih =>
    exact ⟨h.1.of_beginsLike (hrest.append _), ih h.2⟩

/-- A row that is read in front of a text is read alone. -/
theorem Reads.lexemes_row {scanner : Scanner} {row : List Lexeme} {rest : List Char}
    (h : scanner.Reads row rest) : scanner.lexemes (row.flatMap Lexeme.spelling) = .ok row := by
  have halone := (h.of_beginsLike (.nil rest)).lexemes_eq
  rw [List.append_nil] at halone
  rw [halone, lexemes_nil]
  exact congrArg Except.ok (List.append_nil row)

end Scanner

end TaskRunner
