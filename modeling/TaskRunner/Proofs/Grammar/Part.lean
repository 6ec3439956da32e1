import TaskRunner.Proofs.Grammar.Uniqueness
import TaskRunner.Proofs.Grammar.Nesting
import TaskRunner.Statement.Parse

/-! Parts of the grammar, and what it is to stop rightly while one is read.  What was read up to
there can be completed to the part.  Either the next symbol is a brace that may stand there and for
which there is no room, or no completion goes on with it.

A stop within a part is one within the larger part that it belongs to.  The rules for that ask only
what of the larger part stands before the smaller one, and that nothing else can begin so. -/

namespace TaskRunner.Grammar

/-! ### Parts and where reading them stops -/

/-- A part of the grammar: the rows of symbols that spell it, and those that may follow it. -/
structure Part where
  Spells : List Symbol → Prop
  Precedes : List Symbol → Prop

/-- The part stands at the front of `input`. -/
def Part.Begins (part : Part) (input : List Symbol) : Prop :=
  ∃ word rest, input = word ++ rest ∧ part.Spells word ∧ part.Precedes rest

/-- Behind `front` stands an opening brace that may stand there, and there is no room for it. -/
def IsTooDeep (part : Part) (room : Nat) (front : List Symbol) (stop : Stop) : Prop :=
  stop.expected = .shallowerBlock ∧ (∃ rest, stop.unread = .openBrace :: rest) ∧
    (∃ more, part.Spells (front ++ .openBrace :: more)) ∧ ¬Fits room (front ++ [.openBrace])

/-- Whatever begins as the unread symbols do, the part is not spelled by `front` and a beginning
of it. -/
def IsRefused (part : Part) (front : List Symbol) (stop : Stop) : Prop :=
  stop.expected ≠ .shallowerBlock ∧
    ∀ more, more.head? = stop.unread.head? → ¬part.Begins (front ++ more)

/-- The symbols of `input` that are read before `stop` can be completed to the part, and there is a
reason to stop behind them. -/
def StopsRightly (part : Part) (room : Nat) (input : List Symbol) (stop : Stop) : Prop :=
  ∃ front, input = front ++ stop.unread ∧ Fits room front ∧ (∃ more, part.Spells (front ++ more)) ∧
    (IsTooDeep part room front stop ∨ IsRefused part front stop)

namespace StopsRightly

variable {part inner : Part} {room innerRoom : Nat} {input : List Symbol} {stop : Stop}

/-- A stop before the first symbol, which begins no row that spells the part. -/
theorem here {expected : Expectation} (hword : ∃ word, part.Spells word)
    (hexpected : expected ≠ .shallowerBlock)
    (hfirst : ∀ word, part.Spells word →
      ∃ symbol tail, word = symbol :: tail ∧ ∀ more, input ≠ symbol :: more) :
    StopsRightly part room input ⟨expected, input⟩ := by
  refine ⟨[], rfl, fits_nil room, hword, .inr ⟨hexpected, ?_⟩⟩
  rintro more hmore ⟨word, rest, rfl, hspells, -⟩
  obtain ⟨symbol, tail, rfl, hinput⟩ := hfirst word hspells
  obtain ⟨more, rfl⟩ := List.head?_eq_some_iff.1 hmore.symm
  exact hinput more rfl

/-- A stop within a part is one within the larger part that it belongs to.  `front` is what of the
larger part stands before it. -/
theorem behind (front : List Symbol) (h : StopsRightly inner innerRoom input stop)
    (hfits : ∀ more, Fits room (front ++ more) ↔ Fits innerRoom more)
    (hspells : ∀ word, inner.Spells word → ∃ more, part.Spells (front ++ (word ++ more)))
    (hbegins : ∀ more, more.head? = input.head? → part.Begins (front ++ more) →
      inner.Begins more) :
    StopsRightly part room (front ++ input) stop := by
  obtain ⟨read, rfl, hread, ⟨more, hmore⟩, hreason⟩ := h
  refine ⟨front ++ read, (List.append_assoc ..).symm, (hfits read).2 hread, ?_, ?_⟩
  · obtain ⟨more', hmore'⟩ := hspells _ hmore
    exact ⟨more ++ more', by simpa using hmore'⟩
  rcases hreason with ⟨hexpected, hopen, ⟨deep, hdeep⟩, hroom⟩ | ⟨hexpected, hrefused⟩
  · obtain ⟨more', hmore'⟩ := hspells _ hdeep
    refine .inl ⟨hexpected, hopen, ⟨deep ++ more', by simpa using hmore'⟩, ?_⟩
    rwa [List.append_assoc, hfits]
  -- What begins the larger part here goes on as `input` does, so it begins the smaller part too.
  · refine .inr ⟨hexpected, fun after hafter hbegin => hrefused after hafter ?_⟩
    refine hbegins (read ++ after) (by rw [List.head?_append, List.head?_append, hafter]) ?_
    rwa [← List.append_assoc]

/-- A stop behind a symbol that is no brace. -/
theorem cons {symbol : Symbol} (h : StopsRightly inner room input stop)
    (hopen : symbol ≠ .openBrace) (hclose : symbol ≠ .closeBrace)
    (hspells : ∀ word, inner.Spells word → ∃ more, part.Spells (symbol :: (word ++ more)))
    (hbegins : ∀ more, more.head? = input.head? → part.Begins (symbol :: more) →
      inner.Begins more) :
    StopsRightly part room (symbol :: input) stop :=
  h.behind [symbol] (fun _ => fits_cons hopen hclose) hspells hbegins

/-- A stop in the part that is all that can follow a symbol. -/
theorem tail {symbol : Symbol} (h : StopsRightly inner room input stop)
    (hopen : symbol ≠ .openBrace) (hclose : symbol ≠ .closeBrace) (hempty : ¬part.Spells [])
    (hspells : ∀ tail, part.Spells (symbol :: tail) ↔ inner.Spells tail)
    (hprecedes : ∀ rest, part.Precedes rest → inner.Precedes rest) :
    StopsRightly part room (symbol :: input) stop := by
  refine h.cons hopen hclose (fun word hword => ⟨[], ?_⟩) ?_
  · rwa [List.append_nil, hspells]
  · rintro more - ⟨word, rest, heq, hword, hrest⟩
    cases word with
    | nil => exact absurd hword hempty
    | cons first word =>
      obtain ⟨rfl, rfl⟩ := List.cons.inj heq
      exact ⟨word, rest, rfl, (hspells word).1 hword, hprecedes rest hrest⟩

end StopsRightly

/-! ### Blocks -/

/-- The part behind an opening brace. -/
def Part.opened (inside : Part) : Part where
  Spells word := ∃ tail, word = .openBrace :: tail ∧ inside.Spells tail
  Precedes := inside.Precedes

theorem Part.begins_opened_iff {inside : Part} {input : List Symbol} :
    inside.opened.Begins input ↔ ∃ tail, input = .openBrace :: tail ∧ inside.Begins tail := by
  constructor
  · rintro ⟨_, rest, rfl, ⟨word, rfl, hspells⟩, hprecedes⟩
    exact ⟨word ++ rest, rfl, word, rest, rfl, hspells, hprecedes⟩
  · rintro ⟨_, rfl, word, rest, rfl, hspells, hprecedes⟩
    exact ⟨.openBrace :: word, rest, rfl, ⟨word, rfl, hspells⟩, hprecedes⟩

/-- The closing brace of a block. -/
def Part.closing : Part where
  Spells word := word = [.closeBrace]
  Precedes _ := True

/-! ### Lines and paths -/

/-- A row of items, a comma or a value each, and the closing brace behind it. -/
def Part.items {α : Type} (f : α → Symbol) : Part where
  Spells word := ∃ items, word = List.map f items ++ [.closeBrace]
  Precedes _ := True

section Items

variable {α : Type} {f : α → Symbol} {room : Nat} {input : List Symbol} {stop : Stop}

/-- A stop behind an item is one in the row. -/
theorem StopsRightly.item (a : α) (h : StopsRightly (.items f) room input stop)
    (hopen : f a ≠ .openBrace) (hclose : f a ≠ .closeBrace) :
    StopsRightly (.items f) room (f a :: input) stop := by
  refine h.tail hopen hclose (by simp [Part.items]) (fun tail => ?_) fun _ => id
  constructor
  · rintro ⟨items, heq⟩
    cases items with
    | nil => exact absurd (List.cons.inj heq).1 hclose
    | cons b items => exact ⟨items, (List.cons.inj heq).2⟩
  · rintro ⟨items, rfl⟩
    exact ⟨a :: items, rfl⟩

/-- A stop at what is neither an item nor the closing brace. -/
theorem StopsRightly.noItem {expected : Expectation} (hexpected : expected ≠ .shallowerBlock)
    (hclose : ∀ rest, input ≠ .closeBrace :: rest) (hitem : ∀ a rest, input ≠ f a :: rest) :
    StopsRightly (.items f) room input ⟨expected, input⟩ := by
  refine .here ⟨_, [], rfl⟩ hexpected ?_
  rintro _ ⟨items, rfl⟩
  cases items with
  | nil => exact ⟨_, [], rfl, hclose⟩
  | cons a items => exact ⟨_, _, rfl, hitem a⟩

end Items

/-! ### Rows of phrases -/

/-- A phrase.  No opening brace may follow it: after `run` and a name the block would belong to the
phrase. -/
def Part.phrase : Part where
  Spells word := ∃ phrase : Phrase, word = phrase.symbols
  Precedes := NoBlock

/-- Phrases one after the other, and what ends the row. -/
def Part.row (ending : List Symbol) (precedes : List Symbol → Prop) : Part where
  Spells word := ∃ phrases, word = Phrase.rowSymbols phrases ++ ending
  Precedes := precedes

/-- The phrases of a block. -/
def Part.body : Part :=
  .row [.closeBrace] fun _ => True

/-- The phrases of a whole input. -/
def Part.program : Part :=
  .row [] (· = [])

section Rows

variable {ending : List Symbol} {precedes : List Symbol → Prop} {room : Nat} {stop : Stop}

/-- What ends the row begins with a closing brace, or the input ends with it. -/
def EndsRow (ending : List Symbol) (precedes : List Symbol → Prop) : Prop :=
  ∀ rest, precedes rest → ∀ symbol ∈ (ending ++ rest).head?, symbol = .closeBrace

theorem endsRow_body : EndsRow [.closeBrace] fun _ => True := by
  simp [EndsRow]

theorem endsRow_program : EndsRow [] (· = []) := by
  simp [EndsRow]

theorem EndsRow.noBlock (h : EndsRow ending precedes) {rest : List Symbol} (hrest : precedes rest)
    (phrases : List Phrase) : NoBlock (Phrase.rowSymbols phrases ++ (ending ++ rest)) := by
  refine NoBlock.rowSymbols_append phrases fun more hmore => ?_
  have := h rest hrest .openBrace (by rw [hmore]; rfl)
  cases this

/-- A stop in the first phrase is one in the row. -/
theorem StopsRightly.first (hends : EndsRow ending precedes) {symbol : Symbol} {rest : List Symbol}
    (hsymbol : ∀ after, precedes after → symbol ∉ (ending ++ after).head?)
    (h : StopsRightly .phrase room (symbol :: rest) stop) :
    StopsRightly (.row ending precedes) room (symbol :: rest) stop := by
  refine h.behind [] (fun _ => Iff.rfl) ?_ ?_
  · rintro _ ⟨phrase, rfl⟩
    exact ⟨ending, [phrase], by simp [Phrase.rowSymbols]⟩
  · rintro more hmore ⟨_, after, heq, ⟨phrases, rfl⟩, hafter⟩
    cases phrases with
    | nil =>
      obtain rfl : more = ending ++ after := heq
      exact absurd hmore (hsymbol after hafter)
    | cons phrase phrases =>
      refine ⟨phrase.symbols, Phrase.rowSymbols phrases ++ (ending ++ after), ?_, ⟨phrase, rfl⟩,
        hends.noBlock hafter phrases⟩
      simpa [Phrase.rowSymbols] using heq

/-- A stop behind the first phrase is one in the row. -/
theorem StopsRightly.next (hends : EndsRow ending precedes) {phrase : Phrase} {rest : List Symbol}
    (hdepth : phrase.depth ≤ room) (hphrase : phrase.EndsBefore rest)
    (h : StopsRightly (.row ending precedes) room rest stop) :
    StopsRightly (.row ending precedes) room (phrase.symbols ++ rest) stop := by
  refine h.behind phrase.symbols ?_ ?_ ?_
  · intro more
    rw [phrase.nests.fits_append]
    exact and_iff_right hdepth
  · rintro _ ⟨phrases, rfl⟩
    exact ⟨[], phrase :: phrases, by simp [Phrase.rowSymbols]⟩
  · rintro more hmore ⟨_, after, heq, ⟨phrases, rfl⟩, hafter⟩
    cases phrases with
    | nil =>
      obtain ⟨symbol, tail, hsymbols, hbegins⟩ := phrase.exists_symbols_eq
      have heq : symbol :: (tail ++ more) = ending ++ after := by rwa [hsymbols] at heq
      exact absurd (hends after hafter symbol (by rw [← heq]; rfl)) hbegins.2.1
    | cons phrase' phrases =>
      rw [Phrase.rowSymbols, List.append_assoc, List.append_assoc] at heq
      obtain ⟨-, rfl⟩ :=
        Phrase.symbols_append_inj _ _ (hphrase.congr hmore) (hends.noBlock hafter phrases) heq
      exact ⟨_, after, (List.append_assoc ..).symm, ⟨phrases, rfl⟩, hafter⟩

end Rows

/-! ### The other parts -/

/-- What follows the word `run`. -/
def Part.call : Part where
  Spells word := ∃ call : Call, word = call.symbols
  Precedes := NoBlock

/-- What follows the word `target`: a name and a block. -/
def Part.named : Part where
  Spells word := ∃ name body,
    word = .literal (.identifier name) :: braced (Phrase.rowSymbols body)
  Precedes _ := True

/-- The entries of a block of bindings. -/
def Part.entries : Part where
  Spells word := ∃ entries, word = Entry.rowSymbols entries ++ [.closeBrace]
  Precedes _ := True

/-- The value of a binding. -/
def Part.initial : Part where
  Spells word := ∃ initial : Initial, word = initial.symbols
  Precedes _ := True

/-- A run that gives the value of a binding, up to its closing brace. -/
def Part.command : Part where
  Spells word := ∃ stage call, word = .run stage :: (Call.symbols call ++ [.closeBrace])
  Precedes _ := True

section Spelling

variable {tail : List Symbol}

theorem not_phrase_spells_nil : ¬Part.phrase.Spells [] := by
  rintro ⟨phrase, h⟩
  obtain ⟨symbol, more, hsymbols, -⟩ := phrase.exists_symbols_eq
  rw [hsymbols] at h
  cases h

theorem phrase_spells_config_iff :
    Part.phrase.Spells (.config :: tail) ↔ Part.entries.opened.Spells tail := by
  constructor
  · rintro ⟨phrase, h⟩
    cases phrase with
    | config entries => exact ⟨_, (List.cons.inj h).2, entries, rfl⟩
    | _ => cases h
  · rintro ⟨_, rfl, entries, rfl⟩
    exact ⟨.config entries, rfl⟩

theorem phrase_spells_var_iff :
    Part.phrase.Spells (.var :: tail) ↔ Part.entries.opened.Spells tail := by
  constructor
  · rintro ⟨phrase, h⟩
    cases phrase with
    | var entries => exact ⟨_, (List.cons.inj h).2, entries, rfl⟩
    | _ => cases h
  · rintro ⟨_, rfl, entries, rfl⟩
    exact ⟨.var entries, rfl⟩

theorem phrase_spells_target_iff :
    Part.phrase.Spells (.target :: tail) ↔ Part.named.Spells tail := by
  constructor
  · rintro ⟨phrase, h⟩
    cases phrase with
    | target name body => exact ⟨name, body, (List.cons.inj h).2⟩
    | _ => cases h
  · rintro ⟨name, body, rfl⟩
    exact ⟨.target name body, rfl⟩

theorem phrase_spells_run_iff {stage : Stage} :
    Part.phrase.Spells (.run stage :: tail) ↔ Part.call.Spells tail := by
  constructor
  · rintro ⟨phrase, h⟩
    cases phrase with
    | run stage call => exact ⟨call, (List.cons.inj h).2⟩
    | _ => cases h
  · rintro ⟨call, rfl⟩
    exact ⟨.run stage call, rfl⟩

theorem phrase_spells_desc_iff :
    Part.phrase.Spells (.desc :: tail) ↔ (Part.items lineSymbol).opened.Spells tail := by
  constructor
  · rintro ⟨phrase, h⟩
    cases phrase with
    | describe lines => exact ⟨_, (List.cons.inj h).2, lines, rfl⟩
    | _ => cases h
  · rintro ⟨_, rfl, lines, rfl⟩
    exact ⟨.describe lines, rfl⟩

theorem phrase_spells_extend_iff :
    Part.phrase.Spells (.extend :: tail) ↔ (Part.items pathSymbol).opened.Spells tail := by
  constructor
  · rintro ⟨phrase, h⟩
    cases phrase with
    | extend paths => exact ⟨_, (List.cons.inj h).2, paths, rfl⟩
    | _ => cases h
  · rintro ⟨_, rfl, paths, rfl⟩
    exact ⟨.extend paths, rfl⟩

theorem named_spells_name_iff {name : String} :
    Part.named.Spells (.literal (.identifier name) :: tail) ↔ Part.body.opened.Spells tail := by
  constructor
  · rintro ⟨name, body, h⟩
    exact ⟨_, (List.cons.inj h).2, body, rfl⟩
  · rintro ⟨_, rfl, body, rfl⟩
    exact ⟨name, body, rfl⟩

theorem entries_spells_comma_iff :
    Part.entries.Spells (.comma :: tail) ↔ Part.entries.Spells tail := by
  constructor
  · rintro ⟨entries, h⟩
    cases entries with
    | nil => cases h
    | cons entry entries =>
      cases entry with
      | comma => exact ⟨entries, (List.cons.inj h).2⟩
      | binding name value => cases h
  · rintro ⟨entries, rfl⟩
    exact ⟨.comma :: entries, rfl⟩

/-- Entries that begin with a name go on with its value and with entries. -/
theorem exists_value_of_begins_entries {name : String} {more : List Symbol}
    (h : Part.entries.Begins (.literal (.identifier name) :: more)) :
    ∃ (value : Initial) (after : List Symbol),
      more = value.symbols ++ after ∧ Part.entries.Begins after := by
  obtain ⟨_, after, heq, ⟨entries, rfl⟩, -⟩ := h
  cases entries with
  | nil => cases heq
  | cons entry entries =>
    cases entry with
    | comma => cases heq
    | binding name' value =>
      refine ⟨value, Entry.rowSymbols entries ++ .closeBrace :: after, ?_, _, after, ?_,
        ⟨entries, rfl⟩, trivial⟩
      · simpa [Entry.rowSymbols, Entry.symbols] using (List.cons.inj heq).2
      · simp

end Spelling

end TaskRunner.Grammar
