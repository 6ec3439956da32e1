import TaskRunner.Proofs.Scan.Pieces
import TaskRunner.Proofs.Text.Dedent
import TaskRunner.Proofs.Tree.WellFormed
import Mathlib.Order.MinMax

/-! Reading undoes writing.  The canonical form of a well-formed statement has a derivation, which
spells the statement, its scripts laid out anew, and nests no deeper than the statement. -/

namespace TaskRunner

/-! ### Statements as they are read again

They are the ones that were written, apart from the scripts: those of a run become a single one,
laid out as it stands in the text. -/

/-- The body holds actions only, whose scripts make a balanced text. -/
def IsScriptBody (body : List Statement) : Prop :=
  (∀ statement ∈ body, ∃ script, statement = .action script) ∧
    IsBalanced (joinLines (Layout.scripts body))

/-- The body of a run without a name as it is read again: nothing, or the script without its margin,
its lines after the first at the level of the block. -/
def relaidBody (level : Nat) (body : List Statement) : List Statement :=
  let script := dedent (trim (joinLines (Layout.scripts body)))
  if script.isEmpty then [] else [.action (String.ofList (hang (level + 1) script))]

mutual

/-- The statement as it is read again.  `level` is the number of braces open around it. -/
def Statement.relaid (level : Nat) : Statement → Statement
  | .config items => .config (Binding.rowRelaid (level + 1) items)
  | .var items => .var (Binding.rowRelaid (level + 1) items)
  | .target name body => .target name (Statement.rowRelaid (level + 1) body)
  | .run run => .run (run.relaid level)
  | .action script => .action script
  | .describe lines => .describe lines
  | .extend paths => .extend paths
  | .literal value => .literal value

/-- The statements as they are read again. -/
def Statement.rowRelaid (level : Nat) : List Statement → List Statement
  | [] => []
  | statement :: more => statement.relaid level :: Statement.rowRelaid level more

/-- The run as it is read again. -/
def Run.relaid (level : Nat) : Run → Run
  | ⟨some name, body, stage⟩ => ⟨some name, Statement.rowRelaid (level + 1) body, stage⟩
  | ⟨none, body, stage⟩ => ⟨none, relaidBody level body, stage⟩

/-- The bindings as they are read again.  A value that is no literal stands in a block. -/
def Binding.rowRelaid (level : Nat) : List Binding → List Binding
  | [] => []
  | ⟨name, initializer⟩ :: more =>
    ⟨name, initializer.relaid (level + 1)⟩ :: Binding.rowRelaid level more

end

open Grammar

/-! ### Words and blocks of the canonical form -/

/-- The words in front of blocks, apart from `run`, and their symbols. -/
def blockWords : List (List Char × Symbol) :=
  [("config".toList, .config), ("var".toList, .var), ("target".toList, .target),
    ("desc".toList, .desc), ("extends".toList, .extend)]

theorem wordSymbol_of_mem_blockWords :
    ∀ entry ∈ blockWords, entry.1.head?.any isWordStart = true ∧
      entry.1.all isWordChar = true ∧ (classifyWord entry.1).1 ≠ .run ∧
        wordSymbol entry.1 = entry.2 := by
  decide +kernel

theorem Scans.blockWord {word piece : List Char} {symbol : Symbol} {input : List Symbol}
    (hword : (word, symbol) ∈ blockWords) (hblank : BeginsBlank piece) (h : Scans piece input) :
    Scans (word ++ piece) (symbol :: input) := by
  obtain ⟨hstart, hchars, hrun, hsymbol⟩ := wordSymbol_of_mem_blockWords _ hword
  obtain rfl : symbol = wordSymbol word := hsymbol.symm
  cases word with
  | nil => exact absurd hstart Bool.false_ne_true
  | cons c cs =>
    have htail : ∀ d ∈ cs, isWordChar d = true :=
      (List.forall_mem_cons.1 (List.all_eq_true.1 hchars)).2
    exact Scans.word hstart htail hrun hblank h

theorem isSpace_of_mem_indentation {level : Nat} {c : Char} (h : c ∈ indentation level) :
    isSpace c = true := by
  rw [List.eq_of_mem_replicate h]
  decide

theorem Scans.indentation {piece : List Char} {input : List Symbol} (h : Scans piece input)
    (level : Nat) : Scans (indentation level ++ piece) input :=
  (Scans.spaces fun _ => isSpace_of_mem_indentation).append h

/-- A word and its block at a level. -/
theorem scans_blockStatement {word block : List Char} {symbol : Symbol} {input : List Symbol}
    (hword : (word, symbol) ∈ blockWords) (hblank : BeginsBlank block) (h : Scans block input)
    (level : Nat) : Scans (indentation level ++ word ++ block) (symbol :: input) := by
  rw [List.append_assoc]
  exact (Scans.blockWord hword hblank h).indentation level

theorem Scans.newline : Scans ['\n'] [] :=
  Scans.nil.space (by decide)

theorem scans_emptyBlock : Scans Layout.emptyBlock (braced []) :=
  (Scans.newline.closeBrace.openBrace).space (by decide)

theorem scans_blockClosing (level : Nat) : Scans (Layout.blockClosing level) [.closeBrace] :=
  Scans.newline.closeBrace.indentation level

theorem scans_block {piece : List Char} {input : List Symbol} (h : Scans piece input)
    (level : Nat) :
    Scans (Layout.blockOpening ++ piece ++ Layout.blockClosing level) (braced input) := by
  have hinside := h.append (scans_blockClosing level)
  have := ((hinside.space (show isSpace '\n' = true by decide)).openBrace).space
    (show isSpace ' ' = true by decide)
  rwa [List.append_assoc]

theorem beginsBlank_emptyBlock : BeginsBlank Layout.emptyBlock :=
  ⟨' ', _, rfl, by decide⟩

theorem beginsBlank_blockOpening (piece : List Char) :
    BeginsBlank (Layout.blockOpening ++ piece) :=
  ⟨' ', _, rfl, by decide⟩

theorem beginsBlank_newline : BeginsBlank ['\n'] :=
  ⟨'\n', _, rfl, by decide⟩

/-- A block with one entry on a line. -/
theorem scans_entries {α : Type} (written : α → List Char) (symbol : α → Symbol) {as : List α}
    (h : ∀ a ∈ as, Scans (written a ++ ['\n']) [symbol a]) (level : Nat) :
    Scans (Layout.entries level (as.map written)) (braced (as.map symbol)) := by
  cases as with
  | nil => exact scans_emptyBlock
  | cons a as =>
    rw [Layout.entries, if_neg (by simp)]
    refine scans_block ?_ level
    generalize a :: as = as at h ⊢
    induction as with
    | nil => exact Scans.nil
    | cons a as ih =>
      rw [List.forall_mem_cons] at h
      have hmore := (h.1.indentation (level + 1)).append (ih h.2)
      simpa using hmore

theorem beginsBlank_entries (level : Nat) (items : List (List Char)) :
    BeginsBlank (Layout.entries level items) := by
  rw [Layout.entries]
  split
  · exact beginsBlank_emptyBlock
  · rw [List.append_assoc]
    exact beginsBlank_blockOpening _

theorem Scans.eq_nil {input : List Symbol} (h : Scans [] input) : input = [] := by
  have := h []
  simpa using this.symm

theorem scans_statementBlock {level : Nat} {body : List Statement} {input : List Symbol}
    (h : Scans (Layout.statements (level + 1) body) input) :
    Scans (Layout.block level body) (braced input) := by
  cases body with
  | nil =>
    rw [Layout.statements] at h
    rw [Layout.block, h.eq_nil]
    exact scans_emptyBlock
  | cons statement more =>
    rw [Layout.block]
    exact scans_block h level

theorem scans_bindingBlock {level : Nat} {items : List Binding} {input : List Symbol}
    (h : Scans (Layout.bindings (level + 1) items) input) :
    Scans (Layout.bindingBlock level items) (braced input) := by
  cases items with
  | nil =>
    rw [Layout.bindings] at h
    rw [Layout.bindingBlock, h.eq_nil]
    exact scans_emptyBlock
  | cons item more =>
    rw [Layout.bindingBlock]
    exact scans_block h level

theorem beginsBlank_block (level : Nat) (body : List Statement) :
    BeginsBlank (Layout.block level body) := by
  cases body with
  | nil =>
    rw [Layout.block]
    exact beginsBlank_emptyBlock
  | cons statement more =>
    rw [Layout.block, List.append_assoc]
    exact beginsBlank_blockOpening _

theorem beginsBlank_bindingBlock (level : Nat) (items : List Binding) :
    BeginsBlank (Layout.bindingBlock level items) := by
  cases items with
  | nil =>
    rw [Layout.bindingBlock]
    exact beginsBlank_emptyBlock
  | cons item more =>
    rw [Layout.bindingBlock, List.append_assoc]
    exact beginsBlank_blockOpening _

theorem beginsBlank_scriptBlock (level : Nat) (script : List Char) :
    BeginsBlank (Layout.scriptBlock level script) := by
  by_cases h : dedent (trim script) = []
  · rw [scriptBlock_of_nil h]
    exact beginsBlank_emptyBlock
  · obtain ⟨before, after, -, -, heq⟩ := exists_scriptBlock_eq h level
    exact ⟨' ', _, heq, by decide⟩

theorem scriptSymbols_of_blank {before after script : List Char}
    (hbefore : isBlankText before = true) (hscript : IsTrimmed script) (hne : script ≠ [])
    (hafter : isBlankText after = true) :
    scriptSymbols (before ++ (script ++ after)) = [.script (String.ofList script)] := by
  rw [scriptSymbols, trim_append_of_blank hbefore hscript hafter, if_neg (by simpa using hne)]

/-- The phrases in the body of a run without a name, as they are written. -/
def scriptPhrases (level : Nat) (script : List Char) : List Phrase :=
  let script := dedent (trim script)
  if script.isEmpty then [] else [.script (String.ofList (hang (level + 1) script))]

theorem statements_scriptPhrases (level : Nat) (body : List Statement) :
    Phrase.statements (scriptPhrases level (joinLines (Layout.scripts body))) =
      relaidBody level body := by
  rw [scriptPhrases, relaidBody]
  split <;> rfl

theorem rowDepth_scriptPhrases (level : Nat) (script : List Char) :
    Phrase.rowDepth (scriptPhrases level script) = 0 := by
  rw [scriptPhrases]
  split <;> rfl

/-- The block of a balanced script is read as the script laid out anew. -/
theorem scans_scriptBlock {script : List Char} (h : IsBalanced script) (level : Nat) :
    ScansAfterRun (Layout.scriptBlock level script)
      (braced (Phrase.rowSymbols (scriptPhrases level script))) := by
  by_cases hne : dedent (trim script) = []
  · rw [scriptBlock_of_nil hne, scriptPhrases, hne]
    have hempty : IsBalanced [] := by decide
    exact (ScansAfterRun.script hempty Scans.newline).space (by decide)
  · obtain ⟨before, after, hbefore, hafter, heq⟩ := exists_scriptBlock_eq hne level
    have hsolid : solid (before ++ (hang (level + 1) (dedent (trim script)) ++ after)) =
        solid script := by
      rw [solid_append, solid_append, solid_eq_nil_iff.2 hbefore, solid_eq_nil_iff.2 hafter,
        solid_hang, solid_dedent, solid_trim, List.nil_append, List.append_nil]
    have hbalanced := (isBalanced_iff_of_solid_eq hsolid).2 h
    have hscans := (ScansAfterRun.script hbalanced Scans.newline).space
      (show isSpace ' ' = true by decide)
    rw [scriptSymbols_of_blank hbefore (isTrimmed_hang _ _) (mt hang_eq_nil_iff.1 hne) hafter]
      at hscans
    rw [heq, scriptPhrases, if_neg (by simpa using hne)]
    exact hscans

/-! ### The derivation of the canonical form -/

/-- The text is read as the statement, laid out anew at the level, through a phrase that nests no
deeper than the statement. -/
def Statement.ReadsBack (level : Nat) (statement : Statement) (text : List Char) : Prop :=
  ∃ phrase : Phrase, phrase.statement = statement.relaid level ∧
    phrase.depth ≤ statement.nesting ∧ Scans text phrase.symbols

/-- The text is read as the statements, laid out anew at the level, through phrases that nest no
deeper than the statements. -/
def Statement.RowReadsBack (level : Nat) (statements : List Statement) (text : List Char) : Prop :=
  ∃ phrases : List Phrase, Phrase.statements phrases = Statement.rowRelaid level statements ∧
    Phrase.rowDepth phrases ≤ Statement.rowNesting statements ∧
    Scans text (Phrase.rowSymbols phrases)

theorem Statement.RowReadsBack.nil (level : Nat) : Statement.RowReadsBack level [] [] :=
  ⟨[], rfl, Nat.le_refl 0, Scans.nil⟩

theorem Statement.ReadsBack.cons {level : Nat} {statement : Statement} {more : List Statement}
    {text rest : List Char} (h : statement.ReadsBack level text)
    (hmore : Statement.RowReadsBack level more rest) :
    Statement.RowReadsBack level (statement :: more) (text ++ rest) := by
  obtain ⟨phrase, hstatement, hdepth, hscans⟩ := h
  obtain ⟨phrases, hstatements, hdepths, hscansMore⟩ := hmore
  refine ⟨phrase :: phrases, ?_, max_le_max hdepth hdepths, hscans.append hscansMore⟩
  rw [Phrase.statements, hstatement, hstatements, Statement.rowRelaid]

theorem Statement.RowReadsBack.newline {level : Nat} {statements : List Statement}
    {text : List Char} (h : Statement.RowReadsBack level statements text) :
    Statement.RowReadsBack level statements ('\n' :: text) := by
  obtain ⟨phrases, hstatements, hdepths, hscans⟩ := h
  exact ⟨phrases, hstatements, hdepths, hscans.space (by decide)⟩

mutual

/-- A well-formed statement, written at a level, is read back. -/
theorem Statement.readsBack : (statement : Statement) → (level : Nat) →
    statement.WellFormed IsScriptBody →
    statement.ReadsBack level (Layout.statement level statement)
  | .config items, level, h => by
    obtain ⟨entries, hitems, hdepth, hscans⟩ := Binding.exists_entries items (level + 1) h
    refine ⟨.config entries, ?_, Nat.succ_le_succ hdepth, ?_⟩
    · rw [Phrase.statement, hitems, Statement.relaid]
    · rw [Layout.statement]
      exact scans_blockStatement (by simp [blockWords]) (beginsBlank_bindingBlock level items)
        (scans_bindingBlock hscans) level
  | .var items, level, h => by
    obtain ⟨entries, hitems, hdepth, hscans⟩ := Binding.exists_entries items (level + 1) h
    refine ⟨.var entries, ?_, Nat.succ_le_succ hdepth, ?_⟩
    · rw [Phrase.statement, hitems, Statement.relaid]
    · rw [Layout.statement]
      exact scans_blockStatement (by simp [blockWords]) (beginsBlank_bindingBlock level items)
        (scans_bindingBlock hscans) level
  | .target name body, level, h => by
    obtain ⟨phrases, hbody, hdepth, hscans⟩ := Statement.rowReadsBack body (level + 1) h.2
    refine ⟨.target name phrases, ?_, Nat.succ_le_succ hdepth, ?_⟩
    · rw [Phrase.statement, hbody, Statement.relaid]
    · have hword : "target ".toList = "target".toList ++ [' '] := by decide
      rw [Layout.statement, hword, List.append_assoc, List.append_assoc, List.append_assoc]
      have hname := (Scans.identifier h.1 (beginsBlank_block level body)
        (scans_statementBlock hscans)).space (show isSpace ' ' = true by decide)
      have hblank : BeginsBlank (' ' :: (name.toList ++ Layout.block level body)) :=
        ⟨' ', _, rfl, by decide⟩
      exact (Scans.blockWord (by simp [blockWords]) hblank hname).indentation level
  | .run run, level, h => by
    obtain ⟨call, hrun, hdepth, hscans⟩ := Run.exists_call run level h
    refine ⟨.run run.stage call, ?_, hdepth, ?_⟩
    · rw [Phrase.statement, hrun, Statement.relaid]
    · rw [Layout.statement]
      exact hscans.indentation level
  | .describe lines, level, h => by
    refine ⟨.describe (lines.map some), ?_, Nat.le_refl 1, ?_⟩
    · simp [Phrase.statement, Statement.relaid]
    · have hlines := scans_entries (fun line : String => quote line.toList)
        (fun line => .literal (.string line))
        (fun line hline => Scans.quoted (h line hline) Scans.newline) level
      rw [Layout.statement, Phrase.symbols, List.map_map]
      exact scans_blockStatement (by simp [blockWords]) (beginsBlank_entries level _) hlines level
  | .extend paths, level, h => by
    refine ⟨.extend (paths.map some), ?_, Nat.le_refl 1, ?_⟩
    · simp [Phrase.statement, Statement.relaid]
    · have hpaths := scans_entries Literal.written .literal
        (fun path hpath => Scans.literal (h path hpath) beginsBlank_newline Scans.newline) level
      rw [Layout.statement, Phrase.symbols, List.map_map]
      exact scans_blockStatement (by simp [blockWords]) (beginsBlank_entries level _) hpaths level
  | .literal value, level, h => by
    refine ⟨.literal value, rfl, Nat.le_refl 0, ?_⟩
    rw [Layout.statement, List.append_assoc]
    exact (Scans.literal h beginsBlank_newline Scans.newline).indentation level

/-- Well-formed statements, written one after the other, are read back. -/
theorem Statement.rowReadsBack : (statements : List Statement) → (level : Nat) →
    Statement.AllWellFormed IsScriptBody statements →
    Statement.RowReadsBack level statements (Layout.statements level statements)
  | [], level, h => by
    rw [Layout.statements]
    exact Statement.RowReadsBack.nil level
  | statement :: more, level, h => by
    rw [Layout.statements]
    exact (Statement.readsBack statement level h.1).cons (Statement.rowReadsBack more level h.2)

/-- A well-formed run has a derivation. -/
theorem Run.exists_call : (run : Run) → (level : Nat) → run.WellFormed IsScriptBody →
    ∃ call : Grammar.Call, call.run run.stage = run.relaid level ∧ call.depth ≤ run.nesting ∧
      Scans (Layout.run level run) (.run run.stage :: call.symbols)
  | ⟨none, body, stage⟩, level, h => by
    refine ⟨.block (scriptPhrases level (joinLines (Layout.scripts body))), ?_, ?_, ?_⟩
    · rw [Grammar.Call.run, Run.relaid, statements_scriptPhrases, relaidBody]
    · rw [Grammar.Call.depth, rowDepth_scriptPhrases]
      exact Nat.succ_le_succ (Nat.zero_le _)
    · rw [Layout.run]
      exact Scans.run stage (beginsBlank_scriptBlock level _) (scans_scriptBlock h.2 level)
  | ⟨some name, [], stage⟩, level, h => by
    refine ⟨.name name, rfl, Nat.le_refl 0, ?_⟩
    have hname := (ScansAfterRun.name h.1 beginsBlank_newline Scans.newline).space
      (show isSpace ' ' = true by decide)
    rw [Layout.run, List.isEmpty_nil, if_pos rfl, List.append_assoc, List.cons_append]
    exact Scans.run stage ⟨' ', _, rfl, by decide⟩ hname
  | ⟨some name, statement :: more, stage⟩, level, h => by
    obtain ⟨phrases, hbody, hdepth, hscans⟩ :=
      Statement.rowReadsBack (statement :: more) (level + 1) h.2
    refine ⟨.both name phrases, ?_, Nat.succ_le_succ hdepth, ?_⟩
    · rw [Grammar.Call.run, hbody, Run.relaid]
    · have hname := (ScansAfterRun.name h.1 (beginsBlank_block level (statement :: more))
        (scans_statementBlock hscans)).space (show isSpace ' ' = true by decide)
      rw [Layout.run, if_neg (by simp), List.append_assoc, List.cons_append]
      exact Scans.run stage ⟨' ', _, rfl, by decide⟩ hname

/-- Well-formed bindings have derivations. -/
theorem Binding.exists_entries : (items : List Binding) → (level : Nat) →
    Binding.AllWellFormed IsScriptBody items →
    ∃ entries : List Entry, Entry.bindings entries = Binding.rowRelaid level items ∧
      Entry.rowDepth entries ≤ Binding.rowNesting items ∧
      Scans (Layout.bindings level items) (Entry.rowSymbols entries)
  | [], level, h => by
    refine ⟨[], rfl, Nat.le_refl 0, ?_⟩
    rw [Layout.bindings]
    exact Scans.nil
  | ⟨name, .literal value⟩ :: more, level, h => by
    obtain ⟨⟨hname, -, hvalue⟩, hmore⟩ := h
    obtain ⟨entries, hitems, hdepth, hscans⟩ := Binding.exists_entries more level hmore
    refine ⟨.binding name (.literal value) :: entries, ?_, ?_, ?_⟩
    · rw [Entry.bindings, hitems, Binding.rowRelaid]
      rfl
    · rw [Entry.rowDepth, Initial.depth, Binding.rowNesting, Nat.zero_max]
      exact hdepth
    · rw [Layout.bindings, Layout.binding]
      have hliteral := (Scans.literal hvalue beginsBlank_newline Scans.newline).space
        (show isSpace ' ' = true by decide)
      have hentry := (Scans.identifier hname ⟨' ', _, rfl, by decide⟩ hliteral).indentation level
      have := hentry.append hscans
      simpa [Entry.rowSymbols, Entry.symbols, Initial.symbols] using this
  | ⟨name, .run run⟩ :: more, level, h => by
    obtain ⟨⟨hname, -, hrun⟩, hmore⟩ := h
    obtain ⟨entries, hitems, hdepth, hscans⟩ := Binding.exists_entries more level hmore
    obtain ⟨call, hcall, hcallDepth, hcallScans⟩ := Run.exists_call run (level + 1) hrun
    refine ⟨.binding name (.run run.stage call) :: entries, ?_, ?_, ?_⟩
    · rw [Entry.bindings, hitems, Binding.rowRelaid, Initial.statement, hcall, Statement.relaid]
    · exact max_le_max (Nat.succ_le_succ hcallDepth) hdepth
    · have hvalue : ∀ value, Statement.run run = .literal value → False := fun _ h => by cases h
      rw [Layout.bindings, Layout.binding.eq_2 _ _ _ hvalue, Layout.statement]
      have hblock := scans_block (hcallScans.indentation (level + 1)) level
      have hentry := (Scans.identifier hname
        ((beginsBlank_blockOpening _).append _) hblock).indentation level
      have := hentry.append hscans
      simpa [Entry.rowSymbols, Entry.symbols, Initial.symbols] using this
  | ⟨_, .config _⟩ :: _, _, h => absurd h.1.2.1 id
  | ⟨_, .var _⟩ :: _, _, h => absurd h.1.2.1 id
  | ⟨_, .target _ _⟩ :: _, _, h => absurd h.1.2.1 id
  | ⟨_, .action _⟩ :: _, _, h => absurd h.1.2.1 id
  | ⟨_, .describe _⟩ :: _, _, h => absurd h.1.2.1 id
  | ⟨_, .extend _⟩ :: _, _, h => absurd h.1.2.1 id

end

theorem Statement.rowReadsBack_continued (statements : List Statement) (afterTarget : Bool)
    (h : Statement.AllWellFormed IsScriptBody statements) :
    Statement.RowReadsBack 0 statements (Layout.continued afterTarget statements) := by
  induction statements generalizing afterTarget with
  | nil => exact Statement.RowReadsBack.nil 0
  | cons statement more ih =>
    have hboth := (Statement.readsBack statement 0 h.1).cons
      (ih (Layout.isTarget statement) h.2)
    rw [Layout.continued, List.append_assoc]
    split
    · exact hboth.newline
    · exact hboth

/-- A file of well-formed statements is read back. -/
theorem Statement.rowReadsBack_file (statements : List Statement)
    (h : Statement.AllWellFormed IsScriptBody statements) :
    Statement.RowReadsBack 0 statements (Layout.file statements) := by
  cases statements with
  | nil => exact Statement.RowReadsBack.nil 0
  | cons statement more =>
    exact (Statement.readsBack statement 0 h.1).cons
      (Statement.rowReadsBack_continued more (Layout.isTarget statement) h.2)

/-- The canonical form of well-formed statements has a derivation within the limit. -/
theorem exists_derivation_format {statements : List Statement}
    (h : Statement.AllWellFormed IsScriptBody statements)
    (hdepth : Statement.rowNesting statements ≤ maxDepth) :
    ∃ phrases : List Phrase,
      plainSymbols (withoutMark (format statements).toList) = some (Phrase.rowSymbols phrases) ∧
        Phrase.rowDepth phrases ≤ maxDepth ∧
        Phrase.statements phrases = Statement.rowRelaid 0 statements := by
  obtain ⟨phrases, hstatements, hphrases, hscans⟩ := Statement.rowReadsBack_file statements h
  refine ⟨phrases, Scans.symbols_source ?_, hphrases.trans hdepth, hstatements⟩
  rwa [format, String.toList_ofList]

/-- Reading undoes writing: well-formed statements that nest no deeper than the limit are read back
from their canonical form.  Only the scripts of a run without a name are changed: they are made one,
which is laid out at the level of its block. -/
theorem parseSource_format {statements : List Statement}
    (h : Statement.AllWellFormed IsScriptBody statements)
    (hdepth : Statement.rowNesting statements ≤ maxDepth) :
    parseSource (format statements) = .ok (Statement.rowRelaid 0 statements) :=
  parseSource_eq_ok_iff.2 (exists_derivation_format h hdepth)

/-- A script with a margin inside of a target. -/
theorem parseSource_format_target :
    Statement.AllWellFormed IsScriptBody
        [.target "a" [.run ⟨none, [.action "b \x7b\n    c\n  \x7d"], .before⟩]] ∧
      parseSource (format [.target "a" [.run ⟨none, [.action "b \x7b\n    c\n  \x7d"], .before⟩]]) =
        .ok [.target "a" [.run ⟨none, [.action "b \x7b\n\t\t  c\n\t\t\x7d"], .before⟩]] := by
  have hname : IsWord "a" := by decide +kernel
  have h : Statement.AllWellFormed IsScriptBody
      [.target "a" [.run ⟨none, [.action "b \x7b\n    c\n  \x7d"], .before⟩]] := by
    refine ⟨⟨hname, ⟨⟨?_, ?_⟩, trivial⟩⟩, trivial⟩
    · simp
    · decide
  exact ⟨h, parseSource_format h (by decide)⟩

end TaskRunner
