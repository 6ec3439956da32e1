import TaskRunner.CommandLine
import TaskRunner.Proofs.Tree.Canonical

/-! The canonical form at the command line.  What formatting a file prints, put into a file, is
found formatted by a check and printed again as it is, wherever the file lies. -/

namespace TaskRunner

theorem utf8_injective : Function.Injective utf8 := by
  intro text other h
  rw [utf8, utf8, Array.toList_inj] at h
  exact String.toByteArray_inj.1 (ByteArray.ext h)

namespace CommandLine

/-- The file has the extension that is expected and holds the bytes, which are a text. -/
def Holds {ω η : Type} (host : Host ω η) (world : ω) (file : String) (bytes : Bytes) : Prop :=
  Path.extension? file = some fileExtension ∧
    ∃ text, host.readText file world = .ok text ∧ utf8 text = bytes

section

variable {ω η : Type} {host : Host ω η} {fuel : Nat} {settings : Settings} {world : ω}
  {source : String} {statements : List Statement}

theorem parse_of_parseSource (h : parseSource source = .ok statements) :
    ∃ tokens, scan source = .ok tokens ∧ parse tokens = .ok statements := by
  rw [parseSource] at h
  cases hscan : scan source with
  | error error =>
    rw [hscan] at h
    cases h
  | ok tokens =>
    rw [hscan] at h
    cases hparse : parse tokens with
    | error error =>
      simp only [hparse] at h
      cases h
    | ok values =>
      simp only [hparse] at h
      cases h
      exact ⟨tokens, rfl, hparse⟩

theorem process_format (hmode : settings.mode = .format)
    (h : parseSource source = .ok statements) :
    process host fuel settings world source = some (report world 0 (format statements) "") := by
  obtain ⟨tokens, hscan, hparse⟩ := parse_of_parseSource h
  simp [process, hscan, hparse, hmode]

theorem process_check (hmode : settings.mode = .check)
    (h : parseSource source = .ok statements) (hformat : format statements = source) :
    process host fuel settings world source =
      some (report world 0 "" (settings.file ++ ": " ++ "formatted\n")) := by
  obtain ⟨tokens, hscan, hparse⟩ := parse_of_parseSource h
  simp [process, hscan, hparse, hmode, hformat]

/-- Where formatting succeeds, the text was read and its canonical form is printed. -/
theorem exists_parseSource_of_process {written : Report ω} (hmode : settings.mode = .format)
    (h : process host fuel settings world source = some written) (hcode : written.code = 0) :
    ∃ statements, parseSource source = .ok statements ∧
      written = report world 0 (format statements) "" := by
  rw [process] at h
  cases hscan : scan source with
  | error error =>
    simp only [hscan, Option.some_inj] at h
    rw [← h] at hcode
    cases hcode
  | ok tokens =>
    cases hparse : parse tokens with
    | error error =>
      simp only [hscan, hmode, hparse, reduceCtorEq, if_false, Option.some_inj] at h
      rw [← h] at hcode
      cases hcode
    | ok statements =>
      simp only [hscan, hmode, hparse, reduceCtorEq, if_false, Option.some_inj] at h
      refine ⟨statements, ?_, h.symm⟩
      rw [parseSource, hscan]
      simp only [hparse]

/-- Where formatting a file succeeds, a text was read and its canonical form is printed. -/
theorem exists_parseSource_of_processFile {written : Report ω} (hmode : settings.mode = .format)
    (h : processFile host fuel settings world = some written) (hcode : written.code = 0) :
    ∃ source statements, parseSource source = .ok statements ∧
      written = report world 0 (format statements) "" := by
  simp only [processFile] at h
  split at h
  · rw [Option.some_inj] at h
    rw [← h] at hcode
    cases hcode
  · split at h
    · rw [Option.some_inj] at h
      rw [← h] at hcode
      cases hcode
    · exact ⟨_, exists_parseSource_of_process hmode h hcode⟩

/-- A file that can be read is processed as the settings ask for. -/
theorem processFile_eq_process {text : String}
    (hextension : Path.extension? settings.file = some fileExtension)
    (htext : host.readText settings.file world = .ok text) :
    processFile host fuel settings world = process host fuel settings world text := by
  simp only [processFile, hextension, htext, ne_eq, not_true_eq_false, if_false]

end

/-- The canonical form is a fixed point.  The statements that are read from a source text are
written in a form that is read again and written just so.  Hence, wherever a file can be formatted,
a file with what was printed is found formatted, and formatting it prints it as it is. -/
theorem canonical_form_is_fixed :
    (∀ (source : String) (statements : List Statement), parseSource source = .ok statements →
      ∃ again, parseSource (format statements) = .ok again ∧
        format again = format statements) ∧
    ∀ {ω η : Type} (host : Host ω η) (fuel : Nat) (settings : Settings) (world : ω)
      (written : Report ω), settings.mode = .format →
      processFile host fuel settings world = some written → written.code = 0 →
      ∀ {ω' η' : Type} (other : Host ω' η') (fuel' : Nat) (later : Settings) (world' : ω'),
        Holds other world' later.file written.stdout →
        (later.mode = .check →
          processFile other fuel' later world' =
            some ⟨0, [], utf8 (later.file ++ ": formatted\n"), world'⟩) ∧
        (later.mode = .format →
          processFile other fuel' later world' = some ⟨0, written.stdout, [], world'⟩) := by
  refine ⟨fun source statements h => exists_parseSource_format h, ?_⟩
  intro ω η host fuel settings world written hmode hrun hcode ω' η' other fuel' later world' hholds
  obtain ⟨source, statements, hsource, rfl⟩ := exists_parseSource_of_processFile hmode hrun hcode
  obtain ⟨again, hagain, hformat⟩ := exists_parseSource_format hsource
  obtain ⟨hextension, text, htext, hbytes⟩ := hholds
  have hsame : text = format statements := utf8_injective hbytes
  rw [hsame] at htext
  rw [processFile_eq_process hextension htext]
  constructor
  · intro hcheck
    rw [process_check hcheck hagain hformat, String.append_assoc]
    rfl
  · intro hprint
    rw [process_format hprint hagain, hformat]
    rfl

/-- Surroundings in which every file holds the same text and nothing can be started. -/
def shelf (text : String) : Host Unit Unit where
  start _ _ := (.error .notFound, ())
  collect _ _ := (⟨[], [], []⟩, ())
  wait _ _ := (.code 0, ())
  abandon _ _ := ()
  readText _ _ := .ok text
  canonical? _ _ := none

/-- A file that is not in canonical form, printed into another one: a run of a target with a body of
its own, a variable that stands for a run, and a script of two lines in nested blocks. -/
theorem canonical_form_is_fixed_nested :
    let messy := "target greet\x7bvar\x7bwho \x7brun\x7bprintf world\x7d\x7d\x7d # who\n" ++
      "run:before\x7b echo a\n   echo b\x7d\x7d run greet\x7bvar\x7bn `a`\x7d\x7d"
    let neat := "target greet \x7b\n\tvar \x7b\n\t\twho \x7b\n" ++
      "\t\t\trun \x7b printf world \x7d\n\t\t\x7d\n\t\x7d\n" ++
      "\trun:before \x7b\n\t\techo a\n\t\techo b\n\t\x7d\n\x7d\n\n" ++
      "run greet \x7b\n\tvar \x7b\n\t\tn \"a\"\n\t\x7d\n\x7d\n"
    let statements : List Statement :=
      [.target "greet" [.var [⟨"who", .run ⟨none, [.action "printf world"], .during⟩⟩],
          .run ⟨none, [.action "echo a\n   echo b"], .before⟩],
        .run ⟨some "greet", [.var [⟨"n", .literal (.string "a")⟩]], .during⟩]
    parseSource messy = .ok statements ∧
      (∃ again, parseSource (format statements) = .ok again ∧
        format again = format statements) ∧
      processFile (shelf messy) 0 ⟨none, "a.rny", .format, false⟩ () =
        some ⟨0, utf8 neat, [], ()⟩ ∧
      processFile (shelf neat) 0 ⟨some "greet", "b.rny", .check, true⟩ () =
        some ⟨0, [], utf8 "b.rny: formatted\n", ()⟩ := by
  intro messy neat statements
  have hparse : parseSource messy = .ok statements := by decide +kernel
  have hformat : format statements = neat := by
    simp only [statements, format, Layout.file, Layout.continued, Layout.statement, Layout.run,
      Layout.block, Layout.statements, Layout.bindingBlock, Layout.bindings, Layout.binding]
    decide +kernel
  have hprinted : processFile (shelf messy) 0 ⟨none, "a.rny", .format, false⟩ () =
      some ⟨0, utf8 neat, [], ()⟩ := by
    rw [processFile_eq_process (by decide) rfl, process_format rfl hparse, hformat]
    rfl
  have hholds : Holds (shelf neat) () "b.rny" (utf8 neat) := ⟨by decide, _, rfl, rfl⟩
  exact ⟨hparse, canonical_form_is_fixed.1 _ _ hparse, hprinted,
    (canonical_form_is_fixed.2 (shelf messy) 0 ⟨none, "a.rny", .format, false⟩ () _ rfl hprinted rfl
      (shelf neat) 0 ⟨some "greet", "b.rny", .check, true⟩ () hholds).1 rfl⟩

end CommandLine

end TaskRunner
