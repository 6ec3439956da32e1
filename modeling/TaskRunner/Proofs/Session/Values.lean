import TaskRunner.Proofs.Text.Decoding
import TaskRunner.Proofs.Text.Margin
import TaskRunner.Session

/-! The texts that a session makes of others: the value of a variable, a script as it is run, what
is captured of an output, and a script as it is shown.  Each is told by what goes and what stays. -/

namespace TaskRunner

/-- The value of a text is what is left without the double quotes at its ends. -/
def Unquotes (text value : String) : Prop :=
  LosesEnds (· == '"') text.toList value.toList

/-- A script is run without the white space at its ends. -/
def Trims (script kept : String) : Prop :=
  LosesEnds isBlank script.toList kept.toList

/-- A line feed or a carriage return. -/
def isLineEnd (c : Char) : Bool :=
  c == '\n' || c == '\r'

/-- What is captured is the text that the bytes are read as, without the line ends at its end. -/
def Captures (bytes : Bytes) (value : String) : Prop :=
  ∃ text, ReadsAs bytes text ∧ LosesEnd isLineEnd text value.toList

/-- A script is shown without its margin, and a line feed is put behind it. -/
def Echoes (script shown : String) : Prop :=
  ∃ kept, Dedents script.toList kept ∧ shown.toList = kept ++ ['\n']

theorem eq_ofList_iff {text : String} {cs : List Char} :
    text = String.ofList cs ↔ text.toList = cs := by
  rw [← String.toList_inj, String.toList_ofList]

theorem unquotes_iff {text value : String} : Unquotes text value ↔ value = unquote text := by
  rw [Unquotes, losesEnds_iff, unquote, eq_ofList_iff]

theorem trims_iff {script kept : String} : Trims script kept ↔ kept = trimScript script := by
  rw [Trims, losesEnds_iff, trimScript, eq_ofList_iff]
  rfl

theorem captures_iff {bytes : Bytes} {value : String} :
    Captures bytes value ↔ value = capturedText bytes := by
  simp only [Captures, readsAs_iff, losesEnd_iff, exists_eq_left, capturedText, eq_ofList_iff]
  rfl

theorem echoes_iff {script shown : String} : Echoes script shown ↔ shown = echo script := by
  rw [← String.toList_inj]
  simp only [Echoes, dedents_iff, exists_eq_left, echo, String.toList_append, String.toList_ofList]
  rfl

/-- Nothing is left of a blank script, and of no other. -/
theorem trimScript_eq_empty_iff {script : String} :
    trimScript script = "" ↔ isBlankText script.toList = true := by
  rw [eq_comm, ← trims_iff, Trims, String.toList_empty, losesEnds_nil_iff, isBlankText]

end TaskRunner
