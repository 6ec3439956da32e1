/-! The stages of a run.  Within a target, runs marked `before` come first and runs marked `after`
come last. -/

namespace TaskRunner

/-- When a run takes its turn among the statements of a target. -/
inductive Stage where
  | before
  | during
  | after
deriving DecidableEq, Repr, Inhabited

namespace Stage

/-- The position of a stage in the order of a target. -/
def rank : Stage → Nat
  | before => 0
  | during => 1
  | after => 2

/-- The word written after the colon of `run:`.  The middle stage has none. -/
def mark? : Stage → Option String
  | before => some "before"
  | during => none
  | after => some "after"

/-- The stage that a mark selects. -/
def ofMark? (mark : String) : Option Stage :=
  if mark = "before" then some before
  else if mark = "after" then some after
  else none

/-- A name for each stage. -/
def name (stage : Stage) : String :=
  stage.mark?.getD "during"

theorem ofMark?_eq_some_iff {mark : String} {stage : Stage} :
    ofMark? mark = some stage ↔ stage.mark? = some mark := by
  cases stage <;> grind [ofMark?, mark?]

end Stage

end TaskRunner
