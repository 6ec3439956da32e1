import TaskRunner.Program.Basic

/-! Steps of programs that keep a state of their own, and that can leave what they are about before
its end. -/

namespace TaskRunner

/-- A step: from the state, and what to do with the outcome and the state after it, to what the
process does. -/
def Steps (σ ε α : Type) : Type :=
  σ → Desk → (Except ε α → σ → Desk → Task) → Task

namespace Steps

variable {σ ε α β : Type}

/-- The step that yields a value at once. -/
@[inline] protected def pure (value : α) : Steps σ ε α :=
  fun state desk next => next (.ok value) state desk

/-- A step followed by another, unless it leaves something. -/
@[inline] protected def bind (first : Steps σ ε α) (second : α → Steps σ ε β) : Steps σ ε β :=
  fun state desk next => first state desk fun outcome state desk =>
    match outcome with
    | .ok value => second value state desk next
    | .error leave => next (.error leave) state desk

instance : Monad (Steps σ ε) where
  pure := Steps.pure
  bind := Steps.bind

instance : MonadStateOf σ (Steps σ ε) where
  get := fun state desk next => next (.ok state) state desk
  set state := fun _ desk next => next (.ok ()) state desk
  modifyGet change := fun state desk next =>
    match change state with
    | (value, state) => next (.ok value) state desk

instance : MonadExceptOf ε (Steps σ ε) where
  throw leave := fun state desk next => next (.error leave) state desk
  tryCatch step handle := fun state desk next => step state desk fun outcome state desk =>
    match outcome with
    | .ok value => next (.ok value) state desk
    | .error leave => handle leave state desk next

/-- The outcome of a step, be it a value or a reason to leave. -/
def outcomeOf (step : Steps σ ε α) : Steps σ ε (Except ε α) :=
  fun state desk next => step state desk fun outcome state desk => next (.ok outcome) state desk

/-- A step of the program that leaves the state alone. -/
@[inline] def tool (step : Tool α) : Steps σ ε α :=
  fun state desk next => step desk fun value desk => next (.ok value) state desk

/-- Repeats a step as long as it says so, with a bound on the number of turns. -/
def repeatWhile (step : Steps σ ε Bool) : Nat → Steps σ ε Unit
  | 0 => pure ()
  | turns + 1 => do
    if ← step then
      if turns % 64 = 0 then
        let _ ← tool (Tool.ask .pause)
      repeatWhile step turns

/-- Does something with each member of a list, as long as it says so. -/
def each (action : α → Steps σ ε Bool) : List α → Steps σ ε Unit
  | [] => pure ()
  | a :: rest => do
    if ← action a then each action rest

/-- The program that takes a step from a state. -/
def run (step : Steps σ ε α) (state : σ) : Tool (Except ε α × σ) :=
  fun desk next => step state desk fun outcome state desk => next (outcome, state) desk

end Steps

end TaskRunner
