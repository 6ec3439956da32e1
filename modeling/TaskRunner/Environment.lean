import TaskRunner.RunError
import TaskRunner.Table

/-! Environments: the variables and targets that a statement can see.  Scopes are nested; the
innermost one hides what the outer ones bind to the same names. -/

namespace TaskRunner

/-- The value of a variable: a text, or a run whose output is the text. -/
inductive Value where
  | text (text : String)
  | pending (run : Run)
deriving DecidableEq

/-- The variables and targets of one scope. -/
structure Scope where
  values : Table Value
  targets : Table (List Statement)

/-- The scope that binds nothing. -/
def Scope.empty : Scope := ⟨.empty, .empty⟩

/-- An environment.  There is always an innermost scope. -/
structure Environment where
  innermost : Scope
  outer : List Scope

namespace Environment

/-- The environment of the root scope alone. -/
def initial : Environment := ⟨.empty, []⟩

/-- The scopes from the innermost outward. -/
def scopes (env : Environment) : List Scope :=
  env.innermost :: env.outer

/-- The number of scopes inside the root scope. -/
def depth (env : Environment) : Nat :=
  env.outer.length

/-- The environment with a new innermost scope. -/
def push (env : Environment) : Environment :=
  ⟨.empty, env.scopes⟩

/-- The environment without its innermost scope.  The root scope stays. -/
def pop (env : Environment) : Environment :=
  match env.outer with
  | [] => env
  | scope :: outer => ⟨scope, outer⟩

/-- Binds a variable in the innermost scope.  The empty name is never bound. -/
def defineVariable (env : Environment) (name : String) (value : Value) : Environment :=
  if name = "" then env
  else
    { env with innermost :=
        { env.innermost with values := env.innermost.values.insert name value } }

/-- Binds a target in the innermost scope.  The empty name is never bound. -/
def defineTarget (env : Environment) (name : String) (body : List Statement) : Environment :=
  if name = "" then env
  else
    { env with innermost :=
        { env.innermost with targets := env.innermost.targets.insert name body } }

/-- What a name stands for: what it is bound to by the innermost scope that binds it in the given
table. -/
def lookUp {α : Type} (env : Environment) (table : Scope → Table α) (missing : String → RunError)
    (name : String) : Except RunError α :=
  match env.scopes.findSome? fun scope => (table scope).get? name with
  | some found => .ok found
  | none => .error (missing name)

/-- The variable that a name stands for. -/
def getVariable (env : Environment) (name : String) : Except RunError Value :=
  env.lookUp Scope.values .undefinedVariable name

/-- The target that a name stands for. -/
def getTarget (env : Environment) (name : String) : Except RunError (List Statement) :=
  env.lookUp Scope.targets .undefinedTarget name

/-- The variables that can be seen. -/
def visible (env : Environment) : Table Value :=
  env.scopes.foldr (fun scope table => table.overlay scope.values) .empty

@[simp] theorem pop_push (env : Environment) : env.push.pop = env := rfl

@[simp] theorem depth_push (env : Environment) : env.push.depth = env.depth + 1 := rfl

end Environment

end TaskRunner
