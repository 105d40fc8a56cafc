import Conduit.Run.Stack

/-!
# Runs

A run succeeds or fails, and either way it leaves a state: the stack of pipes under
way, the greatest depth that the stack has reached, and the journal of what the
generator and the functions have been asked. A failure undoes none of this.
-/

namespace Conduit

/-- Something that a collaborator has been asked. -/
inductive Request where
  /-- A job for the generator. -/
  | job (asked : Job)
  /-- A call of a function. -/
  | call (function : String) (inputs : OrderedMap Stuff)

/-- The job of a request, if it is one. -/
def Request.job? : Request → Option Job
  | job asked => some asked
  | call _ _ => none

/-- What a run changes besides its memory. -/
structure RunState where
  stack : PipeStack
  /-- The greatest depth of the stack so far. -/
  peak : Nat
  /-- What has been asked so far, in order. -/
  journal : List Request

namespace RunState

/-- Nothing is under way, and nothing has been asked. -/
def initial : RunState := ⟨[], 0, []⟩

/-- The jobs that the generator has had. -/
def jobs (state : RunState) : List Job :=
  state.journal.filterMap Request.job?

end RunState

/-- A computation that may fail and that changes the state. -/
def Run (α : Type) : Type :=
  RunState → Except RunError α × RunState

namespace Run

variable {α β ε : Type}

instance : Monad Run where
  pure value := fun state => (.ok value, state)
  bind run next := fun state =>
    match run state with
    | (.ok value, state) => next value state
    | (.error error, state) => (.error error, state)

/-- Fail. -/
def fail (cause : Cause) : Run α :=
  fun state => (.error (.ofCause cause), state)

/-- Take a result, or fail with the cause that its error is. -/
def require (cause : ε → Cause) : Except ε α → Run α
  | .ok value => pure value
  | .error error => fail (cause error)

/-- Change the error of a run that fails. -/
def mapError (f : RunState → RunError → RunError) (run : Run α) : Run α :=
  fun state =>
    match run state with
    | (.ok value, state) => (.ok value, state)
    | (.error error, state) => (.error (f state error), state)

/-- The failure of a run, if it fails. -/
def failure (run : Run α) : Run (Option RunError) :=
  fun state =>
    match run state with
    | (.ok _, state) => (.ok none, state)
    | (.error error, state) => (.ok (some error), state)

/-- The values of two runs, or the failure of the first that fails. -/
def pair : Except RunError α → Except RunError β → Except RunError (α × β)
  | .ok a, .ok b => .ok (a, b)
  | .ok _, .error error => .error error
  | .error error, _ => .error error

/-- Run one thing and then another, even if the first one fails. -/
def both (first : Run α) (second : Run β) : Run (α × β) :=
  fun state =>
    let (a, state) := first state
    let (b, state) := second state
    (pair a b, state)

/-- Run all branches in order, whether they fail or not. If any fails, the first failure is the
result; otherwise it is all values. -/
def join : List (Run α) → Run (List α)
  | [] => pure []
  | branch :: branches => do
    let (value, values) ← both branch (join branches)
    return value :: values

@[simp] theorem pure_apply (value : α) (state : RunState) :
    (pure value : Run α) state = (.ok value, state) := rfl

theorem bind_apply (run : Run α) (next : α → Run β) (state : RunState) :
    (run >>= next) state =
      match run state with
      | (.ok value, state) => next value state
      | (.error error, state) => (.error error, state) := rfl

@[simp] theorem fail_apply (cause : Cause) (state : RunState) :
    (fail cause : Run α) state = (.error (.ofCause cause), state) := rfl

/-- Ask the generator, which has to be there. The job is in the journal whatever the answer is. -/
def generate (collaborators : Collaborators) (job : Job) : Run Content :=
  match collaborators.generator with
  | none => fail (.collaborator (.unavailable .generator))
  | some generator => fun state =>
    require Cause.collaborator (generator state.jobs job)
      { state with journal := state.journal ++ [.job job] }

/-- Call a function. -/
def call (name : String) (function : Function) (inputs : OrderedMap Stuff) : Run Content :=
  fun state =>
    require Cause.collaborator (function inputs)
      { state with journal := state.journal ++ [.call name inputs] }

/-- Hold a place on the stack during a run, and tell a failure where it has happened. A pipe that
finds no place is not under way. -/
def framed (limit : Nat) (code : String) (context : PipeStack → Context) (body : Run α) : Run α :=
  fun state =>
    match state.stack.enter limit code with
    | .error cause => (.error ((RunError.ofCause cause).annotate (context state.stack)), state)
    | .ok stack =>
      let entered := { state with stack := stack, peak := max state.peak stack.length }
      let (result, state) := body.mapError (fun state error => error.annotate (context state.stack))
        entered
      (result, { state with stack := state.stack.leave code })

end Run

end Conduit
