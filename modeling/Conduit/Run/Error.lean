import Conduit.Config
import Conduit.Memory.Basic
import Conduit.Pipe.Fault
import Conduit.Run.Collaborator

/-!
# How loading and running can fail

A failure has a cause. When it happens inside a run, the innermost pipe at work
adds where that was: the pipe, the mode, the wanted name of its result, and the
pipes under way. Nothing is added a second time.
-/

namespace Conduit

/-- What can go wrong with a condition of a live run. -/
inductive ConditionError where
  | evaluation (pipe text : String)
  /-- The answer chooses no pipe. -/
  | noMatch (pipe answer : String)
  deriving DecidableEq, Repr

/-- The wording of a condition's error. -/
def ConditionError.message : ConditionError → String
  | evaluation pipe text => s!"Pipe '{pipe}' could not evaluate its expression: {text}"
  | noMatch pipe answer => s!"Pipe '{pipe}' has no branch for '{answer}' and no default pipe"

/-- Names in a row. -/
def listed (names : List String) : String :=
  ", ".intercalate names

/-- The codes of pipes, each called by the one before it. -/
def nested (codes : List String) : String :=
  " > ".intercalate codes

/-- What can go wrong in a dry run only. -/
inductive DryRunError where
  | missingInputs (pipe : String) (names : List String)
  | evaluation (pipe source text : String)
  | emptyResult (pipe : String)
  deriving DecidableEq, Repr

namespace DryRunError

/-- The pipe that has failed. -/
def pipe : DryRunError → String
  | missingInputs pipe _ => pipe
  | evaluation pipe _ _ => pipe
  | emptyResult pipe => pipe

/-- The wording of a dry run's error. -/
def message : DryRunError → String
  | missingInputs pipe names => s!"Pipe '{pipe}' is missing required inputs: {listed names}"
  | evaluation pipe source text => s!"Pipe '{pipe}' failed to evaluate '{source}': {text}"
  | emptyResult pipe => s!"Pipe '{pipe}' produced an empty result"

end DryRunError

/-- Why loading or running has failed. -/
inductive Cause where
  | concept (error : ConceptError)
  | definition (pipe : String) (fault : PipeFault)
  | memory (error : MemoryError)
  | dryRun (error : DryRunError)
  | collaborator (error : CollaboratorError)
  | condition (error : ConditionError)
  | pipeNotFound (code : String)
  /-- More pipes would be under way than the limit allows. -/
  | stackOverflow (limit : Nat) (stack : List String)
  | missingInputs (pipe : String) (names : List String)
  | inputMismatch (pipe input expected found : String)
  | outputMismatch (pipe expected found : String)
  deriving DecidableEq, Repr

namespace Cause

/-- The wording of a cause. -/
def message : Cause → String
  | concept error => s!"Concept error: {error.message}"
  | definition pipe fault => s!"Invalid definition for pipe '{pipe}': {fault.message}"
  | memory error => s!"Working memory error: {error.message}"
  | dryRun error => s!"Dry run error: {error.message}"
  | collaborator error => s!"Collaborator error: {error.message}"
  | condition error => s!"Condition error: {error.message}"
  | pipeNotFound code => s!"Pipe '{code}' not found"
  | stackOverflow limit stack => s!"Pipe stack overflow (limit {limit}): {nested stack}"
  | missingInputs pipe names => s!"Pipe '{pipe}' is missing required inputs: {listed names}"
  | inputMismatch pipe input expected found =>
    s!"Input '{input}' of pipe '{pipe}' expects concept '{expected}' but got '{found}'"
  | outputMismatch pipe expected found =>
    s!"Pipe '{pipe}' declares output '{expected}' but produced '{found}'"

/-- Are too many pipes under way? -/
def isOverflow : Cause → Bool
  | stackOverflow _ _ => true
  | _ => false

end Cause

/-- Where a run has failed. -/
structure Context where
  /-- The innermost pipe at work. -/
  pipe : String
  mode : RunMode
  /-- The wanted name of its result. -/
  output : Option String
  /-- The pipes under way, outermost first. -/
  stack : List String
  deriving DecidableEq, Repr

/-- A failure: a cause, under the places that have been added to it. -/
inductive RunError where
  /-- A failure at no place in particular. -/
  | ofCause (cause : Cause)
  | located (context : Context) (source : RunError)
  deriving DecidableEq, Repr

namespace RunError

/-- The cause under all places. -/
def cause : RunError → Cause
  | ofCause cause => cause
  | located _ source => source.cause

/-- Where the failure happened, if that has been added. -/
def context : RunError → Option Context
  | ofCause _ => none
  | located context _ => some context

/-- Add where a failure happened, unless it is known. -/
def annotate (error : RunError) (context : Context) : RunError :=
  match error with
  | located _ _ => error
  | ofCause _ => located context error

@[simp] theorem annotate_cause (error : RunError) (context : Context) :
    (error.annotate context).cause = error.cause := by
  cases error <;> rfl

/-- The wording of a failure. -/
def message : RunError → String
  | ofCause cause => cause.message
  | located context source =>
    let output := context.output.getD "<main>"
    let place := s!"output: {output}, stack: {nested context.stack}"
    s!"Pipe '{context.pipe}' failed in {context.mode.name} mode ({place}): " ++ source.message

end RunError

end Conduit
