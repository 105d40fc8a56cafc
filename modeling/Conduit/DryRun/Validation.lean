import Conduit.Run.Interpreter

/-!
# Trying a library out

A dry run of a pipe on made-up inputs shows whether its parts fit together. A
library is valid when every pipe passes and every reference leads to a pipe.
-/

namespace Conduit

/-- The outcome of trying a library out. -/
structure Report where
  /-- The pipes in order, each with the failure of its dry run if it has failed. -/
  outcomes : List (String × Option RunError)
  /-- The references that lead to no pipe. -/
  dangling : List (String × String)

namespace Report

/-- The pipes whose dry run has succeeded. -/
def passed (report : Report) : List String :=
  (report.outcomes.filter (·.2.isNone)).map Prod.fst

/-- The pipes whose dry run has failed. -/
def failed (report : Report) : List String :=
  (report.outcomes.filter (·.2.isSome)).map Prod.fst

/-- Does every reference lead to a pipe, and does every pipe pass? -/
def isSuccess (report : Report) : Bool :=
  report.dangling.isEmpty && report.outcomes.all (·.2.isNone)

/-- The number of pipes that have been tried. -/
def size (report : Report) : Nat :=
  report.outcomes.length

end Report

namespace Library

/-- Run a pipe dry on made-up inputs. -/
def dryRun (library : Library) (config : EngineConfig) (pipe : Pipe) : Run Output := do
  let memory ← Run.require Cause.concept
    (library.vocabulary.sampleInputs pipe config.dryListLength)
  library.run pipe memory (Params.ofConfig config .dry) none

/-- Try some pipes, one after the other. -/
def tryAll (library : Library) (config : EngineConfig) :
    List Pipe → Run (List (String × Option RunError))
  | [] => pure []
  | pipe :: pipes => do
    let failure ← Run.failure (library.dryRun config pipe)
    let others ← library.tryAll config pipes
    return (pipe.code, failure) :: others

/-- Try all pipes. -/
def validate (library : Library) (config : EngineConfig) : Run Report := do
  return { outcomes := ← library.tryAll config library.pipes, dangling := library.dangling }

end Library

end Conduit
