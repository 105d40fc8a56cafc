import Conduit.DryRun.Validation

/-!
# The engine

An engine runs the pipes of a library under a configuration. Every run begins with
an empty stack, and with a memory that holds nothing but what it is given.
-/

namespace Conduit

/-- A library and the configuration under which its pipes run. -/
structure Engine where
  library : Library
  config : EngineConfig

namespace Engine

/-- Run a pipe on a memory. -/
def runWithMemory (engine : Engine) (code : String) (memory : WorkingMemory) (params : Params) :
    Run Output :=
  engine.library.runCode code memory params none

/-- Run a pipe on some stuffs, in the given mode or the configured one. -/
def run (engine : Engine) (code : String) (inputs : List Stuff) (mode : Option RunMode) :
    Run Output :=
  engine.runWithMemory code (.ofStuffs inputs)
    (.ofConfig engine.config (mode.getD engine.config.mode))

/-- Run a pipe dry on made-up inputs. -/
def dryRun (engine : Engine) (code : String) : Run Output := do
  let pipe ← Run.require id (engine.library.get code)
  engine.library.dryRun engine.config pipe

/-- Try all pipes of the library. -/
def validate (engine : Engine) : Run Report :=
  engine.library.validate engine.config

end Engine

end Conduit
