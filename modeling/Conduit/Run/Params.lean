import Conduit.Config
import Conduit.Multiplicity
import Conduit.Memory.Basic

/-!
# What a run is given and what it gives

Parameters hold for a whole run and all pipes in it, save the multiplicity, which
each caller sets anew.
-/

namespace Conduit

/-- The parameters of a run. -/
structure Params where
  mode : RunMode
  /-- How many pipes may be under way at a time. -/
  limit : Nat
  /-- What the caller wants in place of the declared multiplicity. -/
  multiplicity : Option Multiplicity
  /-- How many items a list of a dry run has when no one says. -/
  listLength : Nat
  deriving DecidableEq, Repr

namespace Params

/-- The parameters that a configuration gives. -/
def ofConfig (config : EngineConfig) (mode : RunMode) : Params :=
  ⟨mode, config.stackLimit, none, config.dryListLength⟩

/-- Is the run dry? -/
def isDry (params : Params) : Bool :=
  params.mode == .dry

/-- The same parameters for another pipe, with what is wanted of it. -/
def forCallee (params : Params) (multiplicity : Option Multiplicity) : Params :=
  { params with multiplicity }

@[simp] theorem forCallee_limit (params : Params) (multiplicity : Option Multiplicity) :
    (params.forCallee multiplicity).limit = params.limit := rfl

end Params

/-- What the body of a pipe gives: the memory it leaves and what it has produced, which is not yet
in the memory. -/
structure Product where
  memory : WorkingMemory
  stuff : Stuff

/-- What a run of a pipe gives: the memory with the result in it, and the result. -/
structure Output where
  memory : WorkingMemory
  main : Stuff

end Conduit
