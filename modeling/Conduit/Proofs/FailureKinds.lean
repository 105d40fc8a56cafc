import Conduit.Engine
import Conduit.Proofs.Loading
import Conduit.Proofs.Sample

/-!
# The kinds of failures of a run

A failure goes back to a pipe that has failed by itself, or to the stack. So the kinds of failures
that pipes do not have by themselves cannot come up in a run, however deep its calls go. Faults of
definitions are among them, for definitions have been checked when they were loaded.

Two modes share one interpreter, and still tell failures apart. Which of them a run is in does not
change from caller to callee.
-/

namespace Conduit

/-- A failure of the stack, or of a pipe of the library by itself, in a dry run or in a live one. -/
inductive RunError.Originates (library : Library) (dry : Bool) : RunError → Prop
  | overflow (context : Context) (limit : Nat) (stack : List String) :
      Originates library dry (.located context (.ofCause (.stackOverflow limit stack)))
  | own {pipe : Pipe} {params : Params} {cause : Cause} (output : Option String)
      (stack : PipeStack) (member : pipe ∈ library.pipes) (mode : params.isDry = dry)
      (fault : pipe.OwnFault library params cause) :
      Originates library dry
        (.located (Library.contextOf pipe params output stack) (.ofCause cause))

/-- What has its place is not given another one on the way out. -/
theorem RunError.Originates.annotate {library : Library} {dry : Bool} {error : RunError}
    (h : error.Originates library dry) (context : Context) :
    (error.annotate context).Originates library dry := by
  cases h with
  | overflow place limit stack => exact .overflow place limit stack
  | own output stack member mode fault => exact .own output stack member mode fault

namespace Library

open Run

variable {library : Library}

/-- Every failure of a run originates in a pipe of the library or in the stack. -/
def originating (library : Library) (dry : Bool) : RunContract library where
  scope pipe params := pipe ∈ library.pipes ∧ params.isDry = dry
  good _ _ _ _ := True
  bad _ _ _ _ error := error.Originates library dry
  calls inScope _ found := ⟨mem_of_find? found, inScope.2⟩
  overflow pipe params output stack _ := .overflow _ params.limit (stack ++ [pipe.code])
  execute runner pipe memory params output stack inScope _ callees := by
    refine (library.composed_execute pipe memory params output).meets ?_ ?_
    · intro cause fault
      exact .own output (stack ++ [pipe.code]) inScope.1 inScope.2 fault
    · rintro callee _ ⟨code, multiplicity, calls, found, rfl⟩ memory output
      have called := callees code multiplicity calls callee found memory output
      exact called.consequence (fun _ _ => trivial) fun _ bad => bad.annotate _

/-- A failure of an engine's run, once the pipe has been found. -/
theorem originates_run {engine : Engine} {code : String} {pipe : Pipe} {inputs : List Stuff}
    {mode : Option RunMode} {state final : RunState} {error : RunError}
    (found : engine.library.find? code = some pipe)
    (fails : engine.run code inputs mode state = (.error error, final)) :
    error.Originates engine.library (mode.getD engine.config.mode == .dry) := by
  have fails' : engine.library.run pipe (.ofStuffs inputs)
      (.ofConfig engine.config (mode.getD engine.config.mode)) none state =
        (.error error, final) := by
    rw [Engine.run, Engine.runWithMemory, runCode, get_eq_ok.2 found] at fails
    exact fails
  have contract := (engine.library.originating (mode.getD engine.config.mode == .dry)).meets_run
    pipe (.ofStuffs inputs) (.ofConfig engine.config (mode.getD engine.config.mode)) none
    state.stack ⟨mem_of_find? found, rfl⟩
  exact contract.error rfl fails'

end Library

/-- The causes that are settled before a pipe runs, or that no run makes use of. -/
inductive Cause.OffRun : Cause → Prop
  | definition (pipe : String) (fault : PipeFault) : OffRun (.definition pipe fault)
  | aliasTargetMissing (name target : String) : OffRun (.memory (.aliasTargetMissing name target))
  | noMainStuff : OffRun (.memory .noMainStuff)
  | conceptNotFound (reference : String) : OffRun (.concept (.notFound reference))
  | conceptDuplicate (domain code : String) : OffRun (.concept (.duplicate domain code))
  | conceptDefinition (reference : String) (fault : DefinitionFault) :
      OffRun (.concept (.definition reference fault))
  | emptyResult (pipe : String) : OffRun (.dryRun (.emptyResult pipe))

namespace Pipe.OwnFault

variable {pipe : Pipe} {library : Library} {params : Params} {cause : Cause}

theorem not_offRun (fault : pipe.OwnFault library params cause) : ¬ cause.OffRun := by
  intro offRun
  cases offRun with
  | definition => cases fault
  | aliasTargetMissing => cases fault with | list _ h => cases h
  | noMainStuff => cases fault with | list _ h => cases h
  | conceptNotFound => cases fault with | concept h => cases h
  | conceptDuplicate => cases fault with | concept h => cases h
  | conceptDefinition => cases fault with | concept h => cases h
  | emptyResult => cases fault

/-- A pipe that declares what it reads lacks nothing but the lists of its batches. -/
theorem exists_batch {error : MemoryError} {name : String} (declares : pipe.Declares)
    (fault : pipe.OwnFault library params (.memory error)) (ofList : error.OfList name) :
    ∃ batch ∈ pipe.body.batches, batch.list = name := by
  cases fault with
  | undeclared reads absent => exact absurd (declares _ reads) absent
  | list member h =>
      refine ⟨_, member, ?_⟩
      cases h <;> cases ofList <;> rfl

theorem live_ne_dryRun (fault : pipe.OwnFault library params cause) (live : params.isDry = false)
    (error : DryRunError) : cause ≠ .dryRun error := by
  rintro rfl
  cases fault with
  | pretence dry => exact absurd dry (Bool.eq_false_iff.1 live)
  | pretendedInputs dry => exact absurd dry (Bool.eq_false_iff.1 live)

theorem dry_ne_missingInputs (fault : pipe.OwnFault library params cause)
    (dry : params.isDry = true) (owner : String) (names : List String) :
    cause ≠ .missingInputs owner names := by
  rintro rfl
  cases fault with
  | missingInputs live => exact absurd dry (Bool.eq_false_iff.1 live)

theorem dry_ne_condition (fault : pipe.OwnFault library params cause) (dry : params.isDry = true)
    (error : ConditionError) : cause ≠ .condition error := by
  rintro rfl
  cases fault with
  | question live => exact absurd dry (Bool.eq_false_iff.1 live)

end Pipe.OwnFault

namespace Engine

/-- When a run of a loaded library fails although its pipe has been found, then not with a cause
that is settled before. For the lack of a stuff, or because a stuff is no list, it fails only where
a pipe of the library runs another one for the items of that list. A live run fails with no error
of dry runs. A dry run fails neither with the missing inputs of a live run nor with an error of
conditions. -/
theorem run_failure_kinds {engine : Engine} {code : String} {pipe : Pipe} {inputs : List Stuff}
    {mode : Option RunMode} {state final : RunState} {error : RunError}
    (loaded : engine.library.Loaded) (found : engine.library.find? code = some pipe)
    (fails : engine.run code inputs mode state = (.error error, final)) :
    ¬ error.cause.OffRun ∧
    (∀ name, error.cause = .memory (.stuffNotFound name) ∨
        (∃ className, error.cause = .memory (.notAList name className)) →
      ∃ context, error.context = some context ∧ ∃ owner ∈ engine.library.pipes,
        owner.code = context.pipe ∧ ∃ batch ∈ owner.body.batches, batch.list = name) ∧
    (mode.getD engine.config.mode = .live → ∀ fault, error.cause ≠ .dryRun fault) ∧
    (mode.getD engine.config.mode = .dry →
      (∀ owner names, error.cause ≠ .missingInputs owner names) ∧
      ∀ fault, error.cause ≠ .condition fault) := by
  cases Library.originates_run found fails with
  | overflow context limit stack =>
      refine ⟨nofun, ?_, fun _ => nofun, fun _ => ⟨nofun, nofun⟩⟩
      rintro name (lacks | ⟨className, lacks⟩) <;> cases lacks
  | @own owner params cause output stack member same fault =>
      have declares := loaded.declares owner member
      refine ⟨fault.not_offRun, ?_, fun live => ?_, fun dry => ⟨?_, ?_⟩⟩
      · rintro name (lacks | ⟨className, lacks⟩)
        · obtain rfl : cause = .memory (.stuffNotFound name) := lacks
          exact ⟨_, rfl, owner, member, rfl, fault.exists_batch declares .stuffNotFound⟩
        · obtain rfl : cause = .memory (.notAList name className) := lacks
          exact ⟨_, rfl, owner, member, rfl, fault.exists_batch declares (.notAList className)⟩
      · rw [live] at same
        exact fault.live_ne_dryRun same
      · rw [dry] at same
        exact fault.dry_ne_missingInputs same
      · rw [dry] at same
        exact fault.dry_ne_condition same

/-- When the bundle is loaded and nothing is given, there is no list whose lines could be shouted.
That is the list over which the pipe runs. -/
theorem bundle_failure_kinds :
    ∃ library pipe error final, library.Loaded ∧ library.find? "shout_all" = some pipe ∧
      (Engine.mk library .standard).run "shout_all" [] (some .live) .initial =
        (.error error, final) ∧
      error.cause = .memory (.stuffNotFound "lines") ∧ ¬ error.cause.OffRun ∧
      (∃ context, error.context = some context ∧ ∃ owner ∈ library.pipes,
        owner.code = context.pipe ∧ ∃ batch ∈ owner.body.batches, batch.list = "lines") ∧
      ∀ fault, error.cause ≠ .dryRun fault := by
  obtain ⟨library, accepted, pipe, found, error, final, fails, lacks⟩ : ∃ library,
      (Library.initial Sample.collaborators).load Sample.bundle = .ok library ∧ ∃ pipe,
      library.find? "shout_all" = some pipe ∧ ∃ error final,
      (Engine.mk library .standard).run "shout_all" [] (some .live) .initial =
        (.error error, final) ∧
      error.cause = .memory (.stuffNotFound "lines") := ⟨_, rfl, _, rfl, _, _, rfl, rfl⟩
  have loaded : library.Loaded := .load (.initial Sample.collaborators) accepted
  obtain ⟨onRun, lists, live, -⟩ := run_failure_kinds loaded found fails
  exact ⟨library, pipe, error, final, loaded, found, fails, lacks, onRun,
    lists "lines" (.inl lacks), live rfl⟩

end Engine

end Conduit
