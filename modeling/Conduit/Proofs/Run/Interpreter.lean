import Conduit.Proofs.Run.Flow

/-!
# What a run of a pipe comes to

The recursion of pipes is met here, once. A contract holds of every run, whatever room is left
on the stack, if it allows for an overflow and if a pipe that holds its place keeps it whenever
its callees do, one place further up.
-/

namespace Conduit

/-- The causes with which a pipe can fail by itself once it holds its place. -/
inductive Cause.OfRun : Cause → Prop
  | body {cause : Cause} (h : cause.OfBody) : OfRun cause
  | missingInputs (pipe : String) (names : List String) : OfRun (.missingInputs pipe names)
  | pretendedInputs (pipe : String) (names : List String) :
      OfRun (.dryRun (.missingInputs pipe names))
  | inputMismatch (pipe input expected found : String) :
      OfRun (.inputMismatch pipe input expected found)
  | outputMismatch (pipe expected found : String) : OfRun (.outputMismatch pipe expected found)

/-- What a pipe promises about its output: the result stands in the memory under its own name,
and its concept may flow where the declared one is wanted. -/
structure Pipe.Delivers (pipe : Pipe) (output : Output) : Prop where
  stored : output.memory.slots.get? output.main.name = some output.main
  declared : (pipe.signature.output.isOpen ||
    output.main.concept.isCompatible pipe.signature.output) = true

/-- Data of a concept may stand for that concept. -/
theorem Concept.isCompatible_self (concept : Concept) : concept.isCompatible concept = true := by
  simp [isCompatible, isStrictlyCompatible, sameName]

namespace Library

open Run

variable {library : Library} {law : MemoryLaw} {runner : Runner} {params : Params}
variable {stack : PipeStack} {bad : RunError → Prop}

/-- The work of a pipe that makes content. -/
def work? (library : Library) (pipe : Pipe) (memory : WorkingMemory) (params : Params)
    (output : Option String) : Option (Run Stuff) :=
  match pipe.body with
  | .prompt prompt => some (library.runPrompt pipe.signature prompt memory params output)
  | .image prompt => some (library.runImage pipe.signature prompt memory params output)
  | .extract extraction => some (library.runExtract pipe.signature extraction memory params output)
  | .call function => some (library.runCall pipe.signature function memory params output)
  | .compose template => some (library.runCompose pipe.signature template memory output)
  | _ => none

theorem runBody_of_work {pipe : Pipe} {memory : WorkingMemory} {output : Option String}
    {work : Run Stuff} (h : library.work? pipe memory params output = some work) :
    library.runBody runner pipe memory params output = working memory work := by
  rw [work?] at h
  rw [runBody]
  split at h <;> cases h <;> rename_i body <;> rw [body]

theorem meets_work {pipe : Pipe} {memory : WorkingMemory} {output : Option String}
    {work : Run Stuff} (fault : ∀ cause : Cause, cause.OfWork → bad (.ofCause cause))
    (h : library.work? pipe memory params output = some work) :
    Meets stack (library.Makes pipe.signature params output) bad work := by
  rw [work?] at h
  split at h <;> cases h
  · exact meets_runPrompt fault
  · exact meets_runImage fault
  · exact meets_runExtract fault
  · exact meets_runCall fault
  · exact meets_runCompose fault

/-- Work leaves the memory as it is. -/
theorem meets_working {memory : WorkingMemory} {work : Run Stuff} {made : Stuff → Prop}
    (has : ∀ stuff, made stuff → law.Has memory stuff) (h : Meets stack made bad work) :
    Meets stack (law.Yields memory) bad (working memory work) :=
  h.bind fun stuff makes => .pure ⟨law.refl memory, has stuff makes⟩

/-- A body respects a law if its calls and its own work do. -/
theorem meets_runBody {pipe : Pipe} {memory : WorkingMemory} {output : Option String}
    (fault : ∀ cause : Cause, cause.OfBody → bad (.ofCause cause))
    (serves : ∀ code multiplicity, pipe.Calls params code multiplicity →
      library.Serves law runner params stack bad code multiplicity)
    (makes : ∀ stuff, library.Makes pipe.signature params output stuff → law.Has memory stuff) :
    Meets stack (law.Yields memory) bad (library.runBody runner pipe memory params output) := by
  cases known : library.work? pipe memory params output with
  | some work =>
      rw [runBody_of_work known]
      exact meets_working makes (meets_work (fun cause h => fault cause (.work h)) known)
  | none =>
      rw [runBody]
      cases body : pipe.body with
      | sequence sequence =>
          exact meets_runSteps fault fun step member => serves _ _ (.step body member)
      | parallel parallel =>
          exact meets_runParallel fault fun branch member => serves _ _ (.branch body member)
      | condition condition =>
          exact meets_runCondition fault fun code member => serves _ _ (.choice body member)
      | batch code batch => exact meets_runBatch fault (serves _ _ (.batch body))
      | _ => simp [work?, body] at known

theorem checkInput_ofRun {pipe : Pipe} {memory : WorkingMemory} {entry : String × Requirement}
    {cause : Cause} (h : checkInput pipe memory entry = .error cause) : cause.OfRun := by
  rw [checkInput] at h
  cases found : memory.get entry.1 with
  | error error =>
      simp only [found, Except.mapError, bind, Except.bind, Except.error.injEq] at h
      subst h
      exact .body (.work (.memory error))
  | ok stuff =>
      simp only [found, Except.mapError, bind, Except.bind] at h
      split at h <;> cases h
      exact .inputMismatch _ _ _ _

theorem checkInputs_ofRun {pipe : Pipe} {memory : WorkingMemory} {cause : Cause}
    (h : checkInputs pipe memory params = .error cause) : cause.OfRun := by
  rw [checkInputs] at h
  split at h
  · generalize pipe.signature.inputs.entries = entries at h
    induction entries with
    | nil => cases h
    | cons entry entries ih =>
        rw [List.forM] at h
        cases checked : checkInput pipe memory entry with
        | error fault =>
            rw [checked] at h
            cases h
            exact checkInput_ofRun checked
        | ok _ =>
            rw [checked] at h
            exact ih h
  · split at h <;> cases h
    · exact .pretendedInputs _ _
    · exact .missingInputs _ _

theorem checkInput_eq_ok {pipe : Pipe} {memory : WorkingMemory} {entry : String × Requirement} :
    checkInput pipe memory entry = .ok () ↔ ∃ stuff, memory.find? entry.1 = some stuff ∧
      (entry.2.concept.isOpen || stuff.concept.isCompatible entry.2.concept) = true := by
  rw [checkInput]
  cases found : memory.find? entry.1 with
  | none => simp [WorkingMemory.get, found, Except.mapError, bind, Except.bind]
  | some stuff =>
      simp only [WorkingMemory.get, found, Except.mapError, bind, Except.bind]
      split <;> simp_all [pure, Except.pure, throw, throwThe, MonadExceptOf.throw]

/-- Every input is found, and is of a concept that may flow where the declared one is wanted. -/
theorem checkInputs_eq_ok {pipe : Pipe} {memory : WorkingMemory} :
    checkInputs pipe memory params = .ok () ↔
      ∀ entry ∈ pipe.signature.inputs.entries, checkInput pipe memory entry = .ok () := by
  have each : ∀ entries : List (String × Requirement),
      entries.forM (checkInput pipe memory) = .ok () ↔
        ∀ entry ∈ entries, checkInput pipe memory entry = .ok () := by
    intro entries
    induction entries with
    | nil => simp [pure, Except.pure]
    | cons entry entries ih =>
        rw [List.forM, List.forall_mem_cons, ← ih]
        cases checkInput pipe memory entry <;> simp [bind, Except.bind]
  rw [checkInputs]
  split
  · exact each _
  · next absent =>
    obtain ⟨name, member⟩ := List.exists_mem_of_ne_nil _ absent
    rw [WorkingMemory.missing, Text.mem_sortedNames, List.mem_filter] at member
    obtain ⟨entry, declared, rfl⟩ := List.mem_map.1 member.1
    have lost : ¬ checkInput pipe memory entry = .ok () := by
      intro passed
      obtain ⟨stuff, found, -⟩ := checkInput_eq_ok.1 passed
      simp [WorkingMemory.contains, found] at member
    constructor
    · split <;> rintro ⟨⟩
    · intro passed
      exact absurd (passed entry declared) lost

theorem checkOutput_eq_ok {pipe : Pipe} {concept : Concept} :
    checkOutput pipe concept = .ok () ↔
      (pipe.signature.output.isOpen || concept.isCompatible pipe.signature.output) = true := by
  unfold checkOutput
  dsimp only
  split <;> simp_all

/-- What a pipe has declared passes the check of its output. -/
theorem checkOutput_declared (pipe : Pipe) : checkOutput pipe pipe.signature.output = .ok () := by
  rw [checkOutput_eq_ok, Concept.isCompatible_self, Bool.or_true]

theorem checkOutput_eq_error {pipe : Pipe} {concept : Concept} {cause : Cause}
    (h : checkOutput pipe concept = .error cause) :
    cause = .outputMismatch pipe.code pipe.signature.output.fullName concept.fullName := by
  unfold checkOutput at h
  dsimp only at h
  split at h <;> cases h
  rfl

theorem checkOutput_ofRun {pipe : Pipe} {concept : Concept} {cause : Cause}
    (h : checkOutput pipe concept = .error cause) : cause.OfRun := by
  rw [checkOutput_eq_error h]
  exact .outputMismatch _ _ _

/-- A pipe that holds its place respects a law if its calls and its own work do, and what it
gives has passed the check of the output. -/
theorem meets_execute {pipe : Pipe} {memory : WorkingMemory} {output : Option String}
    (fault : ∀ cause : Cause, cause.OfRun → bad (.ofCause cause))
    (serves : ∀ code multiplicity, pipe.Calls params code multiplicity →
      library.Serves law runner params stack bad code multiplicity)
    (makes : ∀ stuff, library.Makes pipe.signature params output stuff → law.Has memory stuff) :
    Meets stack (fun out => law.Good memory out ∧ pipe.Delivers out) bad
      (library.execute runner pipe memory params output) := by
  have checked : Meets stack (fun _ => True) bad
      (Run.require id (checkInputs pipe memory params)) :=
    .require (fun _ _ => trivial) fun cause h => fault cause (checkInputs_ofRun h)
  apply checked.bind
  intro _ _
  have ran : Meets stack (law.Yields memory) bad
      (library.runBody runner pipe memory params output) :=
    meets_runBody (fun cause h => fault cause (.body h)) serves makes
  apply ran.bind
  intro product yields
  have fits : Meets stack (fun _ => checkOutput pipe product.stuff.concept = .ok ()) bad
      (Run.require id (checkOutput pipe product.stuff.concept)) :=
    .require (fun _ h => h) fun cause h => fault cause (checkOutput_ofRun h)
  apply fits.bind
  intro _ accepted
  rw [conclude_eq]
  refine .pure ⟨⟨law.storeMain _ yields.1 yields.2, law.rename _ yields.2⟩, ?_, ?_⟩
  · simp only [WorkingMemory.storeMain_slots, Stuff.rename_name, WorkingMemory.get?_store_self]
  · exact checkOutput_eq_ok.1 accepted

/-- A contract for runs of pipes of a library. It allows for an overflow, and a pipe that holds
its place keeps it whenever its callees do, one place further up. -/
structure RunContract (library : Library) where
  /-- The runs that the contract is for. -/
  scope : Pipe → Params → Prop
  good : Pipe → WorkingMemory → Params → Output → Prop
  bad : Pipe → Params → Option String → PipeStack → RunError → Prop
  calls : ∀ {pipe params code multiplicity callee}, scope pipe params →
    pipe.Calls params code multiplicity → library.find? code = some callee →
    scope callee (params.forCallee multiplicity)
  overflow : ∀ pipe (params : Params) output (stack : PipeStack), params.limit ≤ stack.length →
    bad pipe params output stack (.located (contextOf pipe params output stack)
      (.ofCause (.stackOverflow params.limit (stack ++ [pipe.code]))))
  execute : ∀ runner pipe memory (params : Params) output (stack : PipeStack),
    scope pipe params → stack.length < params.limit →
    (∀ code multiplicity, pipe.Calls params code multiplicity →
      ∀ callee, library.find? code = some callee → ∀ memory output,
        Meets (stack ++ [pipe.code]) (good callee memory (params.forCallee multiplicity))
          (bad callee (params.forCallee multiplicity) output (stack ++ [pipe.code]))
          (runner callee memory (params.forCallee multiplicity) output)) →
    Meets (stack ++ [pipe.code]) (good pipe memory params)
      (fun fault => bad pipe params output stack
        (fault.annotate (contextOf pipe params output (stack ++ [pipe.code]))))
      (library.execute runner pipe memory params output)

namespace RunContract

/-- A law that work respects is respected by all runs in a scope, and what they give is what their
pipes declare. Failures are not looked at. -/
def ofLaw (library : Library) (law : MemoryLaw) (scope : Pipe → Params → Prop)
    (calls : ∀ {pipe params code multiplicity callee}, scope pipe params →
      pipe.Calls params code multiplicity → library.find? code = some callee →
      scope callee (params.forCallee multiplicity))
    (makes : ∀ {pipe params output memory stuff}, scope pipe params →
      library.Makes pipe.signature params output stuff → law.Has memory stuff) :
    RunContract library where
  scope := scope
  good pipe memory _ output := law.Good memory output ∧ pipe.Delivers output
  bad _ _ _ _ _ := True
  calls := calls
  overflow _ _ _ _ _ := trivial
  execute runner pipe memory params output stack inScope _ callees := by
    refine meets_execute (fun _ _ => trivial) (fun code multiplicity called => ?_)
      fun stuff made => makes inScope made
    constructor
    · intro _
      trivial
    · intro callee found memory output
      have ran := callees code multiplicity called callee found memory output
      exact ran.consequence (fun _ good => good.1) fun _ _ => trivial

variable (contract : RunContract library)

/-- The induction is on the room that is left. Where it is used up, so are the places on the
stack. -/
theorem meets_runWithin (room : Nat) (pipe : Pipe) (memory : WorkingMemory) (params : Params)
    (output : Option String) (stack : PipeStack) (inScope : contract.scope pipe params)
    (enough : params.limit ≤ room + stack.length) :
    Meets stack (contract.good pipe memory params) (contract.bad pipe params output stack)
      (library.runWithin room pipe memory params output) := by
  induction room generalizing pipe memory params output stack with
  | zero =>
      apply Meets.framed (contract.overflow pipe params output stack)
      intro free
      omega
  | succ room ih =>
      apply Meets.framed (contract.overflow pipe params output stack)
      intro free
      apply contract.execute _ pipe memory params output stack inScope free
      intro code multiplicity calls callee found memory output
      apply ih callee memory (params.forCallee multiplicity) output
      · exact contract.calls inScope calls found
      · rw [Params.forCallee_limit, List.length_append, List.length_singleton]
        omega

theorem meets_run (pipe : Pipe) (memory : WorkingMemory) (params : Params)
    (output : Option String) (stack : PipeStack) (inScope : contract.scope pipe params) :
    Meets stack (contract.good pipe memory params) (contract.bad pipe params output stack)
      (library.run pipe memory params output) := by
  rintro state rfl
  have enough : params.limit ≤ params.limit - state.stack.length + state.stack.length := by omega
  exact contract.meets_runWithin _ pipe memory params output _ inScope enough state rfl

end RunContract

/-- The runs of all pipes only advance the state. -/
def AdvancesAll (runner : Runner) : Prop :=
  ∀ pipe memory params output, Advancing (runner pipe memory params output)

section Advancing

variable {pipe : Pipe} {memory : WorkingMemory} {output : Option String}
variable (advancing : AdvancesAll runner)
include advancing

theorem serves_trivial {code : String} {multiplicity : Option Multiplicity} :
    library.Serves .trivial runner params stack (fun _ => True) code multiplicity := by
  refine ⟨fun _ => trivial, fun callee _ memory output => ?_⟩
  exact ((advancing _ _ _ _).meets stack).mono_good fun _ _ => ⟨trivial, trivial⟩

theorem advancing_runStep {step : Step} :
    Advancing (library.runStep runner step memory params) :=
  Meets.advancing fun _ => meets_runStep (fun _ _ => trivial) (serves_trivial advancing)

theorem advancing_runSteps {first : Step} {rest : List Step} :
    Advancing (library.runSteps runner params first rest memory) :=
  Meets.advancing fun _ => meets_runSteps (fun _ _ => trivial) fun _ _ => serves_trivial advancing

theorem advancing_runBranch {branch : Branch} :
    Advancing (library.runBranch runner memory params branch) :=
  Meets.advancing fun _ => meets_runBranch (fun _ _ => trivial) (serves_trivial advancing)

theorem advancing_runBody : Advancing (library.runBody runner pipe memory params output) :=
  Meets.advancing fun _ =>
    meets_runBody (fun _ _ => trivial) (fun _ _ _ => serves_trivial advancing) fun _ _ => trivial

theorem advancing_execute : Advancing (library.execute runner pipe memory params output) :=
  Meets.advancing fun _ =>
    meets_execute (fun _ _ => trivial) (fun _ _ _ => serves_trivial advancing) fun _ _ => trivial

end Advancing

theorem advancing_runWithin (room : Nat) : AdvancesAll (library.runWithin room) := by
  induction room with
  | zero =>
      intro pipe memory params output
      exact .framed fun state => .refl state
  | succ room ih =>
      intro pipe memory params output
      exact .framed (advancing_execute ih)

end Library

end Conduit
