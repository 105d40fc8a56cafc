import Conduit.Proofs.Run.ContentFaults

/-!
# How pipes fail by themselves

A pipe that holds its place on the stack is put together out of a check of its inputs, its body,
and a check of its output. Here it is read off, once for all kinds of bodies, which pipes it calls
and with which causes it fails by itself.

Most look-ups in a body cannot fail, since the check of the inputs has come before. What remains
are the lists of batches, for these need not be declared. A dry run differs from a live one in how
it tells of missing inputs and of questions without an answer, and in that it never fails to choose:
a condition has a pipe to fall back on, as something can be chosen at all.
-/

namespace Conduit

/-- The batches over which a body runs pipes. -/
def PipeBody.batches : PipeBody → List Batch
  | .sequence body => body.steps.filterMap Step.batch
  | .parallel body => body.branches.filterMap Branch.batch
  | .batch _ items => [items]
  | _ => []

/-- What can go wrong with a list of this name. -/
inductive MemoryError.OfList (name : String) : MemoryError → Prop
  | stuffNotFound : OfList name (.stuffNotFound name)
  | notAList (className : String) : OfList name (.notAList name className)

/-- The causes with which a pipe that holds its place can fail by itself. The classes that it can
miss are those of the concepts that it speaks of. -/
inductive Pipe.OwnFault (pipe : Pipe) (library : Library) (params : Params) : Cause → Prop
  | concept {error : ConceptError} (h : error.OfContent library.vocabulary pipe.SpeaksOf) :
      OwnFault pipe library params (.concept error)
  | collaborator (error : CollaboratorError) : OwnFault pipe library params (.collaborator error)
  /-- The pipe reads something that it does not declare. -/
  | undeclared {name : String} (reads : name ∈ pipe.body.reads)
      (absent : name ∉ pipe.signature.inputs.keys) :
      OwnFault pipe library params (.memory (.stuffNotFound name))
  | list {batch : Batch} {error : MemoryError} (member : batch ∈ pipe.body.batches)
      (h : error.OfList batch.list) : OwnFault pipe library params (.memory error)
  | question (live : params.isDry = false) (error : ConditionError) :
      OwnFault pipe library params (.condition error)
  | pretence (dry : params.isDry = true) (source text : String) :
      OwnFault pipe library params (.dryRun (.evaluation pipe.code source text))
  | missingInputs (live : params.isDry = false) (names : List String) :
      OwnFault pipe library params (.missingInputs pipe.code names)
  | pretendedInputs (dry : params.isDry = true) (names : List String) :
      OwnFault pipe library params (.dryRun (.missingInputs pipe.code names))
  | pipeNotFound (code : String) : OwnFault pipe library params (.pipeNotFound code)
  | inputMismatch (input expected found : String) :
      OwnFault pipe library params (.inputMismatch pipe.code input expected found)
  | outputMismatch (expected found : String) :
      OwnFault pipe library params (.outputMismatch pipe.code expected found)

theorem WorkingMemory.failsOnly_getList (memory : WorkingMemory) (name : String) :
    FailsOnly (MemoryError.OfList name) (memory.getList name) := by
  refine FailsOnly.bind ?_ fun stuff _ => ?_
  · rw [get]
    split
    · exact .ok _
    · exact .error .stuffNotFound
  · split
    · exact .ok _
    · exact .error (.notAList _)

namespace Library

open Composed

/-- The pipes that a pipe with these parameters calls, each with the parameters that it gives. -/
def Callee (library : Library) (pipe : Pipe) (params : Params) (callee : Pipe)
    (given : Params) : Prop :=
  ∃ code multiplicity, pipe.Calls params code multiplicity ∧ library.find? code = some callee ∧
    given = params.forCallee multiplicity

variable {library : Library} {pipe : Pipe} {memory : WorkingMemory} {params : Params}
variable {output : Option String}

theorem failsOnly_get (code : String) :
    FailsOnly (pipe.OwnFault library params) (library.get code) := by
  rw [get]
  split
  · exact .ok _
  · exact .error (.pipeNotFound code)

theorem failsOnly_checkBranches (branches : List Branch) :
    FailsOnly (pipe.OwnFault library params) (library.checkBranches branches) := by
  rintro _ failed
  obtain ⟨branch, -, -, rfl⟩ := checkBranches_eq_error failed
  exact .pipeNotFound branch.pipe

theorem failsOnly_gatherResults {signature : Signature} {parallel : Parallel}
    {first : String × Stuff} {others : List (String × Stuff)} :
    FailsOnly (ConceptError.OfContent library.vocabulary pipe.SpeaksOf)
      (gatherResults signature parallel output first others) := by
  rw [gatherResults]
  split
  · exact Stuff.failsOnly_make _ _ _
  · exact .ok _

theorem failsOnly_keepAnswer {condition : Condition} {answer : String} :
    FailsOnly (ConceptError.OfContent library.vocabulary pipe.SpeaksOf)
      (library.keepAnswer condition memory answer) := by
  rw [keepAnswer]
  split
  · exact .ok _
  · exact (Stuff.failsOnly_make _ _ _).bind fun _ _ => .ok _

theorem noAnswer_ownFault (question : Question) (error : CollaboratorError) :
    pipe.OwnFault library params (noAnswer pipe.signature question params error) := by
  unfold noAnswer
  dsimp only
  split
  · next dry => exact .pretence dry _ _
  · next live => exact .question (Bool.eq_false_iff.2 live) _

/-- Without a pipe to fall back on there is a first choice, which a dry run takes. -/
theorem failsOnly_choose (condition : Condition) (answer : String) :
    FailsOnly (pipe.OwnFault library params) (choose pipe.signature condition params answer) := by
  rw [choose]
  split
  · exact .ok _
  · exact .ok _
  · next otherwise =>
    split
    · split
      · exact .ok _
      · next live => exact .error (.question (Bool.eq_false_iff.2 live) _)
    · next none =>
      have empty : condition.choices.entries = [] :=
        List.map_eq_nil_iff.1 (List.head?_eq_none_iff.1 none)
      have live := condition.live
      simp [OrderedMap.isEmpty, empty, otherwise] at live

theorem failsOnly_checkInputs :
    FailsOnly (pipe.OwnFault library params) (checkInputs pipe memory params) := by
  rw [checkInputs]
  split
  · next present =>
    refine .forM fun entry member => ?_
    rw [checkInput]
    -- No input is missing, so the look-up of this one succeeds.
    have found : (memory.find? entry.1).isSome := by
      by_contra lost
      have missed : entry.1 ∈ memory.missing pipe.signature.inputs.keys := by
        rw [WorkingMemory.missing, Text.mem_sortedNames, List.mem_filter]
        exact ⟨List.mem_map_of_mem member, by simpa [WorkingMemory.contains] using lost⟩
      rw [present] at missed
      cases missed
    obtain ⟨stuff, found⟩ := Option.isSome_iff_exists.1 found
    rw [WorkingMemory.get_eq_ok.2 found]
    refine (FailsOnly.ok stuff).bind fun stuff _ => ?_
    dsimp only
    split
    · exact .ok _
    · exact .error (.inputMismatch _ _ _)
  · split
    · next dry => exact .error (.pretendedInputs dry _)
    · next live => exact .error (.missingInputs (Bool.eq_false_iff.2 live) _)

theorem failsOnly_checkOutput (produced : Concept) :
    FailsOnly (pipe.OwnFault library params) (checkOutput pipe produced) := by
  intro cause failed
  rw [checkOutput_eq_error failed]
  exact .outputMismatch _ _

theorem composed_fanOut {branch : Pipe} {given : Params} {batch : Batch} {result : String}
    (called : library.Callee pipe params branch given) (listed : batch ∈ pipe.body.batches) :
    Composed (library.Callee pipe params) (pipe.OwnFault library params) fun runner =>
      fanOut runner branch memory given batch result := by
  refine require_bind (fun error failed => .list listed (memory.failsOnly_getList _ error failed))
    fun ⟨list, items⟩ _ => ?_
  have each : ∀ item ∈ items, Composed (library.Callee pipe params) (pipe.OwnFault library params)
      fun runner => runner branch (itemMemory memory list batch.item item) given none :=
    fun item _ => call _ none called
  exact (join each).bind fun outputs =>
    require fun error failed => .concept (Stuff.failsOnly_make _ _ _ error failed)

theorem composed_runStep {step : Step} (calls : pipe.Calls params step.pipe step.multiplicity)
    (listed : ∀ batch, step.batch = some batch → batch ∈ pipe.body.batches) :
    Composed (library.Callee pipe params) (pipe.OwnFault library params) fun runner =>
      library.runStep runner step memory params := by
  refine require_bind (failsOnly_get step.pipe) fun callee found => ?_
  have called : library.Callee pipe params callee (params.forCallee step.multiplicity) :=
    ⟨step.pipe, step.multiplicity, calls, get_eq_ok.1 found, rfl⟩
  cases batched : step.batch with
  | none => exact call memory step.result called
  | some batch =>
      simp only [conclude_eq]
      exact (composed_fanOut called (listed batch batched)).bind fun stuff => pure _

theorem composed_runSteps {first : Step} {rest : List Step}
    (calls : ∀ step ∈ first :: rest, pipe.Calls params step.pipe step.multiplicity)
    (listed : ∀ step ∈ first :: rest, ∀ batch, step.batch = some batch →
      batch ∈ pipe.body.batches) :
    Composed (library.Callee pipe params) (pipe.OwnFault library params) fun runner =>
      library.runSteps runner params first rest memory := by
  induction rest generalizing first memory with
  | nil =>
      exact (composed_runStep (calls first List.mem_cons_self)
        (listed first List.mem_cons_self)).bind fun output => pure _
  | cons next rest ih =>
      refine (composed_runStep (calls first List.mem_cons_self)
        (listed first List.mem_cons_self)).bind fun output => ?_
      exact ih (fun step member => calls step (List.mem_cons_of_mem _ member))
        fun step member => listed step (List.mem_cons_of_mem _ member)

theorem composed_runParallel {parallel : Parallel} (body : pipe.body = .parallel parallel) :
    Composed (library.Callee pipe params) (pipe.OwnFault library params) fun runner =>
      library.runParallel runner pipe.signature parallel memory params output := by
  have branches : ∀ branch ∈ parallel.branches,
      Composed (library.Callee pipe params) (pipe.OwnFault library params) fun runner =>
        library.runBranch runner memory params branch := by
    intro branch member
    have step : Composed (library.Callee pipe params) (pipe.OwnFault library params) fun runner =>
        library.runStep runner branch.step memory params := by
      refine composed_runStep (.branch body member) fun batch batched => ?_
      rw [body, PipeBody.batches, List.mem_filterMap]
      exact ⟨branch, member, batched⟩
    exact step.bind fun output => pure (branch.result, output.main)
  refine require_bind (failsOnly_checkBranches parallel.branches) fun _ _ => ?_
  have others := join fun branch member => branches branch (List.mem_cons_of_mem _ member)
  refine ((branches parallel.first List.mem_cons_self).both others).bind fun results => ?_
  exact require_bind
    (fun error failed => .concept (failsOnly_gatherResults error failed)) fun _ _ => pure _

theorem composed_runCondition {condition : Condition}
    (body : pipe.body = .condition condition) :
    Composed (library.Callee pipe params) (pipe.OwnFault library params) fun runner =>
      library.runCondition runner pipe.signature condition memory params output := by
  refine require_bind (fun error _ => noAnswer_ownFault _ error) fun answer _ => ?_
  refine require_bind (fun error failed => .concept (failsOnly_keepAnswer error failed))
    fun later _ => ?_
  refine require_bind (failsOnly_choose condition _) fun code chosen => ?_
  refine require_bind (failsOnly_get code) fun callee found => ?_
  have called : library.Callee pipe params callee params :=
    ⟨code, params.multiplicity, .choice body (choose_mem chosen), get_eq_ok.1 found, rfl⟩
  exact (call later output called).bind fun chosen => pure _

theorem composed_runBatch {code : String} {batch : Batch} (body : pipe.body = .batch code batch) :
    Composed (library.Callee pipe params) (pipe.OwnFault library params) fun runner =>
      library.runBatch runner pipe.signature code batch memory params output := by
  refine require_bind (failsOnly_get code) fun callee found => ?_
  have called : library.Callee pipe params callee (params.forCallee none) :=
    ⟨code, none, .batch body, get_eq_ok.1 found, rfl⟩
  have listed : batch ∈ pipe.body.batches := by
    rw [body]
    exact List.mem_singleton_self batch
  exact (composed_fanOut called listed).bind fun stuff => pure _

/-- The body finds all inputs that the pipe declares. -/
theorem composed_runBody
    (present : ∀ name ∈ pipe.signature.inputs.keys, (memory.find? name).isSome) :
    Composed (library.Callee pipe params) (pipe.OwnFault library params) fun runner =>
      library.runBody runner pipe memory params output := by
  cases known : library.work? pipe memory params output with
  | some work =>
      simp only [runBody_of_work known]
      have worked : Composed (library.Callee pipe params) (pipe.OwnFault library params)
          fun _ => work := by
        refine composed_work (fun _ => .concept) .collaborator (fun _ => id) present ?_ known
        intro name reads lost
        refine .undeclared reads fun declared => ?_
        have found := present name declared
        rw [lost] at found
        cases found
      exact worked.bind fun stuff => pure _
  | none =>
      unfold runBody
      cases body : pipe.body with
      | sequence sequence =>
          refine composed_runSteps (fun step member => .step body member) ?_
          intro step member batch batched
          rw [body, PipeBody.batches, List.mem_filterMap]
          exact ⟨step, member, batched⟩
      | parallel parallel => exact composed_runParallel body
      | condition condition => exact composed_runCondition body
      | batch code batch => exact composed_runBatch body
      | _ => simp [work?, body] at known

/-- A pipe that holds its place calls its callees, and fails by itself with its own faults. -/
theorem composed_execute (library : Library) (pipe : Pipe) (memory : WorkingMemory)
    (params : Params) (output : Option String) :
    Composed (library.Callee pipe params) (pipe.OwnFault library params) fun runner =>
      library.execute runner pipe memory params output := by
  refine require_bind failsOnly_checkInputs fun _ checked => ?_
  have present : ∀ name ∈ pipe.signature.inputs.keys, (memory.find? name).isSome := by
    intro name declared
    obtain ⟨entry, member, rfl⟩ := List.mem_map.1 declared
    obtain ⟨stuff, found, -⟩ := checkInput_eq_ok.1 (checkInputs_eq_ok.1 checked entry member)
    rw [found]
    rfl
  refine (composed_runBody present).bind fun product => ?_
  refine require_bind (failsOnly_checkOutput _) fun _ _ => ?_
  simp only [conclude_eq]
  exact pure _

end Library

end Conduit
