import Conduit.Proofs.Sample
import Conduit.Proofs.Memory.Frame
import Conduit.Proofs.Run.Agreement
import Conduit.Proofs.Run.Branches

/-!
# Branches side by side

There are three ways to have branches. A parallel runs several pipes, a batch runs one pipe for
every item of a list, and so does a step or a branch that names a list. They have in common that
each branch is run once, on the memory of the caller, with its own item in it if there is one.
What a branch writes to its copy of the memory is seen by no other branch. All branches are run
even if some fail, and the first of those is the failure of the whole.

They differ in what they make of the results. A parallel may keep each result under its own name,
and the others make a list of the contents. Then the router stores the result of the pipe as the
latest one. What is in no name that was written to is left alone.
-/

namespace Conduit

/-- The names under which a parallel keeps the results of its branches. -/
def Parallel.keptNames (parallel : Parallel) : List String :=
  if parallel.keepsEach then parallel.branches.map (·.result) else []

namespace Library

open Run

/-- What a parallel makes of the results of its branches: a product, with the results in its memory
if each is kept, unless they make no stuff. -/
def Gathers (signature : Signature) (parallel : Parallel) (memory : WorkingMemory)
    (output : Option String) (results : List (String × Stuff))
    (outcome : Except RunError Product) : Prop :=
  ∃ first others, results = first :: others ∧
    match gatherResults signature parallel output first others with
    | .ok stuff =>
      outcome = .ok ⟨if parallel.keepsEach then keepResults memory results else memory, stuff⟩
    | .error error => outcome = .error (.ofCause (.concept error))

/-- What is made of the outputs for the items of a list: a stuff with the list of their contents, of
which there are as many and in the same order, unless one of them does not fit the concept. -/
def Lists {α : Type} (stuffOf : α → Stuff) (name : String) (concept : Concept)
    (items : List Content) (outputs : List Output) (outcome : Except RunError α) : Prop :=
  outputs.length = items.length ∧
  match Stuff.misfit? concept (.list (outputs.map (·.main.content))) with
  | none => ∃ value, outcome = .ok value ∧
      stuffOf value = ⟨name, concept, .list (outputs.map (·.main.content))⟩
  | some misfit => outcome = .error (.ofCause (.concept
      (.contentMismatch concept.fullName concept.className misfit.className)))

/-- The runs of the steps of branches, each on a copy of the memory. The result is named by the
branch. -/
def branchRuns (library : Library) (memory : WorkingMemory) (params : Params)
    (branches : List Branch) : List (Run (String × Stuff)) :=
  branches.map fun branch => do
    let output ← library.runStep library.run branch.step memory params
    return (branch.result, output.main)

/-- The runs of a pipe for the items of a list. -/
def itemRuns (library : Library) (callee : Pipe) (memory : WorkingMemory) (params : Params)
    (list : Stuff) (items : List Content) (name : String) : List (Run Output) :=
  items.map fun item => library.run callee (itemMemory memory list name item) params none

theorem Lists.map {α β : Type} {stuffOf : α → Stuff} {stuffOf' : β → Stuff} {name : String}
    {concept : Concept} {items : List Content} {outputs : List Output}
    {outcome : Except RunError α} {f : α → β}
    (h : Lists stuffOf name concept items outputs outcome)
    (same : ∀ value content, stuffOf value = ⟨name, concept, content⟩ →
      stuffOf' (f value) = ⟨name, concept, content⟩) :
    Lists stuffOf' name concept items outputs (outcome.map f) := by
  obtain ⟨length, made⟩ := h
  refine ⟨length, ?_⟩
  split at made
  · obtain ⟨value, rfl, stuff⟩ := made
    exact ⟨f value, rfl, same value _ stuff⟩
  · subst made
    rfl

variable {library : Library} {runner : Runner} {pipe callee : Pipe} {memory : WorkingMemory}
variable {params : Params} {output : Option String} {batch : Batch} {list : Stuff}
variable {items : List Content}

theorem runBody_batch {code : String} (body : pipe.body = .batch code batch)
    (known : library.find? code = some callee) :
    library.runBody runner pipe memory params output =
      (fanOut runner callee memory (params.forCallee none) batch
        (pipe.signature.resultName output) >>= fun stuff => pure ⟨memory, stuff⟩) := by
  simp only [runBody, body]
  rw [runBatch, get_eq_ok.2 known]
  rfl

theorem runStep_batch {step : Step} (batched : step.batch = some batch)
    (known : library.find? step.pipe = some callee) :
    library.runStep runner step memory params =
      (fanOut runner callee memory (params.forCallee step.multiplicity) batch
        (callee.signature.resultName step.result) >>= fun stuff =>
          pure ⟨memory.storeMain (callee.signature.resultName step.result) stuff,
            stuff.rename (callee.signature.resultName step.result)⟩) := by
  rw [runStep, get_eq_ok.2 known]
  simp only [batched, conclude_eq]
  rfl

theorem joins_fanOut {name : String} (found : memory.getList batch.list = .ok (list, items)) :
    Joins (library.itemRuns callee memory params list items batch.item)
      (Lists id name callee.signature.output items)
      (fanOut library.run callee memory params batch name) := by
  rw [fanOut, found]
  apply Joins.counted
  apply (Joins.join fun item => library.advancing_run _ _ _ _).bind
  rintro outputs _ rfl state
  unfold Stuff.make
  cases Stuff.misfit? callee.signature.output (.list (outputs.map (·.main.content))) with
  | none => exact ⟨rfl, _, rfl, rfl⟩
  | some misfit => exact ⟨rfl, rfl⟩

theorem joins_batch {code : String} (body : pipe.body = .batch code batch)
    (known : library.find? code = some callee)
    (found : memory.getList batch.list = .ok (list, items)) :
    Joins (library.itemRuns callee memory (params.forCallee none) list items batch.item)
      (Lists Product.stuff (pipe.signature.resultName output) callee.signature.output items)
      (library.runBody library.run pipe memory params output) := by
  rw [runBody_batch body known]
  exact (joins_fanOut found).map fun _ _ lists => lists.map fun _ _ stuff => stuff

theorem joins_step {step : Step} (batched : step.batch = some batch)
    (known : library.find? step.pipe = some callee)
    (found : memory.getList batch.list = .ok (list, items)) :
    Joins (library.itemRuns callee memory (params.forCallee step.multiplicity) list items
        batch.item)
      (Lists Output.main (callee.signature.resultName step.result) callee.signature.output items)
      (library.runStep library.run step memory params) := by
  rw [runStep_batch batched known]
  refine (joins_fanOut found).map fun _ _ lists => lists.map fun stuff content made => ?_
  -- The stuff has its name already, so that to rename it is to leave it as it is.
  obtain rfl : stuff = ⟨_, _, content⟩ := made
  rfl

theorem joins_parallel {parallel : Parallel} (body : pipe.body = .parallel parallel)
    (known : ∀ branch ∈ parallel.branches, (library.find? branch.pipe).isSome) :
    Joins (library.branchRuns memory params parallel.branches)
      (Gathers pipe.signature parallel memory output)
      (library.runBody library.run pipe memory params output) := by
  have advancing : ∀ branch, Advancing (library.runBranch library.run memory params branch) :=
    fun _ => advancing_runBranch library.advancing_run
  simp only [runBody, body]
  rw [runParallel, checkBranches_eq_ok.2 known]
  apply ((Joins.join advancing).both (advancing parallel.first)).bind
  rintro _ ⟨first, _⟩ ⟨others, rfl, rfl⟩ state
  refine ⟨?_, first, others, rfl, ?_⟩ <;> dsimp only <;>
    cases gatherResults pipe.signature parallel output first others <;> rfl

/-- The result of a branch bears the name that the branch gives it. -/
theorem runBranch_name {branch : Branch} {result : String × Stuff} {start rest : RunState}
    (ran : library.runBranch runner memory params branch start = (.ok result, rest)) :
    result.1 = branch.result := by
  obtain ⟨_, _, -, named⟩ := bind_eq_ok.1 ran
  cases named
  rfl

/-- A parallel writes the results that it keeps, and nothing else. -/
theorem untouched_parallel {parallel : Parallel} {product : Product} {state final : RunState}
    (body : pipe.body = .parallel parallel)
    (known : ∀ branch ∈ parallel.branches, (library.find? branch.pipe).isSome)
    (ran : library.runBody library.run pipe memory params output state = (.ok product, final)) :
    memory.Untouched parallel.keptNames product.memory := by
  have joins : Joins (library.branchRuns memory params parallel.branches)
      (Gathers pipe.signature parallel memory output)
      (library.runBody library.run pipe memory params output) :=
    joins_parallel body known
  obtain ⟨outcomes, asked, turns, -, settles⟩ := joins state
  rw [ran] at turns settles
  cases settles with
  | values results gathers =>
      obtain ⟨_, _, -, made⟩ := gathers
      split at made <;> cases made
      -- The results come in the order of the branches, and so do their names.
      have same : List.Forall₂ Eq (parallel.branches.map (·.result)) (results.map Prod.fst) := by
        rw [List.forall₂_map_left_iff, List.forall₂_map_right_iff]
        exact turns.values.imp fun _ _ ⟨_, _, kept⟩ => (runBranch_name kept).symm
      rw [List.forall₂_eq_eq_eq] at same
      rw [Parallel.keptNames]
      split
      · rw [same]
        exact .keepResults memory results
      · exact .refl [] memory

/-- The product of the last step is the product of the steps. The only step is run on the memory
that all begin with. -/
theorem runSteps_eq_ok {first : Step} {others : List Step} {state final : RunState}
    {product : Product}
    (ran : library.runSteps runner params first others memory state = (.ok product, final)) :
    ∃ step before start result, (first :: others).getLast? = some step ∧
      library.runStep runner step before params start = (.ok result, final) ∧
      product = ⟨result.memory, result.main⟩ ∧ (others = [] → before = memory) := by
  induction others generalizing first memory state with
  | nil =>
      obtain ⟨result, _, stepped, concluded⟩ := bind_eq_ok.1 ran
      cases concluded
      exact ⟨first, memory, state, result, rfl, stepped, rfl, fun _ => rfl⟩
  | cons next others ih =>
      obtain ⟨result, middle, -, continued⟩ := bind_eq_ok.1 ran
      obtain ⟨step, before, start, last, isLast, stepped, produced, -⟩ := ih continued
      exact ⟨step, before, start, last, by rwa [List.getLast?_cons_cons], stepped, produced, nofun⟩

theorem untouched_step {step : Step} {result : Output} {start final : RunState}
    (batched : step.batch = some batch) (known : library.find? step.pipe = some callee)
    (ran : library.runStep runner step memory params start = (.ok result, final)) :
    memory.Untouched [callee.signature.resultName step.result, WorkingMemory.mainName]
      result.memory := by
  rw [runStep_batch batched known] at ran
  obtain ⟨stuff, _, -, concluded⟩ := bind_eq_ok.1 ran
  cases concluded
  exact .storeMain memory _ stuff

/-- A batch writes nothing. -/
theorem untouched_batch {code : String} {product : Product} {start final : RunState}
    (body : pipe.body = .batch code batch) (known : library.find? code = some callee)
    (ran : library.runBody runner pipe memory params output start = (.ok product, final)) :
    memory.Untouched [] product.memory := by
  rw [runBody_batch body known] at ran
  obtain ⟨stuff, _, -, concluded⟩ := bind_eq_ok.1 ran
  cases concluded
  exact .refl [] memory

/-- What the router adds to what the body has written. -/
theorem untouched_run {origin : WorkingMemory} {names : List String} {result : Output}
    {state final : RunState}
    (ran : library.run pipe memory params output state = (.ok result, final))
    (body : ∀ product inner, library.runBody library.run pipe memory params output
      (state.enter pipe.code) = (.ok product, inner) → origin.Untouched names product.memory) :
    origin.Untouched (names ++ [result.main.name, WorkingMemory.mainName]) result.memory := by
  obtain ⟨-, -, product, inner, produced, -, rfl, -⟩ := run_eq_ok.1 ran
  exact (body product inner produced).thenStoreMain _ _

/-- Nothing is written after the last step of a sequence but the result of the sequence. -/
theorem untouched_sequence {sequence : Sequence} {step : Step} {result : Output}
    {state final : RunState} (body : pipe.body = .sequence sequence)
    (isLast : sequence.steps.getLast? = some step) (batched : step.batch = some batch)
    (known : library.find? step.pipe = some callee)
    (ran : library.run pipe memory params output state = (.ok result, final)) :
    ∃ before start handed middle,
      library.runStep library.run step before params start = (.ok handed, middle) ∧
      before.SameApart [callee.signature.resultName step.result, result.main.name,
        WorkingMemory.mainName] result.memory ∧
      (sequence.rest = [] → before = memory) := by
  obtain ⟨-, -, product, inner, produced, -, rfl, -⟩ := run_eq_ok.1 ran
  simp only [runBody, body] at produced
  obtain ⟨last, before, start, handed, isLast', stepped, rfl, only⟩ := runSteps_eq_ok produced
  obtain rfl : step = last := Option.some.inj (isLast.symm.trans isLast')
  have written := (untouched_step batched known stepped).thenStoreMain
    (output.getD handed.main.name) handed.main
  exact ⟨before, start, handed, inner, stepped, (written.mono (by simp)).sameApart, only⟩

/-- The branches of a parallel, of a batch or of a step that names a list are run once each and in
turn, on copies of the memory. The generator has the jobs of all of them in order, and the first
failure is the failure of the whole. If none fails, then the contents for the items of a list make
a list, and nothing in the memory of the router has changed but the names that were written to and
their aliases. -/
theorem branches_join (library : Library) (memory : WorkingMemory) (params : Params) :
    (∀ pipe parallel output, pipe.body = .parallel parallel →
      (∀ branch ∈ parallel.branches, (library.find? branch.pipe).isSome) →
      Joins (library.branchRuns memory params parallel.branches)
        (Gathers pipe.signature parallel memory output)
        (library.runBody library.run pipe memory params output) ∧
      ∀ state result final, library.run pipe memory params output state = (.ok result, final) →
        memory.SameApart (parallel.keptNames ++ [result.main.name, WorkingMemory.mainName])
          result.memory) ∧
    (∀ batch list items, memory.getList batch.list = .ok (list, items) →
      (∀ item, (itemMemory memory list batch.item item).find? batch.item =
          some ⟨batch.item, list.concept, item⟩ ∧
        memory.SameApart [batch.item] (itemMemory memory list batch.item item)) ∧
      (∀ pipe code callee output, pipe.body = .batch code batch →
        library.find? code = some callee →
        Joins (library.itemRuns callee memory (params.forCallee none) list items batch.item)
          (Lists Product.stuff (pipe.signature.resultName output) callee.signature.output items)
          (library.runBody library.run pipe memory params output) ∧
        ∀ state result final, library.run pipe memory params output state = (.ok result, final) →
          memory.SameApart [result.main.name, WorkingMemory.mainName] result.memory) ∧
      (∀ step callee, step.batch = some batch → library.find? step.pipe = some callee →
        Joins (library.itemRuns callee memory (params.forCallee step.multiplicity) list items
            batch.item)
          (Lists Output.main (callee.signature.resultName step.result) callee.signature.output
            items)
          (library.runStep library.run step memory params) ∧
        ∀ state result final,
          library.runStep library.run step memory params state = (.ok result, final) →
          memory.SameApart [callee.signature.resultName step.result, WorkingMemory.mainName]
            result.memory)) ∧
    (∀ pipe sequence step batch callee output state result final,
      pipe.body = .sequence sequence → sequence.steps.getLast? = some step →
      step.batch = some batch → library.find? step.pipe = some callee →
      library.run pipe memory params output state = (.ok result, final) →
      ∃ before start handed middle,
        library.runStep library.run step before params start = (.ok handed, middle) ∧
        before.SameApart [callee.signature.resultName step.result, result.main.name,
          WorkingMemory.mainName] result.memory ∧
        (sequence.rest = [] → before = memory)) ∧
    (∀ pipe output state error inner, state.stack.length < params.limit →
      checkInputs pipe memory params = .ok () →
      library.runBody library.run pipe memory params output (state.enter pipe.code) =
        (.error error, inner) →
      library.run pipe memory params output state =
        (.error (error.annotate (contextOf pipe params output (state.stack ++ [pipe.code]))),
          inner.leave pipe.code)) := by
  refine ⟨?parallel, ?items, ?sequence, ?router⟩
  case parallel =>
    intro pipe parallel output body known
    refine ⟨joins_parallel body known, fun state result final ran => ?_⟩
    exact (untouched_run ran fun _ _ => untouched_parallel body known).sameApart
  case items =>
    intro batch list items found
    refine ⟨fun item => ?_, ?_, ?_⟩
    · exact ⟨memory.find?_store_self _ _, (WorkingMemory.Untouched.store _ _ _).sameApart⟩
    · intro pipe code callee output body known
      refine ⟨joins_batch body known found, fun state result final ran => ?_⟩
      exact (untouched_run ran fun _ _ => untouched_batch body known).sameApart
    · intro step callee batched known
      refine ⟨joins_step batched known found, fun state result final ran => ?_⟩
      exact (untouched_step batched known ran).sameApart
  case sequence =>
    intro pipe sequence step batch callee output state result final body isLast batched known ran
    exact untouched_sequence body isLast batched known ran
  case router =>
    intro pipe output state error inner free checked failed
    exact run_eq_error free checked failed

/-- At the desk the second of three branches fails. Both letters are written nevertheless. When the
lines of a list are stamped, by a batch or in a step, the line that is there beforehand stays. -/
theorem office_branches_join :
    Joins (Sample.inkless.branchRuns Sample.memory (Sample.live 3) Sample.desk.branches)
      (Gathers Sample.serve.signature Sample.desk Sample.memory none)
      (Sample.inkless.runBody Sample.inkless.run Sample.serve Sample.memory (Sample.live 3) none) ∧
    (∃ error final, Sample.inkless.run Sample.serve Sample.memory (Sample.live 3) none .initial =
        (.error error, final) ∧
      error.cause = .collaborator (.function "stamp" "out of ink") ∧
      final.jobs.map Job.pipe = ["write", "write"]) ∧
    (∃ result final, Sample.openOffice.run Sample.stampAll Sample.memory (Sample.live 3) none
        .initial = (.ok result, final) ∧
      result.memory.find? "line" = Sample.memory.find? "line") ∧
    ∃ result final, Sample.openOffice.run Sample.file Sample.memory (Sample.live 3) none
        .initial = (.ok result, final) ∧
      result.memory.find? "line" = Sample.memory.find? "line" := by
  have atDesk := (branches_join Sample.inkless Sample.memory (Sample.live 3)).1 Sample.serve
    Sample.desk none rfl (by decide)
  obtain ⟨-, items, sequences, -⟩ :=
    branches_join Sample.openOffice Sample.memory (Sample.live 3)
  obtain ⟨error, final, fails, cause, jobs⟩ : ∃ error final,
      Sample.inkless.run Sample.serve Sample.memory (Sample.live 3) none .initial =
        (.error error, final) ∧
      error.cause = .collaborator (.function "stamp" "out of ink") ∧
      final.jobs.map Job.pipe = ["write", "write"] := ⟨_, _, rfl, rfl, rfl⟩
  obtain ⟨list, content, found⟩ : ∃ list content,
      Sample.memory.getList Sample.eachLine.list = .ok (list, content) := ⟨_, _, rfl⟩
  refine ⟨atDesk.1, ⟨error, final, fails, cause, jobs⟩, ?_, ?_⟩
  · obtain ⟨result, after, stamps, named⟩ : ∃ result final, Sample.openOffice.run Sample.stampAll
        Sample.memory (Sample.live 3) none .initial = (.ok result, final) ∧
        result.main.name = "text" := ⟨_, _, rfl, rfl⟩
    have frame := ((items _ list content found).2.1 Sample.stampAll "stamp" Sample.stamp none
      rfl rfl).2 .initial result after stamps
    rw [named] at frame
    exact ⟨result, after, stamps, frame "line" (by decide) (by decide)⟩
  · obtain ⟨result, after, files, named⟩ : ∃ result final, Sample.openOffice.run Sample.file
        Sample.memory (Sample.live 3) none .initial = (.ok result, final) ∧
        result.main.name = "stamped" := ⟨_, _, rfl, rfl⟩
    obtain ⟨before, start, handed, middle, stepped, frame, only⟩ := sequences Sample.file _
      Sample.stampStep Sample.eachLine Sample.stamp none .initial result after rfl rfl rfl rfl files
    obtain rfl := only rfl
    rw [named] at frame
    exact ⟨result, after, files, frame "line" (by decide) (by decide)⟩

end Library

end Conduit
