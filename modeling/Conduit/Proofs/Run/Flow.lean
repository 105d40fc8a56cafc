import Conduit.Run.Interpreter
import Conduit.Proofs.Run.Work

/-!
# What pipes that run other pipes come to

A law of memories is a statement about what a run makes of the memory it is given. When the
storing of a stuff and the joining of branches respect a law, and the runs of the callees do,
then so does the run of any body. Each rule below is for one way of running other pipes, and
leaves to its caller what the callees come to and which errors are allowed for.

The recursion of pipes is met in one place, `meets_runWithin`: a law that the body of every
pipe respects, if its callees do, is respected by every run, whatever room is left on the stack.
-/

namespace Conduit

/-- A law of memories, closed under what bodies do with memories. -/
structure MemoryLaw where
  /-- What may become of a memory. -/
  Keeps : WorkingMemory → WorkingMemory → Prop
  /-- What a stuff may be that has come out of a memory. -/
  Has : WorkingMemory → Stuff → Prop
  refl : ∀ memory, Keeps memory memory
  trans : ∀ {first second third}, Keeps first second → Keeps second third → Keeps first third
  inherit : ∀ {memory later stuff}, Keeps memory later → Has later stuff → Has memory stuff
  rename : ∀ {memory stuff} name, Has memory stuff → Has memory (stuff.rename name)
  store : ∀ {memory later stuff} name, Keeps memory later → Has memory stuff →
    Keeps memory (later.store name stuff)
  storeMain : ∀ {memory later stuff} name, Keeps memory later → Has memory stuff →
    Keeps memory (later.storeMain name stuff)
  /-- A single content makes a stuff out of any memory. -/
  single : ∀ {memory name concept content stuff}, Stuff.make name concept content = .ok stuff →
    content.isList = false → Has memory stuff
  /-- The results for the items of a list make a list. -/
  fan : ∀ {memory : WorkingMemory} {batch : Batch} {list items} {outputs : List Output}
    {name concept made},
    memory.getList batch.list = .ok (list, items) →
    List.Forall₂ (fun item output =>
      Has (Library.itemMemory memory list batch.item item) output.main) items outputs →
    Stuff.make name concept (.list (outputs.map (·.main.content))) = .ok made →
    Has memory made

/-- The law that says nothing. -/
def MemoryLaw.trivial : MemoryLaw where
  Keeps _ _ := True
  Has _ _ := True
  refl _ := True.intro
  trans _ _ := True.intro
  inherit _ _ := True.intro
  rename _ _ := True.intro
  store _ _ _ := True.intro
  storeMain _ _ _ := True.intro
  single _ _ := True.intro
  fan _ _ _ := True.intro

/-- The law that a property is kept which every stuff of a memory has. -/
def MemoryLaw.every (property : Stuff → Prop)
    (rename : ∀ {stuff} name, property stuff → property (stuff.rename name))
    (single : ∀ {name concept content stuff}, Stuff.make name concept content = .ok stuff →
      content.isList = false → property stuff)
    (fan : ∀ {memory : WorkingMemory} {batch : Batch} {list items} {outputs : List Output}
      {name concept made}, memory.Every property → memory.getList batch.list = .ok (list, items) →
      List.Forall₂ (fun item output =>
        (Library.itemMemory memory list batch.item item).Every property → property output.main)
        items outputs →
      Stuff.make name concept (.list (outputs.map (·.main.content))) = .ok made →
      property made) : MemoryLaw where
  Keeps memory later := memory.Every property → later.Every property
  Has memory stuff := memory.Every property → property stuff
  refl _ every := every
  trans first second every := second (first every)
  inherit keeps has every := has (keeps every)
  rename name has every := rename name (has every)
  store name keeps has every := (keeps every).store (rename name (has every))
  storeMain name keeps has every := (keeps every).storeMain (rename name (has every))
  single made one _ := single made one
  fan found each made every := fan every found each made

/-- A law as a statement about a run of a pipe on a memory. -/
def MemoryLaw.Good (law : MemoryLaw) (memory : WorkingMemory) (output : Output) : Prop :=
  law.Keeps memory output.memory ∧ law.Has memory output.main

/-- A law as a statement about the body of a pipe. -/
def MemoryLaw.Yields (law : MemoryLaw) (memory : WorkingMemory) (product : Product) : Prop :=
  law.Keeps memory product.memory ∧ law.Has memory product.stuff

/-- The calls that the body of a pipe can make, each with the multiplicity that it asks for. -/
inductive Pipe.Calls (pipe : Pipe) (params : Params) : String → Option Multiplicity → Prop
  | step {sequence : Sequence} {step : Step} (body : pipe.body = .sequence sequence)
      (member : step ∈ sequence.steps) : Calls pipe params step.pipe step.multiplicity
  | branch {parallel : Parallel} {branch : Branch} (body : pipe.body = .parallel parallel)
      (member : branch ∈ parallel.branches) : Calls pipe params branch.pipe branch.multiplicity
  | choice {condition : Condition} {code : String} (body : pipe.body = .condition condition)
      (member : code ∈ condition.pipes) : Calls pipe params code params.multiplicity
  | batch {code : String} {batch : Batch} (body : pipe.body = .batch code batch) :
      Calls pipe params code none

theorem Pipe.Calls.mem_callees {pipe : Pipe} {params : Params} {code : String}
    {multiplicity : Option Multiplicity} (h : pipe.Calls params code multiplicity) :
    code ∈ pipe.callees := by
  rw [Pipe.callees]
  cases h with
  | step body member => rw [body]; exact List.mem_map_of_mem member
  | branch body member => rw [body]; exact List.mem_map_of_mem member
  | choice body member => rw [body]; exact member
  | batch body => rw [body]; exact List.mem_singleton_self _

/-- The causes with which a body can fail by itself when all its callees are found. -/
inductive Cause.OfBody : Cause → Prop
  | work {cause : Cause} (h : cause.OfWork) : OfBody cause
  | question (error : ConditionError) : OfBody (.condition error)
  | pretence (pipe source text : String) : OfBody (.dryRun (.evaluation pipe source text))

namespace Library

open Run

/-- What a body relies on for one of its calls: the lack of the pipe is an allowed error, and the
pipe, if there is one, respects the law. -/
structure Serves (library : Library) (law : MemoryLaw) (runner : Runner) (params : Params)
    (stack : PipeStack) (bad : RunError → Prop) (code : String)
    (multiplicity : Option Multiplicity) : Prop where
  missing : library.find? code = none → bad (.ofCause (.pipeNotFound code))
  found : ∀ callee, library.find? code = some callee → ∀ memory output,
    Meets stack (law.Good memory) bad
      (runner callee memory (params.forCallee multiplicity) output)

variable {library : Library} {law : MemoryLaw} {runner : Runner} {params : Params}
variable {stack : PipeStack} {bad : RunError → Prop}

theorem get_eq_ok {code : String} {pipe : Pipe} :
    library.get code = .ok pipe ↔ library.find? code = some pipe := by
  rw [get]
  cases library.find? code <;> simp

theorem get_eq_error {code : String} {cause : Cause} :
    library.get code = .error cause ↔ library.find? code = none ∧ cause = .pipeNotFound code := by
  rw [get]
  cases library.find? code <;> simp [eq_comm]

theorem mem_of_find? {code : String} {pipe : Pipe} (h : library.find? code = some pipe) :
    pipe ∈ library.pipes :=
  List.mem_of_find?_eq_some h

/-- Storing a product never fails. -/
theorem conclude_eq (memory : WorkingMemory) (name : String) (stuff : Stuff) :
    conclude memory name stuff = pure ⟨memory.storeMain name stuff, stuff.rename name⟩ := by
  unfold conclude
  dsimp only
  rw [WorkingMemory.get_storeMain]
  rfl

theorem meets_conclude {memory later : WorkingMemory} {stuff : Stuff} {name : String}
    (keeps : law.Keeps memory later) (has : law.Has memory stuff) :
    Meets stack (law.Good memory) bad (conclude later name stuff) := by
  rw [conclude_eq]
  exact .pure ⟨law.storeMain name keeps has, law.rename name has⟩

theorem meets_get {code : String} {multiplicity : Option Multiplicity}
    (serves : library.Serves law runner params stack bad code multiplicity) :
    Meets stack (fun pipe => library.find? code = some pipe) bad
      (Run.require id (library.get code)) := by
  refine .require (fun pipe h => get_eq_ok.1 h) fun cause h => ?_
  obtain ⟨missing, rfl⟩ := get_eq_error.1 h
  exact serves.missing missing

/-- Where the list is there, a fan-out fails by itself only because of a concept. -/
theorem meets_fanOut_of_list {branch : Pipe} {memory : WorkingMemory} {batch : Batch}
    {result : String} {list : Stuff} {items : List Content}
    (concept : ∀ error : ConceptError, bad (.ofCause (.concept error)))
    (found : memory.getList batch.list = .ok (list, items))
    (branches : ∀ memory, Meets stack (law.Good memory) bad (runner branch memory params none)) :
    Meets stack (law.Has memory) bad (fanOut runner branch memory params batch result) := by
  rw [fanOut, found]
  have joined := Meets.join fun item (_ : item ∈ items) =>
    (branches (itemMemory memory list batch.item item)).mono_good fun _ good => good.2
  exact joined.bind fun outputs each =>
    .require (fun _ made => law.fan found each made) fun error _ => concept error

section Bodies

variable (fault : ∀ cause : Cause, cause.OfBody → bad (.ofCause cause))
include fault

theorem meets_fanOut {branch : Pipe} {memory : WorkingMemory} {batch : Batch} {result : String}
    (branches : ∀ memory, Meets stack (law.Good memory) bad (runner branch memory params none)) :
    Meets stack (law.Has memory) bad (fanOut runner branch memory params batch result) := by
  cases found : memory.getList batch.list with
  | ok listed =>
      exact meets_fanOut_of_list (fun error => fault _ (.work (.concept error))) found branches
  | error error =>
      rw [fanOut, found]
      exact .fail (fault _ (.work (.memory error)))

theorem meets_runStep {step : Step} {memory : WorkingMemory}
    (serves : library.Serves law runner params stack bad step.pipe step.multiplicity) :
    Meets stack (law.Good memory) bad (library.runStep runner step memory params) := by
  apply (meets_get serves).bind
  intro pipe found
  have callee := serves.found pipe found
  cases step.batch with
  | none => exact callee memory step.result
  | some batch =>
      have fanned : Meets stack (law.Has memory) bad
          (fanOut runner pipe memory (params.forCallee step.multiplicity) batch
            (pipe.signature.resultName step.result)) :=
        meets_fanOut fault fun memory => callee memory none
      exact fanned.bind fun stuff has => meets_conclude (law.refl memory) has

theorem meets_runSteps {first : Step} {rest : List Step} {memory : WorkingMemory}
    (serves : ∀ step ∈ first :: rest,
      library.Serves law runner params stack bad step.pipe step.multiplicity) :
    Meets stack (law.Yields memory) bad (library.runSteps runner params first rest memory) := by
  induction rest generalizing first memory with
  | nil =>
      exact (meets_runStep fault (serves first List.mem_cons_self)).bind fun _ good => .pure good
  | cons next rest ih =>
      apply (meets_runStep fault (serves first List.mem_cons_self)).bind
      intro output good
      have later : Meets stack (law.Yields output.memory) bad
          (library.runSteps runner params next rest output.memory) :=
        ih fun step member => serves step (List.mem_cons_of_mem _ member)
      exact later.mono_good fun _ yields =>
        ⟨law.trans good.1 yields.1, law.inherit good.1 yields.2⟩

theorem meets_runBranch {branch : Branch} {memory : WorkingMemory}
    (serves : library.Serves law runner params stack bad branch.pipe branch.multiplicity) :
    Meets stack (fun result => law.Has memory result.2) bad
      (library.runBranch runner memory params branch) := by
  have ran : Meets stack (law.Good memory) bad
      (library.runStep runner branch.step memory params) := meets_runStep fault serves
  exact ran.bind fun _ good => .pure good.2

end Bodies

/-- What a fan-out that succeeds has done: it has run the pipe for the first item of the list, if
there is one. -/
theorem fanOut_ok {branch : Pipe} {memory : WorkingMemory} {batch : Batch} {result : String}
    {state after : RunState} {stuff : Stuff}
    (h : fanOut runner branch memory params batch result state = (.ok stuff, after)) :
    stuff.name = result ∧ stuff.concept = branch.signature.output ∧
      ∃ list items, memory.getList batch.list = .ok (list, items) ∧
        ∀ item rest, items = item :: rest → ∃ output later,
          runner branch (itemMemory memory list batch.item item) params none state =
            (.ok output, later) := by
  obtain ⟨⟨list, items⟩, _, listed, h⟩ := bind_eq_ok.1 h
  obtain ⟨found, rfl⟩ := require_eq_ok.1 listed
  obtain ⟨outputs, middle, joined, h⟩ := bind_eq_ok.1 h
  obtain ⟨made, -⟩ := require_eq_ok.1 h
  obtain ⟨-, rfl⟩ := Stuff.make_eq_ok.1 made
  refine ⟨rfl, rfl, list, items, found, ?_⟩
  rintro item rest rfl
  exact join_cons_ok joined

theorem checkBranches_eq_ok {branches : List Branch} :
    library.checkBranches branches = .ok () ↔
      ∀ branch ∈ branches, (library.find? branch.pipe).isSome := by
  induction branches with
  | nil => simp [checkBranches]
  | cons branch branches ih =>
      rw [checkBranches, List.forall_mem_cons, ← ih]
      cases found : library.find? branch.pipe <;>
        simp [get, found, bind, Except.bind]

theorem checkBranches_eq_error {branches : List Branch} {cause : Cause}
    (h : library.checkBranches branches = .error cause) :
    ∃ branch ∈ branches, library.find? branch.pipe = none ∧
      cause = .pipeNotFound branch.pipe := by
  induction branches with
  | nil => cases h
  | cons branch branches ih =>
      rw [checkBranches] at h
      cases found : library.get branch.pipe with
      | error fault =>
          obtain ⟨missing, rfl⟩ := get_eq_error.1 found
          rw [found] at h
          cases h
          exact ⟨branch, List.mem_cons_self, missing, rfl⟩
      | ok pipe =>
          rw [found] at h
          obtain ⟨other, member, rest⟩ := ih h
          exact ⟨other, List.mem_cons_of_mem _ member, rest⟩

theorem keeps_keepResults {memory later : WorkingMemory} {results : List (String × Stuff)}
    (keeps : law.Keeps memory later) (has : ∀ result ∈ results, law.Has memory result.2) :
    law.Keeps memory (keepResults later results) := by
  induction results generalizing later with
  | nil => exact keeps
  | cons result results ih =>
      have stored := law.store result.1 keeps (has result List.mem_cons_self)
      exact ih stored fun result member => has result (List.mem_cons_of_mem _ member)

theorem has_gatherResults {signature : Signature} {parallel : Parallel} {output : Option String}
    {memory : WorkingMemory} {first : String × Stuff} {others : List (String × Stuff)}
    {stuff : Stuff} (has : ∀ result ∈ first :: others, law.Has memory result.2)
    (h : gatherResults signature parallel output first others = .ok stuff) :
    law.Has memory stuff := by
  rw [gatherResults] at h
  split at h
  · exact law.single h rfl
  · cases h
    exact has _ List.getLastD_mem_cons

section Bodies

variable (fault : ∀ cause : Cause, cause.OfBody → bad (.ofCause cause))
include fault

theorem meets_runParallel {signature : Signature} {parallel : Parallel} {memory : WorkingMemory}
    {output : Option String}
    (serves : ∀ branch ∈ parallel.branches,
      library.Serves law runner params stack bad branch.pipe branch.multiplicity) :
    Meets stack (law.Yields memory) bad
      (library.runParallel runner signature parallel memory params output) := by
  have checked : Meets stack (fun _ => True) bad
      (Run.require id (library.checkBranches parallel.branches)) := by
    refine .require (fun _ _ => trivial) fun cause h => ?_
    obtain ⟨branch, member, missing, rfl⟩ := checkBranches_eq_error h
    exact (serves branch member).missing missing
  apply checked.bind
  intro _ _
  have branches : ∀ branch ∈ parallel.branches,
      Meets stack (fun result => law.Has memory result.2) bad
        (library.runBranch runner memory params branch) :=
    fun branch member => meets_runBranch fault (serves branch member)
  have first := branches parallel.first List.mem_cons_self
  have rest := Meets.join fun branch member => branches branch (List.mem_cons_of_mem _ member)
  apply (first.both rest).bind
  rintro ⟨first, others⟩ ⟨one, each⟩
  have has : ∀ result ∈ first :: others, law.Has memory result.2 := by
    refine List.forall_mem_cons.2 ⟨one, fun result member => ?_⟩
    obtain ⟨_, _, has⟩ := exists_left_of_forall₂ each member
    exact has
  have gathered : Meets stack (law.Has memory) bad (Run.require Cause.concept
      (gatherResults signature parallel output first others)) :=
    .require (fun _ h => has_gatherResults has h) fun error _ => fault _ (.work (.concept error))
  refine gathered.bind fun stuff hasStuff => .pure ⟨?_, hasStuff⟩
  dsimp only
  split
  · exact keeps_keepResults (law.refl memory) has
  · exact law.refl memory

end Bodies

theorem noAnswer_ofBody {signature : Signature} {question : Question} {params : Params}
    {error : CollaboratorError} : (noAnswer signature question params error).OfBody := by
  unfold noAnswer
  dsimp only
  split
  · exact .pretence _ _ _
  · exact .question _

theorem keeps_keepAnswer {condition : Condition} {memory later : WorkingMemory} {answer : String}
    (h : library.keepAnswer condition memory answer = .ok later) : law.Keeps memory later := by
  rw [keepAnswer] at h
  split at h
  · cases h
    exact law.refl memory
  · next name _ =>
    cases made : Stuff.make name library.vocabulary.textConcept (.text answer) with
    | error error => simp [made, bind, Except.bind] at h
    | ok stuff =>
        simp only [made, bind, Except.bind, pure, Except.pure, Except.ok.injEq] at h
        subst h
        exact law.store name (law.refl memory) (law.single made rfl)

theorem mem_pipes_of_value {condition : Condition} {code : String}
    (h : code ∈ condition.choices.values) : code ∈ condition.pipes := by
  unfold Condition.pipes
  dsimp only
  split
  · split
    · exact h
    · exact List.mem_append_left _ h
  · exact h

theorem mem_pipes_of_otherwise {condition : Condition} {code : String}
    (h : condition.otherwise = some code) : code ∈ condition.pipes := by
  rw [Condition.pipes]
  rw [h]
  dsimp only
  split
  · next listed => exact List.contains_iff_mem.1 listed
  · exact List.mem_append_right _ (List.mem_singleton_self _)

/-- A condition chooses among the pipes that it lists, also when a dry run falls back. -/
theorem choose_mem {signature : Signature} {condition : Condition} {answer code : String}
    (h : choose signature condition params answer = .ok code) : code ∈ condition.pipes := by
  rw [choose] at h
  split at h
  · next found =>
    cases h
    exact mem_pipes_of_value (List.mem_map_of_mem (OrderedMap.mem_entries_of_get? found))
  · next otherwise =>
    cases h
    exact mem_pipes_of_otherwise otherwise
  · split at h
    · next head =>
      split at h <;> cases h
      exact mem_pipes_of_value (List.mem_of_head? head)
    · cases h

theorem choose_error {signature : Signature} {condition : Condition} {answer : String}
    {cause : Cause} (h : choose signature condition params answer = .error cause) :
    cause = .condition (.noMatch signature.code answer) := by
  rw [choose] at h
  split at h
  · cases h
  · cases h
  · split at h
    · split at h <;> cases h
      rfl
    · cases h
      rfl

section Bodies

variable (fault : ∀ cause : Cause, cause.OfBody → bad (.ofCause cause))
include fault

theorem meets_runCondition {signature : Signature} {condition : Condition}
    {memory : WorkingMemory} {output : Option String}
    (serves : ∀ code ∈ condition.pipes,
      library.Serves law runner params stack bad code params.multiplicity) :
    Meets stack (law.Yields memory) bad
      (library.runCondition runner signature condition memory params output) := by
  have asked : Meets stack (fun _ => True) bad
      (Run.require (noAnswer signature condition.question params)
        (library.consult condition.question memory)) :=
    .require (fun _ _ => trivial) fun _ _ => fault _ noAnswer_ofBody
  apply asked.bind
  intro answer _
  have kept : Meets stack (law.Keeps memory) bad (Run.require Cause.concept
      (library.keepAnswer condition memory (Text.trimmed answer))) :=
    .require (fun _ h => keeps_keepAnswer h) fun error _ => fault _ (.work (.concept error))
  apply kept.bind
  intro later keeps
  have chosen : Meets stack (· ∈ condition.pipes) bad
      (Run.require id (choose signature condition params (Text.trimmed answer))) := by
    refine .require (fun _ h => choose_mem h) fun cause h => ?_
    obtain rfl := choose_error h
    exact fault _ (.question _)
  apply chosen.bind
  intro code member
  apply (meets_get (serves code member)).bind
  intro pipe found
  have ran := (serves code member).found pipe found later output
  exact ran.bind fun _ good => .pure ⟨law.trans keeps good.1, law.inherit keeps good.2⟩

theorem meets_runBatch {signature : Signature} {branch : String} {batch : Batch}
    {memory : WorkingMemory} {output : Option String}
    (serves : library.Serves law runner params stack bad branch none) :
    Meets stack (law.Yields memory) bad
      (library.runBatch runner signature branch batch memory params output) := by
  apply (meets_get serves).bind
  intro pipe found
  have fanned : Meets stack (law.Has memory) bad
      (fanOut runner pipe memory (params.forCallee none) batch (signature.resultName output)) :=
    meets_fanOut fault fun memory => serves.found pipe found memory none
  exact fanned.bind fun stuff has => .pure ⟨law.refl memory, has⟩

end Bodies

end Library

end Conduit
