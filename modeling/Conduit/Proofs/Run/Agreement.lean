import Conduit.Proofs.Run.Interpreter

/-!
# Runs that do the same

Two runs agree when they come to the same value or the same failure and leave the same state,
wherever they begin. Here a property of states is carried along. The two runs need to agree in
states that have it only, and must leave it to those that come after them.

Where the callees are the same pipes and agree, the bodies of pipes agree. Two uses of this are at
hand. A run does not depend on the room that is granted to it, as long as there is enough; so `run`
calls itself, and the room can be forgotten. And runs in libraries that differ in nothing that they
look at are the same.
-/

namespace Conduit

namespace Run

variable {α β ε : Type}

/-- From every state with the property the two runs do the same, and keep the property. -/
def Agrees (kept : RunState → Prop) (run run' : Run α) : Prop :=
  ∀ state, kept state → run' state = run state ∧ kept (run state).2

namespace Agrees

variable {kept : RunState → Prop} {run run' : Run α}

theorem pure (value : α) : Agrees kept (Pure.pure value) (Pure.pure value) := by
  intro state keeps
  exact ⟨rfl, keeps⟩

theorem require (cause : ε → Cause) (result : Except ε α) :
    Agrees kept (Run.require cause result) (Run.require cause result) := by
  intro state keeps
  cases result <;> exact ⟨rfl, keeps⟩

/-- What follows a look-up needs to agree for what the look-up finds. -/
theorem require_bind {cause : ε → Cause} {result : Except ε α} {next next' : α → Run β}
    (rest : ∀ value, result = .ok value → Agrees kept (next value) (next' value)) :
    Agrees kept (Run.require cause result >>= next) (Run.require cause result >>= next') := by
  cases result with
  | error error =>
      intro state keeps
      exact ⟨rfl, keeps⟩
  | ok value => exact rest value rfl

theorem bind {next next' : α → Run β} (h : Agrees kept run run')
    (rest : ∀ value, Agrees kept (next value) (next' value)) :
    Agrees kept (run >>= next) (run' >>= next') := by
  intro state keeps
  obtain ⟨same, keeps'⟩ := h state keeps
  rcases ran : run state with ⟨error | value, middle⟩ <;> rw [ran] at same keeps'
  · rw [bind_error ran, bind_error same]
    exact ⟨rfl, keeps'⟩
  · rw [bind_ok ran, bind_ok same]
    exact rest value middle keeps'

theorem both {other other' : Run β} (h : Agrees kept run run') (h' : Agrees kept other other') :
    Agrees kept (Run.both run other) (Run.both run' other') := by
  intro state keeps
  obtain ⟨same, keeps'⟩ := h state keeps
  obtain ⟨same', keeps''⟩ := h' (run state).2 keeps'
  rw [both_apply, both_apply, same, same']
  exact ⟨rfl, keeps''⟩

theorem join {items : List β} {branch branch' : β → Run α}
    (h : ∀ item ∈ items, Agrees kept (branch item) (branch' item)) :
    Agrees kept (Run.join (items.map branch)) (Run.join (items.map branch')) := by
  induction items with
  | nil => exact pure []
  | cons item items ih =>
      have others := ih fun item member => h item (List.mem_cons_of_mem _ member)
      exact ((h item List.mem_cons_self).both others).bind fun _ => pure _

/-- Inside a frame the states may have another property. -/
theorem framed {inner : RunState → Prop} {limit : Nat} {code : String}
    {context : PipeStack → Context} (enters : ∀ state, kept state → inner (state.enter code))
    (leaves : ∀ state, inner state → kept (state.leave code)) (body : Agrees inner run run') :
    Agrees kept (Run.framed limit code context run) (Run.framed limit code context run') := by
  intro state keeps
  by_cases room : state.stack.length < limit
  · obtain ⟨same, keeps'⟩ := body (state.enter code) (enters state keeps)
    rcases ran : run (state.enter code) with ⟨error | value, final⟩ <;> rw [ran] at same keeps'
    · rw [framed_error room ran, framed_error room same]
      exact ⟨rfl, leaves final keeps'⟩
    · rw [framed_ok room ran, framed_ok room same]
      exact ⟨rfl, leaves final keeps'⟩
  · rw [framed_full (Nat.not_lt.1 room), framed_full (Nat.not_lt.1 room)]
    exact ⟨rfl, keeps⟩

end Agrees

/-- What stands in a frame and succeeds has found a place, and has given it up again. -/
theorem framed_eq_ok {limit : Nat} {code : String} {context : PipeStack → Context} {body : Run α}
    {state final : RunState} {value : α} :
    framed limit code context body state = (.ok value, final) ↔
      state.stack.length < limit ∧ ∃ inner, body (state.enter code) = (.ok value, inner) ∧
        final = inner.leave code := by
  by_cases room : state.stack.length < limit
  · rcases ran : body (state.enter code) with ⟨error | a, inner⟩
    · simp [framed_error room ran, room]
    · simp [framed_ok room ran, room, eq_comm]
  · simp [framed_full (Nat.not_lt.1 room), room]

theorem Idle.agrees {run : Run α} (idle : Idle run) (kept : RunState → Prop) :
    Agrees kept run run := by
  obtain ⟨result, rfl⟩ := idle
  exact .require id result

/-- A run that only advances the state leaves the stack as it is. -/
theorem Advancing.agrees {run : Run α} (h : Advancing run) (stack : PipeStack) :
    Agrees (·.stack = stack) run run := by
  intro state start
  exact ⟨rfl, (h state).stack.trans start⟩

end Run

/-- Another library with the same vocabulary, renderer and evaluator. Its pipes may be other ones,
and so may its generator and its functions. -/
structure Library.Peer (library library' : Library) : Prop where
  vocabulary : library'.vocabulary = library.vocabulary
  renderer : library'.collaborators.renderer = library.collaborators.renderer
  evaluator : library'.collaborators.evaluator = library.collaborators.evaluator

/-- Another library with the same pipes, the same vocabulary, the same renderer and evaluator, and
functions of the same names. The generator may be another one, and so may the functions. -/
structure Library.Variant (library library' : Library) : Prop where
  vocabulary : library'.vocabulary = library.vocabulary
  pipes : library'.pipes = library.pipes
  renderer : library'.collaborators.renderer = library.collaborators.renderer
  evaluator : library'.collaborators.evaluator = library.collaborators.evaluator
  functions : ∀ name, library'.collaborators.functions.contains name =
    library.collaborators.functions.contains name

namespace Library

open Run

namespace Peer

variable {library library' : Library}

theorem of_eq (vocabulary : library'.vocabulary = library.vocabulary)
    (collaborators : library'.collaborators = library.collaborators) : library.Peer library' :=
  ⟨vocabulary, by rw [collaborators], by rw [collaborators]⟩

theorem render_eq (peer : library.Peer library') (memory : WorkingMemory)
    (template : String) : library'.render memory template = library.render memory template := by
  rw [render, render, Collaborators.render, Collaborators.render, peer.renderer]

theorem consult_eq (peer : library.Peer library') (question : Question)
    (memory : WorkingMemory) :
    library'.consult question memory = library.consult question memory := by
  unfold consult Collaborators.evaluate Collaborators.render
  rw [peer.renderer, peer.evaluator]

theorem attachments_eq (peer : library.Peer library') (memory : WorkingMemory)
    (inputs : List (String × Requirement)) :
    library'.attachments memory inputs = library.attachments memory inputs := by
  induction inputs with
  | nil => rfl
  | cons entry inputs ih =>
      obtain ⟨name, requirement⟩ := entry
      rw [attachments, attachments, peer.vocabulary, ih]

end Peer

/-- Pipes that make content do the same work, for they do not look at other pipes. -/
theorem work?_eq {library library' : Library}
    (vocabulary : library'.vocabulary = library.vocabulary)
    (collaborators : library'.collaborators = library.collaborators) (pipe : Pipe)
    (memory : WorkingMemory) (params : Params) (output : Option String) :
    library'.work? pipe memory params output = library.work? pipe memory params output := by
  have attachments := (Peer.of_eq vocabulary collaborators).attachments_eq
  obtain ⟨words, pipes, others⟩ := library'
  obtain rfl : words = library.vocabulary := vocabulary
  obtain rfl : others = library.collaborators := collaborators
  rw [work?, work?]
  cases pipe.body with
  | prompt prompt =>
      simp only [runPrompt, attachments]
      rfl
  | _ => rfl

namespace Variant

variable {library library' : Library}

theorem refl (library : Library) : library.Variant library :=
  ⟨rfl, rfl, rfl, rfl, fun _ => rfl⟩

theorem peer (variant : library.Variant library') : library.Peer library' :=
  ⟨variant.vocabulary, variant.renderer, variant.evaluator⟩

theorem get_eq (variant : library.Variant library') (code : String) :
    library'.get code = library.get code := by
  rw [get, get, find?, find?, variant.pipes]

end Variant

/-- What two bodies rely on for one of their calls: both find the same pipe or none, and the ways to
run it agree. -/
structure ServesAlike (kept : RunState → Prop) (library library' : Library)
    (runner runner' : Runner) (params : Params) (code : String)
    (multiplicity : Option Multiplicity) : Prop where
  get : library'.get code = library.get code
  run : ∀ {callee}, library.find? code = some callee → ∀ memory output,
    Agrees kept (runner callee memory (params.forCallee multiplicity) output)
      (runner' callee memory (params.forCallee multiplicity) output)

/-- Two ways to run pipes agree on all that a pipe with these parameters may call. -/
def CalleesAgree (kept : RunState → Prop) (params : Params) (runner runner' : Runner) : Prop :=
  ∀ callee memory multiplicity output,
    Agrees kept (runner callee memory (params.forCallee multiplicity) output)
      (runner' callee memory (params.forCallee multiplicity) output)

section Bodies

variable {library library' : Library} {kept : RunState → Prop} {runner runner' : Runner}
variable {params : Params} {memory : WorkingMemory} {output : Option String}

/-- Among the same pipes every call is served alike by callees that agree. -/
theorem CalleesAgree.servesAlike (callees : CalleesAgree kept params runner runner')
    (variant : library.Variant library') (code : String) (multiplicity : Option Multiplicity) :
    ServesAlike kept library library' runner runner' params code multiplicity :=
  ⟨variant.get_eq code, fun _ _ _ => callees _ _ _ _⟩

theorem checkBranches_congr {branches : List Branch}
    (same : ∀ branch ∈ branches, library'.get branch.pipe = library.get branch.pipe) :
    library'.checkBranches branches = library.checkBranches branches := by
  induction branches with
  | nil => rfl
  | cons branch branches ih =>
      rw [List.forall_mem_cons] at same
      rw [checkBranches, checkBranches, same.1, ih same.2]

theorem agrees_fanOut {branch : Pipe} {batch : Batch} {result : String}
    (branches : ∀ memory, Agrees kept (runner branch memory params none)
      (runner' branch memory params none)) :
    Agrees kept (fanOut runner branch memory params batch result)
      (fanOut runner' branch memory params batch result) := by
  apply (Agrees.require _ _).bind
  rintro ⟨list, items⟩
  exact (Agrees.join fun item _ => branches (itemMemory memory list batch.item item)).bind fun _ =>
    .require _ _

theorem agrees_runStep {step : Step}
    (serves : ServesAlike kept library library' runner runner' params step.pipe
      step.multiplicity) :
    Agrees kept (library.runStep runner step memory params)
      (library'.runStep runner' step memory params) := by
  rw [runStep, runStep, serves.get]
  apply Agrees.require_bind
  intro pipe found
  have run := serves.run (get_eq_ok.1 found)
  cases step.batch with
  | none => exact run _ _
  | some batch =>
      simp only [conclude_eq]
      exact (agrees_fanOut fun memory => run memory none).bind fun _ => .pure _

theorem agrees_runSteps {first : Step} {rest : List Step}
    (serves : ∀ step ∈ first :: rest, ServesAlike kept library library' runner runner' params
      step.pipe step.multiplicity) :
    Agrees kept (library.runSteps runner params first rest memory)
      (library'.runSteps runner' params first rest memory) := by
  induction rest generalizing first memory with
  | nil => exact (agrees_runStep (serves first List.mem_cons_self)).bind fun _ => .pure _
  | cons next rest ih =>
      have others := fun step member => serves step (List.mem_cons_of_mem first member)
      exact (agrees_runStep (serves first List.mem_cons_self)).bind fun _ => ih others

theorem agrees_runParallel {signature : Signature} {parallel : Parallel}
    (serves : ∀ branch ∈ parallel.branches, ServesAlike kept library library' runner runner' params
      branch.pipe branch.multiplicity) :
    Agrees kept (library.runParallel runner signature parallel memory params output)
      (library'.runParallel runner' signature parallel memory params output) := by
  have branches : ∀ branch ∈ parallel.branches,
      Agrees kept (library.runBranch runner memory params branch)
        (library'.runBranch runner' memory params branch) := by
    intro branch member
    have stepped : Agrees kept (library.runStep runner branch.step memory params)
        (library'.runStep runner' branch.step memory params) :=
      agrees_runStep (serves branch member)
    exact stepped.bind fun _ => .pure _
  rw [runParallel, runParallel,
    checkBranches_congr fun branch member => (serves branch member).get]
  apply (Agrees.require _ _).bind
  intro _
  have first := branches parallel.first List.mem_cons_self
  have others := Agrees.join fun branch member => branches branch (List.mem_cons_of_mem _ member)
  apply (first.both others).bind
  rintro ⟨first, others⟩
  exact (Agrees.require _ _).bind fun _ => .pure _

theorem agrees_runCondition {signature : Signature} {condition : Condition}
    (peer : library.Peer library')
    (serves : ∀ code ∈ condition.pipes, ServesAlike kept library library' runner runner' params code
      params.multiplicity) :
    Agrees kept (library.runCondition runner signature condition memory params output)
      (library'.runCondition runner' signature condition memory params output) := by
  unfold runCondition keepAnswer
  rw [peer.consult_eq, peer.vocabulary]
  apply (Agrees.require _ _).bind
  intro answer
  apply (Agrees.require _ _).bind
  intro later
  apply Agrees.require_bind
  intro code chosen
  have serves := serves code (choose_mem chosen)
  rw [serves.get]
  apply Agrees.require_bind
  intro pipe found
  exact (serves.run (get_eq_ok.1 found) later output).bind fun _ => .pure _

theorem agrees_runBatch {signature : Signature} {branch : String} {batch : Batch}
    (serves : ServesAlike kept library library' runner runner' params branch none) :
    Agrees kept (library.runBatch runner signature branch batch memory params output)
      (library'.runBatch runner' signature branch batch memory params output) := by
  rw [runBatch, runBatch, serves.get]
  apply Agrees.require_bind
  intro pipe found
  have run := serves.run (get_eq_ok.1 found)
  exact (agrees_fanOut fun memory => run memory none).bind fun _ => .pure _

variable (peer : library.Peer library') {pipe : Pipe}
variable (serves : ∀ code multiplicity, pipe.Calls params code multiplicity →
  ServesAlike kept library library' runner runner' params code multiplicity)
include peer serves

/-- Bodies agree if their calls do and the work that they do themselves. -/
theorem agrees_runBody
    (works : ∀ work work', library.work? pipe memory params output = some work →
      library'.work? pipe memory params output = some work' → Agrees kept work work') :
    Agrees kept (library.runBody runner pipe memory params output)
      (library'.runBody runner' pipe memory params output) := by
  have working : ∀ work work', library.work? pipe memory params output = some work →
      library'.work? pipe memory params output = some work' →
      Agrees kept (library.runBody runner pipe memory params output)
        (library'.runBody runner' pipe memory params output) := by
    intro work work' known known'
    rw [runBody_of_work known, runBody_of_work known']
    exact (works work work' known known').bind fun _ => .pure _
  cases body : pipe.body with
  | sequence sequence =>
      simp only [runBody, body]
      exact agrees_runSteps fun step member => serves _ _ (.step body member)
  | parallel parallel =>
      simp only [runBody, body]
      exact agrees_runParallel fun branch member => serves _ _ (.branch body member)
  | condition condition =>
      simp only [runBody, body]
      exact agrees_runCondition peer fun code member => serves _ _ (.choice body member)
  | batch code batch =>
      simp only [runBody, body]
      exact agrees_runBatch (serves _ _ (.batch body))
  | _ => exact working _ _ (by rw [work?, body]) (by rw [work?, body])

theorem agrees_execute
    (works : ∀ work work', library.work? pipe memory params output = some work →
      library'.work? pipe memory params output = some work' → Agrees kept work work') :
    Agrees kept (library.execute runner pipe memory params output)
      (library'.execute runner' pipe memory params output) := by
  apply (Agrees.require _ _).bind
  intro _
  apply (agrees_runBody peer serves works).bind
  intro product
  apply (Agrees.require _ _).bind
  intro _
  rw [conclude_eq]
  exact .pure _

end Bodies

variable {library : Library} {pipe : Pipe} {memory : WorkingMemory} {params : Params}
variable {output : Option String}

theorem advancing_run (library : Library) : AdvancesAll library.run := by
  intro pipe memory params output state
  exact advancing_runWithin _ pipe memory params output state

/-- Work only advances the state. -/
theorem advancing_work {work : Run Stuff}
    (h : library.work? pipe memory params output = some work) : Advancing work := by
  have met : ∀ stack,
      Meets stack (library.Makes pipe.signature params output) (fun _ => True) work :=
    fun _ => meets_work (fun _ _ => trivial) h
  exact Meets.advancing met

/-- To run a pipe is to hold a place on the stack while it is executed, and its callees are run in
the same way. -/
theorem run_eq_framed (library : Library) (pipe : Pipe) (memory : WorkingMemory) (params : Params)
    (output : Option String) :
    library.run pipe memory params output =
      Run.framed params.limit pipe.code (contextOf pipe params output)
        (library.execute library.run pipe memory params output) := by
  funext state
  rw [run]
  by_cases free : state.stack.length < params.limit
  · obtain ⟨room, enough⟩ : ∃ room, params.limit - state.stack.length = room + 1 :=
      Nat.exists_eq_add_one.2 (by omega)
    rw [enough, runWithin]
    -- The callees begin one place further up, where `run` grants just the room that is left here.
    have callees : CalleesAgree (·.stack = state.stack ++ [pipe.code]) params
        (library.runWithin room) library.run := by
      rintro callee memory multiplicity output inner above
      have left : (params.forCallee multiplicity).limit - inner.stack.length = room := by
        rw [above, List.length_append, List.length_singleton, Params.forCallee_limit]
        omega
      constructor
      · rw [run, left]
      · exact (advancing_runWithin room _ _ _ _ inner).stack.trans above
    have executed : Agrees (·.stack = state.stack ++ [pipe.code])
        (library.execute (library.runWithin room) pipe memory params output)
        (library.execute library.run pipe memory params output) := by
      have same := Variant.refl library
      refine agrees_execute same.peer (fun _ _ _ => callees.servesAlike same _ _)
        fun work work' known known' => ?_
      obtain rfl : work = work' := Option.some.inj (known.symm.trans known')
      exact (advancing_work known).agrees _
    have framed : Agrees (·.stack = state.stack)
        (Run.framed params.limit pipe.code (contextOf pipe params output)
          (library.execute (library.runWithin room) pipe memory params output))
        (Run.framed params.limit pipe.code (contextOf pipe params output)
          (library.execute library.run pipe memory params output)) := by
      refine .framed ?_ ?_ executed
      · intro inner start
        rw [RunState.enter_stack, start]
      · intro inner above
        rw [RunState.leave, above]
        exact PipeStack.leave_enter _ _
    exact (framed state rfl).1.symm
  · have full := Nat.not_lt.1 free
    rw [Nat.sub_eq_zero_of_le full]
    exact (framed_full full).trans (framed_full full).symm

/-- When the body of a pipe fails, then so does the run, with the place where it has happened. -/
theorem run_eq_error {state inner : RunState} {error : RunError}
    (free : state.stack.length < params.limit)
    (checked : checkInputs pipe memory params = .ok ())
    (failed : library.runBody library.run pipe memory params output (state.enter pipe.code) =
      (.error error, inner)) :
    library.run pipe memory params output state =
      (.error (error.annotate (contextOf pipe params output (state.stack ++ [pipe.code]))),
        inner.leave pipe.code) := by
  have above : inner.stack = state.stack ++ [pipe.code] :=
    ((advancing_runBody library.advancing_run).of_eq failed).stack
  have executed : library.execute library.run pipe memory params output (state.enter pipe.code) =
      (.error error, inner) := by
    rw [execute, checked]
    exact (bind_ok rfl).trans (bind_error failed)
  rw [run_eq_framed, framed_error free executed, above]

/-- A run that succeeds has found a place and its inputs, and its body a product of a concept that
will do. The product is stored as the latest result. -/
theorem run_eq_ok {state final : RunState} {result : Output} :
    library.run pipe memory params output state = (.ok result, final) ↔
      state.stack.length < params.limit ∧ checkInputs pipe memory params = .ok () ∧
      ∃ product inner,
        library.runBody library.run pipe memory params output (state.enter pipe.code) =
          (.ok product, inner) ∧
        checkOutput pipe product.stuff.concept = .ok () ∧
        result = ⟨product.memory.storeMain (output.getD product.stuff.name) product.stuff,
          product.stuff.rename (output.getD product.stuff.name)⟩ ∧
        final = inner.leave pipe.code := by
  rw [run_eq_framed, framed_eq_ok, execute]
  simp only [bind_eq_ok, require_eq_ok, conclude_eq, pure_apply, Prod.mk.injEq, Except.ok.injEq]
  constructor
  · rintro ⟨free, _, ⟨_, _, ⟨checked, rfl⟩, product, _, ran, _, _, ⟨fits, rfl⟩, rfl, rfl⟩, rfl⟩
    exact ⟨free, checked, product, _, ran, fits, rfl, rfl⟩
  · rintro ⟨free, checked, product, inner, ran, fits, rfl, rfl⟩
    exact ⟨free, inner,
      ⟨(), _, ⟨checked, rfl⟩, product, inner, ran, (), _, ⟨fits, rfl⟩, rfl, rfl⟩, rfl⟩

/-- To store the result of a run once more, under the name that it has been asked for, changes
nothing. -/
theorem run_stored {state final : RunState} {result : Output}
    (ran : library.run pipe memory params output state = (.ok result, final)) :
    result.memory.storeMain (output.getD result.main.name) result.main = result.memory ∧
      result.main.rename (output.getD result.main.name) = result.main := by
  obtain ⟨-, -, product, _, -, -, rfl, -⟩ := run_eq_ok.1 ran
  have named : output.getD (output.getD product.stuff.name) =
      output.getD product.stuff.name := by
    cases output <;> rfl
  dsimp only [Stuff.rename_name]
  rw [named]
  exact ⟨WorkingMemory.storeMain_storeMain _ _ _, rfl⟩

end Library

end Conduit
