import Conduit.Proofs.BranchJoin
import Conduit.Proofs.Run.Depth

/-!
# Two ways to run a pipe for every item of a list

A step may name a list and have its pipe run for every item, or it may call a pipe whose body does
just that. The called pipe holds a place on the stack, has its inputs and its output checked, gives
its result a name and leaves it to be stored; the step does without all this and writes to the
memory itself. Both look up the same list, run the same branches on the same memories, and store
the same stuff under the same name.

They are told apart by the place on the stack alone. The branches of the called pipe begin one
place further up, and where there is little room they may fail.
-/

namespace Conduit

/-- All that the pipe does is to run another one for every item of a list. It declares no inputs,
and the same output as the other one. -/
structure Pipe.Batches (pipe callee : Pipe) (batch : Batch) : Prop where
  body : pipe.body = .batch callee.code batch
  inputs : pipe.signature.inputs.entries = []
  output : pipe.signature.output = callee.signature.output

namespace Sample

/-- Shout every line of a list, without a word about the list. -/
def shoutLines : Pipe where
  signature :=
    { domain := "demo", code := "shout_lines", definition := "Shout the lines"
      inputs := ∅, output := text, multiplicity := none }
  body := .batch "shout" eachLine

def loud : Library := { library with pipes := shoutLines :: library.pipes }

end Sample

namespace Library

open Run

variable {library : Library} {runner : Runner} {pipe callee : Pipe} {batch : Batch}
variable {memory : WorkingMemory} {params : Params} {output : Option String}
variable {state final : RunState} {given : Output}

theorem runStep_single {step : Step} (single : step.batch = none)
    (known : library.find? step.pipe = some callee) :
    library.runStep runner step memory params =
      runner callee memory (params.forCallee step.multiplicity) step.result := by
  rw [runStep, get_eq_ok.2 known]
  simp only [single]
  rfl

namespace Batches

variable (batches : pipe.Batches callee batch) (known : library.find? callee.code = some callee)
include batches known

/-- The body runs the branches and makes a stuff of what they give. -/
theorem runBody_eq (params : Params) (output : Option String) :
    library.runBody runner pipe memory params output =
      (fanOut runner callee memory (params.forCallee none) batch
        (callee.signature.resultName output) >>= fun stuff => pure ⟨memory, stuff⟩) := by
  rw [runBody_batch batches.body known, Signature.resultName, batches.output]
  rfl

omit known in
theorem checkInputs_eq (memory : WorkingMemory) (params : Params) :
    checkInputs pipe memory params = .ok () := by
  rw [checkInputs_eq_ok, batches.inputs]
  exact List.forall_mem_nil _

/-- Apart from the place that it holds, the pipe comes to what its branches come to. -/
theorem run_eq_ok : library.run pipe memory params output state = (.ok given, final) ↔
    state.stack.length < params.limit ∧ ∃ stuff inner,
      fanOut library.run callee memory (params.forCallee none) batch
        (callee.signature.resultName output) (state.enter pipe.code) = (.ok stuff, inner) ∧
      given = ⟨memory.storeMain (callee.signature.resultName output) stuff,
        stuff.rename (callee.signature.resultName output)⟩ ∧
      final = inner.leave pipe.code := by
  have named : ∀ stuff : Stuff, stuff.name = callee.signature.resultName output →
      output.getD stuff.name = callee.signature.resultName output := by
    intro stuff name
    rw [name, Signature.resultName]
    cases output <;> rfl
  rw [Library.run_eq_ok, runBody_eq batches known]
  constructor
  · rintro ⟨free, -, product, inner, ran, -, rfl, rfl⟩
    obtain ⟨stuff, _, fanned, made⟩ := bind_eq_ok.1 ran
    cases made
    have name := named stuff (fanOut_ok fanned).1
    refine ⟨free, stuff, inner, fanned, ?_, rfl⟩
    dsimp only
    rw [name]
  · rintro ⟨free, stuff, inner, fanned, rfl, rfl⟩
    obtain ⟨name, concept, -⟩ := fanOut_ok fanned
    have checked := checkInputs_eq batches memory params
    refine ⟨free, checked, ⟨memory, stuff⟩, inner, ?_, ?_, ?_, rfl⟩
    · exact bind_eq_ok.2 ⟨stuff, inner, fanned, rfl⟩
    · rw [concept, ← batches.output]
      exact checkOutput_declared pipe
    · dsimp only
      rw [named stuff name]

/-- The pipe overflows the stack where it finds no place, or where its branches find none. -/
theorem run_overflows
    (crowded : state.stack.length < params.limit → ∃ error inner,
      fanOut library.run callee memory (params.forCallee none) batch
        (callee.signature.resultName output) (state.enter pipe.code) = (.error error, inner) ∧
      error.cause.isOverflow = true) :
    ∃ error final, library.run pipe memory params output state = (.error error, final) ∧
      error.cause.isOverflow = true := by
  by_cases free : state.stack.length < params.limit
  · obtain ⟨error, inner, fanned, overflow⟩ := crowded free
    have failed : library.runBody library.run pipe memory params output
        (state.enter pipe.code) = (.error error, inner) := by
      rw [runBody_eq batches known]
      exact bind_error fanned
    have checked := checkInputs_eq batches memory params
    refine ⟨_, _, run_eq_error free checked failed, ?_⟩
    rw [RunError.annotate_cause]
    exact overflow
  · rw [run_eq_framed, framed_full (Nat.not_lt.1 free)]
    exact ⟨_, _, rfl, rfl⟩

end Batches

/-- A step that calls a pipe which runs another one for every item of a list, and a step that does
so itself: if the first one succeeds, then so does the second one, with the same memory and the same
result. If the second one succeeds, then so does the first one, in the same way, unless it
overflows the stack. -/
theorem runStep_batched (steady : library.collaborators.Steady)
    (batches : pipe.Batches callee batch) (known : library.find? callee.code = some callee)
    (known' : library.find? pipe.code = some pipe) (result : Option String)
    (memory : WorkingMemory) (params : Params) (state : RunState) :
    let calling : Step := ⟨pipe.code, result, none, none⟩
    let batched : Step := ⟨callee.code, result, none, some batch⟩
    (∀ given final, library.runStep library.run calling memory params state =
        (.ok given, final) →
      ∃ final', library.runStep library.run batched memory params state =
        (.ok given, final')) ∧
    ∀ given final, library.runStep library.run batched memory params state =
        (.ok given, final) →
      (∃ final', library.runStep library.run calling memory params state =
        (.ok given, final')) ∨
      ∃ error final', library.runStep library.run calling memory params state =
        (.error error, final') ∧ error.cause.isOverflow = true := by
  intro calling batched
  have called : library.runStep library.run calling memory params =
      library.run pipe memory (params.forCallee none) result := runStep_single rfl known'
  rw [called, runStep_batch rfl known]
  constructor
  · intro given final ran
    obtain ⟨-, stuff, inner, fanned, rfl, -⟩ := (Batches.run_eq_ok batches known).1 ran
    have low : state.stack.length ≤ (state.enter pipe.code).stack.length := by
      rw [RunState.length_enter]
      exact Nat.le_succ _
    obtain ⟨after, fanned'⟩ :=
      (tracks_fanOut_higher steady (params.forCallee none) 0 params.limit callee memory batch
        (callee.signature.resultName result)).ok (fun _ _ same => same.symm) low fanned
    exact ⟨after, bind_eq_ok.2 ⟨stuff, after, fanned', rfl⟩⟩
  · intro given final ran
    obtain ⟨stuff, after, fanned, concluded⟩ := bind_eq_ok.1 ran
    cases concluded
    have near : (state.enter pipe.code).stack.length ≤ state.stack.length + 1 :=
      Nat.le_of_eq (RunState.length_enter state pipe.code)
    have again :=
      (tracks_fanOut_higher steady (params.forCallee none) 1 params.limit callee memory batch
        (callee.signature.resultName result)).ok_or_overflow (fun _ _ same => same.symm) near fanned
    by_cases free : state.stack.length < params.limit
    · rcases again with ⟨inner, fanned'⟩ | ⟨-, error, inner, fanned', overflow⟩
      · exact .inl ⟨_, (Batches.run_eq_ok batches known).2 ⟨free, stuff, inner, fanned', rfl, rfl⟩⟩
      · exact .inr (Batches.run_overflows batches known fun _ => ⟨error, inner, fanned', overflow⟩)
    · exact .inr (Batches.run_overflows batches known fun free' => absurd free' free)

/-- Two lines are shouted in either way. With one place on the stack, only the step that names the
list itself has room enough. -/
theorem lines_batched :
    Sample.loud.collaborators.Steady ∧
    Sample.shoutLines.Batches Sample.shout Sample.eachLine ∧
    (∃ given final after,
      Sample.loud.runStep Sample.loud.run ⟨"shout_lines", some "loud", none, none⟩ Sample.memory
        (Sample.live 2) .initial = (.ok given, final) ∧
      Sample.loud.runStep Sample.loud.run ⟨"shout", some "loud", none, some Sample.eachLine⟩
        Sample.memory (Sample.live 2) .initial = (.ok given, after)) ∧
    ∃ given final error after,
      Sample.loud.runStep Sample.loud.run ⟨"shout", some "loud", none, some Sample.eachLine⟩
        Sample.memory (Sample.live 1) .initial = (.ok given, final) ∧
      Sample.loud.runStep Sample.loud.run ⟨"shout_lines", some "loud", none, none⟩ Sample.memory
        (Sample.live 1) .initial = (.error error, after) ∧
      error.cause.isOverflow = true := by
  have steady : Sample.loud.collaborators.Steady := fun _ absent => nomatch absent
  have batches : Sample.shoutLines.Batches Sample.shout Sample.eachLine := ⟨rfl, rfl, rfl⟩
  have twoWays := runStep_batched steady batches rfl rfl (some "loud") Sample.memory
  obtain ⟨given, final, calls⟩ : ∃ given final,
      Sample.loud.runStep Sample.loud.run ⟨"shout_lines", some "loud", none, none⟩ Sample.memory
        (Sample.live 2) .initial = (.ok given, final) := ⟨_, _, rfl⟩
  obtain ⟨given', final', names⟩ : ∃ given final,
      Sample.loud.runStep Sample.loud.run ⟨"shout", some "loud", none, some Sample.eachLine⟩
        Sample.memory (Sample.live 1) .initial = (.ok given, final) := ⟨_, _, rfl⟩
  obtain ⟨after, names'⟩ := (twoWays (Sample.live 2) .initial).1 given final calls
  refine ⟨steady, batches, ⟨given, final, after, calls, names'⟩, ?_⟩
  rcases (twoWays (Sample.live 1) .initial).2 given' final' names with
    ⟨_, succeeds⟩ | ⟨error, after', fails, overflow⟩
  · cases succeeds
  · exact ⟨given', final', error, after', names, fails, overflow⟩

end Library

end Conduit
