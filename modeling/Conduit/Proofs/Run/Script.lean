import Conduit.Proofs.Run.Interpreter

/-!
# Scripts

A script is a run in which it is left open how other pipes are run. The bodies of pipes are scripts
that are put together in a few ways only. They come to a value or fail by themselves, ask a
collaborator, call a pipe, or do one thing after another; and while they do the latter they may go
on after a failure, as branches do.

To know of a body which pipes it calls, and with which causes it fails by itself, is to know how it
is put together. What holds of the calls and of the own failures then holds of the body, and is
proved here for all bodies at once.
-/

namespace Conduit

/-- A run that leaves open how other pipes are run. -/
abbrev Script (α : Type) : Type :=
  Runner → Run α

/-- The script runs other pipes in these calls only, and by itself fails with these causes only. -/
inductive Composed (calls : Pipe → Params → Prop) (faults : Cause → Prop) :
    ∀ {α : Type}, Script α → Prop
  | pure {α : Type} (value : α) : Composed calls faults fun _ => (Pure.pure value : Run α)
  | fail {α : Type} {cause : Cause} (own : faults cause) :
      Composed calls faults fun _ => (Run.fail cause : Run α)
  /-- A request is written down, and then it is answered or not. -/
  | ask {α ε : Type} {cause : ε → Cause} {answer : RunState → Except ε α} {request : Request}
      (own : ∀ error, faults (cause error)) :
      Composed calls faults (α := α) fun _ state =>
        Run.require cause (answer state) { state with journal := state.journal ++ [request] }
  | call {pipe : Pipe} {params : Params} (memory : WorkingMemory) (output : Option String)
      (called : calls pipe params) :
      Composed calls faults fun runner => runner pipe memory params output
  | bind {α β : Type} {script : Script α} {next : α → Script β}
      (first : Composed calls faults script)
      (rest : ∀ value, Composed calls faults (next value)) :
      Composed calls faults fun runner => script runner >>= fun value => next value runner
  | both {α β : Type} {script : Script α} {other : Script β}
      (first : Composed calls faults script) (second : Composed calls faults other) :
      Composed calls faults fun runner => Run.both (script runner) (other runner)

namespace Composed

variable {calls : Pipe → Params → Prop} {faults : Cause → Prop} {α β ε : Type}

theorem require {cause : ε → Cause} {result : Except ε α}
    (own : ∀ error, result = .error error → faults (cause error)) :
    Composed calls faults fun _ => Run.require cause result := by
  cases result with
  | ok value => exact pure value
  | error error => exact fail (own error rfl)

/-- What comes after a result may rely on it. -/
theorem require_bind {cause : ε → Cause} {result : Except ε α} {next : α → Script β}
    (own : ∀ error, result = .error error → faults (cause error))
    (rest : ∀ value, result = .ok value → Composed calls faults (next value)) :
    Composed calls faults fun runner =>
      Run.require cause result >>= fun value => next value runner := by
  cases result with
  | ok value => exact rest value rfl
  | error error => exact fail (own error rfl)

theorem join {items : List α} {branch : α → Script β}
    (each : ∀ item ∈ items, Composed calls faults (branch item)) :
    Composed calls faults fun runner =>
      Run.join (items.map fun item => branch item runner) := by
  induction items with
  | nil => exact pure []
  | cons item items ih =>
      have others := ih fun item member => each item (List.mem_cons_of_mem _ member)
      exact ((each item List.mem_cons_self).both others).bind fun values =>
        pure (values.1 :: values.2)

theorem generate {collaborators : Collaborators} {job : Job}
    (own : ∀ error, faults (.collaborator error)) :
    Composed calls faults fun _ => Run.generate collaborators job := by
  unfold Run.generate
  cases collaborators.generator with
  | none => exact fail (own _)
  | some generator => exact ask own

theorem callFunction {name : String} {function : Function} {inputs : OrderedMap Stuff}
    (own : ∀ error, faults (.collaborator error)) :
    Composed calls faults fun _ => Run.call name function inputs :=
  ask own

/-- What can be said about a step of a run, with all that its calls and its requests do, can be
said about the run. -/
theorem steps {script : Script α} {relates : RunState → RunState → Prop} {runner : Runner}
    (refl : ∀ state, relates state state)
    (trans : ∀ {first second third}, relates first second → relates second third →
      relates first third)
    (asked : ∀ (state : RunState) request,
      relates state { state with journal := state.journal ++ [request] })
    (callees : ∀ pipe params, calls pipe params → ∀ memory output state,
      relates state (runner pipe memory params output state).2)
    (composed : Composed calls faults script) (state : RunState) :
    relates state (script runner state).2 := by
  induction composed generalizing state with
  | pure value => exact refl state
  | fail own => exact refl state
  | @ask _ _ cause answer request own =>
      have written := asked state request
      change relates state (Run.require cause (answer state) _).2
      cases answer state <;> exact written
  | call memory output called => exact callees _ _ called memory output state
  | @bind _ _ script next first rest ih ih' =>
      change relates state ((script runner >>= fun value => next value runner) state).2
      have related := ih state
      rcases ran : script runner state with ⟨error | value, middle⟩ <;> rw [ran] at related
      · rwa [Run.bind_error ran]
      · rw [Run.bind_ok ran]
        exact trans related (ih' value middle)
  | both first second ih ih' => exact trans (ih state) (ih' _)

theorem advancing {script : Script α} {runner : Runner} (advances : Library.AdvancesAll runner)
    (composed : Composed calls faults script) : Run.Advancing (script runner) :=
  steps .refl .trans .asked (fun pipe params _ memory output => advances pipe memory params output)
    composed

/-- A failure of a run is one of a callee or an own one. -/
theorem meets {script : Script α} {runner : Runner} {stack : PipeStack} {bad : RunError → Prop}
    (own : ∀ cause, faults cause → bad (.ofCause cause))
    (callees : ∀ pipe params, calls pipe params → ∀ memory output,
      Run.Meets stack (fun _ => True) bad (runner pipe memory params output))
    (composed : Composed calls faults script) :
    Run.Meets stack (fun _ => True) bad (script runner) := by
  induction composed with
  | pure value => exact .pure trivial
  | fail fault => exact .fail (own _ fault)
  | ask fault => exact .ask (fun _ => trivial) fun error => own _ (fault error)
  | call memory output called => exact callees _ _ called memory output
  | bind first rest ih ih' => exact ih.bind fun value _ => ih' value
  | both first second ih ih' => exact (ih.both ih').mono_good fun _ _ => trivial

end Composed

end Conduit
