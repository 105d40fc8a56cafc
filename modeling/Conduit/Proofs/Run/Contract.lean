import Conduit.Proofs.Keyed
import Conduit.Run.State

/-!
# Contracts of runs

A contract says what a run comes to when it begins with a given stack: what its value is like
if it succeeds, and what its error is like if it fails. On either outcome the state has only
advanced. The stack is what it was, the peak has not fallen, and what had been asked is still
in the journal.

The rules below follow the ways in which runs are put together. The rule of `framed` is the
only one in which the stack changes: the body begins with the code on top.
-/

namespace Conduit

/-- What a run may have done to the state when it is over. -/
structure RunState.Advances (before after : RunState) : Prop where
  stack : after.stack = before.stack
  peak : before.peak ≤ after.peak
  journal : before.journal <+: after.journal

namespace RunState.Advances

variable {first second third : RunState}

theorem refl (state : RunState) : state.Advances state :=
  ⟨rfl, Nat.le_refl _, List.prefix_refl _⟩

theorem trans (h : first.Advances second) (h' : second.Advances third) : first.Advances third :=
  ⟨h'.stack.trans h.stack, Nat.le_trans h.peak h'.peak, h.journal.trans h'.journal⟩

/-- Asking a collaborator leaves everything but the journal alone. -/
theorem asked (state : RunState) (request : Request) :
    state.Advances { state with journal := state.journal ++ [request] } :=
  ⟨rfl, Nat.le_refl _, List.prefix_append _ _⟩

end RunState.Advances

namespace RunState

/-- The state in which the body of a pipe begins. -/
def enter (state : RunState) (code : String) : RunState :=
  { state with stack := state.stack ++ [code], peak := max state.peak (state.stack.length + 1) }

/-- The state after the body of a pipe. -/
def leave (state : RunState) (code : String) : RunState :=
  { state with stack := state.stack.leave code }

@[simp] theorem enter_stack (state : RunState) (code : String) :
    (state.enter code).stack = state.stack ++ [code] := rfl

theorem length_enter (state : RunState) (code : String) :
    (state.enter code).stack.length = state.stack.length + 1 := by
  rw [enter_stack, List.length_append, List.length_singleton]

@[simp] theorem enter_peak (state : RunState) (code : String) :
    (state.enter code).peak = max state.peak (state.stack.length + 1) := rfl

@[simp] theorem leave_peak (state : RunState) (code : String) :
    (state.leave code).peak = state.peak := rfl

/-- What a body has done is undone as far as the stack is concerned. -/
theorem Advances.leave {state final : RunState} {code : String}
    (h : (state.enter code).Advances final) : state.Advances (final.leave code) := by
  refine ⟨?_, Nat.le_trans (Nat.le_max_left _ _) h.peak, h.journal⟩
  change final.stack.leave code = state.stack
  rw [h.stack, enter_stack, PipeStack.leave_enter]

end RunState

namespace Run

variable {α β ε : Type}

/-- A run only advances the state, whatever its outcome. -/
def Advancing (run : Run α) : Prop :=
  ∀ state : RunState, state.Advances (run state).2

/-- A contract for a run that begins with this stack. -/
def Meets (stack : PipeStack) (good : α → Prop) (bad : RunError → Prop) (run : Run α) : Prop :=
  ∀ state : RunState, state.stack = stack → state.Advances (run state).2 ∧
    match (run state).1 with
    | .ok value => good value
    | .error error => bad error

theorem bind_ok {run : Run α} {next : α → Run β} {state middle : RunState} {value : α}
    (h : run state = (.ok value, middle)) : (run >>= next) state = next value middle := by
  rw [bind_apply, h]

theorem bind_error {run : Run α} {next : α → Run β} {state middle : RunState} {error : RunError}
    (h : run state = (.error error, middle)) : (run >>= next) state = (.error error, middle) := by
  rw [bind_apply, h]

theorem bind_assoc {γ : Type} (run : Run α) (next : α → Run β) (last : β → Run γ) :
    (run >>= next) >>= last = run >>= fun value => next value >>= last := by
  funext state
  simp only [bind_apply]
  rcases run state with ⟨error | value, middle⟩ <;> rfl

/-- A run that succeeds has succeeded in both of its parts. -/
theorem bind_eq_ok {run : Run α} {next : α → Run β} {state after : RunState} {value : β} :
    (run >>= next) state = (.ok value, after) ↔
      ∃ a middle, run state = (.ok a, middle) ∧ next a middle = (.ok value, after) := by
  rcases result : run state with ⟨error | a, middle⟩
  · simp [bind_error result]
  · simp [bind_ok result]

theorem require_eq_ok {cause : ε → Cause} {result : Except ε α} {state after : RunState}
    {value : α} :
    require cause result state = (.ok value, after) ↔ result = .ok value ∧ state = after := by
  cases result <;> simp [require]

/-- An idle run asks no one and leaves the state as it is: it comes to a value, or it fails. -/
def Idle (run : Run α) : Prop :=
  ∃ result : Except Cause α, run = require id result

namespace Idle

variable {run : Run α}

theorem pure (value : α) : Idle (Pure.pure value : Run α) :=
  ⟨.ok value, rfl⟩

theorem require (cause : ε → Cause) (result : Except ε α) : Idle (Run.require cause result) := by
  cases result with
  | ok value => exact ⟨.ok value, rfl⟩
  | error error => exact ⟨.error (cause error), rfl⟩

theorem bind {next : α → Run β} (first : Idle run) (rest : ∀ value, Idle (next value)) :
    Idle (run >>= next) := by
  obtain ⟨error | value, rfl⟩ := first
  · exact ⟨.error error, rfl⟩
  · exact rest value

theorem state_eq (idle : Idle run) (state : RunState) : (run state).2 = state := by
  obtain ⟨_ | _, rfl⟩ := idle <;> rfl

end Idle

theorem isOk_iff {run : Run α} {state : RunState} :
    (run state).1.isOk = true ↔ ∃ value after, run state = (.ok value, after) := by
  rcases run state with ⟨error | value, after⟩ <;> simp [Except.isOk, Except.toBool]

theorem pair_eq_ok {a : Except RunError α} {b : Except RunError β} {values : α × β} :
    pair a b = .ok values ↔ a = .ok values.1 ∧ b = .ok values.2 := by
  cases a <;> cases b <;> simp [pair, Prod.ext_iff]

theorem both_apply (first : Run α) (second : Run β) (state : RunState) :
    both first second state =
      (pair (first state).1 (second (first state).2).1, (second (first state).2).2) := rfl

/-- Where all branches succeed, so does the first, in the state in which all begin. -/
theorem join_cons_ok {branch : Run α} {branches : List (Run α)} {values : List α}
    {state after : RunState} (h : join (branch :: branches) state = (.ok values, after)) :
    ∃ value middle, branch state = (.ok value, middle) := by
  obtain ⟨pair, middle, ran, -⟩ := bind_eq_ok.1 h
  rw [both_apply] at ran
  obtain ⟨first, -⟩ := pair_eq_ok.1 (congrArg Prod.fst ran)
  exact ⟨pair.1, (branch state).2, Prod.ext first rfl⟩

section Framed

variable {limit : Nat} {code : String} {context : PipeStack → Context} {body : Run α}
variable {state final : RunState}

theorem framed_full (full : limit ≤ state.stack.length) :
    framed limit code context body state =
      (.error ((RunError.ofCause (.stackOverflow limit (state.stack ++ [code]))).annotate
        (context state.stack)), state) := by
  simp [framed, PipeStack.enter, Nat.not_lt.2 full]

theorem framed_ok {value : α} (room : state.stack.length < limit)
    (h : body (state.enter code) = (.ok value, final)) :
    framed limit code context body state = (.ok value, final.leave code) := by
  simp only [RunState.enter] at h
  simp [framed, PipeStack.enter, room, mapError, h, RunState.leave]

theorem framed_error {error : RunError} (room : state.stack.length < limit)
    (h : body (state.enter code) = (.error error, final)) :
    framed limit code context body state =
      (.error (error.annotate (context final.stack)), final.leave code) := by
  simp only [RunState.enter] at h
  simp [framed, PipeStack.enter, room, mapError, h, RunState.leave]

end Framed

namespace Meets

variable {stack : PipeStack} {good good' : α → Prop} {bad bad' : RunError → Prop} {run : Run α}

theorem consequence (h : Meets stack good bad run) (ok : ∀ value, good value → good' value)
    (error : ∀ fault, bad fault → bad' fault) : Meets stack good' bad' run := by
  intro state start
  obtain ⟨advances, outcome⟩ := h state start
  refine ⟨advances, ?_⟩
  cases result : (run state).1 with
  | ok value => exact ok value (by simpa only [result] using outcome)
  | error fault => exact error fault (by simpa only [result] using outcome)

theorem mono_good (h : Meets stack good bad run) (ok : ∀ value, good value → good' value) :
    Meets stack good' bad run :=
  h.consequence ok fun _ fault => fault

/-- The value of a run that succeeds. -/
theorem ok (h : Meets stack good bad run) {state final : RunState} {value : α}
    (start : state.stack = stack) (result : run state = (.ok value, final)) : good value := by
  simpa only [result] using (h state start).2

/-- The error of a run that fails. -/
theorem error (h : Meets stack good bad run) {state final : RunState} {fault : RunError}
    (start : state.stack = stack) (result : run state = (.error fault, final)) : bad fault := by
  simpa only [result] using (h state start).2

theorem advancing (h : ∀ stack, Meets stack good bad run) : Advancing run :=
  fun state => (h state.stack state rfl).1

theorem pure {value : α} (h : good value) : Meets stack good bad (Pure.pure value) :=
  fun state _ => ⟨.refl state, h⟩

theorem fail {cause : Cause} (h : bad (.ofCause cause)) :
    Meets stack good bad (Run.fail cause) :=
  fun state _ => ⟨.refl state, h⟩

theorem require {cause : ε → Cause} {result : Except ε α}
    (ok : ∀ value, result = .ok value → good value)
    (error : ∀ fault, result = .error fault → bad (.ofCause (cause fault))) :
    Meets stack good bad (Run.require cause result) := by
  cases result with
  | ok value => exact pure (ok value rfl)
  | error fault => exact fail (error fault rfl)

theorem bind {next : α → Run β} {good' : β → Prop} (first : Meets stack good bad run)
    (rest : ∀ value, good value → Meets stack good' bad (next value)) :
    Meets stack good' bad (run >>= next) := by
  intro state start
  obtain ⟨advances, outcome⟩ := first state start
  rcases result : run state with ⟨fault | value, middle⟩ <;> simp only [result] at advances outcome
  · rw [bind_error result]
    exact ⟨advances, outcome⟩
  · rw [bind_ok result]
    obtain ⟨advances', outcome'⟩ := rest _ outcome middle (advances.stack.trans start)
    exact ⟨advances.trans advances', outcome'⟩

/-- The second run takes place even when the first one has failed. -/
theorem both {second : Run β} {good' : β → Prop} (first : Meets stack good bad run)
    (other : Meets stack good' bad second) :
    Meets stack (fun values => good values.1 ∧ good' values.2) bad (Run.both run second) := by
  intro state start
  obtain ⟨advances, outcome⟩ := first state start
  obtain ⟨advances', outcome'⟩ := other (run state).2 (advances.stack.trans start)
  refine ⟨advances.trans advances', ?_⟩
  rw [both_apply]
  cases one : (run state).1 with
  | error fault => simpa only [one, pair] using outcome
  | ok value =>
      cases two : (second (run state).2).1 with
      | error fault => simpa only [two, pair] using outcome'
      | ok value' =>
          simp only [one] at outcome
          simp only [two] at outcome'
          exact ⟨outcome, outcome'⟩

theorem join {items : List β} {branch : β → Run α} {each : β → α → Prop}
    (h : ∀ item ∈ items, Meets stack (each item) bad (branch item)) :
    Meets stack (fun values => List.Forall₂ each items values) bad
      (Run.join (items.map branch)) := by
  induction items with
  | nil => exact pure .nil
  | cons item items ih =>
      have others := ih fun item member => h item (List.mem_cons_of_mem _ member)
      exact ((h item List.mem_cons_self).both others).bind fun _ values =>
        pure (.cons values.1 values.2)

/-- An answer, or the lack of one, after a request has been written down. -/
theorem ask {cause : ε → Cause} {answer : RunState → Except ε α} {request : Request}
    (ok : ∀ value, good value) (error : ∀ fault, bad (.ofCause (cause fault))) :
    Meets stack good bad fun state =>
      Run.require cause (answer state) { state with journal := state.journal ++ [request] } := by
  intro state start
  have answered : Meets stack good bad (Run.require cause (answer state)) :=
    require (fun value _ => ok value) fun fault _ => error fault
  obtain ⟨advances, outcome⟩ :=
    answered { state with journal := state.journal ++ [request] } start
  exact ⟨(RunState.Advances.asked state request).trans advances, outcome⟩

theorem generate {collaborators : Collaborators} {job : Job} {good : Content → Prop}
    (ok : ∀ content, good content) (error : ∀ fault, bad (.ofCause (.collaborator fault))) :
    Meets stack good bad (Run.generate collaborators job) := by
  rw [Run.generate]
  cases collaborators.generator with
  | none => exact fail (error _)
  | some generator => exact ask ok error

theorem call {name : String} {function : Function} {inputs : OrderedMap Stuff}
    {good : Content → Prop} (ok : ∀ content, good content)
    (error : ∀ fault, bad (.ofCause (.collaborator fault))) :
    Meets stack good bad (Run.call name function inputs) :=
  ask ok error

/-- A body begins one place further up, and its failure is told where it happened. When no place
is left, the failure is told at the stack as it is. -/
theorem framed {limit : Nat} {code : String} {context : PipeStack → Context}
    (overflow : limit ≤ stack.length →
      bad ((RunError.ofCause (.stackOverflow limit (stack ++ [code]))).annotate (context stack)))
    (body : stack.length < limit → Meets (stack ++ [code]) good
      (fun fault => bad (fault.annotate (context (stack ++ [code])))) run) :
    Meets stack good bad (Run.framed limit code context run) := by
  rintro state rfl
  by_cases room : state.stack.length < limit
  · obtain ⟨advances, outcome⟩ := body room (state.enter code) rfl
    rcases result : run (state.enter code) with ⟨fault | value, final⟩ <;>
      simp only [result] at advances outcome
    · rw [framed_error room result, advances.stack]
      exact ⟨advances.leave, outcome⟩
    · rw [framed_ok room result]
      exact ⟨advances.leave, outcome⟩
  · rw [framed_full (Nat.not_lt.1 room)]
    exact ⟨.refl state, overflow (Nat.not_lt.1 room)⟩

end Meets

namespace Advancing

variable {run : Run α}

theorem of_eq (h : Advancing run) {state after : RunState} {outcome : Except RunError α}
    (result : run state = (outcome, after)) : state.Advances after := by
  have advances := h state
  rwa [result] at advances

theorem meets (h : Advancing run) (stack : PipeStack) :
    Meets stack (fun _ => True) (fun _ => True) run := by
  intro state _
  refine ⟨h state, ?_⟩
  cases (run state).1 <;> trivial

theorem pure (value : α) : Advancing (Pure.pure value : Run α) :=
  fun state => .refl state

theorem require (cause : ε → Cause) (result : Except ε α) :
    Advancing (Run.require cause result) := by
  intro state
  cases result <;> exact .refl state

theorem bind {next : α → Run β} (h : Advancing run) (rest : ∀ value, Advancing (next value)) :
    Advancing (run >>= next) :=
  Meets.advancing fun stack => (h.meets stack).bind fun value _ => (rest value).meets stack

theorem both {second : Run β} (h : Advancing run) (h' : Advancing second) :
    Advancing (Run.both run second) :=
  Meets.advancing fun stack => ((h.meets stack).both (h'.meets stack)).mono_good fun _ _ => trivial

theorem join {items : List β} {branch : β → Run α} (h : ∀ item, Advancing (branch item)) :
    Advancing (Run.join (items.map branch)) := by
  induction items with
  | nil => exact .pure []
  | cons item items ih => exact ((h item).both ih).bind fun _ => .pure _

theorem framed {limit : Nat} {code : String} {context : PipeStack → Context}
    (h : Advancing run) : Advancing (Run.framed limit code context run) := by
  have framed : ∀ stack, Meets stack (fun _ => True) (fun _ => True)
      (Run.framed limit code context run) :=
    fun stack => .framed (fun _ => trivial) fun _ => h.meets (stack ++ [code])
  exact Meets.advancing framed

end Advancing

end Run

end Conduit
