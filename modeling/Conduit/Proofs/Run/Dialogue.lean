import Conduit.Proofs.Run.Agreement
import Conduit.Proofs.Run.Script

/-!
# Dialogues

A dialogue lays open what a script does with those who run other pipes for it. It makes an attempt,
is given what the attempt has come to, and goes on from there until it is over. How it goes on may
depend on all answers so far.

Every script that is put together in the usual ways has a dialogue that comes to the same, whoever
gives the answers. Nothing is left out of it, for a script that is given the same answers to the
attempts in its dialogue comes to the same end.
-/

namespace Conduit

/-- All that is given to a runner: what is to be run, and the state in which the run begins. -/
structure Attempt where
  pipe : Pipe
  memory : WorkingMemory
  params : Params
  output : Option String
  state : RunState

/-- What an attempt comes to. -/
def Attempt.under (attempt : Attempt) (runner : Runner) : Except RunError Output × RunState :=
  runner attempt.pipe attempt.memory attempt.params attempt.output attempt.state

/-- A computation that attempts to run pipes, and goes on as the attempts turn out. -/
inductive Dialogue (α : Type) where
  | done (outcome : Except RunError α × RunState)
  | next (attempt : Attempt) (rest : Except RunError Output × RunState → Dialogue α)

namespace Dialogue

variable {α β : Type} {runner runner' : Runner}

/-- The outcome of a dialogue. -/
def follow (runner : Runner) : Dialogue α → Except RunError α × RunState
  | done outcome => outcome
  | next attempt rest => (rest (attempt.under runner)).follow runner

/-- The attempts that are made in a dialogue, in order. -/
def attempts (runner : Runner) : Dialogue α → List Attempt
  | done _ => []
  | next attempt rest => attempt :: (rest (attempt.under runner)).attempts runner

/-- Go on with the outcome of a dialogue. -/
def andThen (dialogue : Dialogue α) (more : Except RunError α × RunState → Dialogue β) :
    Dialogue β :=
  match dialogue with
  | done outcome => more outcome
  | next attempt rest => next attempt fun answer => (rest answer).andThen more

/-- Go on with a value; a failure is the end. -/
def onValue (more : α → RunState → Dialogue β) :
    Except RunError α × RunState → Dialogue β
  | (.ok value, state) => more value state
  | (.error error, state) => done (.error error, state)

/-- Go on in any case, and come to both values if there are two. -/
def beside (other : RunState → Dialogue β) (outcome : Except RunError α × RunState) :
    Dialogue (α × β) :=
  (other outcome.2).andThen fun outcome' => done (Run.pair outcome.1 outcome'.1, outcome'.2)

@[simp] theorem follow_andThen (dialogue : Dialogue α)
    (more : Except RunError α × RunState → Dialogue β) :
    (dialogue.andThen more).follow runner = (more (dialogue.follow runner)).follow runner := by
  induction dialogue with
  | done outcome => rfl
  | next attempt rest ih => exact ih _

@[simp] theorem attempts_andThen (dialogue : Dialogue α)
    (more : Except RunError α × RunState → Dialogue β) :
    (dialogue.andThen more).attempts runner =
      dialogue.attempts runner ++ (more (dialogue.follow runner)).attempts runner := by
  induction dialogue with
  | done outcome => rfl
  | next attempt rest ih => exact congrArg (attempt :: ·) (ih _)

/-- The outcome depends on nothing but the answers to the attempts. -/
theorem follow_congr {dialogue : Dialogue α}
    (same : ∀ attempt ∈ dialogue.attempts runner, attempt.under runner' = attempt.under runner) :
    dialogue.follow runner' = dialogue.follow runner := by
  induction dialogue with
  | done outcome => rfl
  | next attempt rest ih =>
      have first := same attempt List.mem_cons_self
      rw [follow, follow, first]
      exact ih _ fun other member => same other (List.mem_cons_of_mem _ member)

/-- A dialogue comes to what a script comes to from a state. Its attempts are calls of the script,
and are made at the stack of that state as long as all runs leave the stack as it is. -/
structure Recounts (calls : Pipe → Params → Prop) (script : Script α) (state : RunState)
    (dialogue : Dialogue α) : Prop where
  follow : ∀ runner, dialogue.follow runner = script runner state
  attempts : ∀ runner, Library.AdvancesAll runner → ∀ attempt ∈ dialogue.attempts runner,
    calls attempt.pipe attempt.params ∧ attempt.state.stack = state.stack

namespace Recounts

variable {calls : Pipe → Params → Prop} {script : Script α} {state : RunState}
variable {dialogue : Dialogue α}

theorem done {outcome : Except RunError α × RunState}
    (alone : ∀ runner, script runner state = outcome) :
    Recounts calls script state (.done outcome) :=
  ⟨fun runner => (alone runner).symm, fun _ _ _ member => nomatch member⟩

theorem call {pipe : Pipe} {params : Params} (memory : WorkingMemory) (output : Option String)
    (called : calls pipe params) (state : RunState) :
    Recounts calls (fun runner => runner pipe memory params output) state
      (.next ⟨pipe, memory, params, output, state⟩ .done) := by
  refine ⟨fun _ => rfl, fun runner _ attempt member => ?_⟩
  obtain rfl := List.mem_singleton.1 member
  exact ⟨called, rfl⟩

/-- What is done with the outcome begins at the same stack. -/
theorem andThen {after : Script β} {more : Except RunError α × RunState → Dialogue β}
    (first : Recounts calls script state dialogue)
    (advances : ∀ runner, Library.AdvancesAll runner → Run.Advancing (script runner))
    (follow : ∀ runner, (more (script runner state)).follow runner = after runner state)
    (attempts : ∀ runner, Library.AdvancesAll runner →
      ∀ attempt ∈ (more (script runner state)).attempts runner,
        calls attempt.pipe attempt.params ∧
          attempt.state.stack = (script runner state).2.stack) :
    Recounts calls after state (dialogue.andThen more) := by
  constructor
  · intro runner
    rw [follow_andThen, first.follow]
    exact follow runner
  · intro runner advancing attempt member
    rw [attempts_andThen, List.mem_append, first.follow] at member
    rcases member with early | late
    · exact first.attempts runner advancing attempt early
    · obtain ⟨called, stack⟩ := attempts runner advancing attempt late
      exact ⟨called, stack.trans (advances runner advancing state).stack⟩

theorem bind {next : α → Script β} {more : α → RunState → Dialogue β}
    (first : Recounts calls script state dialogue)
    (advances : ∀ runner, Library.AdvancesAll runner → Run.Advancing (script runner))
    (rest : ∀ value middle, Recounts calls (next value) middle (more value middle)) :
    Recounts calls (fun runner => script runner >>= fun value => next value runner) state
      (dialogue.andThen (onValue more)) := by
  refine first.andThen advances (fun runner => ?_) fun runner advancing attempt member => ?_
  · rcases ran : script runner state with ⟨error | value, middle⟩
    · exact (Run.bind_error ran).symm
    · have resumed : (script runner >>= fun value => next value runner) state =
          next value runner middle := Run.bind_ok ran
      exact ((rest value middle).follow runner).trans resumed.symm
  · rcases ran : script runner state with ⟨error | value, middle⟩ <;> rw [ran] at member
    · cases member
    · exact (rest value middle).attempts runner advancing attempt member

theorem both {other : Script β} {more : RunState → Dialogue β}
    (first : Recounts calls script state dialogue)
    (advances : ∀ runner, Library.AdvancesAll runner → Run.Advancing (script runner))
    (second : ∀ middle, Recounts calls other middle (more middle)) :
    Recounts calls (fun runner => Run.both (script runner) (other runner)) state
      (dialogue.andThen (beside more)) := by
  refine first.andThen advances (fun runner => ?_) fun runner advancing attempt member => ?_
  · rw [beside, follow_andThen, (second _).follow]
    rfl
  · rw [beside, attempts_andThen, List.mem_append] at member
    exact (second _).attempts runner advancing attempt (member.resolve_right nofun)

end Recounts

end Dialogue

/-- A script that is put together in the usual ways has a dialogue. -/
theorem Composed.recounts {calls : Pipe → Params → Prop} {faults : Cause → Prop} {α : Type}
    {script : Script α} (composed : Composed calls faults script) (state : RunState) :
    ∃ dialogue, Dialogue.Recounts calls script state dialogue := by
  induction composed generalizing state with
  | pure value => exact ⟨_, .done fun _ => rfl⟩
  | fail own => exact ⟨_, .done fun _ => rfl⟩
  | ask own => exact ⟨_, .done fun _ => rfl⟩
  | call memory output called => exact ⟨_, .call memory output called state⟩
  | bind first rest ih ih' =>
      obtain ⟨dialogue, recounts⟩ := ih state
      choose more recounts' using ih'
      exact ⟨_, recounts.bind (fun _ advancing => first.advancing advancing) recounts'⟩
  | both first second ih ih' =>
      obtain ⟨dialogue, recounts⟩ := ih state
      choose more recounts' using ih'
      exact ⟨_, recounts.both (fun _ advancing => first.advancing advancing) recounts'⟩

end Conduit
