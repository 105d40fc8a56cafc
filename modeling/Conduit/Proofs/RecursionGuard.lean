import Conduit.Proofs.Run.Dialogue
import Conduit.Proofs.Run.OwnFaults
import Conduit.Proofs.Sample

/-!
# The guard of recursion

Pipes may call each other in circles, and how often they do so may depend on lists that are known
only in a run. Nevertheless every run comes to an end. A pipe that runs holds a place on the stack,
the runs nested in it are attempted with one place more, and at the limit an attempt fails before
anything is done.

To say this, the run of a pipe is laid open as a dialogue with whoever runs the pipes nested in it.
The attempts that are made in it are the nested runs. That their chains cannot go on for ever is a
matter of the room that is left on the stack, whatever the pipes of the library are. So there is
just one way to run pipes in which the nested runs are done in the same way.
-/

namespace Conduit

/-- The peak of the stack has risen to this limit at most. -/
def RunState.RisesTo (limit : Nat) (before after : RunState) : Prop :=
  after.peak ≤ max before.peak limit

namespace RunState.RisesTo

variable {limit : Nat} {first second third : RunState}

theorem refl (state : RunState) : state.RisesTo limit state :=
  Nat.le_max_left _ _

theorem trans (h : first.RisesTo limit second) (h' : second.RisesTo limit third) :
    first.RisesTo limit third := by
  unfold RisesTo at *
  omega

theorem asked (state : RunState) (request : Request) :
    state.RisesTo limit { state with journal := state.journal ++ [request] } :=
  Nat.le_max_left _ _

/-- What begins with one place more has not risen above the limit, if there was room. -/
theorem leave {code : String} (room : first.stack.length < limit)
    (h : (first.enter code).RisesTo limit second) :
    first.RisesTo limit (second.leave code) := by
  unfold RisesTo at *
  rw [enter_peak] at h
  rw [leave_peak]
  omega

end RunState.RisesTo

/-- The failure of an attempt for which there is no place on the stack. -/
def Attempt.overflow (attempt : Attempt) : RunError :=
  .located
    (Library.contextOf attempt.pipe attempt.params attempt.output attempt.state.stack)
    (.ofCause (.stackOverflow attempt.params.limit (attempt.state.stack ++ [attempt.pipe.code])))

namespace Library

open Run

/-- What an attempt comes to if all runs nested in it are done by this runner. -/
def attempted (library : Library) (runner : Runner) (attempt : Attempt) :
    Except RunError Output × RunState :=
  Run.framed attempt.params.limit attempt.pipe.code
    (contextOf attempt.pipe attempt.params attempt.output)
    (library.execute runner attempt.pipe attempt.memory attempt.params attempt.output)
    attempt.state

/-- For every attempt a dialogue that comes to the same, whoever runs the nested pipes. -/
structure Account (library : Library) where
  dialogue : Attempt → Dialogue Output
  faithful : ∀ attempt runner,
    (dialogue attempt).follow runner = library.attempted runner attempt

/-- The runs that are attempted directly in the run of an attempt, in order. -/
def Account.nested {library : Library} (account : library.Account) (attempt : Attempt) :
    List Attempt :=
  (account.dialogue attempt).attempts library.run

variable {library : Library}

/-- The library runs nested pipes as it runs all pipes. -/
theorem under_run (attempt : Attempt) :
    attempt.under library.run = library.attempted library.run attempt :=
  congrFun (run_eq_framed library attempt.pipe attempt.memory attempt.params attempt.output)
    attempt.state

theorem Callee.limit {pipe callee : Pipe} {params given : Params}
    (h : library.Callee pipe params callee given) : given.limit = params.limit := by
  obtain ⟨_, multiplicity, -, -, rfl⟩ := h
  exact Params.forCallee_limit params multiplicity

/-- The outcome of a body, once the place of its pipe has been given up. -/
def close (attempt : Attempt) :
    Except RunError Output × RunState → Except RunError Output × RunState
  | (.ok output, final) => (.ok output, final.leave attempt.pipe.code)
  | (.error error, final) =>
    (.error (error.annotate (contextOf attempt.pipe attempt.params attempt.output final.stack)),
      final.leave attempt.pipe.code)

theorem attempted_room {attempt : Attempt}
    (room : attempt.state.stack.length < attempt.params.limit) (runner : Runner) :
    library.attempted runner attempt =
      close attempt (library.execute runner attempt.pipe attempt.memory attempt.params
        attempt.output (attempt.state.enter attempt.pipe.code)) := by
  rw [attempted]
  rcases ran : library.execute runner attempt.pipe attempt.memory attempt.params attempt.output
    (attempt.state.enter attempt.pipe.code) with ⟨error | output, final⟩
  · exact framed_error room ran
  · exact framed_ok room ran

theorem attempted_full {attempt : Attempt}
    (full : attempt.params.limit ≤ attempt.state.stack.length) (runner : Runner) :
    library.attempted runner attempt = (.error attempt.overflow, attempt.state) :=
  framed_full full

/-- What is nested in a run is called one place further up, and only if there is room. -/
theorem exists_dialogue (library : Library) (attempt : Attempt) :
    ∃ dialogue : Dialogue Output,
      (∀ runner, dialogue.follow runner = library.attempted runner attempt) ∧
      ∀ nested ∈ dialogue.attempts library.run,
        attempt.state.stack.length < attempt.params.limit ∧
        nested.state.stack = attempt.state.stack ++ [attempt.pipe.code] ∧
        nested.params.limit = attempt.params.limit := by
  by_cases room : attempt.state.stack.length < attempt.params.limit
  · obtain ⟨dialogue, recounts⟩ := (library.composed_execute attempt.pipe attempt.memory
      attempt.params attempt.output).recounts (attempt.state.enter attempt.pipe.code)
    refine ⟨dialogue.andThen fun outcome => .done (close attempt outcome), fun runner => ?_,
      fun nested member => ?_⟩
    · rw [Dialogue.follow_andThen, recounts.follow, attempted_room room]
      rfl
    · rw [Dialogue.attempts_andThen, List.mem_append] at member
      have made := member.resolve_right nofun
      obtain ⟨called, stack⟩ := recounts.attempts library.run library.advancing_run nested made
      exact ⟨room, stack, called.limit⟩
  · exact ⟨.done (.error attempt.overflow, attempt.state),
      fun runner => (attempted_full (Nat.not_lt.1 room) runner).symm,
      fun _ member => absurd member List.not_mem_nil⟩

/-- An account in which the nested runs are attempted one place further up. -/
structure Account.Guarded (account : library.Account) : Prop where
  room : ∀ attempt, ∀ nested ∈ account.nested attempt,
    attempt.state.stack.length < attempt.params.limit
  above : ∀ attempt, ∀ nested ∈ account.nested attempt,
    nested.state.stack = attempt.state.stack ++ [attempt.pipe.code]
  limit : ∀ attempt, ∀ nested ∈ account.nested attempt,
    nested.params.limit = attempt.params.limit

theorem exists_guarded (library : Library) : ∃ account : library.Account, account.Guarded := by
  choose dialogue faithful nested using library.exists_dialogue
  exact ⟨⟨dialogue, faithful⟩, fun attempt inner member => (nested attempt inner member).1,
    fun attempt inner member => (nested attempt inner member).2.1,
    fun attempt inner member => (nested attempt inner member).2.2⟩

namespace Account.Guarded

variable {account : library.Account}

/-- The room that is left on the stack gets less from run to nested run. -/
theorem wellFounded (guarded : account.Guarded) :
    WellFounded fun nested attempt => nested ∈ account.nested attempt := by
  let room (attempt : Attempt) : Nat := attempt.params.limit - attempt.state.stack.length
  refine Subrelation.wf ?_ (InvImage.wf room Nat.lt_wfRel.wf)
  intro nested attempt member
  have left := guarded.room attempt nested member
  change nested.params.limit - nested.state.stack.length <
    attempt.params.limit - attempt.state.stack.length
  rw [guarded.limit attempt nested member, guarded.above attempt nested member,
    List.length_append, List.length_singleton]
  omega

/-- A runner that does nested runs in its own way does all runs as the library does. -/
theorem unique (guarded : account.Guarded) {runner : Runner}
    (same : ∀ attempt : Attempt, attempt.under runner = library.attempted runner attempt) :
    runner = library.run := by
  have agrees : ∀ attempt : Attempt, attempt.under runner = attempt.under library.run := by
    intro attempt
    induction attempt using guarded.wellFounded.induction with
    | _ attempt ih =>
        rw [same, under_run, ← account.faithful, ← account.faithful]
        exact Dialogue.follow_congr ih
  funext pipe memory params output state
  exact agrees ⟨pipe, memory, params, output, state⟩

end Account.Guarded

theorem risesTo_framed {limit : Nat} {code : String} {context : PipeStack → Context}
    {run : Run Output} (body : ∀ state : RunState, state.RisesTo limit (run state).2)
    (state : RunState) :
    state.RisesTo limit (Run.framed limit code context run state).2 := by
  by_cases room : state.stack.length < limit
  · have rises := body (state.enter code)
    rcases ran : run (state.enter code) with ⟨error | output, final⟩ <;> rw [ran] at rises
    · rw [framed_error room ran]
      exact rises.leave room
    · rw [framed_ok room ran]
      exact rises.leave room
  · rw [framed_full (Nat.not_lt.1 room)]
    exact .refl state

/-- The induction is on the room that is granted. -/
theorem risesTo_runWithin (room : Nat) (pipe : Pipe) (memory : WorkingMemory) (params : Params)
    (output : Option String) (state : RunState) :
    state.RisesTo params.limit (library.runWithin room pipe memory params output state).2 := by
  induction room generalizing pipe memory params output state with
  | zero => exact risesTo_framed .refl state
  | succ room ih =>
      have callees : ∀ callee given, library.Callee pipe params callee given →
          ∀ memory output (state : RunState), state.RisesTo params.limit
            (library.runWithin room callee memory given output state).2 := by
        intro callee given called memory output state
        rw [← called.limit]
        exact ih callee memory given output state
      exact risesTo_framed (Composed.steps .refl .trans .asked callees
        (library.composed_execute pipe memory params output)) state

/-- All runs come to an end, whichever pipes call each other. A run that is nested in another one
is attempted with the pipe of the other one on top of the stack and under the same limit, and
chains of nested runs are finite; so there is just one runner that does every run with the nested
runs done by itself, and that is the one of the library. At the limit an attempt fails and does
nothing. No body begins with more places taken than the limit allows, and whatever the outcome is,
the stack is what it was before. -/
theorem run_guarded (library : Library) :
    ∃ account : library.Account,
      (∀ attempt, ∀ nested ∈ account.nested attempt,
        nested.state.stack = attempt.state.stack ++ [attempt.pipe.code] ∧
        nested.params.limit = attempt.params.limit ∧
        nested.state.stack.length ≤ attempt.params.limit) ∧
      (WellFounded fun nested attempt => nested ∈ account.nested attempt) ∧
      (∀ runner : Runner,
        (∀ attempt : Attempt, attempt.under runner = library.attempted runner attempt) ↔
          runner = library.run) ∧
      ∀ attempt : Attempt,
        (attempt.params.limit ≤ attempt.state.stack.length →
          account.nested attempt = [] ∧
            attempt.under library.run = (.error attempt.overflow, attempt.state)) ∧
        (attempt.under library.run).2.stack = attempt.state.stack ∧
        (attempt.under library.run).2.peak ≤ max attempt.state.peak attempt.params.limit := by
  obtain ⟨account, guarded⟩ := library.exists_guarded
  refine ⟨account, fun attempt nested member => ⟨?_, ?_, ?_⟩, guarded.wellFounded,
    fun runner => ⟨guarded.unique, ?_⟩, fun attempt => ⟨fun full => ⟨?_, ?_⟩, ?_, ?_⟩⟩
  · exact guarded.above attempt nested member
  · exact guarded.limit attempt nested member
  · rw [guarded.above attempt nested member, List.length_append]
    exact guarded.room attempt nested member
  · rintro rfl
    exact under_run
  · refine List.eq_nil_iff_forall_not_mem.2 fun nested member => ?_
    exact absurd (guarded.room attempt nested member) (Nat.not_lt.2 full)
  · rw [under_run]
    exact attempted_full full library.run
  · exact (advancing_run library attempt.pipe attempt.memory attempt.params attempt.output
      attempt.state).stack
  · exact risesTo_runWithin _ attempt.pipe attempt.memory attempt.params attempt.output
      attempt.state

/-- A pipe that calls itself is stopped at the limit, and all its places are given up. -/
example : ∃ error final,
    Sample.circle.run Sample.again .empty (Sample.live 2) none .initial = (.error error, final) ∧
      error.cause = .stackOverflow 2 ["again", "again", "again"] ∧
      final.stack = [] ∧ final.peak = 2 :=
  ⟨_, _, rfl, rfl, rfl, rfl⟩

end Library

end Conduit
