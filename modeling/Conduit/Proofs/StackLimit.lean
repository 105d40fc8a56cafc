import Conduit.Proofs.Sample
import Conduit.Proofs.Run.Repetition

/-!
# The law of the stack limit

A run that succeeds reaches some greatest depth of the stack. Under any limit that is not below
this depth the same run succeeds with the same output, and under any lower limit it fails with
an overflow of the stack, one place above the limit.

The run under the other limit is compared with the one that succeeds. Both do the same until
the second finds no place on the stack. Its failure may surface much later, since the siblings
of the failed branch still run; but they, too, can only fail in this way. That the first run has
been as high is never undone, for the peak does not fall.
-/

namespace Conduit

namespace Library

open Run

/-- A run under one limit is compared with a run under another. When the stack of the first has
so many places taken, that of the second is full. Both have as much room as their limits leave. -/
def underLimits (limit limit' height room room' : Nat) : Comparison where
  Start s t := height + t.stack.length = limit' + s.stack.length ∧ t.stack.length ≤ limit' ∧
    limit ≤ room + s.stack.length ∧ limit' ≤ room' + t.stack.length
  Calm before after := before.peak ≤ height → after.peak ≤ height
  Excuse after error := height < after.peak ∧
    ∃ stack, error.cause = .stackOverflow limit' stack ∧ stack.length = limit' + 1
  start started advances advances' := by
    rw [advances.stack, advances'.stack]
    exact started
  calm_refl _ low := low
  calm_trans calm calm' low := calm' (calm low)
  excuse advances excused := ⟨Nat.lt_of_lt_of_le excused.1 advances.peak, excused.2⟩

variable {library : Library} {params : Params} {limit limit' height room room' : Nat}

theorem allowsRest_underLimits : (underLimits limit limit' height room room').AllowsRest :=
  fun _ _ same low => same ▸ low

/-- Where the second run finds no place, the first one has risen above the height. -/
theorem tracks_framed {α : Type} {related : α → α → Prop} {first second : Run α} {code : String}
    {context context' : PipeStack → Context} (advancing : Advancing first)
    (body : 0 < room → 0 < room' →
      Tracks (underLimits limit limit' height (room - 1) (room' - 1)) related first second) :
    Tracks (underLimits limit limit' height room room') related
      (Run.framed limit code context first) (Run.framed limit' code context' second) := by
  refine .framed (underLimits limit limit' height (room - 1) (room' - 1)) advancing ?_ ?_ ?_ ?_
  · rintro s t ⟨level, low, enough, enough'⟩ free free'
    refine ⟨?_, body (by omega) (by omega)⟩
    simp only [underLimits, RunState.enter_stack, List.length_append, List.length_singleton]
    omega
  · rintro s t after ⟨level, -⟩ free calm low
    apply calm
    rw [RunState.enter_peak]
    omega
  · intro after error context excused
    obtain ⟨high, overflow⟩ := excused
    exact ⟨high, by rwa [RunError.annotate_cause]⟩
  · rintro s t after context ⟨level, low, -⟩ free full advances
    have risen := advances.peak
    rw [RunState.enter_peak] at risen
    refine ⟨?_, t.stack ++ [code], by rw [RunError.annotate_cause]; rfl, ?_⟩
    · rw [RunState.leave_peak]
      omega
    · rw [List.length_append, List.length_singleton]
      omega

variable {pipe : Pipe} {memory : WorkingMemory} {output : Option String}

/-- The induction is on the room under the first limit. The height stays the same throughout. -/
theorem tracks_underLimits (steady : library.collaborators.Steady) (params : Params)
    (limit' height room room' : Nat) (pipe : Pipe) (memory : WorkingMemory)
    (output : Option String) :
    Tracks (underLimits params.limit limit' height room room') Likeness.equality.Outputs
      (library.runWithin room pipe memory params output)
      (library.runWithin room' pipe memory { params with limit := limit' } output) := by
  induction room generalizing room' pipe memory params output with
  | zero => cases room' <;> exact tracks_framed (fun state => .refl state) nofun
  | succ room ih =>
      cases room' with
      | zero => exact tracks_framed (advancing_execute (advancing_runWithin room)) nofun
      | succ room' =>
          refine tracks_framed (advancing_execute (advancing_runWithin room)) fun _ _ => ?_
          refine tracks_execute_again steady allowsRest_underLimits (advancing_runWithin room)
            (advancing_runWithin room') fun multiplicity callee memory output => ?_
          exact ih (params.forCallee multiplicity) room' callee memory output

/-- A run that succeeds has the same output under every limit that its peak does not exceed, and
fails under every other limit with an overflow of the stack, by one place. -/
theorem run_under_limit {final : RunState} {result : Output}
    (steady : library.collaborators.Steady)
    (succeeds : library.run pipe memory params output .initial = (.ok result, final))
    (limit : Nat) :
    (final.peak ≤ limit →
      (library.run pipe memory { params with limit } output .initial).1 = .ok result) ∧
    (limit < final.peak → ∃ error stack,
      (library.run pipe memory { params with limit } output .initial).1 = .error error ∧
        error.cause.isOverflow = true ∧ error.cause = .stackOverflow limit stack ∧
        stack.length = limit + 1) := by
  have tracks := library.tracks_underLimits steady params limit limit params.limit limit pipe
    memory output
  have followed := tracks .initial .initial final result
    ⟨rfl, Nat.zero_le _, Nat.le_refl _, Nat.le_refl _⟩ succeeds
  change Comparison.Follows _ _ _ _
    (library.run pipe memory { params with limit } output .initial).1 at followed
  cases outcome : (library.run pipe memory { params with limit } output .initial).1 with
  | ok result' =>
      rw [outcome] at followed
      obtain ⟨⟨memories, mains⟩, calm⟩ := followed
      have low : final.peak ≤ limit := calm (Nat.zero_le _)
      constructor
      · intro _
        rw [show result' = result from congrArg₂ Output.mk memories.symm mains.symm]
      · intro high
        omega
  | error error =>
      rw [outcome] at followed
      obtain ⟨high, stack, overflow, size⟩ := followed
      constructor
      · intro low
        omega
      · intro _
        exact ⟨error, stack, rfl, by rw [overflow]; rfl, overflow, size⟩

/-- The report needs three places on the stack. -/
theorem report_under_limit :
    Sample.library.collaborators.Steady ∧ ∃ result final,
      Sample.library.run Sample.report Sample.memory (Sample.live 20) none .initial =
        (.ok result, final) ∧ final.peak = 3 ∧
      (Sample.library.run Sample.report Sample.memory (Sample.live 3) none .initial).1 =
        .ok result ∧
      ∃ error stack,
        (Sample.library.run Sample.report Sample.memory (Sample.live 2) none .initial).1 =
          .error error ∧
        error.cause.isOverflow = true ∧ error.cause = .stackOverflow 2 stack ∧
        stack.length = 3 := by
  have steady : Sample.library.collaborators.Steady := fun _ absent => nomatch absent
  obtain ⟨result, final, succeeds, peak⟩ : ∃ result final,
      Sample.library.run Sample.report Sample.memory (Sample.live 20) none .initial =
        (.ok result, final) ∧ final.peak = 3 := ⟨_, _, rfl, rfl⟩
  refine ⟨steady, result, final, succeeds, peak, ?_, ?_⟩
  · exact (run_under_limit steady succeeds 3).1 (Nat.le_of_eq peak)
  · exact (run_under_limit steady succeeds 2).2 (by omega)

end Library

end Conduit
