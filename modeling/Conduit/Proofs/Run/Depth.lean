import Conduit.Proofs.Run.Agreement
import Conduit.Proofs.Run.Repetition

/-!
# The same run at another height

Of the stack on which a run begins, only the places that are left can matter. So a run that
succeeds does so on every stack that is no higher, with the same output. On a higher stack it may
also fail, but in one way only: some pipe, at whatever depth, has found no place.
-/

namespace Conduit

/-- A run is compared with a run that begins at most so many places further up, under the same
limit. The first one has as much room as the limit leaves. -/
def Comparison.higher (limit extra room : Nat) : Comparison where
  Start s t := t.stack.length ≤ s.stack.length + extra ∧ limit ≤ room + s.stack.length
  Calm _ _ := True
  Excuse _ error := 0 < extra ∧ error.cause.isOverflow = true
  start started advances advances' := by
    rw [advances.stack, advances'.stack]
    exact started
  calm_refl _ := trivial
  calm_trans _ _ := trivial
  excuse _ excused := excused

namespace Run

variable {α β : Type} {limit extra room : Nat} {s t after : RunState}

/-- A frame takes a place from either run. A second run that begins no higher finds one. -/
theorem Tracks.framed_higher {related : α → β → Prop} {first : Run α} {second : Run β}
    {code : String} {context context' : PipeStack → Context} (advancing : Advancing first)
    (body : 0 < room → Tracks (.higher limit extra (room - 1)) related first second) :
    Tracks (.higher limit extra room) related (Run.framed limit code context first)
      (Run.framed limit code context' second) := by
  refine .framed (.higher limit extra (room - 1)) advancing ?_ (fun _ _ _ => trivial) ?_ ?_
  · rintro s t ⟨near, enough⟩ free -
    refine ⟨?_, body (by omega)⟩
    simp only [Comparison.higher, RunState.enter_stack, List.length_append, List.length_singleton]
    omega
  · rintro after error context ⟨further, overflow⟩
    exact ⟨further, by rwa [RunError.annotate_cause]⟩
  · rintro s t after context ⟨near, -⟩ free full -
    have further : 0 < extra := by omega
    exact ⟨further, by rw [RunError.annotate_cause]; rfl⟩

/-- What the comparison says of two runs whose values are the same. -/
theorem Tracks.ok_or_overflow {related : α → α → Prop} {first second : Run α} {value : α}
    (tracks : Tracks (.higher limit extra limit) related first second)
    (same : ∀ value value', related value value' → value' = value)
    (near : t.stack.length ≤ s.stack.length + extra) (ran : first s = (.ok value, after)) :
    (∃ after', second t = (.ok value, after')) ∨
      0 < extra ∧ ∃ error after', second t = (.error error, after') ∧
        error.cause.isOverflow = true := by
  have followed := tracks s t after value ⟨near, Nat.le_add_right _ _⟩ ran
  rcases ran' : second t with ⟨error | value', after'⟩ <;> rw [ran'] at followed
  · obtain ⟨further, overflow⟩ := followed
    exact .inr ⟨further, error, after', rfl, overflow⟩
  · obtain rfl := same value value' followed.1
    exact .inl ⟨after', rfl⟩

/-- A run that begins no higher succeeds as well. -/
theorem Tracks.ok {related : α → α → Prop} {first second : Run α} {value : α}
    (tracks : Tracks (.higher limit 0 limit) related first second)
    (same : ∀ value value', related value value' → value' = value)
    (low : t.stack.length ≤ s.stack.length) (ran : first s = (.ok value, after)) :
    ∃ after', second t = (.ok value, after') := by
  rcases tracks.ok_or_overflow same low ran with succeeds | ⟨further, -⟩
  · exact succeeds
  · exact absurd further (Nat.lt_irrefl 0)

end Run

namespace Library

open Run

variable {library : Library}

theorem allowsRest_higher {limit extra room : Nat} :
    (Comparison.higher limit extra room).AllowsRest :=
  fun _ _ _ => trivial

/-- The induction is on the room that is left for the first run. Where there is none, that run does
not succeed. -/
theorem tracks_higher (steady : library.collaborators.Steady) (params : Params)
    (extra room : Nat) (pipe : Pipe) (memory : WorkingMemory) (output : Option String) :
    Tracks (.higher params.limit extra room) Likeness.equality.Outputs
      (library.run pipe memory params output) (library.run pipe memory params output) := by
  have advancing := library.advancing_run
  induction room generalizing params pipe memory output with
  | zero =>
      rw [run_eq_framed]
      exact .framed_higher (advancing_execute advancing) nofun
  | succ room ih =>
      rw [run_eq_framed]
      refine .framed_higher (advancing_execute advancing) fun _ => ?_
      exact tracks_execute_again steady allowsRest_higher advancing advancing
        fun multiplicity callee memory output =>
          ih (params.forCallee multiplicity) callee memory output

/-- The same holds of the runs for the items of a list. -/
theorem tracks_fanOut_higher (steady : library.collaborators.Steady) (params : Params)
    (extra room : Nat) (branch : Pipe) (memory : WorkingMemory) (batch : Batch)
    (result : String) :
    Tracks (.higher params.limit extra room) Eq
      (fanOut library.run branch memory params batch result)
      (fanOut library.run branch memory params batch result) := by
  refine tracks_fanOut Likeness.equality_looksSame rfl library.advancing_run library.advancing_run
    ?_ rfl
  rintro memory _ rfl
  exact tracks_higher steady params extra room branch memory none

/-- And so it does of the run of a step, be it for every item of a list. -/
theorem tracks_runStep_higher (steady : library.collaborators.Steady) (params : Params)
    (extra room : Nat) (step : Step) (memory : WorkingMemory) :
    Tracks (.higher params.limit extra room) Likeness.equality.Outputs
      (library.runStep library.run step memory params)
      (library.runStep library.run step memory params) := by
  refine tracks_runStep (fun callee found => ⟨callee, found, rfl, ?run, ?fan⟩) rfl
  case run =>
    rintro memory _ output rfl
    exact tracks_higher steady (params.forCallee step.multiplicity) extra room callee memory output
  case fan =>
    rintro memory _ batch result rfl
    exact tracks_fanOut_higher steady (params.forCallee step.multiplicity) extra room callee memory
      batch result

/-- A run that succeeds succeeds with the same output on every stack that is no higher. -/
theorem run_lower {pipe : Pipe} {memory : WorkingMemory} {output : Option String}
    {s t final : RunState} {result : Output} (steady : library.collaborators.Steady)
    (low : t.stack.length ≤ s.stack.length)
    (ran : library.run pipe memory params output s = (.ok result, final)) :
    ∃ final', library.run pipe memory params output t = (.ok result, final') :=
  (tracks_higher steady params 0 params.limit pipe memory output).ok
    (fun _ _ same => Likeness.eq_of_outputs same) low ran

/-- So does a step. -/
theorem runStep_lower {step : Step} {memory : WorkingMemory} {params : Params}
    {s t final : RunState} {result : Output} (steady : library.collaborators.Steady)
    (low : t.stack.length ≤ s.stack.length)
    (ran : library.runStep library.run step memory params s = (.ok result, final)) :
    ∃ final', library.runStep library.run step memory params t = (.ok result, final') :=
  (tracks_runStep_higher steady params 0 params.limit step memory).ok
    (fun _ _ same => Likeness.eq_of_outputs same) low ran

end Library

end Conduit
