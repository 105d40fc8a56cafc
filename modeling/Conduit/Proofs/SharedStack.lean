import Conduit.Run.Stack
import Mathlib.Data.Multiset.Defs

/-!
# A stack in shared use

Branches that run side by side share one stack. Each of them takes a frame and drops it in its own
time, so frames are not dropped in the reverse order in which they were taken. When a code is on
the stack more than once, a drop takes away the latest place of the code, which may be that of
another frame.

Nobody can tell the difference. The stack always holds the codes of the frames that are held, each
as often as there are frames of it. Only their order may be another one.
-/

namespace Conduit

namespace PipeStack

variable {stack : PipeStack} {code : String}

/-- A code on the stack has a latest place. -/
theorem exists_latest (member : code ∈ stack) :
    ∃ below above, stack = below ++ code :: above ∧ code ∉ above := by
  obtain ⟨above, below, split, latest⟩ := List.eq_append_cons_of_mem (List.mem_reverse.2 member)
  refine ⟨below.reverse, above.reverse, ?_, fun above => latest (List.mem_reverse.1 above)⟩
  rw [← List.reverse_reverse stack, split]
  simp

/-- To leave takes away the latest place and moves nothing. -/
theorem leave_latest {below above : PipeStack} (latest : code ∉ above) :
    leave (below ++ code :: above) code = below ++ above := by
  have latest' : code ∉ above.reverse := fun member => latest (List.mem_reverse.1 member)
  rw [leave, List.reverse_append, List.reverse_cons, List.append_assoc,
    List.erase_append_right _ latest']
  simp

theorem leave_perm (member : code ∈ stack) : (code :: leave stack code).Perm stack := by
  obtain ⟨below, above, rfl, latest⟩ := exists_latest member
  rw [leave_latest latest]
  exact List.perm_middle.symm

end PipeStack

/-- A stack in shared use. -/
structure SharedStack where
  stack : PipeStack
  /-- The codes of the frames that are held, oldest first. -/
  held : List String

namespace SharedStack

/-- No frame is held. -/
def empty : SharedStack := ⟨[], []⟩

/-- Ask for a frame. Without a place on the stack there is none. -/
def enter (shared : SharedStack) (code : String) (limit : Nat) :
    Except Cause Unit × SharedStack :=
  match shared.stack.enter limit code with
  | .ok stack => (.ok (), ⟨stack, shared.held ++ [code]⟩)
  | .error cause => (.error cause, shared)

/-- Drop one of the frames that are held. -/
def drop (shared : SharedStack) (frame : Fin shared.held.length) : SharedStack :=
  ⟨shared.stack.leave (shared.held.get frame), shared.held.eraseIdx frame⟩

/-- What the holders of frames may do. -/
inductive Action where
  | enter (code : String) (limit : Nat)
  /-- Drop the frame at this place among those that are held, if there are so many. -/
  | drop (index : Nat)

/-- The shared stack after an action, also after an attempt to enter that fails. -/
def step (shared : SharedStack) : Action → SharedStack
  | .enter code limit => (shared.enter code limit).2
  | .drop index => if h : index < shared.held.length then shared.drop ⟨index, h⟩ else shared

/-- The shared stack after actions in any order. -/
def after (actions : List Action) : SharedStack :=
  actions.foldl step empty

/-- Every frame that is held has a place on the stack, and there are no other places. -/
def Balanced (shared : SharedStack) : Prop :=
  shared.stack.Perm shared.held

variable {shared : SharedStack} {code : String} {limit : Nat}

theorem enter_free (free : shared.stack.length < limit) :
    shared.enter code limit = (.ok (), ⟨shared.stack ++ [code], shared.held ++ [code]⟩) := by
  rw [enter, PipeStack.enter, if_pos free]

theorem enter_full (full : limit ≤ shared.stack.length) :
    shared.enter code limit =
      (.error (.stackOverflow limit (shared.stack ++ [code])), shared) := by
  rw [enter, PipeStack.enter, if_neg (Nat.not_lt.2 full)]

/-- Whether a frame is given depends on nothing but how many places are taken. -/
theorem enter_ok_iff : (shared.enter code limit).1 = .ok () ↔ shared.stack.length < limit := by
  by_cases free : shared.stack.length < limit
  · simp [enter_free free, free]
  · simp [enter_full (Nat.not_lt.1 free), free]

namespace Balanced

theorem enter (balanced : shared.Balanced) (code : String) (limit : Nat) :
    (shared.enter code limit).2.Balanced := by
  by_cases free : shared.stack.length < limit
  · rw [enter_free free]
    exact balanced.append_right [code]
  · rw [enter_full (Nat.not_lt.1 free)]
    exact balanced

theorem mem (balanced : shared.Balanced) (frame : Fin shared.held.length) :
    shared.held.get frame ∈ shared.stack :=
  balanced.mem_iff.2 (List.get_mem shared.held frame)

/-- The place that is taken away is one of the right code. -/
theorem drop (balanced : shared.Balanced) (frame : Fin shared.held.length) :
    (shared.drop frame).Balanced := by
  have left := PipeStack.leave_perm (balanced.mem frame)
  have dropped : (shared.held.get frame :: shared.held.eraseIdx frame).Perm shared.held :=
    List.getElem_cons_eraseIdx_perm frame.isLt
  exact (List.perm_cons _).1 ((left.trans balanced).trans dropped.symm)

/-- The other places stay as they are, in the same order. -/
theorem exists_drop (balanced : shared.Balanced) (frame : Fin shared.held.length) :
    ∃ below above, shared.stack = below ++ shared.held.get frame :: above ∧
      shared.held.get frame ∉ above ∧
      shared.drop frame = ⟨below ++ above, shared.held.eraseIdx frame⟩ := by
  obtain ⟨below, above, stack, latest⟩ := PipeStack.exists_latest (balanced.mem frame)
  refine ⟨below, above, stack, latest, ?_⟩
  rw [SharedStack.drop, stack, PipeStack.leave_latest latest]

theorem step (balanced : shared.Balanced) (action : Action) : (shared.step action).Balanced := by
  cases action with
  | enter code limit => exact balanced.enter code limit
  | drop index =>
      rw [SharedStack.step]
      split
      · exact balanced.drop _
      · exact balanced

theorem after (actions : List Action) : (SharedStack.after actions).Balanced :=
  List.foldlRecOn actions SharedStack.step (List.Perm.refl _) fun _ balanced action _ =>
    balanced.step action

end Balanced

/-- After actions in any order the codes on the stack are those of the frames that are held. A
frame is given exactly if the stack is not at the limit; otherwise nothing changes, and the stack
that is reported is the old one with the code on top. To drop a frame is to take away the latest
place of its code from between the others. -/
theorem after_shared (actions : List Action) :
    let shared := after actions
    (shared.stack : Multiset String) = shared.held ∧
    (∀ code limit,
      ((shared.enter code limit).1 = .ok () ↔ shared.stack.length < limit) ∧
      (shared.stack.length < limit →
        (shared.enter code limit).2 = ⟨shared.stack ++ [code], shared.held ++ [code]⟩) ∧
      (¬ shared.stack.length < limit → shared.enter code limit =
        (.error (.stackOverflow limit (shared.stack ++ [code])), shared))) ∧
    ∀ frame : Fin shared.held.length, ∃ below above,
      shared.stack = below ++ shared.held.get frame :: above ∧ shared.held.get frame ∉ above ∧
        shared.drop frame = ⟨below ++ above, shared.held.eraseIdx frame⟩ := by
  intro shared
  have balanced : shared.Balanced := .after actions
  refine ⟨Multiset.coe_eq_coe.2 balanced, fun code limit => ⟨enter_ok_iff, ?_, ?_⟩,
    balanced.exists_drop⟩
  · intro free
    rw [enter_free free]
  · intro full
    exact enter_full (Nat.not_lt.1 full)

/-- The older of two frames of a code is dropped, and the younger one keeps the older place. -/
example :
    after [.enter "a" 3, .enter "b" 3, .enter "a" 3, .enter "c" 3, .drop 0] =
      ⟨["a", "b"], ["b", "a"]⟩ := by
  rfl

end SharedStack

end Conduit
