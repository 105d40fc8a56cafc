import Conduit.Run.Error

/-!
# The stack of pipes under way

Every pipe that runs holds a place on the stack, so that pipes that call each other
in a circle come to an end. A pipe leaves its latest place, wherever that is.
-/

namespace Conduit

/-- The codes of the pipes under way, outermost first. -/
abbrev PipeStack := List String

namespace PipeStack

/-- Take a place, unless the stack is at its limit. -/
def enter (stack : PipeStack) (limit : Nat) (code : String) : Except Cause PipeStack :=
  if stack.length < limit then .ok (stack ++ [code])
  else .error (.stackOverflow limit (stack ++ [code]))

/-- Give up the latest place of a code. -/
def leave (stack : PipeStack) (code : String) : PipeStack :=
  (stack.reverse.erase code).reverse

theorem leave_enter (stack : PipeStack) (code : String) : leave (stack ++ [code]) code = stack := by
  simp [leave]

end PipeStack

end Conduit
