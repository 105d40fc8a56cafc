import Conduit.Proofs.Sample
import Conduit.Proofs.Run.Interpreter

/-!
# Where failures are told to have happened

The failure of a run bears one annotation, which the innermost pipe at work has added. The
pipes under way that it lists follow each other's calls, from the pipe that was run to the
innermost one. A pipe that has found no place on the stack is not among them; its own failure
lists it at the end of the stack that has overflowed.

The proof follows an error on its way out of the run. Every pipe that it passes was under way
when it was told, and calls the next one. What fails between a pipe and its callees has no
annotation yet, and gets that of the pipe.
-/

namespace Conduit

/-- The codes of pipes that call each other, beginning with the code of this one. -/
inductive Library.CallPath (library : Library) : Pipe → List String → Prop
  | here (pipe : Pipe) : CallPath library pipe [pipe.code]
  | call {pipe callee : Pipe} {code : String} {codes : List String} (calls : code ∈ pipe.callees)
      (found : library.find? code = some callee) (rest : CallPath library callee codes) :
      CallPath library pipe (pipe.code :: codes)

theorem Library.CallPath.head? {library : Library} {pipe : Pipe} {codes : List String}
    (path : library.CallPath pipe codes) : codes.head? = some pipe.code := by
  cases path <;> rfl

theorem Library.CallPath.ne_nil {library : Library} {pipe : Pipe} {codes : List String}
    (path : library.CallPath pipe codes) : codes ≠ [] := by
  rintro rfl
  cases path.head?

theorem Cause.OfRun.not_isOverflow {cause : Cause} (h : cause.OfRun) :
    cause.isOverflow = false := by
  cases h with
  | body h =>
      cases h with
      | work h => cases h <;> rfl
      | question error => rfl
      | pretence pipe source text => rfl
  | missingInputs pipe names => rfl
  | pretendedInputs pipe names => rfl
  | inputMismatch pipe input expected found => rfl
  | outputMismatch pipe expected found => rfl

/-- What is told when a pipe fails that was run above this stack. -/
inductive RunError.Tells (library : Library) (pipe : Pipe) (params : Params) (below : PipeStack) :
    RunError → Prop
  /-- A pipe has found no place, and would have been the last one of the path. -/
  | overflow {context : Context} {path : List String} (mode : context.mode = params.mode)
      (full : context.stack.length = params.limit) (calls : library.CallPath pipe path)
      (told : context.stack ++ [context.pipe] = below ++ path) :
      Tells library pipe params below (.located context
        (.ofCause (.stackOverflow params.limit (context.stack ++ [context.pipe]))))
  /-- The last pipe of the path has failed. -/
  | inside {context : Context} {cause : Cause} {path : List String}
      (mode : context.mode = params.mode) (other : cause.isOverflow = false)
      (calls : library.CallPath pipe path) (told : context.stack = below ++ path)
      (last : path.getLast? = some context.pipe) :
      Tells library pipe params below (.located context (.ofCause cause))

namespace RunError.Tells

variable {library : Library} {pipe callee : Pipe} {params : Params} {below : PipeStack}
variable {error : RunError} {output : Option String}

/-- What has been told is not told again. -/
theorem annotate_eq (h : Tells library pipe params below error) (context : Context) :
    error.annotate context = error := by
  cases h <;> rfl

/-- The first to tell of a failure is the pipe in which it happens. -/
theorem own {cause : Cause} (other : cause.isOverflow = false) :
    Tells library pipe params below ((RunError.ofCause cause).annotate
      (Library.contextOf pipe params output (below ++ [pipe.code]))) :=
  .inside rfl other (.here pipe) rfl rfl

/-- The failure of a callee is one of its caller. -/
theorem call {code : String} {multiplicity : Option Multiplicity} (calls : code ∈ pipe.callees)
    (found : library.find? code = some callee)
    (h : Tells library callee (params.forCallee multiplicity) (below ++ [pipe.code]) error) :
    Tells library pipe params below error := by
  cases h with
  | overflow mode full path told =>
      rw [List.append_assoc] at told
      exact .overflow mode full (.call calls found path) told
  | inside mode other path told last =>
      rw [List.append_assoc] at told
      refine .inside mode other (.call calls found path) told ?_
      rw [List.getLast?_cons_of_ne_nil path.ne_nil, last]

end RunError.Tells

namespace Library

/-- What every failure tells, as long as no more pipes are under way than the limit allows. -/
def annotated (library : Library) : RunContract library where
  scope _ _ := True
  good _ _ _ _ := True
  bad pipe params _ stack error := stack.length ≤ params.limit →
    error.Tells library pipe params stack
  calls _ _ _ := trivial
  overflow pipe params _ stack full within :=
    .overflow rfl (Nat.le_antisymm within full) (.here pipe) rfl
  execute runner pipe memory params output stack _ room callees := by
    have own : ∀ cause : Cause, cause.isOverflow = false → stack.length ≤ params.limit →
        ((RunError.ofCause cause).annotate
          (contextOf pipe params output (stack ++ [pipe.code]))).Tells library pipe params stack :=
      fun cause other _ => .own other
    have serves : ∀ code multiplicity, pipe.Calls params code multiplicity →
        library.Serves .trivial runner params (stack ++ [pipe.code])
          (fun error => stack.length ≤ params.limit →
            (error.annotate (contextOf pipe params output (stack ++ [pipe.code]))).Tells
              library pipe params stack) code multiplicity := by
      intro code multiplicity calls
      constructor
      · intro _
        exact own (.pipeNotFound code) rfl
      · intro callee found memory output
        have called := callees code multiplicity calls callee found memory output
        refine called.consequence (fun _ _ => ⟨trivial, trivial⟩) fun error bad _ => ?_
        have within : (stack ++ [pipe.code]).length ≤ params.limit := by
          rw [List.length_append, List.length_singleton]
          exact room
        have told := bad within
        rw [told.annotate_eq]
        exact told.call calls.mem_callees found
    have fault : ∀ cause : Cause, cause.OfRun → stack.length ≤ params.limit → _ :=
      fun cause h => own cause h.not_isOverflow
    exact (meets_execute fault serves fun _ _ => trivial).mono_good fun _ _ => trivial

/-- A failure bears one annotation, and that tells the mode of the run. On an overflow the stack
that it tells is full, and the stack of the overflow has the innermost pipe on top; the latter
stack is a path of calls from the pipe that was run. On any other failure the stack that is told
is such a path, and ends with the innermost pipe. -/
theorem run_error_annotated {library : Library} {pipe : Pipe} {memory : WorkingMemory}
    {params : Params} {output : Option String} {state final : RunState} {error : RunError}
    (fresh : state.stack = [])
    (fails : library.run pipe memory params output state = (.error error, final)) :
    ∃ context cause, error = .located context (.ofCause cause) ∧ context.mode = params.mode ∧
      match cause with
      | .stackOverflow limit stack =>
        limit = params.limit ∧ context.stack.length = limit ∧
          stack = context.stack ++ [context.pipe] ∧ library.CallPath pipe stack
      | _ =>
        library.CallPath pipe context.stack ∧ context.stack.getLast? = some context.pipe := by
  have contract := library.annotated.meets_run pipe memory params output [] trivial
  cases contract.error fresh fails (Nat.zero_le _) with
  | @overflow context path mode full path told =>
      refine ⟨context, _, rfl, mode, rfl, full, rfl, ?_⟩
      rw [told]
      exact path
  | @inside context cause path mode other path told last =>
      refine ⟨context, cause, rfl, mode, ?_⟩
      rw [List.nil_append] at told
      subst told
      cases cause with
      | stackOverflow limit stack => cases other
      | _ => exact ⟨path, last⟩

/-- When two pipes may be under way, the report is told to have failed at its second callee. -/
theorem report_error_annotated :
    ∃ error final context, RunState.initial.stack = [] ∧
      Sample.library.run Sample.report Sample.memory (Sample.live 2) none .initial =
        (.error error, final) ∧
      error = .located context (.ofCause (.stackOverflow 2 ["report", "shout_all", "shout"])) ∧
      context.mode = .live ∧ context.stack.length = 2 ∧
      ["report", "shout_all", "shout"] = context.stack ++ [context.pipe] ∧
      Sample.library.CallPath Sample.report ["report", "shout_all", "shout"] := by
  obtain ⟨error, final, fails, overflow⟩ : ∃ error final,
      Sample.library.run Sample.report Sample.memory (Sample.live 2) none .initial =
        (.error error, final) ∧
      error.cause = .stackOverflow 2 ["report", "shout_all", "shout"] := ⟨_, _, rfl, rfl⟩
  obtain ⟨context, cause, rfl, mode, told⟩ := run_error_annotated rfl fails
  obtain rfl : cause = .stackOverflow 2 ["report", "shout_all", "shout"] := overflow
  exact ⟨_, final, context, rfl, fails, rfl, mode, told.2⟩

end Library

end Conduit
