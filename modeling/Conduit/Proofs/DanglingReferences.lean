import Conduit.Proofs.ErrorAnnotation

/-!
# Dangling references

The list of dangling references is made without running anything. It is complete. When a run
fails for the lack of a pipe, then a pipe that calls can reach has a dangling reference to it. So
a library without dangling references has no such runs at all.

A look-up fails in the body of a pipe under way, and the body looks up nothing but what the pipe
lists among its callees. From there the failure goes out through the callers. Each of them adds
itself to the path of calls, and the reference stays the same.
-/

namespace Conduit

namespace Library

variable {library : Library} {pipe callee : Pipe}

/-- A pipe that is there refers to one that is not. -/
theorem mem_dangling {owner code : String} :
    (owner, code) ∈ library.dangling ↔ ∃ pipe ∈ library.pipes, pipe.code = owner ∧
      code ∈ pipe.callees ∧ library.find? code = none := by
  simp only [dangling, contains, List.mem_flatMap, List.mem_map, List.mem_filter, Prod.mk.injEq]
  constructor
  · rintro ⟨pipe, member, _, ⟨called, absent⟩, owns, rfl⟩
    exact ⟨pipe, member, owns, called, by simpa using absent⟩
  · rintro ⟨pipe, member, owns, called, absent⟩
    exact ⟨pipe, member, code, ⟨called, by simp [absent]⟩, owns, rfl⟩

/-- Some path of calls from the pipe ends with one that has a dangling reference to this code. -/
def Dangles (library : Library) (pipe : Pipe) (code : String) : Prop :=
  ∃ path owner, library.CallPath pipe path ∧ path.getLast? = some owner ∧
    (owner, code) ∈ library.dangling

theorem Dangles.own {code : String} (member : pipe ∈ library.pipes) (calls : code ∈ pipe.callees)
    (absent : library.find? code = none) : library.Dangles pipe code :=
  ⟨[pipe.code], pipe.code, .here pipe, rfl, mem_dangling.2 ⟨pipe, member, rfl, calls, absent⟩⟩

theorem Dangles.call {code missing : String} (calls : code ∈ pipe.callees)
    (found : library.find? code = some callee) (h : library.Dangles callee missing) :
    library.Dangles pipe missing := by
  obtain ⟨path, owner, calling, last, dangles⟩ := h
  refine ⟨pipe.code :: path, owner, .call calls found calling, ?_, dangles⟩
  rw [List.getLast?_cons_of_ne_nil calling.ne_nil, last]

end Library

theorem Cause.OfRun.ne_pipeNotFound {cause : Cause} (h : cause.OfRun) (code : String) :
    cause ≠ .pipeNotFound code := by
  rintro rfl
  cases h with
  | body h =>
      cases h with
      | work h => cases h

namespace Library

open Run

variable {library : Library}

/-- The lack of a pipe goes back to a dangling reference. -/
def referring (library : Library) : RunContract library where
  scope pipe _ := pipe ∈ library.pipes
  good _ _ _ _ := True
  bad pipe _ _ _ error := ∀ code, error.cause = .pipeNotFound code → library.Dangles pipe code
  calls _ _ found := mem_of_find? found
  overflow _ _ _ _ _ _ absent := nomatch absent
  execute runner pipe memory params output stack member _ callees := by
    have fault : ∀ cause : Cause, cause.OfRun → ∀ code,
        ((RunError.ofCause cause).annotate
          (contextOf pipe params output (stack ++ [pipe.code]))).cause = .pipeNotFound code →
        library.Dangles pipe code := by
      intro cause ofRun code absent
      exact absurd absent (ofRun.ne_pipeNotFound code)
    have serves : ∀ code multiplicity, pipe.Calls params code multiplicity →
        library.Serves .trivial runner params (stack ++ [pipe.code])
          (fun error => ∀ code,
            (error.annotate (contextOf pipe params output (stack ++ [pipe.code]))).cause =
              .pipeNotFound code → library.Dangles pipe code) code multiplicity := by
      intro code multiplicity calls
      constructor
      · intro absent missing same
        cases same
        exact .own member calls.mem_callees absent
      · intro callee found memory output
        have called := callees code multiplicity calls callee found memory output
        refine called.consequence (fun _ _ => ⟨trivial, trivial⟩) fun error bad missing absent => ?_
        rw [RunError.annotate_cause] at absent
        exact (bad missing absent).call calls.mem_callees found
    exact (meets_execute fault serves fun _ _ => trivial).mono_good fun _ _ => trivial

/-- When a run fails for the lack of a pipe, then some pipe on a path of calls has a dangling
reference to it. Where there are no dangling references, no run fails for the lack of a pipe. -/
theorem run_pipeNotFound_dangles {pipe : Pipe} (member : pipe ∈ library.pipes)
    (memory : WorkingMemory) (params : Params) (output : Option String) (state : RunState) :
    (∀ error final code,
      library.run pipe memory params output state = (.error error, final) →
      error.cause = .pipeNotFound code →
      ∃ path owner, library.CallPath pipe path ∧ path.getLast? = some owner ∧
        (owner, code) ∈ library.dangling) ∧
    (library.dangling = [] → ∀ error final code,
      library.run pipe memory params output state = (.error error, final) →
      error.cause ≠ .pipeNotFound code) := by
  have dangles : ∀ error final code,
      library.run pipe memory params output state = (.error error, final) →
      error.cause = .pipeNotFound code → library.Dangles pipe code := by
    intro error final code fails
    have contract := library.referring.meets_run pipe memory params output state.stack member
    exact contract.error rfl fails code
  refine ⟨dangles, ?_⟩
  intro closed error final code fails absent
  obtain ⟨_, _, -, -, listed⟩ := dangles error final code fails absent
  rw [closed] at listed
  cases listed

/-- Without the pipe that shouts a line, the report fails in its first step, which lists that pipe
among its callees. With all three pipes it may fail, but not in this way. -/
theorem report_pipeNotFound_dangles :
    Sample.report ∈ Sample.unfinished.pipes ∧
    (∃ error final path owner,
      Sample.unfinished.run Sample.report Sample.memory (Sample.live 3) none .initial =
        (.error error, final) ∧ error.cause = .pipeNotFound "shout" ∧
      Sample.unfinished.CallPath Sample.report path ∧ path.getLast? = some owner ∧
      (owner, "shout") ∈ Sample.unfinished.dangling) ∧
    Sample.library.dangling = [] ∧
    ∃ error final, Sample.library.run Sample.report Sample.memory (Sample.live 2) none .initial =
      (.error error, final) ∧ error.cause ≠ .pipeNotFound "shout" := by
  have member : Sample.report ∈ Sample.unfinished.pipes := .tail _ (.head _)
  have member' : Sample.report ∈ Sample.library.pipes := .tail _ (.tail _ (.head _))
  obtain ⟨error, final, fails, absent⟩ : ∃ error final,
      Sample.unfinished.run Sample.report Sample.memory (Sample.live 3) none .initial =
        (.error error, final) ∧ error.cause = .pipeNotFound "shout" := ⟨_, _, rfl, rfl⟩
  obtain ⟨error', final', fails'⟩ : ∃ error final,
      Sample.library.run Sample.report Sample.memory (Sample.live 2) none .initial =
        (.error error, final) := ⟨_, _, rfl⟩
  have closed : Sample.library.dangling = [] := rfl
  obtain ⟨path, owner, calls, last, dangles⟩ :=
    (run_pipeNotFound_dangles member _ _ _ _).1 error final "shout" fails absent
  refine ⟨member, ⟨error, final, path, owner, fails, absent, calls, last, dangles⟩, closed,
    error', final', fails', ?_⟩
  exact (run_pipeNotFound_dangles member' _ _ _ _).2 closed error' final' "shout" fails'

end Library

end Conduit
