import Conduit.Proofs.DanglingReferences
import Conduit.Proofs.Keyed
import Conduit.Proofs.Run.Agreement

/-!
# Libraries with further pipes

Pipes call each other by code, and a code is looked up in the whole library whenever it is called.
Still it is of no concern to the pipes of a library what further pipes are added to it, provided
that their references lead to pipes that are there already. Then all pipes that a run can come to
are pipes of the smaller library, and each look-up finds the same in both.

A reference that dangles may lead to a further pipe, and then the run goes on where it has failed
before.
-/

namespace Conduit

namespace Run

/-- Nothing is asked of the states in which two runs do the same. -/
def anyState (_ : RunState) : Prop := True

theorem agrees_self {α : Type} (run : Run α) : Agrees anyState run run :=
  fun _ _ => ⟨rfl, trivial⟩

/-- Frames need nothing of the states either. -/
theorem agrees_framed_self {α : Type} {run run' : Run α} {limit : Nat} {code : String}
    {context : PipeStack → Context} (body : Agrees anyState run run') :
    Agrees anyState (framed limit code context run) (framed limit code context run') :=
  .framed (fun _ _ => trivial) (fun _ _ => trivial) body

end Run

namespace Library

open Run

/-- A library with the same vocabulary and the same collaborators, in which every pipe of the
smaller one is found under its code. It may have further pipes. -/
structure Extends (larger library : Library) : Prop where
  vocabulary : larger.vocabulary = library.vocabulary
  collaborators : larger.collaborators = library.collaborators
  find : ∀ {code pipe}, library.find? code = some pipe → larger.find? code = some pipe

variable {library larger : Library} {pipe : Pipe} {code : String}

namespace Extends

/-- Further pipes may stand anywhere, as long as no two pipes have the same code. -/
theorem of_perm {further : List Pipe} (vocabulary : larger.vocabulary = library.vocabulary)
    (collaborators : larger.collaborators = library.collaborators)
    (distinct : (larger.pipes.map Pipe.code).Nodup)
    (pipes : larger.pipes.Perm (library.pipes ++ further)) : larger.Extends library := by
  refine ⟨vocabulary, collaborators, fun {code pipe} found => ?_⟩
  have joined : (library.pipes ++ further).find? (·.code == code) = some pipe := by
    rw [List.find?_append, ← find?, found, Option.some_or]
  rw [find?, ← find?_key_perm distinct pipes]
  exact joined

theorem peer (more : larger.Extends library) : library.Peer larger :=
  .of_eq more.vocabulary more.collaborators

theorem get_eq (more : larger.Extends library) (found : library.find? code = some pipe) :
    larger.get code = library.get code := by
  rw [get_eq_ok.2 found, get_eq_ok.2 (more.find found)]

end Extends

/-- Where no reference dangles, every callee of a pipe is found. -/
theorem exists_callee (closed : library.dangling = []) (member : pipe ∈ library.pipes)
    (calls : code ∈ pipe.callees) : ∃ callee, library.find? code = some callee := by
  rw [← Option.isSome_iff_exists]
  by_contra absent
  have dangles : (pipe.code, code) ∈ library.dangling :=
    mem_dangling.2 ⟨pipe, member, rfl, calls, by simpa using absent⟩
  rw [closed] at dangles
  cases dangles

/-- The induction is on the room that is left. A callee is again a pipe of the smaller library. -/
theorem agrees_extended (closed : library.dangling = []) (more : larger.Extends library)
    (room : Nat) (pipe : Pipe) (member : pipe ∈ library.pipes) (memory : WorkingMemory)
    (params : Params) (output : Option String) :
    Agrees anyState (library.runWithin room pipe memory params output)
      (larger.runWithin room pipe memory params output) := by
  induction room generalizing pipe memory params output with
  | zero => exact agrees_framed_self (agrees_self _)
  | succ room ih =>
      have serves : ∀ code multiplicity, pipe.Calls params code multiplicity →
          ServesAlike anyState library larger (library.runWithin room)
            (larger.runWithin room) params code multiplicity := by
        intro code multiplicity calls
        obtain ⟨callee, found⟩ := exists_callee closed member calls.mem_callees
        refine ⟨more.get_eq found, fun {other} found' memory output => ?_⟩
        obtain rfl : callee = other := Option.some.inj (found.symm.trans found')
        exact ih callee (mem_of_find? found) memory (params.forCallee multiplicity) output
      refine agrees_framed_self (agrees_execute more.peer serves fun work work' known known' => ?_)
      rw [work?_eq more.vocabulary more.collaborators] at known'
      obtain rfl : work = work' := Option.some.inj (known.symm.trans known')
      exact agrees_self work

/-- Where no reference dangles, further pipes change no run of a pipe that is there. Its outcome is
the same, success or failure, and so is all that it leaves behind, the journal of the jobs included.
It makes no difference whether the pipe is given or called by its code. -/
theorem run_conservative (closed : library.dangling = []) (more : larger.Extends library) :
    (∀ pipe ∈ library.pipes, ∀ memory params output state,
      larger.run pipe memory params output state = library.run pipe memory params output state) ∧
    ∀ code, library.contains code = true → ∀ memory params output state,
      larger.runCode code memory params output state =
        library.runCode code memory params output state := by
  have same : ∀ pipe ∈ library.pipes, ∀ memory params output,
      larger.run pipe memory params output = library.run pipe memory params output := by
    intro pipe member memory params output
    funext state
    have agrees := agrees_extended closed more (params.limit - state.stack.length) pipe member
      memory params output
    exact (agrees state trivial).1
  constructor
  · intro pipe member memory params output state
    rw [same pipe member]
  · intro code there memory params output state
    obtain ⟨pipe, found⟩ := Option.isSome_iff_exists.1 there
    rw [runCode, runCode, more.get_eq found, get_eq_ok.2 found]
    exact congrFun (same pipe (mem_of_find? found) memory params output) state

/-- The open office takes on two more pipes, one of them in front. A line is posted as before: the
model is asked once, and the function stamps what it has written. -/
theorem post_conservative :
    let busier : Library :=
      { Sample.openOffice with
        pipes := Sample.again :: (Sample.openOffice.pipes ++ [Sample.shout]) }
    Sample.openOffice.dangling = [] ∧ busier.Extends Sample.openOffice ∧
    ∃ result final,
      Sample.openOffice.run Sample.post .empty (Sample.live 2) none .initial =
        (.ok result, final) ∧
      final.jobs.length = 1 ∧
      busier.run Sample.post .empty (Sample.live 2) none .initial = (.ok result, final) ∧
      busier.runCode "post" .empty (Sample.live 2) none .initial = (.ok result, final) := by
  intro busier
  have closed : Sample.openOffice.dangling = [] := rfl
  have more : busier.Extends Sample.openOffice :=
    .of_perm rfl rfl (by decide) List.perm_middle.symm
  obtain ⟨result, final, succeeds, asked⟩ : ∃ result final,
      Sample.openOffice.run Sample.post .empty (Sample.live 2) none .initial =
        (.ok result, final) ∧ final.jobs.length = 1 := ⟨_, _, rfl, rfl⟩
  obtain ⟨given, called⟩ := run_conservative closed more
  refine ⟨closed, more, result, final, succeeds, asked, ?_, ?_⟩
  · rw [given Sample.post (by simp [Sample.openOffice, Sample.office]), succeeds]
  · rw [called "post" rfl, ← succeeds]
    rfl

end Library

end Conduit
