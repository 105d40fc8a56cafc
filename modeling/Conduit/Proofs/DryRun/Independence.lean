import Conduit.Proofs.Sample
import Conduit.Proofs.Run.Agreement

/-!
# Dry runs ask no one

A dry run is the same whatever the generator is, and whatever the functions do. It asks neither,
so that it has no effect outside of the run. All that it wants to know of a function is whether
there is one of the name.

Every kind of work looks at the mode for itself, some before and some after other things that may
go wrong. From the work this is carried to all runs, for callees are run in the mode of their
caller.
-/

namespace Conduit

namespace Library

open Run

section Work

variable {library library' : Library} (variant : library.Variant library')
variable {kept : RunState → Prop} {signature : Signature} {memory : WorkingMemory}
variable {params : Params} {output : Option String}
include variant

theorem agrees_pretend :
    Agrees kept (library.pretend signature params output)
      (library'.pretend signature params output) := by
  rw [pretend, pretend, variant.vocabulary]
  exact (Agrees.require _ _).bind fun _ => .require _ _

theorem agrees_render {template : String} :
    Agrees kept (library.render memory template) (library'.render memory template) := by
  rw [variant.peer.render_eq]
  exact .require _ _

theorem agrees_attachments {inputs : List (String × Requirement)} :
    Agrees kept (library.attachments memory inputs) (library'.attachments memory inputs) := by
  rw [variant.peer.attachments_eq]
  exact idle_attachments.agrees kept

theorem agrees_imageWords {prompt : ImagePrompt} :
    Agrees kept (library.imageWords memory prompt) (library'.imageWords memory prompt) := by
  cases prompt with
  | template source => exact agrees_render variant
  | input name => exact (Agrees.require _ _).bind fun _ => .pure _

theorem agrees_runCompose {template : String} :
    Agrees kept (library.runCompose signature template memory output)
      (library'.runCompose signature template memory output) :=
  (agrees_render variant).bind fun _ => .require _ _

variable (dry : params.isDry = true)
include dry

theorem agrees_runPrompt {prompt : Prompt} :
    Agrees kept (library.runPrompt signature prompt memory params output)
      (library'.runPrompt signature prompt memory params output) := by
  simp only [runPrompt, dry, if_true]
  exact (agrees_render variant).bind fun _ => (agrees_attachments variant).bind fun _ =>
    agrees_pretend variant

theorem agrees_runImage {prompt : ImagePrompt} :
    Agrees kept (library.runImage signature prompt memory params output)
      (library'.runImage signature prompt memory params output) := by
  simp only [runImage, dry, if_true]
  exact (agrees_imageWords variant).bind fun _ => agrees_pretend variant

theorem agrees_runExtract {extraction : Extraction} :
    Agrees kept (library.runExtract signature extraction memory params output)
      (library'.runExtract signature extraction memory params output) := by
  simp only [runExtract, dry, if_true, variant.vocabulary]
  exact (Agrees.require _ _).bind fun _ => (Agrees.require _ _).bind fun _ => .require _ _

/-- There may be two functions of a name, one in each library, and neither is called. -/
theorem agrees_runCall {name : String} :
    Agrees kept (library.runCall signature name memory params output)
      (library'.runCall signature name memory params output) := by
  simp only [runCall, dry, if_true]
  rw [Functions.get, Functions.get]
  cases found : library.collaborators.functions.find? name with
  | none =>
      have missing : library'.collaborators.functions.find? name = none := by
        simpa [found, Functions.contains] using variant.functions name
      rw [missing]
      exact (Agrees.require _ _).bind fun _ => agrees_pretend variant
  | some function =>
      obtain ⟨function', found'⟩ : ∃ function',
          library'.collaborators.functions.find? name = some function' := by
        simpa [found, Functions.contains, Option.isSome_iff_exists] using variant.functions name
      rw [found']
      exact agrees_pretend variant

theorem agrees_work {pipe : Pipe} {work work' : Run Stuff}
    (known : library.work? pipe memory params output = some work)
    (known' : library'.work? pipe memory params output = some work') :
    Agrees kept work work' := by
  rw [work?] at known known'
  cases body : pipe.body <;> simp only [body, Option.some.injEq, reduceCtorEq] at known known' <;>
    subst known known'
  · exact agrees_runPrompt variant dry
  · exact agrees_runImage variant dry
  · exact agrees_runExtract variant dry
  · exact agrees_runCall variant dry
  · exact agrees_runCompose variant

end Work

/-- To take a place on the stack is to ask no one. -/
theorem agrees_framed {α : Type} {run run' : Run α} {journal : List Request} {limit : Nat}
    {code : String} {context : PipeStack → Context}
    (h : Agrees (·.journal = journal) run run') :
    Agrees (·.journal = journal) (Run.framed limit code context run)
      (Run.framed limit code context run') := by
  refine .framed ?_ ?_ h
  · intro state same
    exact same
  · intro state same
    exact same

variable {library library' : Library}

/-- The induction is on the room that is left. -/
theorem agrees_runWithin (variant : library.Variant library') (journal : List Request) (room : Nat)
    (pipe : Pipe) (memory : WorkingMemory) (params : Params) (output : Option String)
    (dry : params.isDry = true) :
    Agrees (·.journal = journal) (library.runWithin room pipe memory params output)
      (library'.runWithin room pipe memory params output) := by
  induction room generalizing pipe memory params output with
  | zero =>
      apply agrees_framed
      intro state same
      exact ⟨rfl, same⟩
  | succ room ih =>
      have callees : CalleesAgree (·.journal = journal) params (library.runWithin room)
          (library'.runWithin room) :=
        fun callee memory multiplicity output =>
          ih callee memory (params.forCallee multiplicity) output dry
      apply agrees_framed
      exact agrees_execute variant.peer (fun _ _ _ => callees.servesAlike variant _ _)
        fun _ _ => agrees_work variant dry

/-- A dry run has the same outcome and leaves the same state whatever the generator is, and
whatever the functions do. Neither is asked anything. -/
theorem dryRun_independent (variant : library.Variant library') (pipe : Pipe)
    (memory : WorkingMemory) (params : Params) (dry : params.mode = .dry)
    (output : Option String) (state : RunState) :
    library'.run pipe memory params output state = library.run pipe memory params output state ∧
    (library.run pipe memory params output state).2.journal = state.journal ∧
    (library'.run pipe memory params output state).2.journal = state.journal := by
  have isDry : params.isDry = true := by rw [Params.isDry, dry]; rfl
  have agrees := agrees_runWithin variant state.journal
    (params.limit - state.stack.length) pipe memory params output isDry
  obtain ⟨same, silent⟩ := agrees state rfl
  refine ⟨same, silent, ?_⟩
  rw [run, same]
  exact silent

/-- The offices differ in the model and in the function. A live run asks both, if they are there,
and a dry run makes the same of either office. -/
theorem post_dryRun_independent :
    Sample.closedOffice.Variant Sample.openOffice ∧
    (Sample.openOffice.run Sample.post .empty (Sample.live 2) none .initial).2.journal.length = 2 ∧
    ∃ result final,
      Sample.closedOffice.run Sample.post .empty (Sample.dry 2) none .initial =
        (.ok result, final) ∧
      Sample.openOffice.run Sample.post .empty (Sample.dry 2) none .initial =
        (.ok result, final) ∧
      final.journal = [] := by
  have variant : Sample.closedOffice.Variant Sample.openOffice := by
    refine ⟨rfl, rfl, rfl, rfl, fun name => ?_⟩
    change ((Functions.empty.register "stamp" _).contains name) =
      ((Functions.empty.register "stamp" _).contains name)
    simp only [Functions.contains, Functions.find?, Functions.register, OrderedMap.get?_insert]
    split <;> rfl
  obtain ⟨result, final, succeeds⟩ : ∃ result final,
      Sample.closedOffice.run Sample.post .empty (Sample.dry 2) none .initial =
        (.ok result, final) := ⟨_, _, rfl⟩
  obtain ⟨same, silent, -⟩ :=
    dryRun_independent variant Sample.post .empty (Sample.dry 2) rfl none .initial
  rw [succeeds] at same silent
  exact ⟨variant, rfl, result, final, succeeds, same, silent⟩

end Library

end Conduit
