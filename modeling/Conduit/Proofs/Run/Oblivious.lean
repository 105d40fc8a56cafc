import Conduit.Proofs.Run.Interpreter

/-!
# Work that does not look at the state

When the generator answers each job for itself, without regard to the jobs it has had, then
pipes that make content neither look at the state nor take a place on the stack. Wherever such
work begins, its outcome is the same.
-/

namespace Conduit

/-- The generator answers each job for itself. -/
def Collaborators.Steady (collaborators : Collaborators) : Prop :=
  ∀ generator, collaborators.generator = some generator →
    ∀ jobs jobs' job, generator jobs job = generator jobs' job

/-- So does one that takes no notice of the jobs it has had. -/
theorem Collaborators.Steady.of_answer {collaborators : Collaborators}
    {answer : Job → Except CollaboratorError Content}
    (known : collaborators.generator = some fun _ => answer) : collaborators.Steady := by
  intro generator known' _ _ _
  obtain rfl : generator = fun _ => answer := Option.some.inj (known'.symm.trans known)
  rfl

namespace Run

variable {α β ε : Type}

/-- The outcome of a run is the same in all states, and no place on the stack is taken. -/
def Oblivious (run : Run α) : Prop :=
  ∀ state state', (run state).1 = (run state').1 ∧ (run state).2.peak = state.peak

namespace Oblivious

variable {run : Run α}

theorem require (cause : ε → Cause) (result : Except ε α) :
    Oblivious (Run.require cause result) := by
  intro state state'
  cases result <;> exact ⟨rfl, rfl⟩

theorem bind {next : α → Run β} (h : Oblivious run) (rest : ∀ value, Oblivious (next value)) :
    Oblivious (run >>= next) := by
  intro state state'
  obtain ⟨same, peak⟩ := h state state'
  rcases ran : run state with ⟨error | value, middle⟩ <;>
    rcases ran' : run state' with ⟨error' | value', middle'⟩ <;>
    simp only [ran, ran'] at same peak <;> cases same
  · rw [bind_error ran, bind_error ran']
    exact ⟨rfl, peak⟩
  · rw [bind_ok ran, bind_ok ran']
    obtain ⟨same, peak'⟩ := rest value middle middle'
    exact ⟨same, peak'.trans peak⟩

/-- What a collaborator answers is the same, although there may be more in the journal. -/
theorem ask {cause : ε → Cause} {answer : RunState → Except ε α} {request : Request}
    (steady : ∀ state state', answer state = answer state') :
    Oblivious fun state =>
      Run.require cause (answer state) { state with journal := state.journal ++ [request] } := by
  intro state state'
  dsimp only
  rw [steady state' state]
  cases answer state <;> exact ⟨rfl, rfl⟩

theorem generate {collaborators : Collaborators} (steady : collaborators.Steady) (job : Job) :
    Oblivious (Run.generate collaborators job) := by
  rw [Run.generate]
  cases known : collaborators.generator with
  | none => exact fun _ _ => ⟨rfl, rfl⟩
  | some generator => exact ask fun state state' => steady generator known _ _ job

theorem call (name : String) (function : Function) (inputs : OrderedMap Stuff) :
    Oblivious (Run.call name function inputs) :=
  ask fun _ _ => rfl

end Oblivious

theorem Idle.oblivious {run : Run α} (idle : Idle run) : Oblivious run := by
  obtain ⟨result, rfl⟩ := idle
  exact .require id result

end Run

namespace Library

open Run

variable {library : Library} {signature : Signature} {memory : WorkingMemory} {params : Params}
variable {output : Option String}

section Steady

variable (steady : library.collaborators.Steady)
include steady

theorem oblivious_obtain {many : Bool} {job : Job} :
    Oblivious (library.obtain signature output many job) :=
  (Oblivious.generate steady job).bind fun _ =>
    (Oblivious.require _ _).bind fun _ => .require _ _

theorem oblivious_runPrompt {prompt : Prompt} :
    Oblivious (library.runPrompt signature prompt memory params output) := by
  refine (Oblivious.require _ _).bind fun _ => idle_attachments.oblivious.bind fun _ => ?_
  cases params.isDry with
  | true => exact idle_pretend.oblivious
  | false => exact oblivious_obtain steady

theorem oblivious_runImage {prompt : ImagePrompt} :
    Oblivious (library.runImage signature prompt memory params output) := by
  apply idle_imageWords.oblivious.bind
  intro _
  cases params.isDry with
  | true => exact idle_pretend.oblivious
  | false => exact oblivious_obtain steady

theorem oblivious_runExtract {extraction : Extraction} :
    Oblivious (library.runExtract signature extraction memory params output) := by
  apply (Oblivious.require _ _).bind
  intro _
  cases params.isDry with
  | true => exact (Oblivious.require _ _).bind fun _ => .require _ _
  | false => exact oblivious_obtain steady

omit steady in
theorem oblivious_runCall {name : String} :
    Oblivious (library.runCall signature name memory params output) := by
  apply (Oblivious.require _ _).bind
  intro _
  cases params.isDry with
  | true => exact idle_pretend.oblivious
  | false =>
      apply (Oblivious.require _ _).bind
      intro _
      exact (Oblivious.call _ _ _).bind fun _ => .require _ _

/-- The work of a pipe comes to the same wherever it begins. -/
theorem oblivious_work {pipe : Pipe} {work : Run Stuff}
    (h : library.work? pipe memory params output = some work) : Oblivious work := by
  rw [work?] at h
  split at h <;> cases h
  · exact oblivious_runPrompt steady
  · exact oblivious_runImage steady
  · exact oblivious_runExtract steady
  · exact oblivious_runCall
  · exact (Oblivious.require _ _).bind fun _ => .require _ _

end Steady

end Library

end Conduit
