import Conduit.Run.Work
import Conduit.Proofs.Memory
import Conduit.Proofs.Run.Contract

/-!
# What the making of content comes to

All five kinds of work end in the same way. The stuff they give has been made for the concept
that the pipe declares and under the name that is asked for, and so its content fits. In a dry
run the content has been made up, or it is the text of a template. What can go wrong is a
matter of concepts, of the memory, or of a collaborator.
-/

namespace Conduit

/-- The causes with which the making of content can fail. -/
inductive Cause.OfWork : Cause → Prop
  | concept (error : ConceptError) : OfWork (.concept error)
  | memory (error : MemoryError) : OfWork (.memory error)
  | collaborator (error : CollaboratorError) : OfWork (.collaborator error)

/-- The contents that work gives in a dry run. -/
inductive Vocabulary.MadeUp (vocabulary : Vocabulary) (signature : Signature) (params : Params) :
    Content → Prop
  | output {content : Content}
      (h : vocabulary.sampleOutput signature params.multiplicity params.listLength = .ok content) :
      MadeUp vocabulary signature params content
  | pages {content : Content}
      (h : vocabulary.sampleList signature.output params.listLength = .ok content) :
      MadeUp vocabulary signature params content
  | composed {content : Content} (h : content.isList = false) :
      MadeUp vocabulary signature params content

namespace Library

/-- The stuffs that work gives for a signature. -/
def Makes (library : Library) (signature : Signature) (params : Params) (output : Option String)
    (stuff : Stuff) : Prop :=
  ∃ content, Stuff.make (signature.resultName output) signature.output content = .ok stuff ∧
    (params.isDry = true → library.vocabulary.MadeUp signature params content)

namespace Makes

variable {library : Library} {signature : Signature} {params : Params} {output : Option String}
variable {stuff : Stuff}

theorem name (h : library.Makes signature params output stuff) :
    stuff.name = signature.resultName output := by
  obtain ⟨content, made, -⟩ := h
  obtain ⟨-, rfl⟩ := Stuff.make_eq_ok.1 made
  rfl

theorem concept (h : library.Makes signature params output stuff) :
    stuff.concept = signature.output := by
  obtain ⟨content, made, -⟩ := h
  obtain ⟨-, rfl⟩ := Stuff.make_eq_ok.1 made
  rfl

theorem fits (h : library.Makes signature params output stuff) : stuff.Fits := by
  obtain ⟨content, made, -⟩ := h
  exact Stuff.fits_of_make made

end Makes

section Idle

open Run

variable {library : Library} {signature : Signature} {memory : WorkingMemory} {params : Params}
variable {output : Option String}

theorem idle_pretend : Idle (library.pretend signature params output) :=
  (Idle.require _ _).bind fun _ => .require _ _

/-- Images are looked for in what is there already. -/
theorem idle_attachments {inputs : List (String × Requirement)} :
    Idle (library.attachments memory inputs) := by
  induction inputs with
  | nil => exact .pure []
  | cons entry inputs ih =>
      obtain ⟨name, requirement⟩ := entry
      have rest : ∀ here, Idle (do
          let others ← library.attachments memory inputs
          return here ++ others) :=
        fun here => ih.bind fun _ => .pure _
      rw [Library.attachments]
      apply (Idle.require _ _).bind
      intro imageLike
      cases imageLike with
      | true => exact (Idle.require _ _).bind fun _ => rest _
      | false => exact rest _

theorem idle_imageWords {prompt : ImagePrompt} : Idle (library.imageWords memory prompt) := by
  cases prompt with
  | template source => exact .require _ _
  | input name => exact (Idle.require _ _).bind fun _ => .pure _

end Idle

section Work

open Run

variable {library : Library} {signature : Signature} {memory : WorkingMemory} {params : Params}
variable {output : Option String} {stack : PipeStack} {bad : RunError → Prop}
variable (fault : ∀ cause : Cause, cause.OfWork → bad (.ofCause cause))
include fault

theorem meets_produce {content : Content}
    (made : params.isDry = true → library.vocabulary.MadeUp signature params content) :
    Meets stack (library.Makes signature params output) bad (signature.produce output content) :=
  .require (fun _ h => ⟨content, h, made⟩) fun error _ => fault _ (.concept error)

theorem meets_pretend :
    Meets stack (library.Makes signature params output) bad
      (library.pretend signature params output) := by
  have sampled : Meets stack (library.vocabulary.MadeUp signature params) bad
      (Run.require Cause.concept
        (library.vocabulary.sampleOutput signature params.multiplicity params.listLength)) :=
    .require (fun _ h => .output h) fun error _ => fault _ (.concept error)
  exact sampled.bind fun content made => meets_produce fault fun _ => made

/-- Only live runs ask the generator. -/
theorem meets_obtain {many : Bool} {job : Job} (live : params.isDry = false) :
    Meets stack (library.Makes signature params output) bad
      (library.obtain signature output many job) := by
  have answered : Meets stack (fun _ => True) bad (Run.generate library.collaborators job) :=
    .generate (fun _ => trivial) fun error => fault _ (.collaborator error)
  apply answered.bind
  intro content _
  have shaped : Meets stack (fun _ => True) bad
      (Run.require Cause.collaborator (shape signature.code many content)) :=
    .require (fun _ _ => trivial) fun error _ => fault _ (.collaborator error)
  refine shaped.bind fun content _ => meets_produce fault fun dry => ?_
  rw [live] at dry
  contradiction

theorem meets_render {template : String} :
    Meets stack (fun _ => True) bad (library.render memory template) :=
  .require (fun _ _ => trivial) fun error _ => fault _ (.collaborator error)

theorem meets_lookup {name : String} :
    Meets stack (fun stuff => memory.get name = .ok stuff) bad
      (Run.require Cause.memory (memory.get name)) :=
  .require (fun _ h => h) fun error _ => fault _ (.memory error)

theorem meets_attachments {inputs : List (String × Requirement)} :
    Meets stack (fun _ => True) bad (library.attachments memory inputs) := by
  induction inputs with
  | nil => exact .pure trivial
  | cons entry inputs ih =>
      obtain ⟨name, requirement⟩ := entry
      have known : Meets stack (fun _ => True) bad (Run.require Cause.concept
          (library.vocabulary.isImageLike requirement.concept)) :=
        .require (fun _ _ => trivial) fun error _ => fault _ (.concept error)
      have rest : ∀ here, Meets stack (fun _ => True) bad (do
          let others ← library.attachments memory inputs
          return here ++ others) :=
        fun here => ih.bind fun _ _ => .pure trivial
      rw [Library.attachments]
      apply known.bind
      intro imageLike _
      cases imageLike with
      | true => exact (meets_lookup fault).bind fun _ _ => rest _
      | false => exact rest _

theorem meets_runPrompt {prompt : Prompt} :
    Meets stack (library.Makes signature params output) bad
      (library.runPrompt signature prompt memory params output) := by
  refine (meets_render fault).bind fun _ _ => (meets_attachments fault).bind fun _ _ => ?_
  cases mode : params.isDry with
  | true => exact meets_pretend fault
  | false => exact meets_obtain fault mode

theorem meets_imageWords {prompt : ImagePrompt} :
    Meets stack (fun _ => True) bad (library.imageWords memory prompt) := by
  cases prompt with
  | template source => exact meets_render fault
  | input name => exact (meets_lookup fault).bind fun _ _ => .pure trivial

theorem meets_runImage {prompt : ImagePrompt} :
    Meets stack (library.Makes signature params output) bad
      (library.runImage signature prompt memory params output) := by
  apply (meets_imageWords fault).bind
  intro _ _
  cases mode : params.isDry with
  | true => exact meets_pretend fault
  | false => exact meets_obtain fault mode

theorem meets_runExtract {extraction : Extraction} :
    Meets stack (library.Makes signature params output) bad
      (library.runExtract signature extraction memory params output) := by
  apply (meets_lookup fault).bind
  intro _ _
  cases mode : params.isDry with
  | true =>
      have sampled : Meets stack (library.vocabulary.MadeUp signature params) bad
          (Run.require Cause.concept
            (library.vocabulary.sampleList signature.output params.listLength)) :=
        .require (fun _ h => .pages h) fun error _ => fault _ (.concept error)
      exact sampled.bind fun content made => meets_produce fault fun _ => made
  | false => exact meets_obtain fault mode

theorem meets_runCall {name : String} :
    Meets stack (library.Makes signature params output) bad
      (library.runCall signature name memory params output) := by
  have known : Meets stack (fun _ => True) bad (Run.require Cause.collaborator
      (library.collaborators.functions.get name)) :=
    .require (fun _ _ => trivial) fun error _ => fault _ (.collaborator error)
  apply known.bind
  intro function _
  cases mode : params.isDry with
  | true => exact meets_pretend fault
  | false =>
      have gathered : Meets stack (fun _ => True) bad
          (Run.require Cause.memory (gather memory signature.inputs.keys)) :=
        .require (fun _ _ => trivial) fun error _ => fault _ (.memory error)
      apply gathered.bind
      intro inputs _
      have answered : Meets stack (fun _ => True) bad (Run.call name function inputs) :=
        .call (fun _ => trivial) fun error => fault _ (.collaborator error)
      refine answered.bind fun content _ => meets_produce fault fun dry => ?_
      rw [mode] at dry
      contradiction

theorem meets_runCompose {template : String} :
    Meets stack (library.Makes signature params output) bad
      (library.runCompose signature template memory output) := by
  refine (meets_render fault).bind fun rendered _ => meets_produce fault fun _ => .composed ?_
  split <;> rfl

end Work

end Library

end Conduit
