import Conduit.Proofs.DryRun.Records
import Conduit.Proofs.Run.Script
import Conduit.Proofs.Schema.ImageReach

/-!
# How the making of content can fail

A pipe that makes content can fail in three ways by itself. A class may be unknown or go in circles,
or a content be of another class than its concept; a collaborator may fail; and a stuff may be
missing that the pipe reads. What it reads are inputs, and so the last cannot happen once the
inputs are there, unless the pipe has been told to read something that it does not declare.

An unknown class is one to which fields lead, from the class of a concept of which the pipe speaks.
Faults of concepts that belong to references and definitions do not occur. Those have been dealt
with when the pipe was defined.
-/

namespace Conduit

/-- Nobody has registered the class, but content of the concept is of it, or has it among its
fields, or among the fields of those. -/
def Vocabulary.Misses (vocabulary : Vocabulary) (concept : Concept) (className : String) : Prop :=
  concept.isOpen = false ∧
    vocabulary.registry.Lacks vocabulary.registry.LeadsTo concept.className className

/-- The concept errors that have to do with a content or its class, where only the classes of
certain concepts are looked at. -/
inductive ConceptError.OfContent (vocabulary : Vocabulary) (regards : Concept → Prop) :
    ConceptError → Prop
  | classNotFound {concept : Concept} {className : String} (regarded : regards concept)
      (misses : vocabulary.Misses concept className) :
      OfContent vocabulary regards (.classNotFound className)
  | classCycle (cycles : List (List String)) : OfContent vocabulary regards (.classCycle cycles)
  | contentMismatch (concept expected found : String) :
      OfContent vocabulary regards (.contentMismatch concept expected found)

/-- The error says which class is missing for content of the concept. -/
def ConceptError.LacksClass (vocabulary : Vocabulary) (concept : Concept) (error : ConceptError) :
    Prop :=
  ∃ className, vocabulary.Misses concept className ∧ error = .classNotFound className

theorem ConceptError.LacksClass.ofContent {vocabulary : Vocabulary} {concept : Concept}
    {regards : Concept → Prop} {error : ConceptError} (lacks : error.LacksClass vocabulary concept)
    (regarded : regards concept) : error.OfContent vocabulary regards := by
  obtain ⟨className, misses, rfl⟩ := lacks
  exact .classNotFound regarded misses

theorem Stuff.failsOnly_make {vocabulary : Vocabulary} {regards : Concept → Prop} (name : String)
    (concept : Concept) (content : Content) :
    FailsOnly (ConceptError.OfContent vocabulary regards) (make name concept content) := by
  rw [make]
  split
  · exact .error (.contentMismatch _ _ _)
  · exact .ok _

namespace Vocabulary

variable (vocabulary : Vocabulary)

/-- Nothing but the lack of a class keeps content from being made up. -/
theorem failsOnly_sample (concept : Concept) :
    FailsOnly (ConceptError.LacksClass vocabulary concept) (vocabulary.sample concept) := by
  unfold sample
  dsimp only
  split
  · exact .ok _
  · next shut =>
    repeat' split
    any_goals exact .ok _
    refine FailsOnly.map _ (FailsOnly.mono (Registry.failsOnly_sample .here) ?_)
    rintro _ ⟨target, lacks, rfl⟩
    exact ⟨target, ⟨Bool.eq_false_iff.2 shut, lacks⟩, rfl⟩

theorem failsOnly_sampleList (concept : Concept) (count : Nat) :
    FailsOnly (ConceptError.LacksClass vocabulary concept)
      (vocabulary.sampleList concept count) := by
  rw [sampleList]
  split
  · exact .ok _
  · exact (vocabulary.failsOnly_sample concept).map _

theorem failsOnly_sampleOutput (signature : Signature) (override : Option Multiplicity)
    (length : Nat) :
    FailsOnly (ConceptError.LacksClass vocabulary signature.output)
      (vocabulary.sampleOutput signature override length) := by
  unfold sampleOutput
  dsimp only
  split
  · exact vocabulary.failsOnly_sampleList _ _
  · exact vocabulary.failsOnly_sample _

theorem failsOnly_sampleInput (isList : Bool) (requirement : Requirement) (length : Nat) :
    FailsOnly (ConceptError.LacksClass vocabulary requirement.concept)
      (vocabulary.sampleInput isList requirement length) := by
  rw [sampleInput]
  split
  · exact vocabulary.failsOnly_sampleList _ _
  · exact vocabulary.failsOnly_sample _

theorem failsOnly_isImageLike {regards : Concept → Prop} {concept : Concept}
    (regarded : regards concept) :
    FailsOnly (ConceptError.OfContent vocabulary regards) (vocabulary.isImageLike concept) := by
  rw [isImageLike]
  split
  · exact .ok _
  · next shut =>
    rcases vocabulary.registry.isImageLike_cases concept.className with
      ⟨found, -⟩ | ⟨unfound, -⟩ | ⟨cycles, circles, -⟩ | ⟨target, unknown, lacks, -⟩
    · rw [found]
      exact .ok true
    · rw [unfound]
      exact .ok false
    · rw [circles]
      exact .error (.classCycle cycles)
    · rw [unknown]
      exact .error (.classNotFound regarded ⟨Bool.eq_false_iff.2 shut, lacks.leadsTo⟩)

end Vocabulary

/-- The concepts that a pipe speaks of: those of its inputs, that of its output, and that of the
record of all results. -/
inductive Pipe.SpeaksOf (pipe : Pipe) : Concept → Prop
  | input {entry : String × Requirement} (declared : entry ∈ pipe.signature.inputs.entries) :
      SpeaksOf pipe entry.2.concept
  | output : SpeaksOf pipe pipe.signature.output
  | combined {parallel : Parallel} {concept : Concept} (body : pipe.body = .parallel parallel)
      (combined : parallel.combined = some concept) : SpeaksOf pipe concept

/-- The names that the work of a pipe has been told to read when it was defined. -/
def PipeBody.reads : PipeBody → List String
  | .image (.input name) => [name]
  | .extract extraction => [extraction.input]
  | _ => []

namespace Library

open Composed

variable {library : Library} {signature : Signature} {memory : WorkingMemory} {params : Params}
variable {output : Option String} {calls : Pipe → Params → Prop} {faults : Cause → Prop}
variable {regards : Concept → Prop}

theorem failsOnly_gather {names : List String}
    (present : ∀ name ∈ names, (memory.find? name).isSome) (faults : MemoryError → Prop) :
    FailsOnly faults (gather memory names) := by
  refine .foldlM (fun stuffs name member => ?_) ∅
  obtain ⟨stuff, found⟩ := Option.isSome_iff_exists.1 (present name member)
  rw [WorkingMemory.get_eq_ok.2 found]
  exact .ok _

section Work

variable (concept : ∀ error : ConceptError, error.OfContent library.vocabulary regards →
  faults (.concept error))
variable (collaborator : ∀ error, faults (.collaborator error))

section Produce

include concept

theorem composed_produce {content : Content} :
    Composed calls faults fun _ => signature.produce output content :=
  require fun error failed => concept error (Stuff.failsOnly_make _ _ _ error failed)

theorem composed_pretend (regarded : regards signature.output) :
    Composed calls faults fun _ => library.pretend signature params output :=
  require_bind
    (fun error failed => concept error
      ((library.vocabulary.failsOnly_sampleOutput _ _ _ error failed).ofContent regarded))
    fun _ _ => composed_produce concept

end Produce

section Render

include collaborator

theorem composed_render {template : String} :
    Composed calls faults fun _ => library.render memory template :=
  require fun error _ => collaborator error

end Render

/-- What is looked up is there, or its lack is a fault. -/
theorem composed_lookup {name : String}
    (lost : memory.find? name = none → faults (.memory (.stuffNotFound name))) :
    Composed calls faults fun _ => Run.require Cause.memory (memory.get name) := by
  refine require fun error failed => ?_
  rw [WorkingMemory.get] at failed
  cases found : memory.find? name with
  | some stuff => simp [found] at failed
  | none =>
      rw [found] at failed
      cases failed
      exact lost found

include concept

theorem composed_attachments {inputs : List (String × Requirement)}
    (regarded : ∀ entry ∈ inputs, regards entry.2.concept)
    (present : ∀ entry ∈ inputs, (memory.find? entry.1).isSome) :
    Composed calls faults fun _ => library.attachments memory inputs := by
  induction inputs with
  | nil => exact pure []
  | cons entry inputs ih =>
      obtain ⟨name, requirement⟩ := entry
      have here := present (name, requirement) List.mem_cons_self
      have rest : ∀ images : List Image, Composed calls faults fun _ => do
          let others ← library.attachments memory inputs
          return images ++ others := fun images =>
        (ih (fun entry member => regarded entry (List.mem_cons_of_mem _ member))
          fun entry member => present entry (List.mem_cons_of_mem _ member)).bind
            fun others => pure (images ++ others)
      unfold attachments
      refine require_bind (fun error failed => concept error
        (library.vocabulary.failsOnly_isImageLike (regarded _ List.mem_cons_self) error failed))
          fun imageLike _ => ?_
      cases imageLike with
      | true =>
          refine (composed_lookup fun lost => ?_).bind fun stuff => rest _
          rw [lost] at here
          cases here
      | false => exact rest []

include collaborator

theorem composed_obtain {many : Bool} {job : Job} :
    Composed calls faults fun _ => library.obtain signature output many job :=
  (generate collaborator).bind fun _ =>
    require_bind (fun error _ => collaborator error) fun _ _ => composed_produce concept

theorem composed_runPrompt {prompt : Prompt} (made : regards signature.output)
    (regarded : ∀ entry ∈ signature.inputs.entries, regards entry.2.concept)
    (present : ∀ entry ∈ signature.inputs.entries, (memory.find? entry.1).isSome) :
    Composed calls faults fun _ => library.runPrompt signature prompt memory params output := by
  refine (composed_render collaborator).bind fun words => ?_
  refine (composed_attachments concept regarded present).bind fun images => ?_
  cases params.isDry with
  | true => exact composed_pretend concept made
  | false => exact composed_obtain concept collaborator

theorem composed_runImage {prompt : ImagePrompt} (made : regards signature.output)
    (lost : ∀ name, prompt = .input name → memory.find? name = none →
      faults (.memory (.stuffNotFound name))) :
    Composed calls faults fun _ => library.runImage signature prompt memory params output := by
  have words : Composed calls faults fun _ => library.imageWords memory prompt := by
    cases prompt with
    | template source => exact composed_render collaborator
    | input name => exact (composed_lookup (lost name rfl)).bind fun stuff => pure _
  refine words.bind fun words => ?_
  cases params.isDry with
  | true => exact composed_pretend concept made
  | false => exact composed_obtain concept collaborator

theorem composed_runExtract {extraction : Extraction} (made : regards signature.output)
    (lost : memory.find? extraction.input = none →
      faults (.memory (.stuffNotFound extraction.input))) :
    Composed calls faults fun _ =>
      library.runExtract signature extraction memory params output := by
  refine (composed_lookup lost).bind fun document => ?_
  cases params.isDry with
  | true =>
      exact require_bind (fun error failed => concept error
        ((library.vocabulary.failsOnly_sampleList _ _ error failed).ofContent made))
        fun _ _ => composed_produce concept
  | false => exact composed_obtain concept collaborator

theorem composed_runCall {name : String} (made : regards signature.output)
    (present : ∀ name ∈ signature.inputs.keys, (memory.find? name).isSome) :
    Composed calls faults fun _ => library.runCall signature name memory params output := by
  refine require_bind (fun error _ => collaborator error) fun function _ => ?_
  cases params.isDry with
  | true => exact composed_pretend concept made
  | false =>
      refine require_bind (fun error failed => ?_) fun inputs _ =>
        (callFunction collaborator).bind fun _ => composed_produce concept
      exact failsOnly_gather present (fun error => faults (.memory error)) error failed

theorem composed_runCompose {template : String} :
    Composed calls faults fun _ => library.runCompose signature template memory output :=
  (composed_render collaborator).bind fun _ => composed_produce concept

/-- Work that finds its inputs fails for the lack of a stuff only if it has been told to read
that stuff. -/
theorem composed_work {pipe : Pipe} {work : Run Stuff}
    (regarded : ∀ concept, pipe.SpeaksOf concept → regards concept)
    (present : ∀ name ∈ pipe.signature.inputs.keys, (memory.find? name).isSome)
    (lost : ∀ name ∈ pipe.body.reads, memory.find? name = none →
      faults (.memory (.stuffNotFound name)))
    (known : library.work? pipe memory params output = some work) :
    Composed calls faults fun _ => work := by
  have made := regarded _ .output
  rw [work?] at known
  split at known <;> cases known <;> rename_i body <;> rw [body] at lost
  · exact composed_runPrompt concept collaborator made
      (fun entry member => regarded _ (.input member))
      fun entry member => present entry.1 (List.mem_map_of_mem member)
  · refine composed_runImage concept collaborator made fun name told => ?_
    subst told
    exact lost name (List.mem_singleton_self name)
  · exact composed_runExtract concept collaborator made (lost _ (List.mem_singleton_self _))
  · exact composed_runCall concept collaborator made present
  · exact composed_runCompose concept collaborator

end Work

end Library

end Conduit
