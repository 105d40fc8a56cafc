import Conduit.Bundle.Loading
import Conduit.Proofs.Run.OwnFaults
import Conduit.Proofs.Vocabulary.Growth

/-!
# What loading vouches for

A library comes about by loading bundles one after the other. Pipes enter it only as their
definitions have been checked. So what the checks say of a definition can be said of every pipe of
the library, whenever it was loaded and whatever has been loaded since.

For one thing, a pipe that has been told by its definition to read an input by name declares that
input: where no template is given for an image, and where a document is split, the only declared
input is meant.
-/

namespace Conduit

theorem OrderedMap.entries_of_sole? {α : Type} {map : OrderedMap α} {entry : String × α}
    (sole : map.sole? = some entry) : map.entries = [entry] := by
  rw [sole?] at sole
  split at sole <;> cases sole
  next entries => exact entries

theorem OrderedMap.mem_keys_of_sole? {α : Type} {map : OrderedMap α} {entry : String × α}
    (sole : map.sole? = some entry) : entry.1 ∈ map.keys := by
  rw [keys, entries_of_sole? sole]
  exact List.mem_singleton_self _

/-- Every input that the pipe has been told to read is one that it declares. -/
def Pipe.Declares (pipe : Pipe) : Prop :=
  ∀ name ∈ pipe.body.reads, name ∈ pipe.signature.inputs.keys

theorem ImagePrompt.define_input {inputs : Inputs} {output : Concept} {template : Option String}
    {name : String} (defined : define inputs output template = .ok (.input name)) :
    name ∈ inputs.keys := by
  unfold define at defined
  split at defined
  · cases defined
  · split at defined
    · cases defined
    · next sole =>
      split at defined <;> cases defined
      exact OrderedMap.mem_keys_of_sole? sole
    · cases defined

theorem Extraction.define_input {inputs : Inputs} {output : Concept} {pageViews : Bool}
    {extraction : Extraction} (defined : define inputs output pageViews = .ok extraction) :
    extraction.input ∈ inputs.keys := by
  rw [define] at defined
  split at defined
  · cases defined
  · next sole =>
    dsimp only at defined
    split at defined
    · cases defined
    · split at defined <;> cases defined
      exact OrderedMap.mem_keys_of_sole? sole

theorem Parallel.define_combined {steps : List Step} {keepsEach : Option Bool}
    {combined : Option Concept} {parallel : Parallel}
    (defined : define steps keepsEach combined = .ok parallel) : parallel.combined = combined := by
  obtain ⟨branches, -, defined⟩ := except_bind_eq_ok.1 defined
  cases branches with
  | nil => cases defined
  | cons first rest =>
      dsimp only at defined
      split at defined <;> split at defined <;> cases defined <;> rfl

/-- What has been found out about a body when it is built. -/
def PipeBody.Defined (vocabulary : Vocabulary) (domain : String) (inputs : Inputs)
    (output : Concept) : PipeBody → Prop
  | image words => ∃ template, ImagePrompt.define inputs output template = .ok words
  | extract body => ∃ pageViews, Extraction.define inputs output pageViews = .ok body
  | parallel body => ∀ concept, body.combined = some concept →
      ∃ reference, vocabulary.require domain reference = .ok concept
  | _ => True

theorem BodyBlueprint.build_defined {vocabulary : Vocabulary} {domain code : String}
    {inputs : Inputs} {output : Concept} {blueprint : BodyBlueprint} {body : PipeBody}
    (built : blueprint.build vocabulary domain code inputs output = .ok body) :
    body.Defined vocabulary domain inputs output := by
  cases blueprint with
  | image template =>
      obtain ⟨prompt, checked, made⟩ := except_bind_eq_ok.1 built
      cases made
      exact ⟨template, except_mapError_eq_ok.1 checked⟩
  | extract pageViews =>
      obtain ⟨extraction, checked, made⟩ := except_bind_eq_ok.1 built
      cases made
      exact ⟨pageViews, except_mapError_eq_ok.1 checked⟩
  | parallel branches keepsEach reference =>
      obtain ⟨found, required, built⟩ := except_bind_eq_ok.1 built
      obtain ⟨_, -, built⟩ := except_bind_eq_ok.1 built
      obtain ⟨_, checked, made⟩ := except_bind_eq_ok.1 built
      cases made
      have declared := Parallel.define_combined (except_mapError_eq_ok.1 checked)
      intro concept combined
      rw [combined] at declared
      subst declared
      cases reference with
      | none => cases required
      | some reference =>
          obtain ⟨_, required, same⟩ := except_bind_eq_ok.1 required
          cases same
          exact ⟨reference, required⟩
  | sequence steps =>
      obtain ⟨_, -, built⟩ := except_bind_eq_ok.1 built
      obtain ⟨_, -, made⟩ := except_bind_eq_ok.1 built
      cases made
      trivial
  | _ =>
      obtain ⟨_, -, made⟩ := except_bind_eq_ok.1 built
      cases made
      trivial

theorem BodyBlueprint.build_reads {vocabulary : Vocabulary} {domain code : String}
    {inputs : Inputs} {output : Concept} {blueprint : BodyBlueprint} {body : PipeBody}
    (built : blueprint.build vocabulary domain code inputs output = .ok body) :
    ∀ name ∈ body.reads, name ∈ inputs.keys := by
  have defined := build_defined built
  cases body with
  | image prompt =>
      obtain ⟨template, defined⟩ := defined
      cases prompt with
      | template source => exact List.forall_mem_nil _
      | input name =>
          intro _ reads
          obtain rfl := List.mem_singleton.1 reads
          exact ImagePrompt.define_input defined
  | extract extraction =>
      obtain ⟨pageViews, defined⟩ := defined
      intro _ reads
      obtain rfl := List.mem_singleton.1 reads
      exact Extraction.define_input defined
  | _ => exact List.forall_mem_nil _

/-- What a pipe that is built is made of. -/
theorem PipeBlueprint.exists_parts {vocabulary : Vocabulary} {domain code : String}
    {blueprint : PipeBlueprint} {pipe : Pipe}
    (built : blueprint.build vocabulary domain code = .ok pipe) :
    ∃ inputs output multiplicity body,
      InputBlueprint.buildAll vocabulary domain blueprint.inputs = .ok inputs ∧
      vocabulary.require domain blueprint.output = .ok output ∧
      blueprint.body.build vocabulary domain code inputs output = .ok body ∧
      pipe = ⟨⟨domain, code, blueprint.definition, inputs, output, multiplicity⟩, body⟩ := by
  obtain ⟨inputs, inputsBuilt, built⟩ := except_bind_eq_ok.1 built
  obtain ⟨output, required, built⟩ := except_bind_eq_ok.1 built
  split at built
  · cases built
  · obtain ⟨body, bodyBuilt, made⟩ := except_bind_eq_ok.1 built
    cases made
    exact ⟨_, _, _, _, inputsBuilt, required, bodyBuilt, rfl⟩

theorem PipeBlueprint.build_declares {vocabulary : Vocabulary} {domain code : String}
    {blueprint : PipeBlueprint} {pipe : Pipe}
    (built : blueprint.build vocabulary domain code = .ok pipe) : pipe.Declares := by
  obtain ⟨inputs, output, multiplicity, body, -, -, bodyBuilt, rfl⟩ := exists_parts built
  exact BodyBlueprint.build_reads bodyBuilt

namespace Library

/-- The libraries that come about by loading bundles. Classes may be registered and concepts added
at any time. -/
inductive Loaded : Library → Prop
  | initial (collaborators : Collaborators) : Loaded (.initial collaborators)
  | register {library : Library} (loaded : Loaded library) (className : String)
      (fields : ClassFields) : Loaded (library.register className fields)
  | addConcept {library extended : Library} {concept : Concept} (loaded : Loaded library)
      (added : library.addConcept concept = .ok extended) : Loaded extended
  | load {library extended : Library} {bundle : Bundle} (loaded : Loaded library)
      (accepted : library.load bundle = .ok extended) : Loaded extended

variable {library extended : Library} {property : Pipe → Prop}

theorem addConcept_pipes {concept : Concept} (added : library.addConcept concept = .ok extended) :
    extended.pipes = library.pipes := by
  rw [addConcept] at added
  obtain ⟨vocabulary, -, rfl⟩ := except_map_eq_ok.1 added
  rfl

/-- A pipe is added exactly if its code is new. -/
theorem addPipe_eq_ok {pipe : Pipe} : library.addPipe pipe = .ok extended ↔
    (∀ other ∈ library.pipes, other.code ≠ pipe.code) ∧
      extended = { library with pipes := library.pipes ++ [pipe] } := by
  have absent : library.contains pipe.code = false ↔
      ∀ other ∈ library.pipes, other.code ≠ pipe.code := by simp [contains, find?]
  rw [addPipe, ← absent]
  cases library.contains pipe.code <;> simp [eq_comm]

/-- What every pipe that is built has, the pipes of a library still have when declared ones have
been added. -/
theorem addPipes_forall {domain : String} {blueprints : List (String × PipeBlueprint)}
    (build : ∀ {vocabulary : Vocabulary} {code : String} {blueprint : PipeBlueprint} {pipe : Pipe},
      blueprint.build vocabulary domain code = .ok pipe → property pipe)
    (all : ∀ pipe ∈ library.pipes, property pipe)
    (added : library.addPipes domain blueprints = .ok extended) :
    ∀ pipe ∈ extended.pipes, property pipe := by
  induction blueprints generalizing library with
  | nil =>
      cases added
      exact all
  | cons entry blueprints ih =>
      obtain ⟨pipe, built, added⟩ := except_bind_eq_ok.1 added
      obtain ⟨larger, grown, added⟩ := except_bind_eq_ok.1 added
      obtain ⟨-, rfl⟩ := addPipe_eq_ok.1 grown
      refine ih (fun other member => ?_) added
      rw [List.mem_append, List.mem_singleton] at member
      rcases member with old | rfl
      · exact all other old
      · exact build built

theorem load_forall {bundle : Bundle}
    (build : ∀ {vocabulary : Vocabulary} {code : String} {blueprint : PipeBlueprint} {pipe : Pipe},
      blueprint.build vocabulary bundle.domain code = .ok pipe → property pipe)
    (all : ∀ pipe ∈ library.pipes, property pipe) (loaded : library.load bundle = .ok extended) :
    ∀ pipe ∈ extended.pipes, property pipe := by
  rw [load] at loaded
  split at loaded
  · cases loaded
  · next vocabulary _ =>
    have before : ∀ pipe ∈ ({ library with vocabulary } : Library).pipes, property pipe := all
    exact addPipes_forall build before loaded

/-- What every pipe that is built has, every pipe of a loaded library has. -/
theorem Loaded.forall_pipes (loaded : library.Loaded)
    (build : ∀ {vocabulary : Vocabulary} {domain code : String} {blueprint : PipeBlueprint}
      {pipe : Pipe}, blueprint.build vocabulary domain code = .ok pipe → property pipe) :
    ∀ pipe ∈ library.pipes, property pipe := by
  induction loaded with
  | initial collaborators => exact List.forall_mem_nil _
  | register _ className fields ih => exact ih
  | addConcept _ added ih =>
      rw [addConcept_pipes added]
      exact ih
  | load _ accepted ih => exact load_forall build ih accepted

theorem Loaded.declares (loaded : library.Loaded) : ∀ pipe ∈ library.pipes, pipe.Declares :=
  loaded.forall_pipes PipeBlueprint.build_declares

end Library

end Conduit
