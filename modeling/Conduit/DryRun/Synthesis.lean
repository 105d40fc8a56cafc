import Conduit.Vocabulary
import Conduit.Memory.Basic
import Conduit.Pipe.Basic

/-!
# Making content up

A dry run makes up what it would be given: one small content for a concept, or a
list of them. A record is made up field by field from its class; where a class
comes to itself again, null stands for it.
-/

namespace Conduit

/-- A value for a field of a type, given how to make up the value of a class. -/
def FieldType.sample (record : String → Except ConceptError Json) (field : String) :
    FieldType → Except ConceptError Json
  | .text => .ok (.string s!"dry run {field}")
  | .number => .ok (.integer 0)
  | .bool => .ok (.bool false)
  | .image => .ok (.object [("url", .string s!"dry-run://{field}.png")])
  | .list item => (item.sample record field).map fun value => .array [value]
  | .optional value => value.sample record field
  | .record className => record className

/-- A value for a class that has been reached along a path of other classes. -/
def Registry.sample (registry : Registry) (path : List String) (className : String) :
    Except ConceptError Json :=
  if fresh : className ∈ path then .ok .null
  else match known : registry.fields? className with
    | none => .error (.classNotFound className)
    | some fields => do
      have := remaining_lt fresh known
      let values ← fields.entries.mapM fun entry => do
        let value ← entry.2.sample
          (fun next => registry.sample (path ++ [className]) next) entry.1
        return (entry.1, value)
      return Json.ofFields values
termination_by (registry.remaining path).length

namespace Registry

variable {registry : Registry} {path : List String} {className : String}

theorem sample_of_unknown (fresh : className ∉ path)
    (unknown : registry.fields? className = none) :
    registry.sample path className = .error (.classNotFound className) := by
  rw [sample, dif_neg fresh]
  split
  · rfl
  · next known => rw [unknown] at known; cases known

theorem sample_of_known {fields : ClassFields} (fresh : className ∉ path)
    (known : registry.fields? className = some fields) :
    registry.sample path className = (do
      let values ← fields.entries.mapM fun entry => do
        let value ← entry.2.sample (registry.sample (path ++ [className])) entry.1
        return (entry.1, value)
      return Json.ofFields values) := by
  rw [sample, dif_neg fresh]
  split
  · next unknown => rw [known] at unknown; cases unknown
  · next known' => cases known.symm.trans known'; rfl

end Registry

namespace Vocabulary

/-- One content for a concept. -/
def sample (vocabulary : Vocabulary) (concept : Concept) : Except ConceptError Content :=
  let label := s!"dry run {concept.code}"
  let slug := Text.snakeCase concept.code
  let className := concept.className
  if concept.isOpen then .ok (.text label)
  else if className = ClassName.text then .ok (.text label)
  else if className = ClassName.number then .ok (.number 0)
  else if className = ClassName.image then .ok (.image ⟨s!"dry-run://{slug}.png", none⟩)
  else if className = ClassName.pdf then .ok (.pdf s!"dry-run://{slug}.pdf")
  else if className = ClassName.textAndImages then .ok (.textAndImages ⟨some label, []⟩)
  else if className = ClassName.page then .ok (.page ⟨some label, []⟩ none)
  else if className = ClassName.html then .ok (.html s!"<p>{label}</p>" "dry-run")
  else (vocabulary.registry.sample [] className).map (.structured className)

/-- A list of so many contents for a concept. Nothing is made up for an empty list. -/
def sampleList (vocabulary : Vocabulary) (concept : Concept) (count : Nat) :
    Except ConceptError Content :=
  if count = 0 then .ok (.list [])
  else (vocabulary.sample concept).map fun content => .list (List.replicate count content)

/-- What a pipe would produce: a list where several things are wanted, and one thing otherwise.
Where nobody says how many, a list has the given length. -/
def sampleOutput (vocabulary : Vocabulary) (signature : Signature)
    (override : Option Multiplicity) (length : Nat) : Except ConceptError Content :=
  let demand := Demand.resolve signature.multiplicity override
  if demand.many then vocabulary.sampleList signature.output (demand.count.getD length)
  else vocabulary.sample signature.output

/-- What a pipe would be given for an input. -/
def sampleInput (vocabulary : Vocabulary) (isList : Bool) (requirement : Requirement)
    (length : Nat) : Except ConceptError Content :=
  if isList then
    let count := requirement.multiplicity.bind Multiplicity.count?
    vocabulary.sampleList requirement.concept (count.getD length)
  else vocabulary.sample requirement.concept

/-- Store what a pipe would be given for one of its inputs. -/
def storeInput (vocabulary : Vocabulary) (pipe : Pipe) (length : Nat) (memory : WorkingMemory)
    (entry : String × Requirement) : Except ConceptError WorkingMemory := do
  let content ←
    vocabulary.sampleInput (pipe.listInputs.contains entry.1) entry.2 length
  let stuff ← Stuff.make entry.1 entry.2.concept content
  return memory.store entry.1 stuff

/-- A memory with everything that a pipe declares as input. -/
def sampleInputs (vocabulary : Vocabulary) (pipe : Pipe) (length : Nat) :
    Except ConceptError WorkingMemory :=
  pipe.signature.inputs.entries.foldlM (vocabulary.storeInput pipe length) WorkingMemory.empty

end Vocabulary

end Conduit
