import Conduit.Schema.ImageSearch
import Conduit.Concept.Blueprint

/-!
# The vocabulary

A vocabulary holds the concepts that pipes can speak of, and the registry of their
classes. A concept is added once, and only when its class is known; the native
concepts are there from the start.
-/

namespace Conduit

/-- The known concepts, in order of arrival, and the known classes. -/
structure Vocabulary where
  concepts : List Concept
  registry : Registry

namespace Vocabulary

/-- The vocabulary of the native concepts. -/
def initial : Vocabulary :=
  ⟨Native.all.map Concept.ofNative, Registry.initial⟩

instance : Inhabited Vocabulary := ⟨initial⟩

/-- The concept of this full name. -/
def find? (vocabulary : Vocabulary) (fullName : String) : Option Concept :=
  vocabulary.concepts.find? fun concept => concept.fullName == fullName

/-- The concept of this domain and code, which has to be there. -/
def lookup (vocabulary : Vocabulary) (domain code : String) : Except ConceptError Concept :=
  match vocabulary.find? (Concept.qualify domain code) with
  | some concept => .ok concept
  | none => .error (.notFound (Concept.qualify domain code))

/-- Give a class these fields. -/
def register (vocabulary : Vocabulary) (className : String) (fields : ClassFields) : Vocabulary :=
  { vocabulary with registry := vocabulary.registry.register className fields }

/-- Add a concept whose name is new and whose class is known. -/
def add (vocabulary : Vocabulary) (concept : Concept) : Except ConceptError Vocabulary :=
  if (vocabulary.find? concept.fullName).isSome then
    .error (.duplicate concept.domain concept.code)
  else if !concept.isOpen && !vocabulary.registry.contains concept.className then
    .error (.classNotFound concept.className)
  else .ok { vocabulary with concepts := vocabulary.concepts ++ [concept] }

/-- The concept that a reference means. A bare code is that of a native concept, or else of the
only concept with that code in any domain. -/
def resolve (vocabulary : Vocabulary) (reference : String) : Except ConceptError Concept := do
  let parsed ← Reference.ofText reference
  match parsed.domain with
  | some domain => vocabulary.lookup domain parsed.code
  | none =>
    match Native.ofCode? parsed.code with
    | some native => vocabulary.lookup Native.domain native.code
    | none =>
      match vocabulary.concepts.filter (·.code == parsed.code) with
      | [concept] => return concept
      | _ => throw (.notFound reference)

/-- The concept that a reference inside a domain means. A bare code is that of a native concept,
or else of that domain. -/
def resolveIn (vocabulary : Vocabulary) (domain reference : String) :
    Except ConceptError Concept := do
  let parsed ← Reference.ofText reference
  match parsed.domain with
  | some domain => vocabulary.lookup domain parsed.code
  | none =>
    match Native.ofCode? parsed.code with
    | some native => vocabulary.lookup Native.domain native.code
    | none => vocabulary.lookup domain parsed.code

/-- The native concept of texts. -/
def textConcept (vocabulary : Vocabulary) : Concept :=
  (vocabulary.lookup Native.domain Native.text.code).toOption.getD (.ofNative .text)

/-- Is content of the concept attached to a prompt as images? -/
def isImageLike (vocabulary : Vocabulary) (concept : Concept) : Except ConceptError Bool :=
  if concept.isOpen then .ok false else vocabulary.registry.isImageLike concept.className

/-- Register the classes that declared concepts bring with them, each under the concept's code. -/
def registerInline (vocabulary : Vocabulary) (blueprints : List (String × ConceptBlueprint)) :
    Vocabulary :=
  blueprints.foldl (fun vocabulary entry =>
    match entry.2.inlineFields? with
    | some fields => vocabulary.register entry.1 fields
    | none => vocabulary) vocabulary

/-- Add declared concepts one after the other, up to the first that fails. -/
def addAll (vocabulary : Vocabulary) (domain : String) :
    List (String × ConceptBlueprint) → Except ConceptError (List Concept) × Vocabulary
  | [] => (.ok [], vocabulary)
  | (code, blueprint) :: rest =>
    match blueprint.build domain code with
    | .error error => (.error error, vocabulary)
    | .ok concept =>
      match vocabulary.add concept with
      | .error error => (.error error, vocabulary)
      | .ok extended =>
        let (added, final) := extended.addAll domain rest
        (added.map (concept :: ·), final)

/-- Load the concepts of a domain. Their own classes are registered first, so that they may refer
to each other in any order. What has been done before a failure stays done. -/
def load (vocabulary : Vocabulary) (domain : String) (blueprints : OrderedMap ConceptBlueprint) :
    Except ConceptError (List Concept) × Vocabulary :=
  (vocabulary.registerInline blueprints.entries).addAll domain blueprints.entries

end Vocabulary

end Conduit
