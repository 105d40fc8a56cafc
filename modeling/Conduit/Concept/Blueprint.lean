import Conduit.Schema.Registry
import Conduit.Concept.Basic

/-!
# Concepts as a bundle declares them

A declared concept is a text, or it says what it refines and how it is built. What
is left out is filled in: a concept that neither refines nor has a structure is a
text, and a refinement has the class of what it refines.
-/

namespace Conduit

/-- How a declared concept is built. -/
inductive StructureBlueprint where
  /-- As content of a class that is known by this name. -/
  | named (className : String)
  /-- As content of a class of its own. -/
  | inline (fields : ClassFields)

/-- A concept as a bundle declares it. -/
inductive ConceptBlueprint where
  /-- A text, with what it means in words. -/
  | brief (definition : String)
  | full (definition : String) (structure? : Option StructureBlueprint) (refines : Option String)

namespace ConceptBlueprint

/-- What the concept means, in words. -/
def definition : ConceptBlueprint → String
  | brief definition => definition
  | full definition _ _ => definition

/-- The fields of the class of its own, if it has one. -/
def inlineFields? : ConceptBlueprint → Option ClassFields
  | full _ (some (.inline fields)) _ => some fields
  | _ => none

/-- The native concept that a reference names as what is refined. -/
def refinedNative (fullName reference : String) : Except ConceptError Native := do
  let parsed ← Reference.ofText reference
  match Native.ofCode? parsed.code with
  | some native =>
    if parsed.domain.all (· == Native.domain) then return native
    else throw (.definition fullName (.refinesOther reference))
  | none => throw (.definition fullName (.refinesOther reference))

/-- The class of a declared concept. -/
def classNameOf (code : String) (structure? : Option StructureBlueprint) (refines : Option Native) :
    String :=
  match structure? with
  | some (.inline _) => code
  | some (.named className) => className
  | none => (refines.map Native.className).getD ClassName.text

/-- The concept that is declared under a code in a domain. -/
def build (domain code : String) : ConceptBlueprint → Except ConceptError Concept
  | brief definition => Concept.define domain code definition ClassName.text (some .text)
  | full definition structure? refines => do
    let refined ← match refines with
      | some reference => (refinedNative (Concept.qualify domain code) reference).map some
      | none => .ok none
    let className := classNameOf code structure? refined
    let refined := if refined.isNone && structure?.isNone then some .text else refined
    match refined with
    | some native =>
      if !native.isOpen && native.className != className then
        throw (.definition (Concept.qualify domain code) (.classConflict native className))
    | none => pure ()
    Concept.define domain code definition className refined

end ConceptBlueprint

end Conduit
