import Conduit.Concept.Reference

/-!
# Concepts

A concept says what a piece of data means, and its class says how it is built.
Compatibility of concepts decides which data may flow where: a concept may stand
for itself, for the native concept it refines, and loosely for the other
refinements of that native concept.
-/

namespace Conduit

/-- What a piece of data means. -/
structure Concept where
  domain : String
  code : String
  /-- What it means, in words. -/
  definition : String
  /-- The class of its content. -/
  className : String
  /-- The native concept that it is a special case of. -/
  refines : Option Native
  deriving DecidableEq, Repr

namespace Concept

/-- The name under which a vocabulary keeps a concept. -/
def qualify (domain code : String) : String :=
  s!"{domain}.{code}"

/-- Define a concept, unless its name breaks a rule. -/
def define (domain code definition className : String) (refines : Option Native) :
    Except ConceptError Concept :=
  let fault := ConceptError.definition (qualify domain code)
  if !isDomain domain then .error (fault .domainShape)
  else if !isConceptCode code then .error (fault .codeShape)
  else if domain = Native.domain then .error (fault .reservedDomain)
  else .ok ⟨domain, code, definition, className, refines⟩

/-- The concept of a native concept. -/
def ofNative (native : Native) : Concept :=
  ⟨Native.domain, native.code, native.definition, native.className, none⟩

/-- Domain and code, with a point between them. -/
def fullName (concept : Concept) : String :=
  qualify concept.domain concept.code

/-- The native concept that this is, if it is one. -/
def native? (concept : Concept) : Option Native :=
  if concept.domain = Native.domain then Native.ofCode? concept.code else none

/-- Does the concept take content of any class? -/
def isOpen (concept : Concept) : Bool :=
  concept.native?.any Native.isOpen

/-- May content of this class stand for the concept, when it is not a list? -/
def takesClass (concept : Concept) (className : String) : Bool :=
  concept.isOpen || className == concept.className

/-- Do two concepts have the same name? -/
def sameName (a b : Concept) : Bool :=
  a.domain == b.domain && a.code == b.code

/-- Is one concept a refinement of the other, which is native? -/
def refinesConcept (a b : Concept) : Bool :=
  a.refines.isSome && a.refines == b.native?

/-- May data of a concept stand where another is wanted, without taking one refinement for
another? -/
def isStrictlyCompatible (tested wanted : Concept) : Bool :=
  tested.sameName wanted || tested.refinesConcept wanted || wanted.refinesConcept tested

/-- May data of a concept flow where another is wanted? Refinements of one native concept may
stand for each other, and everything is anything. -/
def isCompatible (tested wanted : Concept) : Bool :=
  tested.isStrictlyCompatible wanted || wanted.native? == some .anything ||
    (tested.refines.isSome && tested.refines == wanted.refines)

end Concept

end Conduit
