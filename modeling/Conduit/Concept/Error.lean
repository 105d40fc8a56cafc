import Conduit.Concept.Native

/-!
# What can be wrong with concepts

A `ConceptError` says which rule about concepts, references, classes or content
does not hold; `ConceptError.message` is its wording.
-/

namespace Conduit

/-- Why a concept or a reference to one cannot be what is written. -/
inductive DefinitionFault where
  /-- A reference names a domain that is not in snake case. -/
  | referenceDomain (domain : String)
  /-- A reference names a code that is not in Pascal case. -/
  | referenceCode (code : String)
  /-- The domain of a new concept is not in snake case. -/
  | domainShape
  /-- The code of a new concept is not in Pascal case. -/
  | codeShape
  /-- A new concept claims the native domain. -/
  | reservedDomain
  /-- A concept refines something other than a native concept. -/
  | refinesOther (reference : String)
  /-- A concept declares a class other than that of the concept it refines. -/
  | classConflict (native : Native) (className : String)
  deriving DecidableEq, Repr

/-- The wording of a definition's fault. -/
def DefinitionFault.message : DefinitionFault → String
  | referenceDomain domain => s!"domain '{domain}' must be snake_case"
  | referenceCode code => s!"code '{code}' must be PascalCase"
  | domainShape => "domain must be snake_case"
  | codeShape => "code must be PascalCase"
  | reservedDomain => "the native domain is reserved"
  | refinesOther reference => s!"can only refine a native concept, not '{reference}'"
  | classConflict native className =>
    s!"refines '{native.code}' but declares structure '{className}'"

/-- A rule about concepts that does not hold. -/
inductive ConceptError where
  /-- A reference leads to no concept, or to more than one. -/
  | notFound (reference : String)
  /-- There is a concept of this domain and code already. -/
  | duplicate (domain code : String)
  /-- A definition or a reference is not well-formed. -/
  | definition (reference : String) (fault : DefinitionFault)
  /-- A class is not registered. -/
  | classNotFound (className : String)
  /-- The search for an image found none and went in circles, each given by its classes. -/
  | classCycle (cycles : List (List String))
  /-- A content is not of the class of its concept. -/
  | contentMismatch (concept expected found : String)
  deriving DecidableEq, Repr

/-- The wording of a concept error. -/
def ConceptError.message : ConceptError → String
  | notFound reference => s!"Concept '{reference}' not found"
  | duplicate domain code => s!"Concept '{domain}.{code}' is already defined"
  | definition reference fault =>
    s!"Invalid concept definition '{reference}': {fault.message}"
  | classNotFound className => s!"Structure class '{className}' not found"
  | classCycle cycles =>
    let paths := "; ".intercalate (cycles.map fun cycle => " -> ".intercalate cycle)
    s!"Structure cycle detected: {paths}"
  | contentMismatch concept expected found =>
    s!"Content of class '{found}' does not match concept '{concept}' (expected '{expected}')"

end Conduit
