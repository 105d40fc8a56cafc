import Conduit.Text.Blank
import Conduit.Concept.Error

/-!
# Names of concepts and references to them

A concept is named by a domain in snake case and a code in Pascal case, both of
ASCII. A reference is a code, with the domain and a point before it or without.
-/

namespace Conduit

/-- Is this a domain: a small letter, then small letters, digits and underscores? -/
def isDomain (domain : String) : Bool :=
  match domain.toList with
  | [] => false
  | first :: rest => first.isLower && rest.all fun c => c.isLower || c.isDigit || c == '_'

/-- Is this the code of a concept: a capital, then letters and digits? -/
def isConceptCode (code : String) : Bool :=
  match code.toList with
  | [] => false
  | first :: rest => first.isUpper && rest.all Char.isAlphanum

/-- A reference to a concept. -/
structure Reference where
  domain : Option String
  code : String
  deriving DecidableEq, Repr

namespace Reference

/-- Split a text at its last point. -/
def splitAtLastPoint (cs : List Char) : Option (List Char) × List Char :=
  let code := (cs.reverse.takeWhile (· != '.')).reverse
  match cs.reverse.dropWhile (· != '.') with
  | [] => (none, code)
  | _ :: domain => (some domain.reverse, code)

/-- Read a reference; blanks around it do not count. -/
def ofText (raw : String) : Except ConceptError Reference :=
  let cs := Text.trim raw.toList
  let split := splitAtLastPoint cs
  let fault := ConceptError.definition (String.ofList cs)
  let code := String.ofList split.2
  let checked (domain : Option String) : Except ConceptError Reference :=
    if isConceptCode code then .ok ⟨domain, code⟩ else .error (fault (.referenceCode code))
  match split.1.map String.ofList with
  | none => checked none
  | some domain =>
    if isDomain domain then checked (some domain) else .error (fault (.referenceDomain domain))

/-- The written form. -/
def text (reference : Reference) : String :=
  match reference.domain with
  | some domain => s!"{domain}.{reference.code}"
  | none => reference.code

end Reference

end Conduit
