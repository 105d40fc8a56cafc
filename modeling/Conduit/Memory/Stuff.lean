import Conduit.Content.Basic
import Conduit.Concept.Basic

/-!
# Stuff

A stuff is a named content together with the concept that says what it means. A
list may stand for several things of the concept, one level deep.
-/

namespace Conduit

/-- A named content and what it means. -/
structure Stuff where
  name : String
  concept : Concept
  content : Content

namespace Stuff

instance : BEq Stuff :=
  ⟨fun a b => a.name == b.name && a.concept == b.concept && a.content == b.content⟩

/-- May a single content stand for the concept? -/
def fitsOne (concept : Concept) (content : Content) : Bool :=
  concept.takesClass content.className

/-- May a content be one of several things of a concept? -/
def fitsItem (concept : Concept) (content : Content) : Bool :=
  !content.isList && fitsOne concept content

/-- The first content that keeps a whole content from standing for the concept. -/
def misfit? (concept : Concept) (content : Content) : Option Content :=
  if concept.isOpen then none
  else match content.items? with
    | some items => items.find? fun item => !fitsItem concept item
    | none => if fitsOne concept content then none else some content

/-- Make a stuff whose content fits its concept. -/
def make (name : String) (concept : Concept) (content : Content) : Except ConceptError Stuff :=
  match misfit? concept content with
  | some misfit =>
    .error (.contentMismatch concept.fullName concept.className misfit.className)
  | none => .ok ⟨name, concept, content⟩

/-- The same stuff under another name. -/
def rename (stuff : Stuff) (name : String) : Stuff :=
  { stuff with name }

end Stuff

end Conduit
