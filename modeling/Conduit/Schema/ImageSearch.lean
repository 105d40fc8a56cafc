import Conduit.Schema.Registry

/-!
# Searching a class for an image

Content of a class can be attached to a prompt as an image when its fields lead to
an image without passing through a list. The search follows the fields in order
and stops at the first image. It turns back where it meets a class of its own
path; such circles matter only when no image is found.
-/

namespace Conduit

/-- What a search has come to. -/
structure ImageSurvey where
  /-- Has an image been found? -/
  found : Bool
  /-- The circles that have been met, each from the start of the search. -/
  cycles : List (List String)
  deriving DecidableEq, Repr

namespace Registry

/-- Search a single field. -/
def surveyField (visit : String → Except ConceptError ImageSurvey) (type : FieldType) :
    Except ConceptError ImageSurvey :=
  match type.unwrapped with
  | .image => .ok ⟨true, []⟩
  | .record className => visit className
  | _ => .ok ⟨false, []⟩

/-- Search fields in order, up to the first that leads to an image. -/
def surveyFields (visit : String → Except ConceptError ImageSurvey) :
    List FieldType → Except ConceptError ImageSurvey
  | [] => .ok ⟨false, []⟩
  | type :: types => do
    let first ← surveyField visit type
    if first.found then return first
    let others ← surveyFields visit types
    return ⟨others.found, first.cycles ++ others.cycles⟩

/-- Search a class that has been reached along a path of other classes. -/
def survey (registry : Registry) (path : List String) (className : String) :
    Except ConceptError ImageSurvey :=
  if className = ClassName.image then .ok ⟨true, []⟩
  else if fresh : className ∈ path then .ok ⟨false, [path ++ [className]]⟩
  else match known : registry.fields? className with
    | none => .error (.classNotFound className)
    | some fields =>
      have := remaining_lt fresh known
      surveyFields (fun next => registry.survey (path ++ [className]) next) fields.values
termination_by (registry.remaining path).length

section Survey

variable {registry : Registry} {path : List String} {className : String}

theorem survey_of_unknown (other : className ≠ ClassName.image) (fresh : className ∉ path)
    (unknown : registry.fields? className = none) :
    registry.survey path className = .error (.classNotFound className) := by
  rw [survey, if_neg other, dif_neg fresh]
  split
  · rfl
  · next known => rw [unknown] at known; cases known

theorem survey_of_known {fields : ClassFields} (other : className ≠ ClassName.image)
    (fresh : className ∉ path) (known : registry.fields? className = some fields) :
    registry.survey path className =
      surveyFields (registry.survey (path ++ [className])) fields.values := by
  rw [survey, if_neg other, dif_neg fresh]
  split
  · next unknown => rw [known] at unknown; cases unknown
  · next known' => cases known.symm.trans known'; rfl

end Survey

/-- Does content of the class carry an image outside any list? A search that finds none but has
met a circle cannot tell. -/
def isImageLike (registry : Registry) (className : String) : Except ConceptError Bool := do
  let survey ← registry.survey [] className
  if survey.found || survey.cycles.isEmpty then return survey.found
  else throw (.classCycle survey.cycles)

end Registry

end Conduit
