import Conduit.Proofs.Except
import Conduit.Proofs.Schema.Graph
import Conduit.Schema.ImageSearch

/-!
# The search for an image finds out what can be reached

Whether content of a class carries an image is a question about the graph of classes: can a class
with an image be reached? The search answers it by walking along the edges. What it reports, it has
come to on one of its walks. If it has not found an image, then it has been everywhere, and where
it has met no circle, there is none.
-/

namespace Conduit

namespace Registry

open Relation

/-- Content of the class is an image, or has a field for one outside of lists. -/
def Imaged (registry : Registry) (className : String) : Prop :=
  className = ClassName.image ∨ ∃ fields, registry.fields? className = some fields ∧
    ∃ type ∈ fields.values, type.unwrapped = .image

/-- Some class with an image can be reached. -/
def ReachesImage (registry : Registry) (className : String) : Prop :=
  ∃ target, ReflTransGen registry.GoesOn className target ∧ registry.Imaged target

/-- Some class can be reached from which one comes back to it. -/
def ReachesCircle (registry : Registry) (className : String) : Prop :=
  ∃ target, ReflTransGen registry.GoesOn className target ∧ TransGen registry.GoesOn target target

/-- All classes that can be reached are registered, unless it is the class of images. -/
def Closed (registry : Registry) (className : String) : Prop :=
  ∀ target, ReflTransGen registry.GoesOn className target → target ≠ ClassName.image →
    registry.contains target = true

/-- What is reported by a search from the start is there: an image can be reached, and a walk turned
back where a circle has been met. -/
structure Sound (registry : Registry) (start : String) (outcome : ImageSurvey) : Prop where
  image : outcome.found = true → registry.ReachesImage start
  circles : ∀ cycle ∈ outcome.cycles, ∃ path turn,
    Walk registry.GoesOn start path turn ∧ turn ∈ path ∧ cycle = path ++ [turn]

namespace Sound

variable {registry : Registry} {start className : String} {path : List String}

theorem nothing (registry : Registry) (start : String) : registry.Sound start ⟨false, []⟩ :=
  ⟨fun found => absurd found Bool.false_ne_true, List.forall_mem_nil _⟩

theorem found (walk : Walk registry.GoesOn start path className)
    (imaged : registry.Imaged className) : registry.Sound start ⟨true, []⟩ :=
  ⟨fun _ => ⟨className, walk.reaches, imaged⟩, List.forall_mem_nil _⟩

theorem turned (walk : Walk registry.GoesOn start path className) (circle : className ∈ path) :
    registry.Sound start ⟨false, [path ++ [className]]⟩ := by
  refine ⟨fun found => absurd found Bool.false_ne_true, fun cycle met => ?_⟩
  exact ⟨path, className, walk, circle, List.mem_singleton.1 met⟩

end Sound

/-- One round of the search. The classes to which the fields lead are searched by this visitor. -/
def look (registry : Registry)
    (visit : List String → String → Except ConceptError ImageSurvey) (path : List String)
    (className : String) : Except ConceptError ImageSurvey :=
  if className = ClassName.image then .ok ⟨true, []⟩
  else if className ∈ path then .ok ⟨false, [path ++ [className]]⟩
  else match registry.fields? className with
    | none => .error (.classNotFound className)
    | some fields => surveyFields (visit (path ++ [className])) fields.values

section Fields

variable {registry : Registry} {start : String}
variable {visit visit' : String → Except ConceptError ImageSurvey} {type : FieldType}
variable {types : List FieldType}

/-- A field is an image, or it leads to a class that is searched, or it is of no interest. -/
theorem surveyField_cases (visit : String → Except ConceptError ImageSurvey) (type : FieldType) :
    (type.unwrapped = .image ∧ surveyField visit type = .ok ⟨true, []⟩) ∨
    (∃ className, type.unwrapped = .record className ∧ surveyField visit type = visit className) ∨
    surveyField visit type = .ok ⟨false, []⟩ := by
  rw [surveyField]
  cases type.unwrapped with
  | image => exact .inl ⟨rfl, rfl⟩
  | record className => exact .inr (.inl ⟨className, rfl, rfl⟩)
  | _ => exact .inr (.inr rfl)

theorem surveyField_record {className : String} (goesOn : type.unwrapped = .record className) :
    surveyField visit type = visit className := by
  rw [surveyField, goesOn]

theorem surveyField_image (image : type.unwrapped = .image) :
    surveyField visit type = .ok ⟨true, []⟩ := by
  rw [surveyField, image]

theorem surveyField_congr (same : ∀ className, type.unwrapped = .record className →
    visit className = visit' className) : surveyField visit type = surveyField visit' type := by
  rw [surveyField, surveyField]
  cases goesOn : type.unwrapped with
  | record className => exact same className goesOn
  | _ => rfl

theorem surveyFields_congr
    (same : ∀ type ∈ types, surveyField visit type = surveyField visit' type) :
    surveyFields visit types = surveyFields visit' types := by
  induction types with
  | nil => rfl
  | cons type types ih =>
      rw [surveyFields, surveyFields, same type List.mem_cons_self,
        ih fun other member => same other (List.mem_cons_of_mem _ member)]

theorem failsOnly_surveyFields {faults : ConceptError → Prop}
    (fields : ∀ type ∈ types, FailsOnly faults (surveyField visit type)) :
    FailsOnly faults (surveyFields visit types) := by
  induction types with
  | nil => exact .ok _
  | cons type types ih =>
      rw [surveyFields]
      refine (fields type List.mem_cons_self).bind fun first _ => ?_
      split
      · exact .ok _
      · have rest := ih fun other member => fields other (List.mem_cons_of_mem _ member)
        exact rest.bind fun _ _ => .ok _

/-- What the searches of the fields report, each for itself, may be put together. -/
theorem sound_surveyFields {outcome : ImageSurvey}
    (parts : ∀ type ∈ types, ∀ part, surveyField visit type = .ok part → registry.Sound start part)
    (searched : surveyFields visit types = .ok outcome) : registry.Sound start outcome := by
  induction types generalizing outcome with
  | nil =>
      cases searched
      exact .nothing registry start
  | cons type types ih =>
      rw [surveyFields, except_bind_eq_ok] at searched
      obtain ⟨first, here, searched⟩ := searched
      have sound := parts type List.mem_cons_self first here
      by_cases found : first.found = true
      · rw [if_pos found] at searched
        cases searched
        exact sound
      · rw [if_neg found, except_bind_eq_ok] at searched
        obtain ⟨others, there, searched⟩ := searched
        cases searched
        have rest := ih (fun other member => parts other (List.mem_cons_of_mem _ member)) there
        refine ⟨rest.image, fun cycle met => ?_⟩
        rcases List.mem_append.1 met with met | met
        · exact sound.circles cycle met
        · exact rest.circles cycle met

/-- If no image has been found, then every field has been searched, and all circles are kept. -/
theorem surveyField_of_unfound {cycles : List (List String)}
    (unfound : surveyFields visit types = .ok ⟨false, cycles⟩) (member : type ∈ types) :
    ∃ circles, surveyField visit type = .ok ⟨false, circles⟩ ∧ circles ⊆ cycles := by
  induction types generalizing cycles with
  | nil => cases member
  | cons first types ih =>
      rw [surveyFields, except_bind_eq_ok] at unfound
      obtain ⟨⟨found, circles⟩, here, unfound⟩ := unfound
      cases found with
      | true => cases unfound
      | false =>
          obtain ⟨⟨found', circles'⟩, there, same⟩ := except_bind_eq_ok.1 unfound
          cases same
          rcases List.mem_cons.1 member with rfl | among
          · exact ⟨circles, here, List.subset_append_left _ _⟩
          · obtain ⟨circles'', searched, kept⟩ := ih there among
            exact ⟨circles'', searched, List.Subset.trans kept (List.subset_append_right _ _)⟩

end Fields

variable {registry : Registry} {start className : String} {path : List String}

theorem survey_eq_look (registry : Registry) (path : List String) (className : String) :
    registry.survey path className = registry.look registry.survey path className := by
  rw [look]
  split
  · next same => rw [survey, if_pos same]
  · next other =>
    split
    · next circle => rw [survey, if_neg other, dif_pos circle]
    · next fresh =>
      split
      · next unknown => exact survey_of_unknown other fresh unknown
      · next known => exact survey_of_known other fresh known

/-- A round searches where a walk goes on, and nowhere else. -/
theorem computes_survey (registry : Registry) :
    Walk.Computes registry.GoesOn registry.classes.size registry.look registry.survey := by
  refine computes (fun _ _ step => step.leadsTo.contains) ?_ registry.survey_eq_look
  intro visit visit' path className same
  rw [look, look]
  split
  · rfl
  · split
    · rfl
    · next fresh =>
      split
      · rfl
      · next fields known =>
        refine surveyFields_congr fun type member => surveyField_congr fun next goesOn => ?_
        exact same fresh next ⟨fields, known, type, member, goesOn⟩

/-- Each search that fails has come to a class that nobody has registered. -/
theorem failsOnly_survey (walk : Walk registry.GoesOn start path className) :
    FailsOnly (fun error => ∃ target, registry.Lacks registry.GoesOn start target ∧
      target ≠ ClassName.image ∧ error = .classNotFound target)
      (registry.survey path className) := by
  induction path, className using Registry.survey.induct registry with
  | case1 path =>
      rw [survey, if_pos rfl]
      exact .ok _
  | case2 path className other circle =>
      rw [survey, if_neg other, dif_pos circle]
      exact .ok _
  | case3 path className other fresh unknown =>
      rw [survey_of_unknown other fresh unknown]
      exact .error ⟨className, ⟨walk.reaches, contains_eq_false.2 unknown⟩, other, rfl⟩
  | case4 path className other fresh fields known _ ih =>
      rw [survey_of_known other fresh known]
      refine failsOnly_surveyFields fun type member => ?_
      rcases surveyField_cases (registry.survey (path ++ [className])) type with
        ⟨-, field⟩ | ⟨next, goesOn, field⟩ | field <;> rw [field]
      · exact .ok _
      · exact ih next (walk.further fresh ⟨fields, known, type, member, goesOn⟩)
      · exact .ok _

theorem sound_survey (walk : Walk registry.GoesOn start path className) {outcome : ImageSurvey}
    (searched : registry.survey path className = .ok outcome) : registry.Sound start outcome := by
  induction path, className using Registry.survey.induct registry generalizing outcome with
  | case1 path =>
      rw [survey, if_pos rfl] at searched
      cases searched
      exact .found walk (.inl rfl)
  | case2 path className other circle =>
      rw [survey, if_neg other, dif_pos circle] at searched
      cases searched
      exact .turned walk circle
  | case3 path className other fresh unknown =>
      rw [survey_of_unknown other fresh unknown] at searched
      cases searched
  | case4 path className other fresh fields known _ ih =>
      rw [survey_of_known other fresh known] at searched
      refine sound_surveyFields (fun type member part searched => ?_) searched
      rcases surveyField_cases (registry.survey (path ++ [className])) type with
        ⟨image, field⟩ | ⟨next, goesOn, field⟩ | field <;> rw [field] at searched
      · cases searched
        exact .found walk (.inr ⟨fields, known, type, member, image⟩)
      · exact ih next (walk.further fresh ⟨fields, known, type, member, goesOn⟩) searched
      · cases searched
        exact .nothing registry start

/-- A search that finds no image has gone along every walk, and has kept what it met there. -/
theorem survey_walk {cycles : List (List String)}
    (unfound : registry.survey [] start = .ok ⟨false, cycles⟩)
    (walk : Walk registry.GoesOn start path className) :
    className ≠ ClassName.image ∧
      ∃ circles, registry.survey path className = .ok ⟨false, circles⟩ ∧ circles ⊆ cycles := by
  have other : ∀ {path className circles},
      registry.survey path className = .ok ⟨false, circles⟩ → className ≠ ClassName.image := by
    rintro path className circles searched rfl
    rw [survey, if_pos rfl] at searched
    cases searched
  induction walk with
  | here => exact ⟨other unfound, cycles, unfound, List.Subset.refl _⟩
  | @further path place next _ fresh step ih =>
      obtain ⟨apart, circles, searched, kept⟩ := ih
      obtain ⟨fields, known, type, member, goesOn⟩ := step
      rw [survey_of_known apart fresh known] at searched
      obtain ⟨circles', searched', kept'⟩ := surveyField_of_unfound searched member
      rw [surveyField_record goesOn] at searched'
      exact ⟨other searched', circles', searched', List.Subset.trans kept' kept⟩

theorem not_reachesImage {cycles : List (List String)}
    (unfound : registry.survey [] start = .ok ⟨false, cycles⟩) : ¬ registry.ReachesImage start := by
  rintro ⟨target, leads, imaged⟩
  obtain ⟨path, walk, fresh⟩ := Walk.exists_of_reaches leads
  obtain ⟨other, circles, searched, -⟩ := survey_walk unfound walk
  rcases imaged with same | ⟨fields, known, type, member, image⟩
  · exact other same
  · rw [survey_of_known other fresh known] at searched
    obtain ⟨_, searched, -⟩ := surveyField_of_unfound searched member
    rw [surveyField_image image] at searched
    cases searched

theorem not_reachesCircle (unfound : registry.survey [] start = .ok ⟨false, []⟩) :
    ¬ registry.ReachesCircle start := by
  rintro ⟨target, leads, circle⟩
  obtain ⟨path, turn, walk, onPath⟩ := Walk.exists_turn leads circle
  obtain ⟨other, circles, searched, kept⟩ := survey_walk unfound walk
  rw [survey, if_neg other, dif_pos onPath] at searched
  cases searched
  exact List.not_mem_nil (kept (List.mem_singleton_self _))

/-- What a search can come to, and what each outcome says about the graph. -/
theorem isImageLike_cases (registry : Registry) (className : String) :
    (registry.isImageLike className = .ok true ∧ registry.ReachesImage className) ∨
    (registry.isImageLike className = .ok false ∧ ¬ registry.ReachesImage className ∧
      ¬ registry.ReachesCircle className) ∨
    (∃ cycles, registry.isImageLike className = .error (.classCycle cycles) ∧
      ¬ registry.ReachesImage className ∧ registry.ReachesCircle className ∧
      ∀ cycle ∈ cycles, Circle registry.GoesOn className cycle) ∨
    ∃ target, registry.isImageLike className = .error (.classNotFound target) ∧
      registry.Lacks registry.GoesOn className target ∧ target ≠ ClassName.image := by
  rw [isImageLike]
  have begins : Walk registry.GoesOn className [] className := .here
  cases searched : registry.survey [] className with
  | error error =>
      obtain ⟨target, lacks, other, rfl⟩ := failsOnly_survey begins error searched
      exact .inr (.inr (.inr ⟨target, rfl, lacks, other⟩))
  | ok survey =>
      obtain ⟨found, cycles⟩ := survey
      obtain ⟨image, circles⟩ := sound_survey begins searched
      rcases found with _ | _
      · have without := not_reachesImage searched
        cases cycles with
        | nil => exact .inr (.inl ⟨rfl, without, not_reachesCircle searched⟩)
        | cons first others =>
            refine .inr (.inr (.inl ⟨first :: others, rfl, without, ?_, fun cycle met => ?_⟩))
            · obtain ⟨path, turn, walk, onPath, -⟩ := circles first List.mem_cons_self
              exact ⟨turn, walk.reaches, (walk.passed onPath).2⟩
            · obtain ⟨path, turn, walk, onPath, rfl⟩ := circles cycle met
              exact walk.circle onPath
      · exact .inl ⟨rfl, image rfl⟩

/-- The search comes to an end whatever the fields of the classes are, in circles or not: it is
computed in rounds that are no deeper than there are classes. If it finds an image, then there is
one to be reached. Where no class is missing, it finds one whenever there is one to be reached.
Otherwise it tells whether there is a circle to be reached, and shows some. -/
theorem isImageLike_decides (registry : Registry) (className : String) :
    Walk.Computes registry.GoesOn registry.classes.size registry.look registry.survey ∧
    (registry.isImageLike className = .ok true → registry.ReachesImage className) ∧
    (registry.Closed className →
      (registry.isImageLike className = .ok true ↔ registry.ReachesImage className) ∧
      ((∃ cycles, registry.isImageLike className = .error (.classCycle cycles)) ↔
        ¬ registry.ReachesImage className ∧ registry.ReachesCircle className) ∧
      (registry.isImageLike className = .ok false ↔
        ¬ registry.ReachesImage className ∧ ¬ registry.ReachesCircle className)) ∧
    ∀ cycles, registry.isImageLike className = .error (.classCycle cycles) →
      ∀ cycle ∈ cycles, Circle registry.GoesOn className cycle := by
  refine ⟨registry.computes_survey, ?_⟩
  rcases registry.isImageLike_cases className with
    ⟨found, image⟩ | ⟨unfound, without, straight⟩ | ⟨cycles, circles, without, circle, shown⟩ |
      ⟨target, unknown, lacks, other⟩
  · simp [found, image]
  · simp [unfound, without, straight]
  · rw [circles]
    refine ⟨nofun, fun _ => ⟨?_, ?_, ?_⟩, ?_⟩
    · exact iff_of_false nofun without
    · exact iff_of_true ⟨cycles, rfl⟩ ⟨without, circle⟩
    · exact iff_of_false nofun fun none => none.2 circle
    · rintro _ ⟨⟩
      exact shown
  · rw [unknown]
    refine ⟨nofun, fun closed => ?_, nofun⟩
    exact absurd (closed target lacks.1 other) (Bool.eq_false_iff.1 lacks.2)

end Registry

namespace Sample

open Relation

/-- The search for an image goes from a person to the parent and back. From an album it goes the
same way before it comes to the cover. -/
theorem family_decides :
    family.Closed "Person" ∧
      family.isImageLike "Person" = .error (.classCycle [["Person", "Person"]]) ∧
      ¬ family.ReachesImage "Person" ∧ family.ReachesCircle "Person" ∧
      Circle family.GoesOn "Person" ["Person", "Person"] ∧
      family.isImageLike "Album" = .ok true ∧ family.ReachesImage "Album" := by
  have closed : family.Closed "Person" := by
    intro target leads _
    have leads' : ReflTransGen family.LeadsTo "Person" target :=
      ReflTransGen.mono (fun _ _ => Registry.GoesOn.leadsTo) _ _ leads
    rw [eq_of_person leads']
    decide +kernel
  have searched : family.survey [] "Person" = .ok ⟨false, [["Person", "Person"]]⟩ := by
    decide +kernel
  have person : family.isImageLike "Person" = .error (.classCycle [["Person", "Person"]]) := by
    rw [Registry.isImageLike, searched]
    rfl
  have album : family.isImageLike "Album" = .ok true := by decide +kernel
  obtain ⟨-, -, decides, shown⟩ := Registry.isImageLike_decides family "Person"
  obtain ⟨-, reaches, -, -⟩ := Registry.isImageLike_decides family "Album"
  obtain ⟨without, circle⟩ := (decides closed).2.1.1 ⟨_, person⟩
  exact ⟨closed, person, without, circle, shown _ person _ (List.mem_singleton_self _), album,
    reaches album⟩

end Sample

end Conduit
