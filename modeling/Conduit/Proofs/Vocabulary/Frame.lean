import Conduit.DryRun.Synthesis
import Conduit.Proofs.Schema.Graph
import Conduit.Proofs.Vocabulary.Growth

/-!
# What loading leaves as it is

Concepts are told apart by domain and code, but classes by the code alone. A class that is declared
again has other fields from then on, and then the concepts of that class may be searched and made up
with another result, wherever they come from. So may the concepts whose fields lead to that class.

This is the only way in which a load changes what has been loaded before it. The making up of
content looks at the classes to which the fields lead, and the search for images at those of them
that it comes to before it finds one. An answer that has been given once is given again as long as
those classes keep their fields.
-/

namespace Conduit

/-- Where the result before is a success, it is also the result afterwards. -/
def Keeps {ε α : Type} (before after : Except ε α) : Prop :=
  ∀ value, before = .ok value → after = .ok value

namespace Keeps

variable {ε α β : Type} {before after : Except ε α}

theorem refl (result : Except ε α) : Keeps result result :=
  fun _ => id

theorem error (fault : ε) (after : Except ε α) : Keeps (.error fault) after :=
  nofun

theorem bind {next next' : α → Except ε β} (h : Keeps before after)
    (rest : ∀ value, before = .ok value → Keeps (next value) (next' value)) :
    Keeps (before >>= next) (after >>= next') := by
  cases before with
  | error fault => exact error fault _
  | ok value =>
      rw [h value rfl]
      exact rest value rfl

theorem map (f : α → β) (h : Keeps before after) : Keeps (before.map f) (after.map f) := by
  cases before with
  | error fault => exact error fault _
  | ok value =>
      rw [h value rfl]
      exact refl _

theorem mapM {items : List α} {f f' : α → Except ε β}
    (h : ∀ item ∈ items, Keeps (f item) (f' item)) : Keeps (items.mapM f) (items.mapM f') := by
  induction items with
  | nil => exact refl _
  | cons item items ih =>
      rw [List.mapM_cons, List.mapM_cons]
      refine (h item List.mem_cons_self).bind fun value _ => ?_
      have rest := ih fun other member => h other (List.mem_cons_of_mem _ member)
      exact rest.bind fun values _ => refl _

end Keeps

namespace FieldType

theorem keeps_sample {before after : String → Except ConceptError Json} {field : String}
    {type : FieldType}
    (records : ∀ className, type.mentioned? = some className →
      Keeps (before className) (after className)) :
    Keeps (type.sample before field) (type.sample after field) := by
  induction type with
  | text => exact .refl _
  | number => exact .refl _
  | bool => exact .refl _
  | image => exact .refl _
  | list item ih => exact (ih records).map _
  | optional value ih => exact ih records
  | record className => exact records className rfl

end FieldType

namespace Registry

variable {registry later : Registry}

/-- The search for images looks at the fields of a class when it comes to it, unless that is the
class of images or stands on the path. It goes on with a field as long as those before it have led
to no image. -/
inductive LooksAt (registry : Registry) : List String → String → String → Prop
  | here {path : List String} {className : String} (other : className ≠ ClassName.image)
      (fresh : className ∉ path) : LooksAt registry path className className
  | further {path : List String} {className next target : String} {fields : ClassFields}
      {before after : List FieldType} {type : FieldType} {cycles : List (List String)}
      (other : className ≠ ClassName.image) (fresh : className ∉ path)
      (known : registry.fields? className = some fields)
      (order : fields.values = before ++ type :: after)
      (unfound : surveyFields (registry.survey (path ++ [className])) before = .ok ⟨false, cycles⟩)
      (goesOn : type.unwrapped = .record next)
      (rest : LooksAt registry (path ++ [className]) next target) :
      LooksAt registry path className target

variable {path : List String} {className target : String}

theorem LooksAt.leads (looks : registry.LooksAt path className target) :
    Relation.ReflTransGen registry.LeadsTo className target := by
  induction looks with
  | here => exact .refl
  | @further _ _ _ _ fields before after type _ _ _ known order _ goesOn _ ih =>
      have member : type ∈ fields.values :=
        order ▸ List.mem_append_right before List.mem_cons_self
      exact .head ⟨fields, known, type, member, FieldType.mentioned?_of_unwrapped goesOn⟩ ih

/-- The fields of a class, if it has any, are the same later. -/
def Preserved (registry later : Registry) (className : String) : Prop :=
  ∀ fields, registry.fields? className = some fields → later.fields? className = some fields

/-- The recursion is on the classes that are not on the path yet. -/
theorem keeps_sample (path : List String) (className : String)
    (preserved : ∀ target, Relation.ReflTransGen registry.LeadsTo className target →
      registry.Preserved later target) :
    Keeps (registry.sample path className) (later.sample path className) := by
  induction path, className using Registry.sample.induct registry with
  | case1 path className circle =>
      rw [sample, sample, dif_pos circle, dif_pos circle]
      exact .refl _
  | case2 path className fresh unknown =>
      rw [sample_of_unknown fresh unknown]
      exact .error _ _
  | case3 path className fresh fields known _ ih =>
      have kept := preserved className .refl fields known
      rw [sample_of_known fresh known, sample_of_known fresh kept]
      refine Keeps.bind (.mapM fun entry member => ?_) fun values _ => .refl _
      refine (FieldType.keeps_sample fun next mentions => ?_).bind fun value _ => .refl _
      have edge : registry.LeadsTo className next :=
        ⟨fields, known, entry.2, List.mem_map_of_mem member, mentions⟩
      exact ih next fun target leads => preserved target (leads.head edge)

/-- A field is searched only if those before it have led to no image. -/
theorem keeps_surveyFields {visit visit' : String → Except ConceptError ImageSurvey}
    {types : List FieldType}
    (visits : ∀ before type after cycles, types = before ++ type :: after →
      surveyFields visit before = .ok ⟨false, cycles⟩ →
      ∀ className, type.unwrapped = .record className →
        Keeps (visit className) (visit' className)) :
    Keeps (surveyFields visit types) (surveyFields visit' types) := by
  induction types with
  | nil => exact .refl _
  | cons type types ih =>
      have head : Keeps (surveyField visit type) (surveyField visit' type) := by
        rw [surveyField, surveyField]
        split
        · exact .refl _
        · next goesOn => exact visits [] type types [] rfl rfl _ goesOn
        · exact .refl _
      rw [surveyFields, surveyFields]
      refine head.bind fun first searched => ?_
      obtain ⟨found, circles⟩ := first
      cases found with
      | true => exact .refl _
      | false =>
          refine (ih fun before other after cycles order unfound => ?_).bind fun _ _ => .refl _
          refine visits (type :: before) other after (circles ++ cycles) (by rw [order]; rfl) ?_
          rw [surveyFields, searched, unfound]
          rfl

theorem keeps_survey (path : List String) (className : String)
    (preserved : ∀ target, registry.LooksAt path className target →
      registry.Preserved later target) :
    Keeps (registry.survey path className) (later.survey path className) := by
  induction path, className using Registry.survey.induct registry with
  | case1 path =>
      rw [survey, survey, if_pos rfl, if_pos rfl]
      exact .refl _
  | case2 path className other circle =>
      rw [survey, survey, if_neg other, if_neg other, dif_pos circle, dif_pos circle]
      exact .refl _
  | case3 path className other fresh unknown =>
      rw [survey_of_unknown other fresh unknown]
      exact .error _ _
  | case4 path className other fresh fields known _ ih =>
      have kept := preserved className (.here other fresh) fields known
      rw [survey_of_known other fresh known, survey_of_known other fresh kept]
      refine keeps_surveyFields fun before type after cycles order unfound next goesOn => ?_
      exact ih next fun target looks =>
        preserved target (.further other fresh known order unfound goesOn looks)

theorem keeps_isImageLike (preserved : ∀ target, registry.LooksAt [] className target →
      registry.Preserved later target) :
    Keeps (registry.isImageLike className) (later.isImageLike className) :=
  (keeps_survey [] className preserved).bind fun _ _ => .refl _

end Registry

namespace ClassName

/-- The classes whose content is made up without a look at their fields. -/
def ready : List String := [text, number, image, pdf, textAndImages, page, html]

end ClassName

namespace Vocabulary

variable {vocabulary : Vocabulary} {concept : Concept} {className : String}

/-- To find out whether the concept is like an image, one looks at the fields of this class. -/
def Searches (vocabulary : Vocabulary) (concept : Concept) (className : String) : Prop :=
  concept.isOpen = false ∧ vocabulary.registry.LooksAt [] concept.className className

/-- To make something up for the concept, one looks at the fields of this class. -/
def DrawsOn (vocabulary : Vocabulary) (concept : Concept) (className : String) : Prop :=
  concept.isOpen = false ∧ concept.className ∉ ClassName.ready ∧
    Relation.ReflTransGen vocabulary.registry.LeadsTo concept.className className

/-- One of the declared concepts gives other fields to a class that has fields already. -/
def Replaces (vocabulary : Vocabulary) (blueprints : OrderedMap ConceptBlueprint)
    (className : String) : Prop :=
  ∃ fields declared blueprint, vocabulary.registry.fields? className = some fields ∧
    (className, blueprint) ∈ blueprints.entries ∧ blueprint.inlineFields? = some declared ∧
    declared ≠ fields

variable {domain : String} {blueprints : OrderedMap ConceptBlueprint}

theorem preserved_load (kept : ¬ vocabulary.Replaces blueprints className) :
    vocabulary.registry.Preserved (vocabulary.load domain blueprints).2.registry className := by
  intro fields known
  rw [load_registry, fields?_registerInline vocabulary blueprints.distinct, known]
  cases inline : (blueprints.get? className).bind ConceptBlueprint.inlineFields? with
  | none => exact congrArg (Option.or · (some fields)) inline
  | some declared =>
      obtain ⟨blueprint, declares, own⟩ := Option.bind_eq_some_iff.1 inline
      have same : declared = fields := Classical.not_not.1 fun other => kept
        ⟨fields, declared, blueprint, known, OrderedMap.mem_entries_of_get? declares, own, other⟩
      rw [same] at inline
      exact congrArg (Option.or · (some fields)) inline

theorem keeps_sample {later : Vocabulary}
    (preserved : ∀ className, vocabulary.DrawsOn concept className →
      vocabulary.registry.Preserved later.registry className) :
    Keeps (vocabulary.sample concept) (later.sample concept) := by
  unfold sample
  dsimp only
  repeat' split
  any_goals exact .refl _
  next shut _ _ _ _ _ _ _ =>
    have other : concept.className ∉ ClassName.ready := by simp_all [ClassName.ready]
    refine (Registry.keeps_sample [] concept.className fun target leads => ?_).map _
    exact preserved target ⟨Bool.eq_false_iff.2 shut, other, leads⟩

theorem keeps_isImageLike {later : Vocabulary}
    (preserved : ∀ className, vocabulary.Searches concept className →
      vocabulary.registry.Preserved later.registry className) :
    Keeps (vocabulary.isImageLike concept) (later.isImageLike concept) := by
  rw [isImageLike, isImageLike]
  split
  · exact .refl _
  · next shut =>
    exact Registry.keeps_isImageLike fun target looks =>
      preserved target ⟨Bool.eq_false_iff.2 shut, looks⟩

/-- Loading keeps all concepts. Whether one of them is like an image, and what is made up for it, is
answered as before if it has been answered before, unless a class is replaced on whose fields the
answer depends. -/
theorem load_keeps (vocabulary : Vocabulary) (domain : String)
    (blueprints : OrderedMap ConceptBlueprint) (concept : Concept) :
    vocabulary.concepts <+: (vocabulary.load domain blueprints).2.concepts ∧
    ((∀ className, vocabulary.Searches concept className →
        ¬ vocabulary.Replaces blueprints className) →
      ∀ answer, vocabulary.isImageLike concept = .ok answer →
        (vocabulary.load domain blueprints).2.isImageLike concept = .ok answer) ∧
    ((∀ className, vocabulary.DrawsOn concept className →
        ¬ vocabulary.Replaces blueprints className) →
      ∀ content, vocabulary.sample concept = .ok content →
        (vocabulary.load domain blueprints).2.sample concept = .ok content) := by
  refine ⟨load_concepts vocabulary domain blueprints, fun kept => ?_, fun kept => ?_⟩
  · exact keeps_isImageLike fun className searches => preserved_load (kept className searches)
  · exact keeps_sample fun className draws => preserved_load (kept className draws)

end Vocabulary

namespace Sample

/-- A class of its own for a concept, and nothing else. -/
def declared (definition : String) (fields : List (String × FieldType)) : ConceptBlueprint :=
  .full definition (some (.inline (.ofList fields))) none

/-- The vocabulary of salesmen. -/
def sales : Vocabulary :=
  (Vocabulary.initial.load "sales" (.ofList
    [("Customer", declared "A customer" [("logo", .image)]),
     ("Invoice", declared "An invoice" [("total", .number), ("customer", .record "Customer")]),
     ("Draft", declared "A draft" [("note", .text)])])).2

/-- An invoice has a customer with a logo. -/
def invoice : Concept := ⟨"sales", "Invoice", "An invoice", "Invoice", none⟩

/-- A draft has a note. -/
def draft : Concept := ⟨"sales", "Draft", "A draft", "Draft", none⟩

/-- Other drafts, which are images. -/
def scans : OrderedMap ConceptBlueprint :=
  .ofList [("Draft", declared "A scanned draft" [("scan", .image)])]

/-- Loading the scans gives the drafts of the salesmen another class. They are images from then on,
and another content is made up for them. -/
theorem drafts_change :
    sales.Loaded ∧ draft ∈ sales.concepts ∧
      sales.isImageLike draft = .ok false ∧
      (sales.load "scans" scans).2.isImageLike draft = .ok true ∧
      sales.sample draft =
        .ok (.structured "Draft" (.object [("note", .string "dry run note")])) ∧
      (sales.load "scans" scans).2.sample draft =
        .ok (.structured "Draft" (.object
          [("scan", .object [("url", .string "dry-run://scan.png")])])) := by
  have noted : sales.registry.fields? "Draft" = some (.ofList [("note", .text)]) := rfl
  have scanned : (sales.load "scans" scans).2.registry.fields? "Draft" =
      some (.ofList [("scan", .image)]) := rfl
  refine ⟨.load .initial _ _, by decide +kernel, by decide +kernel, by decide +kernel, ?_, ?_⟩
  · change (sales.registry.sample [] "Draft").map _ = _
    rw [Registry.sample_of_known List.not_mem_nil noted]
    rfl
  · change ((sales.load "scans" scans).2.registry.sample [] "Draft").map _ = _
    rw [Registry.sample_of_known List.not_mem_nil scanned]
    rfl

/-- Loading the scans leaves the invoices alone, for their fields do not lead to a draft. -/
theorem invoices_stay :
    invoice ∈ (sales.load "scans" scans).2.concepts ∧
      sales.isImageLike invoice = .ok true ∧
      (sales.load "scans" scans).2.isImageLike invoice = .ok true ∧
      ∃ content, sales.sample invoice = .ok content ∧
        (sales.load "scans" scans).2.sample invoice = .ok content := by
  have known : invoice ∈ sales.concepts := by decide +kernel
  have apart : ∀ className ∈ ["Invoice", "Customer"], ¬ sales.Replaces scans className := by
    rintro className inside ⟨-, -, blueprint, -, member, -, -⟩
    obtain rfl : className = "Draft" := (Prod.mk.inj (List.mem_singleton.1 member)).1
    exact absurd inside (by decide)
  have searched : ∀ className, sales.Searches invoice className →
      ¬ sales.Replaces scans className := fun className ⟨_, looks⟩ =>
    apart className (Registry.mem_of_leads _ (by decide) (by decide +kernel) looks.leads)
  have drawn : ∀ className, sales.DrawsOn invoice className →
      ¬ sales.Replaces scans className := fun className ⟨_, _, leads⟩ =>
    apart className (Registry.mem_of_leads _ (by decide) (by decide +kernel) leads)
  have answered : sales.isImageLike invoice = .ok true := by decide +kernel
  have succeeds : (sales.sample invoice).toOption.isSome = true := by decide +kernel
  obtain ⟨content, made⟩ : ∃ content, sales.sample invoice = .ok content := by
    cases made : sales.sample invoice with
    | ok content => exact ⟨content, rfl⟩
    | error error => rw [made] at succeeds; cases succeeds
  obtain ⟨concepts, images, contents⟩ := Vocabulary.load_keeps sales "scans" scans invoice
  exact ⟨concepts.subset known, answered, images searched true answered, content, made,
    contents drawn content made⟩

end Sample

end Conduit
