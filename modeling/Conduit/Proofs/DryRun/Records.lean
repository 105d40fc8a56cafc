import Conduit.Proofs.Except
import Conduit.Proofs.Keyed
import Conduit.Proofs.Memory
import Conduit.Proofs.Schema.Graph
import Conduit.DryRun.Synthesis

/-!
# Records that are made up

A record is made up along the walks from its class. Each walk comes to an end, since it turns back
where it comes to a class again and null stands for that record. So a record can be made up exactly
if all the classes to which the walks come are registered, and it looks as its class says.
-/

namespace Conduit

namespace Json

variable {key : String} {value : Json} {fields sorted : List (String × Json)}

theorem insertField_perm (fresh : key ∉ sorted.map Prod.fst) :
    (insertField key value sorted).Perm ((key, value) :: sorted) := by
  induction sorted with
  | nil => exact .refl _
  | cons field sorted ih =>
      obtain ⟨key', value'⟩ := field
      rw [List.map_cons, List.mem_cons, not_or] at fresh
      rw [insertField]
      split
      · exact .refl _
      · rw [if_neg fresh.1]
        exact ((ih fresh.2).cons _).trans (.swap _ _ _)

theorem foldl_insertField_perm (distinct : ((fields ++ sorted).map Prod.fst).Nodup) :
    (fields.foldl (fun sorted field => insertField field.1 field.2 sorted) sorted).Perm
      (fields ++ sorted) := by
  induction fields generalizing sorted with
  | nil => exact .refl _
  | cons field fields ih =>
      have fresh : field.1 ∉ sorted.map Prod.fst := by
        intro taken
        rw [List.cons_append, List.map_cons, List.nodup_cons, List.map_append] at distinct
        exact distinct.1 (List.mem_append_right _ taken)
      have moved : (fields ++ insertField field.1 field.2 sorted).Perm
          (field :: fields ++ sorted) :=
        ((insertField_perm fresh).append_left fields).trans List.perm_middle
      rw [List.foldl_cons]
      exact (ih ((moved.map Prod.fst).nodup_iff.2 distinct)).trans moved

/-- Where no key is given twice, an object has the given fields, in some order. -/
theorem ofFields_perm (distinct : (fields.map Prod.fst).Nodup) :
    ∃ members, ofFields fields = .object members ∧ members.Perm fields := by
  have written := @foldl_insertField_perm fields []
  rw [List.append_nil] at written
  exact ⟨_, rfl, written distinct⟩

end Json

namespace FieldType

variable {record record' : String → Except ConceptError Json} {field : String} {type : FieldType}

theorem sample_congr (same : ∀ className, type.mentioned? = some className →
      record className = record' className) :
    type.sample record field = type.sample record' field := by
  induction type with
  | list item ih => rw [sample, sample, ih same]
  | optional value ih => exact ih same
  | record className => exact same className rfl
  | _ => rfl

theorem failsOnly_sample {faults : ConceptError → Prop}
    (records : ∀ className, type.mentioned? = some className →
      FailsOnly faults (record className)) :
    FailsOnly faults (type.sample record field) := by
  induction type with
  | text => exact .ok _
  | number => exact .ok _
  | bool => exact .ok _
  | image => exact .ok _
  | list item ih => exact (ih records).map _
  | optional value ih => exact ih records
  | record className => exact records className rfl

/-- A value that could be made up holds a record that could be made up, if it holds one at all. -/
theorem exists_of_sample {value : Json} {className : String}
    (made : type.sample record field = .ok value) (mentions : type.mentioned? = some className) :
    ∃ inner, record className = .ok inner := by
  induction type generalizing value with
  | list item ih =>
      obtain ⟨inner, made, -⟩ := except_map_eq_ok.1 made
      exact ih made mentions
  | optional inner ih => exact ih made mentions
  | record other =>
      cases mentions
      exact ⟨value, made⟩
  | _ => cases mentions

end FieldType

namespace Registry

open Relation

/-- The value is what the type of a field says, in a record that has been reached along a path. -/
inductive Conforms (registry : Registry) : List String → FieldType → Json → Prop
  | text {path : List String} (text : String) : Conforms registry path .text (.string text)
  | number {path : List String} (number : Int) : Conforms registry path .number (.integer number)
  | bool {path : List String} (bool : Bool) : Conforms registry path .bool (.bool bool)
  | image {path : List String} {members : List (String × Json)} {url : String}
      (located : ("url", .string url) ∈ members) : Conforms registry path .image (.object members)
  | list {path : List String} {item : FieldType} {value : Json}
      (only : Conforms registry path item value) :
      Conforms registry path (.list item) (.array [value])
  | optional {path : List String} {type : FieldType} {value : Json}
      (present : Conforms registry path type value) : Conforms registry path (.optional type) value
  | again {path : List String} {className : String} (circle : className ∈ path) :
      Conforms registry path (.record className) .null
  | record {path : List String} {className : String} {fields : ClassFields}
      {members : List (String × Json)} (fresh : className ∉ path)
      (known : registry.fields? className = some fields)
      (keys : (members.map Prod.fst).Perm fields.keys)
      (values : ∀ name type value, (name, type) ∈ fields.entries → (name, value) ∈ members →
        Conforms registry (path ++ [className]) type value) :
      Conforms registry path (.record className) (.object members)

/-- Null stands for a record of a class that has been passed already, and for nothing else. -/
theorem Conforms.eq_null_iff {registry : Registry} {path : List String} {type : FieldType}
    {value : Json} (conforms : registry.Conforms path type value) :
    value = .null ↔ ∃ className ∈ path, type.unwrapped = .record className := by
  induction conforms with
  | optional present ih => exact ih
  | again circle => exact iff_of_true rfl ⟨_, circle, rfl⟩
  | record fresh known keys values ih =>
      refine iff_of_false nofun ?_
      rintro ⟨_, circle, ⟨⟩⟩
      exact fresh circle
  | _ => exact iff_of_false nofun nofun

/-- One round of the making up. The records in the fields are made up by this maker. -/
def draft (registry : Registry) (make : List String → String → Except ConceptError Json)
    (path : List String) (className : String) : Except ConceptError Json :=
  if className ∈ path then .ok .null
  else match registry.fields? className with
    | none => .error (.classNotFound className)
    | some fields => do
      let values ← fields.entries.mapM fun entry => do
        let value ← entry.2.sample (make (path ++ [className])) entry.1
        return (entry.1, value)
      return Json.ofFields values

variable {registry : Registry} {start className : String} {path : List String} {value : Json}
variable {type : FieldType} {field : String}

theorem sample_eq_draft (registry : Registry) (path : List String) (className : String) :
    registry.sample path className = registry.draft registry.sample path className := by
  rw [draft]
  split
  · next circle => rw [sample, dif_pos circle]
  · next fresh =>
    split
    · next unknown => exact sample_of_unknown fresh unknown
    · next known => exact sample_of_known fresh known

/-- A round makes up records where a walk goes on, and nowhere else. -/
theorem computes_sample (registry : Registry) :
    Walk.Computes registry.LeadsTo registry.classes.size registry.draft registry.sample := by
  refine computes (fun _ _ step => step.contains) ?_ registry.sample_eq_draft
  intro make make' path className same
  rw [draft, draft]
  split
  · rfl
  · next fresh =>
    split
    · rfl
    · next fields known =>
      refine congrArg (· >>= fun values => pure (Json.ofFields values)) ?_
      refine except_mapM_congr fun entry member => ?_
      rw [FieldType.sample_congr fun next mentions => ?_]
      exact same fresh next ⟨fields, known, entry.2, List.mem_map_of_mem member, mentions⟩

/-- Where nothing can be made up, a walk has come to a class that nobody has registered. -/
theorem failsOnly_sample (walk : Walk registry.LeadsTo start path className) :
    FailsOnly (fun error => ∃ target, registry.Lacks registry.LeadsTo start target ∧
      error = .classNotFound target) (registry.sample path className) := by
  induction path, className using Registry.sample.induct registry with
  | case1 path className circle =>
      rw [sample, dif_pos circle]
      exact .ok _
  | case2 path className fresh unknown =>
      rw [sample_of_unknown fresh unknown]
      exact .error ⟨className, ⟨walk.reaches, contains_eq_false.2 unknown⟩, rfl⟩
  | case3 path className fresh fields known _ ih =>
      rw [sample_of_known fresh known]
      refine FailsOnly.bind (.mapM fun entry member => ?_) fun _ _ => .ok _
      refine (FieldType.failsOnly_sample fun next mentions => ?_).bind fun _ _ => .ok _
      exact ih next (walk.further fresh
        ⟨fields, known, entry.2, List.mem_map_of_mem member, mentions⟩)

/-- A record that has been made up has a value for every field, under the name of the field. -/
theorem forall₂_of_sample {fields : ClassFields} (fresh : className ∉ path)
    (known : registry.fields? className = some fields)
    (made : registry.sample path className = .ok value) :
    ∃ values, value = Json.ofFields values ∧ List.Forall₂ (fun entry made => made.1 = entry.1 ∧
      entry.2.sample (registry.sample (path ++ [className])) entry.1 = .ok made.2)
      fields.entries values := by
  rw [sample_of_known fresh known] at made
  obtain ⟨values, all, made⟩ := except_bind_eq_ok.1 made
  cases made
  refine ⟨values, rfl, (forall₂_of_mapM_eq_ok all).imp fun entry made ran => ?_⟩
  obtain ⟨inner, here, named⟩ := except_bind_eq_ok.1 ran
  cases named
  exact ⟨rfl, here⟩

/-- What has been made up has been made up along every walk. -/
theorem sample_walk (made : registry.sample [] start = .ok value)
    (walk : Walk registry.LeadsTo start path className) :
    ∃ inner, registry.sample path className = .ok inner := by
  induction walk with
  | here => exact ⟨value, made⟩
  | @further path place next _ fresh step ih =>
      obtain ⟨inner, made⟩ := ih
      obtain ⟨fields, known, type, member, mentions⟩ := step
      obtain ⟨values, -, each⟩ := forall₂_of_sample fresh known made
      obtain ⟨entry, among, rfl⟩ := List.mem_map.1 member
      obtain ⟨_, -, -, made⟩ := exists_left_of_forall₂ each.flip among
      exact FieldType.exists_of_sample made mentions

/-- So a record can be made up exactly if no class is missing. -/
theorem sample_succeeds : (∃ value, registry.sample [] className = .ok value) ↔
    ∀ target, ReflTransGen registry.LeadsTo className target → registry.contains target = true := by
  constructor
  · rintro ⟨value, made⟩ target leads
    obtain ⟨path, walk, fresh⟩ := Walk.exists_of_reaches leads
    obtain ⟨inner, made⟩ := sample_walk made walk
    cases known : registry.fields? target with
    | none =>
        rw [sample_of_unknown fresh known] at made
        cases made
    | some fields => exact contains_of_fields? known
  · intro closed
    cases made : registry.sample [] className with
    | ok value => exact ⟨value, rfl⟩
    | error error =>
        obtain ⟨target, ⟨leads, unknown⟩, -⟩ := failsOnly_sample .here error made
        exact absurd (closed target leads) (Bool.eq_false_iff.1 unknown)

theorem conforms_field {record : String → Except ConceptError Json}
    (records : ∀ className value, record className = .ok value →
      registry.Conforms path (.record className) value)
    (made : type.sample record field = .ok value) : registry.Conforms path type value := by
  induction type generalizing value with
  | text =>
      cases made
      exact .text _
  | number =>
      cases made
      exact .number 0
  | bool =>
      cases made
      exact .bool false
  | image =>
      cases made
      exact .image (List.mem_singleton_self _)
  | list item ih =>
      obtain ⟨inner, only, rfl⟩ := except_map_eq_ok.1 made
      exact .list (ih only)
  | optional inner ih => exact .optional (ih made)
  | record className => exact records className value made

/-- The recursion is on the classes that are not on the path yet. -/
theorem conforms_sample (made : registry.sample path className = .ok value) :
    registry.Conforms path (.record className) value := by
  induction path, className using Registry.sample.induct registry generalizing value with
  | case1 path className circle =>
      rw [sample, dif_pos circle] at made
      cases made
      exact .again circle
  | case2 path className fresh unknown =>
      rw [sample_of_unknown fresh unknown] at made
      cases made
  | case3 path className fresh fields known _ ih =>
      obtain ⟨values, rfl, each⟩ := forall₂_of_sample fresh known made
      have keys : values.map Prod.fst = fields.keys := by
        rw [OrderedMap.keys, ← List.forall₂_eq_eq_eq, List.forall₂_map_left_iff,
          List.forall₂_map_right_iff]
        exact each.flip.imp fun _ _ made => made.1
      have distinct : (values.map Prod.fst).Nodup := keys ▸ (fields.distinct : fields.keys.Nodup)
      obtain ⟨members, written, perm⟩ := Json.ofFields_perm distinct
      rw [written]
      refine .record fresh known (keys ▸ perm.map Prod.fst) ?_
      intro name type value declared member
      obtain ⟨⟨name', type'⟩, declared', named, made⟩ :=
        exists_left_of_forall₂ each (perm.mem_iff.1 member)
      cases named
      rw [← OrderedMap.get?_eq_some] at declared declared'
      cases declared.symm.trans declared'
      exact conforms_field ih made

end Registry

theorem Stuff.misfit?_eq_none {concept : Concept} {content : Content}
    (single : content.items? = none) (same : content.className = concept.className) :
    misfit? concept content = none := by
  rw [misfit?, single]
  simp [fitsOne, Concept.takesClass, same]

namespace Vocabulary

open Relation

variable {vocabulary : Vocabulary} {concept : Concept} {content : Content}

theorem sample_fits (made : vocabulary.sample concept = .ok content) :
    Stuff.misfit? concept content = none := by
  unfold sample at made
  dsimp only at made
  split at made
  · next isOpen => rw [Stuff.misfit?, if_pos isOpen]
  · repeat' split at made
    any_goals
      rename_i same
      cases made
      exact Stuff.misfit?_eq_none rfl same.symm
    obtain ⟨value, -, rfl⟩ := except_map_eq_ok.1 made
    exact Stuff.misfit?_eq_none rfl rfl

/-- The making up of a record comes to an end whatever the fields of the classes are, in circles or
not: it is done in rounds that are no deeper than there are classes. It succeeds exactly if all
classes are registered that can be reached, and otherwise it fails because of one that is not.
The record has the fields of its class, with values as their types say. Whatever has been made up
for a concept makes a stuff of that concept. -/
theorem sample_records (vocabulary : Vocabulary) (className : String) :
    Walk.Computes vocabulary.registry.LeadsTo vocabulary.registry.classes.size
      vocabulary.registry.draft vocabulary.registry.sample ∧
    ((∃ value, vocabulary.registry.sample [] className = .ok value) ↔
      ∀ target, ReflTransGen vocabulary.registry.LeadsTo className target →
        vocabulary.registry.contains target = true) ∧
    (∀ error, vocabulary.registry.sample [] className = .error error →
      ∃ target, vocabulary.registry.Lacks vocabulary.registry.LeadsTo className target ∧
        error = .classNotFound target) ∧
    (∀ value, vocabulary.registry.sample [] className = .ok value →
      vocabulary.registry.Conforms [] (.record className) value) ∧
    ∀ concept content name, vocabulary.sample concept = .ok content →
      Stuff.make name concept content = .ok ⟨name, concept, content⟩ :=
  ⟨vocabulary.registry.computes_sample, Registry.sample_succeeds,
    Registry.failsOnly_sample .here, fun _ => Registry.conforms_sample,
    fun _ _ _ made => Stuff.make_eq_ok.2 ⟨sample_fits made, rfl⟩⟩

end Vocabulary

namespace Sample

/-- A vocabulary with the classes of a family. -/
def kin : Vocabulary := { Vocabulary.initial with registry := family }

def person : Concept := ⟨"family", "Person", "A person", "Person", none⟩

/-- A person who is made up has a name and no parent. No letter can be made up, for strangers are
not registered. -/
theorem family_records :
    (∃ members, kin.registry.sample [] "Person" = .ok (.object members) ∧
      (members.map Prod.fst).Perm ["name", "parent"] ∧
      ∀ value, ("parent", value) ∈ members → value = .null) ∧
    (¬ ∃ value, kin.registry.sample [] "Letter" = .ok value) ∧
    ∃ content, kin.sample person = .ok content ∧
      Stuff.make "somebody" person content = .ok ⟨"somebody", person, content⟩ := by
  have closed : ∀ target, Relation.ReflTransGen kin.registry.LeadsTo "Person" target →
      kin.registry.contains target = true := by
    intro target leads
    rw [eq_of_person leads]
    decide +kernel
  have strange : kin.registry.LeadsTo "Letter" "Stranger" :=
    ⟨.ofList [("writers", .list (.record "Stranger"))], rfl, .list (.record "Stranger"),
      List.mem_singleton_self _, rfl⟩
  have shape : kin.registry.fields? "Person" =
      some (.ofList [("name", .text), ("parent", .optional (.record "Person"))]) := rfl
  obtain ⟨-, succeeds, -, conforms, makes⟩ := Vocabulary.sample_records kin "Person"
  obtain ⟨-, succeeds', -⟩ := Vocabulary.sample_records kin "Letter"
  obtain ⟨value, made⟩ := succeeds.2 closed
  have content : kin.sample person = .ok (.structured "Person" value) := by
    change (kin.registry.sample [] "Person").map _ = _
    rw [made]
    rfl
  refine ⟨?_, fun writes => ?_, _, content, makes _ _ _ content⟩
  · cases conforms value made with
    | again circle => cases circle
    | record fresh known keys values =>
        obtain rfl := Option.some.inj (shape.symm.trans known)
        refine ⟨_, made, keys, fun value member => ?_⟩
        have parent := values "parent" (.optional (.record "Person")) value (by decide) member
        exact parent.eq_null_iff.2 ⟨"Person", List.mem_singleton_self _, rfl⟩
  · exact absurd (succeeds'.1 writes "Stranger" (.single strange)) (by decide +kernel)

end Sample

end Conduit
