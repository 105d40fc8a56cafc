import Mathlib.Data.List.Perm.Subperm
import Conduit.Proofs.Schema.Walk
import Conduit.Schema.Registry

/-!
# Classes as a graph

The fields of a class lead to other classes. Those who make up a record follow all fields that hold
records, in lists or not. Those who search for an image go on only where no list stands between.
-/

namespace Conduit

namespace FieldType

/-- The class of the records that occur in a value. -/
def mentioned? : FieldType → Option String
  | list item => item.mentioned?
  | optional value => value.mentioned?
  | record className => some className
  | _ => none

theorem mentioned?_of_unwrapped {type : FieldType} {className : String}
    (goesOn : type.unwrapped = record className) : type.mentioned? = some className := by
  induction type with
  | optional value ih => exact ih goesOn
  | record other =>
      cases goesOn
      rfl
  | _ => cases goesOn

end FieldType

/-- Something is computed for a class that has been reached along a path, in rounds that are at
most so many deep: what one round needs of the others lies where a walk goes on from the class. -/
structure Walk.Computes {β : Type} (edge : String → String → Prop) (depth : Nat)
    (round : (List String → String → β) → List String → String → β)
    (result : List String → String → β) : Prop where
  /-- A round looks only at the results one step further along an edge, and at none where the path
  has come back to the class. -/
  further : ∀ results results' path className,
    (className ∉ path → ∀ next, edge className next →
      results (path ++ [className]) next = results' (path ++ [className]) next) →
    round results path className = round results' path className
  /-- Walks come to an end. -/
  bounded : ∀ start path className, Walk edge start path className → path.length ≤ depth
  /-- So the rounds have a result, and no other one. -/
  unique : ∀ results, (∀ path className, results path className = round results path className) ↔
    results = result

namespace Registry

open Relation

variable {registry : Registry} {className target start : String} {path : List String}

/-- A field of the class holds records of the target, perhaps in lists. -/
def LeadsTo (registry : Registry) (className target : String) : Prop :=
  ∃ fields, registry.fields? className = some fields ∧
    ∃ type ∈ fields.values, type.mentioned? = some target

/-- A field of the class holds a record of the target, if it holds anything at all. -/
def GoesOn (registry : Registry) (className target : String) : Prop :=
  ∃ fields, registry.fields? className = some fields ∧
    ∃ type ∈ fields.values, type.unwrapped = .record target

/-- The target can be reached along the edges, but nobody has registered it. -/
def Lacks (registry : Registry) (edge : String → String → Prop) (start target : String) : Prop :=
  ReflTransGen edge start target ∧ registry.contains target = false

theorem contains_of_fields? {fields : ClassFields}
    (known : registry.fields? className = some fields) : registry.contains className = true :=
  Option.isSome_iff_exists.2 ⟨fields, known⟩

theorem contains_eq_false : registry.contains className = false ↔
    registry.fields? className = none := by
  rw [contains, OrderedMap.contains, Option.isSome_eq_false_iff, Option.isNone_iff_eq_none]
  rfl

theorem LeadsTo.contains (leads : registry.LeadsTo className target) :
    registry.contains className = true := by
  obtain ⟨fields, known, -⟩ := leads
  exact contains_of_fields? known

theorem GoesOn.leadsTo (goesOn : registry.GoesOn className target) :
    registry.LeadsTo className target := by
  obtain ⟨fields, known, type, member, unwrapped⟩ := goesOn
  exact ⟨fields, known, type, member, FieldType.mentioned?_of_unwrapped unwrapped⟩

/-- A class that is lacked outside of lists is lacked. -/
theorem Lacks.leadsTo (lacks : registry.Lacks registry.GoesOn start target) :
    registry.Lacks registry.LeadsTo start target :=
  ⟨ReflTransGen.mono (fun _ _ => GoesOn.leadsTo) _ _ lacks.1, lacks.2⟩

/-- Classes whose fields lead to no other class are all that can be reached from them. -/
theorem mem_of_leads (closed : List String) (start : className ∈ closed)
    (step : ∀ inside ∈ closed, ∀ fields ∈ registry.fields? inside, ∀ type ∈ fields.values,
      ∀ other ∈ type.mentioned?, other ∈ closed)
    (leads : ReflTransGen registry.LeadsTo className target) : target ∈ closed := by
  induction leads with
  | refl => exact start
  | tail _ edge ih =>
      obtain ⟨fields, known, type, member, mentions⟩ := edge
      exact step _ ih fields known type member _ mentions

/-- No walk that leaves only registered classes has gone on more often than there are such
classes. -/
theorem length_le_of_walk {edge : String → String → Prop} (walk : Walk edge start path className)
    (registered : ∀ other next, edge other next → registry.contains other = true) :
    path.length ≤ registry.classes.size := by
  have known : path ⊆ registry.classes.keys := by
    intro other onPath
    obtain ⟨next, step⟩ := walk.exists_step onPath
    obtain ⟨fields, known⟩ := Option.isSome_iff_exists.1 (registered other next step)
    exact OrderedMap.mem_keys_of_get? known
  have fits := (List.subperm_of_subset walk.nodup known).length_le
  rwa [OrderedMap.keys, List.length_map] at fits

/-- Rounds that leave only registered classes come to an end. The recursion is on the classes that
are not on the path yet. -/
theorem computes {β : Type} {edge : String → String → Prop}
    {round : (List String → String → β) → List String → String → β}
    {result : List String → String → β}
    (registered : ∀ other next, edge other next → registry.contains other = true)
    (further : ∀ results results' path className,
      (className ∉ path → ∀ next, edge className next →
        results (path ++ [className]) next = results' (path ++ [className]) next) →
      round results path className = round results' path className)
    (rounds : ∀ path className, result path className = round result path className) :
    Walk.Computes edge registry.classes.size round result where
  further := further
  bounded _ _ _ walk := length_le_of_walk walk registered
  unique results := by
    constructor
    · intro same
      let left (path : List String) : Nat := (registry.remaining path).length
      have agrees : ∀ path, ∀ className, results path className = result path className := by
        intro path
        induction path using (measure left).wf.induction with
        | _ path ih =>
            intro className
            rw [same, rounds]
            refine further _ _ _ _ fun fresh next step => ?_
            obtain ⟨fields, known⟩ := Option.isSome_iff_exists.1 (registered className next step)
            exact ih _ (remaining_lt fresh known) next
      exact funext fun path => funext (agrees path)
    · rintro rfl
      exact rounds

end Registry

namespace Sample

/-- The parent of a person is a person, the owner of an album is one, and the writer of a letter is
a stranger. -/
def family : Registry :=
  [("Person", [("name", .text), ("parent", .optional (.record "Person"))]),
    ("Album", [("owner", .record "Person"), ("cover", .image)]),
    ("Letter", [("writers", .list (.record "Stranger"))])].foldl
    (fun registry (entry : String × List (String × FieldType)) =>
      registry.register entry.1 (.ofList entry.2)) .initial

/-- Persons lead to persons only. -/
theorem eq_of_person {target : String}
    (leads : Relation.ReflTransGen family.LeadsTo "Person" target) : target = "Person" :=
  List.mem_singleton.1
    (Registry.mem_of_leads ["Person"] (List.mem_singleton_self _) (by decide +kernel) leads)

end Sample

end Conduit
