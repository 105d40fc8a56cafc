import Conduit.Proofs.Except
import Conduit.Vocabulary

/-!
# How vocabularies grow

Loading registers the classes of the declared concepts and then adds the concepts. The concepts that
are there stay there, whether it succeeds or not, and those that come behind them have been built
from their declarations and have new names. A class keeps its fields unless it is declared with
other ones.
-/

namespace Conduit

theorem Registry.fields?_register (registry : Registry) (className : String) (fields : ClassFields)
    (other : String) : (registry.register className fields).fields? other =
      if other = className then some fields else registry.fields? other :=
  OrderedMap.get?_insert _ _ _ _

/-- A concept is defined exactly if its domain and its code are what such names have to be, and the
domain is not that of the native concepts. -/
theorem Concept.define_eq_ok {domain code definition className : String} {refines : Option Native}
    {concept : Concept} : define domain code definition className refines = .ok concept ↔
      isDomain domain = true ∧ isConceptCode code = true ∧ domain ≠ Native.domain ∧
        concept = ⟨domain, code, definition, className, refines⟩ := by
  unfold define
  dsimp only
  by_cases reserved : domain = Native.domain <;>
    cases isDomain domain <;> cases isConceptCode code <;> simp [reserved, eq_comm]

/-- What is built from a declaration has been defined, and a refinement of a concept that is not
open has the class of that concept. -/
theorem ConceptBlueprint.exists_define {domain code : String} {blueprint : ConceptBlueprint}
    {concept : Concept} (built : blueprint.build domain code = .ok concept) :
    ∃ definition className refines,
      Concept.define domain code definition className refines = .ok concept ∧
      ∀ native, refines = some native → native.isOpen = false → native.className = className := by
  cases blueprint with
  | brief definition =>
      refine ⟨definition, _, _, built, fun native names _ => ?_⟩
      cases names
      rfl
  | full definition structure? refines =>
      -- A reference that is left out is treated like one that has been read.
      cases refines
      all_goals
        obtain ⟨refined, -, built⟩ := except_bind_eq_ok.1 built
        dsimp only at built
        split at built
        · next native names =>
          split at built
          · cases built
          · next agrees =>
            refine ⟨definition, _, _, built, fun other others shut => ?_⟩
            obtain rfl := Option.some.inj (names.symm.trans others)
            simpa [shut] using agrees
        · next names =>
          exact ⟨definition, _, _, built, fun native others => nomatch names.symm.trans others⟩

namespace Vocabulary

variable {vocabulary extended : Vocabulary} {concept : Concept} {domain className : String}
variable {blueprints : List (String × ConceptBlueprint)}

/-- The vocabularies that come about by loading domains one after the other. A load may have failed;
then what it has done up to there has stayed. -/
inductive Loaded : Vocabulary → Prop
  | initial : Loaded .initial
  | load {vocabulary : Vocabulary} (loaded : Loaded vocabulary) (domain : String)
      (blueprints : OrderedMap ConceptBlueprint) : Loaded (vocabulary.load domain blueprints).2

theorem find?_eq_none {fullName : String} : vocabulary.find? fullName = none ↔
    ∀ other ∈ vocabulary.concepts, other.fullName ≠ fullName := by
  simp [find?]

/-- A concept is added exactly if its name is new and its class is known, or need not be. -/
theorem add_eq_ok : vocabulary.add concept = .ok extended ↔
    (∀ other ∈ vocabulary.concepts, other.fullName ≠ concept.fullName) ∧
      (concept.isOpen = true ∨ vocabulary.registry.contains concept.className = true) ∧
      extended = { vocabulary with concepts := vocabulary.concepts ++ [concept] } := by
  rw [add, ← find?_eq_none]
  cases vocabulary.find? concept.fullName with
  | some other => simp
  | none =>
      cases concept.isOpen <;> cases vocabulary.registry.contains concept.className <;>
        simp [eq_comm]

/-- What adding a declared concept under a new name preserves, if its class is known, is preserved
by adding several, up to the first that fails. -/
theorem addAll_preserves (property : Vocabulary → Prop)
    (add : ∀ {vocabulary : Vocabulary} {code : String} {blueprint : ConceptBlueprint}
      {concept : Concept}, property vocabulary → blueprint.build domain code = .ok concept →
      (∀ other ∈ vocabulary.concepts, other.fullName ≠ concept.fullName) →
      (concept.isOpen = true ∨ vocabulary.registry.contains concept.className = true) →
      property { vocabulary with concepts := vocabulary.concepts ++ [concept] })
    (holds : property vocabulary) : property (vocabulary.addAll domain blueprints).2 := by
  induction blueprints generalizing vocabulary with
  | nil => exact holds
  | cons entry blueprints ih =>
      rw [addAll]
      split
      · exact holds
      · next concept built =>
        split
        · exact holds
        · next extended added =>
          obtain ⟨new, known, rfl⟩ := add_eq_ok.1 added
          exact ih (add holds built new known)

theorem registerInline_concepts (vocabulary : Vocabulary)
    (blueprints : List (String × ConceptBlueprint)) :
    (vocabulary.registerInline blueprints).concepts = vocabulary.concepts := by
  induction blueprints generalizing vocabulary with
  | nil => rfl
  | cons entry blueprints ih =>
      rw [registerInline, List.foldl_cons]
      refine (ih _).trans ?_
      split <;> rfl

/-- A class that is declared has the declared fields, and every other one those that it has had. -/
theorem fields?_registerInline (vocabulary : Vocabulary)
    (distinct : (blueprints.map Prod.fst).Nodup) (className : String) :
    (vocabulary.registerInline blueprints).registry.fields? className =
      ((blueprints.lookup className).bind ConceptBlueprint.inlineFields?).or
        (vocabulary.registry.fields? className) := by
  induction blueprints generalizing vocabulary with
  | nil => rfl
  | cons entry blueprints ih =>
      rw [List.map_cons, List.nodup_cons] at distinct
      rw [registerInline, List.foldl_cons, OrderedMap.lookup_cons_eq_ite]
      refine (ih _ distinct.2).trans ?_
      by_cases here : className = entry.1
      · subst here
        rw [OrderedMap.lookup_eq_none distinct.1, if_pos rfl, Option.bind_none, Option.none_or,
          Option.bind_some]
        cases entry.2.inlineFields? with
        | none => rfl
        | some fields => exact (Registry.fields?_register _ _ _ _).trans (if_pos rfl)
      · rw [if_neg here]
        cases entry.2.inlineFields? with
        | none => rfl
        | some fields =>
            exact congrArg _ ((Registry.fields?_register _ _ _ _).trans (if_neg here))

section Load

variable (vocabulary : Vocabulary) (domain : String) (blueprints : OrderedMap ConceptBlueprint)

/-- After the classes have been registered, only concepts are added. -/
theorem load_registry : (vocabulary.load domain blueprints).2.registry =
    (vocabulary.registerInline blueprints.entries).registry := by
  refine addAll_preserves (fun later => later.registry = _) ?_ rfl
  intro _ _ _ _ same _ _ _
  exact same

/-- All concepts stay where they are. -/
theorem load_concepts :
    vocabulary.concepts <+: (vocabulary.load domain blueprints).2.concepts := by
  refine addAll_preserves (fun later => vocabulary.concepts <+: later.concepts) ?_ ?_
  · intro _ _ _ concept kept _ _ _
    exact kept.trans (List.prefix_append _ [concept])
  · exact (registerInline_concepts vocabulary _).symm ▸ List.prefix_rfl

end Load

/-- What the native concepts have, and what adding a declared concept under a new name preserves,
the concepts of every loaded vocabulary have. -/
theorem Loaded.preserves (property : List Concept → Prop)
    (initial : property (Native.all.map Concept.ofNative))
    (add : ∀ {concepts : List Concept} {domain code : String} {blueprint : ConceptBlueprint}
      {concept : Concept}, property concepts → blueprint.build domain code = .ok concept →
      (∀ other ∈ concepts, other.fullName ≠ concept.fullName) → property (concepts ++ [concept]))
    (loaded : vocabulary.Loaded) : property vocabulary.concepts := by
  induction loaded with
  | initial => exact initial
  | @load before _ domain blueprints ih =>
      refine addAll_preserves (fun later => property later.concepts) ?_ ?_
      · intro _ _ _ _ holds built new _
        exact add holds built new
      · rwa [registerInline_concepts]

end Vocabulary

end Conduit
