import Conduit.Proofs.DryRun.Inputs
import Conduit.Proofs.FailureKinds
import Conduit.Proofs.KnownConcepts
import Conduit.Proofs.Vocabulary.Frame
import Conduit.Proofs.Vocabulary.Resolution

/-!
# Missing classes

When a concept is added, its own class has to be registered. Nobody looks at the fields of that
class, and so a bundle is loaded although a field holds records of a class that is not there. The
graph of the classes has a loose end then. A bundle that is loaded later may still declare the
class, whatever its domain is.

Which classes are missing when all bundles have been loaded can be read off the registry. Records of
all registered classes can be made up exactly if there are none. When a run fails for the lack of a
class, whether it is dry or not, then it has come along the fields from the class of a concept of
which some pipe speaks. That class is registered, and so the one that is lacking is a loose end.
-/

namespace Conduit

namespace Registry

open Relation

variable {registry : Registry} {className start target : String}

/-- The classes of which fields hold records, but which nobody has registered. -/
def missing (registry : Registry) : List String :=
  (registry.classes.values.flatMap fun fields =>
    fields.values.filterMap FieldType.mentioned?).filter (!registry.contains ·)

theorem mem_missing : className ∈ registry.missing ↔
    registry.contains className = false ∧ ∃ known, registry.LeadsTo known className := by
  simp only [missing, List.mem_filter, List.mem_flatMap, List.mem_filterMap, Bool.not_eq_true',
    and_comm (a := registry.contains className = false)]
  refine and_congr_left fun _ => ?_
  constructor
  · rintro ⟨fields, among, type, member, mentions⟩
    obtain ⟨⟨known, _⟩, entry, rfl⟩ := List.mem_map.1 among
    exact ⟨known, _, OrderedMap.get?_eq_some.2 entry, type, member, mentions⟩
  · rintro ⟨known, fields, found, type, member, mentions⟩
    have entry : (known, fields) ∈ registry.classes.entries := OrderedMap.get?_eq_some.1 found
    exact ⟨fields, List.mem_map_of_mem entry, type, member, mentions⟩

/-- The last step to a class that is lacking is made by a field of a registered one. -/
theorem Lacks.mem_missing (lacks : registry.Lacks registry.LeadsTo start target)
    (known : registry.contains start = true) : target ∈ registry.missing := by
  obtain ⟨leads, unknown⟩ := lacks
  cases leads with
  | refl => exact absurd known (Bool.eq_false_iff.1 unknown)
  | tail _ edge => exact Registry.mem_missing.2 ⟨unknown, _, edge⟩

theorem missing_eq_nil : registry.missing = [] ↔
    ∀ className, registry.contains className = true →
      ∃ value, registry.sample [] className = .ok value := by
  rw [List.eq_nil_iff_forall_not_mem]
  constructor
  · refine fun whole className known => sample_succeeds.2 fun target leads => ?_
    by_contra unknown
    exact whole target (Lacks.mem_missing ⟨leads, Bool.eq_false_iff.2 unknown⟩ known)
  · intro made target missing
    obtain ⟨unknown, known, edge⟩ := mem_missing.1 missing
    have found := sample_succeeds.1 (made known edge.contains) target (.single edge)
    exact absurd found (Bool.eq_false_iff.1 unknown)

end Registry

/-- The fields that a bundle gives to a class: those of the concept of this code, if they are
declared with it. -/
def Bundle.classFields? (bundle : Bundle) (className : String) : Option ClassFields :=
  (bundle.concepts.get? className).bind ConceptBlueprint.inlineFields?

/-- To see how a run fails, what it might have given need not be compared. -/
theorem Run.exists_failure {α : Type} {run : Run α} {state : RunState} {cause : Cause}
    (fails : ((run state).1.map fun _ => ()).mapError RunError.cause = .error cause) :
    ∃ error final, run state = (.error error, final) ∧ error.cause = cause := by
  rcases ran : run state with ⟨error | value, final⟩ <;> rw [ran] at fails
  · exact ⟨error, final, rfl, Except.error.inj fails⟩
  · cases fails

/-- Where a class is lacking, a pipe of the library speaks of a concept whose content needs it. -/
theorem RunError.Originates.exists_misses {library : Library} {dry : Bool} {error : RunError}
    {className : String} (originates : error.Originates library dry)
    (lacks : error.cause = .concept (.classNotFound className)) :
    ∃ pipe ∈ library.pipes, ∃ concept, pipe.SpeaksOf concept ∧
      library.vocabulary.Misses concept className := by
  cases originates with
  | overflow => cases lacks
  | @own pipe params cause output stack member mode fault =>
      obtain rfl : cause = .concept (.classNotFound className) := lacks
      cases fault with
      | concept h =>
          cases h with
          | classNotFound regarded misses => exact ⟨pipe, member, _, regarded, misses⟩

namespace Library

variable {library extended : Library} {bundle : Bundle} {bundles : List Bundle} {pipe : Pipe}
variable {state final : RunState} {error : RunError} {className : String}

/-- Load bundles one after the other. All of them have to be accepted. -/
def loadAll (library : Library) (bundles : List Bundle) : Except Cause Library :=
  bundles.foldlM load library

theorem FromBundles.loadAll (before : library.FromBundles)
    (accepted : library.loadAll bundles = .ok extended) : extended.FromBundles :=
  except_foldlM_preserves FromBundles before (fun before accepted => .load before accepted) accepted

theorem fields?_load (accepted : library.load bundle = .ok extended) (className : String) :
    extended.vocabulary.registry.fields? className =
      (bundle.classFields? className).or (library.vocabulary.registry.fields? className) := by
  rw [(FromBundles.of_load accepted).1, Vocabulary.load_registry]
  exact Vocabulary.fields?_registerInline _ bundle.concepts.distinct className

/-- The last bundle that declares a class has given it its fields. -/
theorem fields?_loadAll (accepted : library.loadAll bundles = .ok extended) (className : String) :
    extended.vocabulary.registry.fields? className =
      (bundles.reverse.findSome? (·.classFields? className)).or
        (library.vocabulary.registry.fields? className) := by
  induction bundles generalizing library with
  | nil =>
      cases accepted
      rfl
  | cons bundle bundles ih =>
      obtain ⟨next, first, accepted⟩ := except_bind_eq_ok.1 accepted
      rw [ih accepted, fields?_load first, List.reverse_cons, List.findSome?_append,
        Option.or_assoc]
      congr 2
      rw [List.findSome?_singleton]

theorem FromBundles.sound (bundles : library.FromBundles) : library.vocabulary.Sound := by
  induction bundles with
  | initial collaborators => exact .initial
  | load _ accepted before =>
      rw [(of_load accepted).1]
      exact before.change (.load _ _)

/-- The class of a concept is registered, and so a class that is missing for its content is a loose
end. -/
theorem FromBundles.mem_missing (bundles : library.FromBundles) {concept : Concept}
    (known : concept ∈ library.vocabulary.concepts)
    (misses : library.vocabulary.Misses concept className) :
    className ∈ library.vocabulary.registry.missing := by
  obtain ⟨shut, lacks⟩ := misses
  have own : library.vocabulary.registry.contains concept.className = true :=
    bundles.sound.classes concept known (by rintro rfl; cases shut) (by rintro rfl; cases shut)
  exact lacks.mem_missing own

/-- When a run of a pipe fails for the lack of a class, that class is a loose end. -/
theorem FromBundles.run_lacks (bundles : library.FromBundles) (member : pipe ∈ library.pipes)
    {memory : WorkingMemory} {params : Params} {output : Option String}
    (fails : library.run pipe memory params output state = (.error error, final))
    (lacks : error.cause = .concept (.classNotFound className)) :
    className ∈ library.vocabulary.registry.missing := by
  have contract := (library.originating params.isDry).meets_run pipe memory params output
    state.stack ⟨member, rfl⟩
  obtain ⟨owner, among, concept, speaks, misses⟩ :=
    (contract.error rfl fails).exists_misses lacks
  exact bundles.mem_missing (bundles.speaksOf among speaks) misses

theorem FromBundles.dryRun_lacks (bundles : library.FromBundles) (member : pipe ∈ library.pipes)
    {config : EngineConfig}
    (fails : library.dryRun config pipe state = (.error error, final))
    (lacks : error.cause = .concept (.classNotFound className)) :
    className ∈ library.vocabulary.registry.missing := by
  rw [dryRun] at fails
  cases made : library.vocabulary.sampleInputs pipe config.dryListLength with
  | error fault =>
      rw [made] at fails
      cases fails
      obtain rfl : fault = .classNotFound className := Cause.concept.inj lacks
      obtain ⟨entry, declared, _, misses, same⟩ :=
        library.vocabulary.failsOnly_sampleInputs pipe _ _ made
      cases same
      exact bundles.mem_missing (bundles.speaksOf member (.input declared)) misses
  | ok memory =>
      rw [made] at fails
      exact bundles.run_lacks member fails lacks

/-- Bundles are loaded one after the other, without anything before them, and all are accepted.
Then a class has the fields that the last bundle gives it that declares it, or else those of the
native class of that name, or it is not registered. Fields may hold records of classes that are not
registered, though. Those classes are missing, and records of all registered classes can be made up
exactly if none is. When a run of a pipe fails for the lack of a class, on made-up inputs or on
others, then that class is missing. So if none is, no run fails for that reason. -/
theorem loadAll_missing {collaborators : Collaborators}
    (accepted : (initial collaborators).loadAll bundles = .ok library) :
    let registry := library.vocabulary.registry
    (∀ className, registry.fields? className =
      (bundles.reverse.findSome? (·.classFields? className)).or
        (Registry.initial.fields? className)) ∧
    (∀ className, className ∈ registry.missing ↔
      registry.contains className = false ∧ ∃ known, registry.LeadsTo known className) ∧
    (registry.missing = [] ↔ ∀ className, registry.contains className = true →
      ∃ value, registry.sample [] className = .ok value) ∧
    ∀ pipe ∈ library.pipes, ∀ state final error className,
      error.cause = .concept (.classNotFound className) →
      (∃ config, library.dryRun config pipe state = (.error error, final)) ∨
        (∃ memory params output,
          library.run pipe memory params output state = (.error error, final)) →
      className ∈ registry.missing := by
  have fromBundles : library.FromBundles := (FromBundles.initial collaborators).loadAll accepted
  refine ⟨fields?_loadAll accepted, fun _ => Registry.mem_missing, Registry.missing_eq_nil, ?_⟩
  rintro pipe member state final error className lacks (⟨config, fails⟩ | ⟨_, _, _, fails⟩)
  · exact fromBundles.dryRun_lacks member fails lacks
  · exact fromBundles.run_lacks member fails lacks

end Library

namespace Sample

/-- Have a model check an invoice. An invoice has a customer, and what a customer has is not
said. -/
def billing : Bundle where
  domain := "shop"
  definition := none
  concepts := .ofList [("Invoice", declared "An invoice" [("customer", .record "Customer")])]
  pipes := .ofList
    [("check", { definition := "Check an invoice", inputs := .ofList [("bill", .brief "Invoice")]
                 output := "Text", count := none, many := none
                 body := .prompt "Check the invoice" none })]

/-- It is said what a customer has. -/
def customers : Bundle where
  domain := "sales"
  definition := none
  concepts := .ofList [("Customer", declared "A customer" [("name", .text)])]
  pipes := ∅

def bill : Concept := ⟨"shop", "Invoice", "An invoice", "Invoice", none⟩

def check : Pipe where
  signature :=
    { domain := "shop", code := "check", definition := "Check an invoice"
      inputs := .ofList [("bill", ⟨bill, none⟩)], output := text, multiplicity := none }
  body := .prompt ⟨"Check the invoice", none⟩

/-- The bundle is loaded, and no other one. -/
def billed : Library :=
  ⟨(Vocabulary.initial.load "shop" billing.concepts).2, [check], collaborators⟩

def bills : WorkingMemory := .ofStuffs [⟨"bill", bill, .structured "Invoice" (.object [])⟩]

end Sample

namespace Library

open Sample (billing customers billed bills check)

theorem dryRun_check : ∃ error final,
    billed.dryRun .standard check .initial = (.error error, final) ∧
      error.cause = .concept (.classNotFound "Customer") :=
  Run.exists_failure (by decide +kernel)

/-- The bundle alone lacks the class of customers, and so a dry run of the check fails. With the
other bundle nothing is missing, and a record of an invoice can be made up. -/
theorem billing_completed :
    (∃ error final, billed.dryRun .standard check .initial = (.error error, final) ∧
      error.cause = .concept (.classNotFound "Customer") ∧
      "Customer" ∈ billed.vocabulary.registry.missing) ∧
    ∃ library, (initial Sample.collaborators).loadAll [billing, customers] = .ok library ∧
      library.vocabulary.registry.missing = [] ∧
      ∃ value, library.vocabulary.registry.sample [] "Invoice" = .ok value := by
  constructor
  · obtain ⟨error, final, fails, lacks⟩ := dryRun_check
    have accepted : (initial Sample.collaborators).loadAll [billing] = .ok billed := rfl
    obtain ⟨-, -, -, missing⟩ := loadAll_missing accepted
    exact ⟨error, final, fails, lacks,
      missing check (List.mem_singleton_self _) _ _ _ _ lacks (.inl ⟨_, fails⟩)⟩
  · obtain ⟨library, accepted, whole, known⟩ : ∃ library,
        (initial Sample.collaborators).loadAll [billing, customers] = .ok library ∧
        library.vocabulary.registry.missing = [] ∧
        library.vocabulary.registry.contains "Invoice" = true := ⟨_, rfl, rfl, rfl⟩
    obtain ⟨-, -, made, -⟩ := loadAll_missing accepted
    exact ⟨library, accepted, whole, made.1 whole "Invoice" known⟩

/-- The bundle is accepted all the same. A field of invoices holds a record of a customer, and
nobody has registered customers. So a dry run of the check fails, and so does a live run that has an
invoice at hand. -/
theorem billing_lacks_customers :
    (initial Sample.collaborators).loadAll [billing] = .ok billed ∧
    (∃ fields, billed.vocabulary.registry.fields? "Invoice" = some fields ∧
      fields.get? "customer" = some (.record "Customer")) ∧
    billed.vocabulary.registry.contains "Customer" = false ∧
    billed.find? "check" = some check ∧ check.body = .prompt ⟨"Check the invoice", none⟩ ∧
    (∃ error final, billed.dryRun .standard check .initial = (.error error, final) ∧
      error.cause = .concept (.classNotFound "Customer")) ∧
    ∃ error final, billed.run check bills (Sample.live 1) none .initial = (.error error, final) ∧
      error.cause = .concept (.classNotFound "Customer") :=
  ⟨rfl, ⟨_, rfl, rfl⟩, rfl, rfl, rfl, dryRun_check, Run.exists_failure (by decide +kernel)⟩

end Library

end Conduit
