import Mathlib.Data.List.Nodup
import Conduit.Proofs.Keyed
import Conduit.Proofs.Loading
import Conduit.Proofs.Sample
import Conduit.Proofs.TypePreservation
import Conduit.Proofs.Vocabulary.Growth

/-!
# What compatibility is worth

Compatibility looks at the names of two concepts and at what they refine, and never at a class.
Content is checked against the class of a concept, and never against what the concept refines.
Nevertheless, content of one concept is content of every other that it may flow to. For a
vocabulary that has been loaded knows every name once, and it gives a refinement the class of what
it refines.

A refinement of an open concept may have any class, and nothing can be said about it.
-/

namespace Conduit

namespace Concept

variable {concept tested wanted : Concept} {native : Native}

theorem native?_ofNative (native : Native) : (ofNative native).native? = some native := by
  cases native <;> decide +kernel

theorem isOpen_of_native? (is : concept.native? = some native) :
    concept.isOpen = native.isOpen := by
  rw [isOpen, is]
  rfl

theorem exists_refines (refines : tested.refinesConcept wanted = true) :
    ∃ native, tested.refines = some native ∧ wanted.native? = some native := by
  rw [refinesConcept, Bool.and_eq_true, beq_iff_eq] at refines
  obtain ⟨native, names⟩ := Option.isSome_iff_exists.1 refines.1
  exact ⟨native, names, refines.2.symm.trans names⟩

/-- In the native domain are the native concepts, and a refinement of a concept that is not open has
the class of that concept. -/
structure Regular (concept : Concept) : Prop where
  native : concept.domain = Native.domain → ∃ native, concept = ofNative native
  refines : ∀ native, concept.refines = some native → native.isOpen = false →
    concept.className = native.className

theorem regular_ofNative (native : Native) : (ofNative native).Regular where
  native _ := ⟨native, rfl⟩
  refines := nofun

theorem regular_of_define {domain code definition className : String} {refines : Option Native}
    (defined : define domain code definition className refines = .ok concept)
    (agrees : ∀ native, refines = some native → native.isOpen = false →
      native.className = className) : concept.Regular := by
  obtain ⟨-, -, own, rfl⟩ := define_eq_ok.1 defined
  exact ⟨fun inside => absurd inside own, fun native names shut => (agrees native names shut).symm⟩

namespace Regular

theorem eq_ofNative (regular : concept.Regular) (is : concept.native? = some native) :
    concept = ofNative native := by
  rw [native?] at is
  split at is
  · next inside =>
    obtain ⟨other, rfl⟩ := regular.native inside
    have same := native?_ofNative other
    rw [native?, if_pos inside, is] at same
    rw [Option.some.inj same]
  · cases is

theorem className_of_native? (regular : concept.Regular) (is : concept.native? = some native) :
    concept.className = native.className := by
  rw [regular.eq_ofNative is]
  rfl

/-- A refinement is not native, and so it is not open. -/
theorem isOpen_of_refines (regular : concept.Regular) (refines : concept.refines = some native) :
    concept.isOpen = false := by
  rw [isOpen]
  cases is : concept.native? with
  | none => rfl
  | some other =>
      rw [regular.eq_ofNative is] at refines
      cases refines

end Regular

/-- What content the one concept takes, the other takes too: it is open, or both are not and have
the same class. -/
def Covers (wanted tested : Concept) : Prop :=
  wanted.isOpen = true ∨ tested.isOpen = false ∧ tested.className = wanted.className

theorem Covers.refl (concept : Concept) : concept.Covers concept := by
  cases isOpen : concept.isOpen with
  | true => exact .inl isOpen
  | false => exact .inr ⟨isOpen, rfl⟩

/-- Does the concept refine an open one? Then its class may be any. -/
def RefinesOpen (concept : Concept) : Prop :=
  concept.refines = some .anything ∨ concept.refines = some .dynamic

theorem isOpen_of_not_refinesOpen (solid : ¬ concept.RefinesOpen)
    (refines : concept.refines = some native) : native.isOpen = false := by
  rw [Bool.eq_false_iff]
  intro isOpen
  rcases (Native.isOpen_iff native).1 isOpen with rfl | rfl
  · exact solid (.inl refines)
  · exact solid (.inr refines)

/-- Where names are not shared, data flows only to a concept that takes the same content. -/
theorem covers_of_isCompatible (regular : tested.Regular) (regular' : wanted.Regular)
    (named : tested.fullName = wanted.fullName → tested = wanted)
    (solid : ¬ wanted.RefinesOpen) (compatible : tested.isCompatible wanted = true) :
    wanted.Covers tested := by
  simp only [isCompatible, isStrictlyCompatible, Bool.or_eq_true] at compatible
  rcases compatible with (((same | down) | up) | anything) | sibling
  · rw [sameName, Bool.and_eq_true, beq_iff_eq, beq_iff_eq] at same
    obtain rfl := named (by rw [fullName, fullName, same.1, same.2])
    exact .refl tested
  · obtain ⟨native, names, is⟩ := exists_refines down
    cases isOpen : native.isOpen with
    | true => exact .inl ((isOpen_of_native? is).trans isOpen)
    | false =>
        refine .inr ⟨regular.isOpen_of_refines names, ?_⟩
        rw [regular.refines native names isOpen, regular'.className_of_native? is]
  · obtain ⟨native, names, is⟩ := exists_refines up
    have shut := isOpen_of_not_refinesOpen solid names
    refine .inr ⟨(isOpen_of_native? is).trans shut, ?_⟩
    rw [regular.className_of_native? is, regular'.refines native names shut]
  · exact .inl ((isOpen_iff wanted).2 (.inl (beq_iff_eq.1 anything)))
  · rw [Bool.and_eq_true, beq_iff_eq] at sibling
    obtain ⟨native, names⟩ := Option.isSome_iff_exists.1 sibling.1
    have names' := sibling.2.symm.trans names
    have shut := isOpen_of_not_refinesOpen solid names'
    refine .inr ⟨regular.isOpen_of_refines names, ?_⟩
    rw [regular.refines native names shut, regular'.refines native names' shut]

end Concept

theorem Stuff.misfit?_of_covers {tested wanted : Concept} {content : Content}
    (covers : wanted.Covers tested) (fits : misfit? tested content = none) :
    misfit? wanted content = none := by
  rcases covers with isOpen | ⟨shut, same⟩
  · rw [misfit?, if_pos isOpen]
  · cases isOpen : wanted.isOpen with
    | true => rw [misfit?, if_pos isOpen]
    | false =>
        have takes : wanted.takesClass = tested.takesClass := by
          funext className
          rw [Concept.takesClass, Concept.takesClass, isOpen, shut, same]
        rw [← fits]
        unfold misfit? fitsItem fitsOne
        rw [isOpen, shut, takes]

/-- A concept that is built from its declaration is regular. -/
theorem ConceptBlueprint.regular_of_build {domain code : String} {blueprint : ConceptBlueprint}
    {concept : Concept} (built : blueprint.build domain code = .ok concept) : concept.Regular := by
  obtain ⟨_, _, _, defined, agrees⟩ := exists_define built
  exact Concept.regular_of_define defined agrees

namespace Vocabulary

variable {vocabulary : Vocabulary}

/-- Every concept is regular, and no two have the same name. -/
structure Orderly (concepts : List Concept) : Prop where
  regular : ∀ concept ∈ concepts, concept.Regular
  distinct : (concepts.map Concept.fullName).Nodup

theorem orderly_native : Orderly (Native.all.map Concept.ofNative) where
  regular := by
    intro concept member
    obtain ⟨native, -, rfl⟩ := List.mem_map.1 member
    exact Concept.regular_ofNative native
  distinct := by decide +kernel

theorem Orderly.append {concepts : List Concept} {concept : Concept} (orderly : Orderly concepts)
    (regular : concept.Regular)
    (new : ∀ other ∈ concepts, other.fullName ≠ concept.fullName) :
    Orderly (concepts ++ [concept]) where
  regular := List.forall_mem_append.2 ⟨orderly.regular, List.forall_mem_singleton.2 regular⟩
  distinct := nodup_map_append.2 ⟨orderly.distinct, new⟩

theorem Loaded.orderly (loaded : vocabulary.Loaded) : Orderly vocabulary.concepts :=
  loaded.preserves Orderly orderly_native fun orderly built new =>
    orderly.append (ConceptBlueprint.regular_of_build built) new

theorem Loaded.covers (loaded : vocabulary.Loaded) {tested wanted : Concept}
    (known : tested ∈ vocabulary.concepts) (known' : wanted ∈ vocabulary.concepts)
    (solid : ¬ wanted.RefinesOpen)
    (flows : wanted.isOpen = true ∨ tested.isCompatible wanted = true) :
    wanted.Covers tested := by
  rcases flows with isOpen | compatible
  · exact .inl isOpen
  · have orderly := loaded.orderly
    exact Concept.covers_of_isCompatible (orderly.regular tested known)
      (orderly.regular wanted known') (List.inj_on_of_nodup_map orderly.distinct known known') solid
      compatible

/-- In a loaded vocabulary, content that can be made for a concept can also be made for any concept
to which the first may flow, and which does not refine an open one. So whatever the check of the
inputs lets through for such a concept is content that the concept takes. -/
theorem Loaded.content_flows (loaded : vocabulary.Loaded) {wanted : Concept}
    (known : wanted ∈ vocabulary.concepts) (solid : ¬ wanted.RefinesOpen) :
    (∀ tested ∈ vocabulary.concepts,
      wanted.native? = some .anything ∨ wanted.native? = some .dynamic ∨
        tested.isCompatible wanted = true →
      ∀ name content stuff, Stuff.make name tested content = .ok stuff →
        Stuff.make name wanted content = .ok ⟨name, wanted, content⟩) ∧
    ∀ pipe memory params, Library.checkInputs pipe memory params = .ok () →
      ∀ entry ∈ pipe.signature.inputs.entries, entry.2.concept = wanted →
      ∀ stuff, memory.get entry.1 = .ok stuff → stuff.concept ∈ vocabulary.concepts →
        stuff.Fits →
        Stuff.make entry.1 wanted stuff.content = .ok ⟨entry.1, wanted, stuff.content⟩ := by
  constructor
  · intro tested known' flows name content stuff made
    rw [← or_assoc, ← Concept.isOpen_iff] at flows
    have covers := loaded.covers known' known solid flows
    exact Stuff.make_eq_ok.2 ⟨Stuff.misfit?_of_covers covers (Stuff.make_eq_ok.1 made).1, rfl⟩
  · rintro pipe memory params passed entry declared rfl stuff found known' fits
    obtain ⟨there, found', flows⟩ :=
      Library.checkInput_eq_ok.1 (Library.checkInputs_eq_ok.1 passed entry declared)
    obtain rfl := Option.some.inj (found'.symm.trans (WorkingMemory.get_eq_ok.1 found))
    have covers := loaded.covers known' known solid (Bool.or_eq_true_iff.1 flows)
    exact Stuff.make_eq_ok.2 ⟨Stuff.misfit?_of_covers covers fits, rfl⟩

end Vocabulary

namespace Sample

/-- A legal contract, which is a text as nothing else is said. -/
def contract : Concept := ⟨"legal", "Contract", "A legal contract", ClassName.text, some .text⟩

/-- The vocabulary of lawyers. -/
def legal : Vocabulary :=
  (Vocabulary.initial.load "legal" (.ofList [("Contract", .brief "A legal contract")])).2

/-- Two contracts where a line is wanted. -/
def contracts : Stuff := ⟨"line", contract, .list [.text "Whereas", .text "Therefore"]⟩

/-- A contract is no less than a text, and contracts may be shouted like texts. -/
theorem contracts_flow :
    legal.Loaded ∧ text ∈ legal.concepts ∧ contract ∈ legal.concepts ∧ ¬ text.RefinesOpen ∧
      contract.isCompatible text = true ∧
      Stuff.make "draft" contract (.text "Whereas") = .ok ⟨"draft", contract, .text "Whereas"⟩ ∧
      Stuff.make "draft" text (.text "Whereas") = .ok ⟨"draft", text, .text "Whereas"⟩ ∧
      Library.checkInputs shout (.ofStuffs [contracts]) (live 3) = .ok () ∧
      Stuff.make "line" text contracts.content = .ok ⟨"line", text, contracts.content⟩ := by
  have loaded : legal.Loaded := .load .initial _ _
  have known : text ∈ legal.concepts := by decide +kernel
  have known' : contract ∈ legal.concepts := by decide +kernel
  have solid : ¬ text.RefinesOpen := nofun
  have compatible : contract.isCompatible text = true := by decide +kernel
  have made : Stuff.make "draft" contract (.text "Whereas") =
      .ok ⟨"draft", contract, .text "Whereas"⟩ := rfl
  have passed : Library.checkInputs shout (.ofStuffs [contracts]) (live 3) = .ok () := rfl
  obtain ⟨content, inputs⟩ := loaded.content_flows known solid
  exact ⟨loaded, known, known', solid, compatible, made,
    content contract known' (.inr (.inr compatible)) _ _ _ made, passed,
    inputs _ _ _ passed ("line", ⟨text, none⟩) (List.mem_singleton_self _) rfl contracts rfl known'
      rfl⟩

end Sample

end Conduit
