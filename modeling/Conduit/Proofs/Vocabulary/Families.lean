import Conduit.Proofs.Run.Interpreter
import Conduit.Proofs.Vocabulary.Compatibility
import Conduit.Proofs.Vocabulary.Resolution

/-!
# Families of concepts

Compatibility is put together from tests of two concepts: whether their names are the same, whether
one of them refines the other, whether they refine the same, and whether everything is wanted. In a
vocabulary the tests fall into one. A native concept and its refinements are a family, every other
concept is a family of its own, and data flows inside families, and to Anything.

This rests on what adding a concept watches over. A name is used once, and the native domain has no
concepts but the native ones, so that what is native refines nothing.
-/

namespace Conduit

namespace Concept

variable {concept tested wanted : Concept} {native : Native}

/-- What data of a concept may be taken for: for any member of the family of a native concept, or
for this concept alone. -/
inductive Family where
  | headed (native : Native)
  | alone (concept : Concept)
  deriving DecidableEq, Repr

/-- The native concept that a concept is, or else the one that it refines. -/
def head? (concept : Concept) : Option Native :=
  concept.native?.or concept.refines

/-- The family of a concept. -/
def family (concept : Concept) : Family :=
  match concept.head? with
  | some native => .headed native
  | none => .alone concept

theorem family_eq_family : tested.family = wanted.family ↔
    tested = wanted ∨ ∃ native, tested.head? = some native ∧ wanted.head? = some native := by
  constructor
  · intro same
    rw [family, family] at same
    split at same
    · next native head =>
      split at same <;> cases same
      next head' => exact .inr ⟨native, head, head'⟩
    · split at same <;> cases same
      exact .inl rfl
  · rintro (rfl | ⟨native, head, head'⟩)
    · rfl
    · rw [family, family, head, head']

namespace Made

/-- No concept is both native and a refinement. -/
theorem eq_ofNative_or (made : concept.Made) :
    (∃ native, concept = ofNative native) ∨ concept.native? = none := by
  cases made with
  | native native => exact .inl ⟨native, rfl⟩
  | defined defined =>
      obtain ⟨-, -, own, rfl⟩ := define_eq_ok.1 defined
      exact .inr (if_neg own)

theorem native?_eq_some (made : concept.Made) :
    concept.native? = some native ↔ concept = ofNative native := by
  constructor
  · intro is
    obtain ⟨other, rfl⟩ | foreign := made.eq_ofNative_or
    · rw [native?_ofNative] at is
      rw [Option.some.inj is]
    · cases foreign.symm.trans is
  · rintro rfl
    exact native?_ofNative native

theorem head?_eq_some (made : concept.Made) :
    concept.head? = some native ↔ concept = ofNative native ∨ concept.refines = some native := by
  rw [head?, ← made.native?_eq_some]
  obtain ⟨other, rfl⟩ | foreign := made.eq_ofNative_or
  · rw [native?_ofNative]
    simp [ofNative]
  · rw [foreign]
    simp

end Made

theorem isSome_and_beq {a b : Option Native} :
    (a.isSome && a == b) = true ↔ ∃ native, a = some native ∧ b = some native := by
  cases a <;> simp [eq_comm (a := b)]

theorem refinesConcept_iff (made : wanted.Made) : tested.refinesConcept wanted = true ↔
    ∃ native, tested.refines = some native ∧ wanted = ofNative native := by
  simp only [refinesConcept, isSome_and_beq, made.native?_eq_some]

section Families

variable (made : tested.Made) (made' : wanted.Made)
variable (named : tested.fullName = wanted.fullName → tested = wanted)

include made made' named

theorem isStrictlyCompatible_iff : tested.isStrictlyCompatible wanted = true ↔
    tested = wanted ∨ (∃ native, tested.refines = some native ∧ wanted = ofNative native) ∨
      ∃ native, wanted.refines = some native ∧ tested = ofNative native := by
  have sameName : tested.sameName wanted = true ↔ tested = wanted := by
    rw [Concept.sameName, Bool.and_eq_true, beq_iff_eq, beq_iff_eq]
    constructor
    · rintro ⟨domain, code⟩
      exact named (by rw [fullName, fullName, domain, code])
    · rintro rfl
      exact ⟨rfl, rfl⟩
  rw [isStrictlyCompatible, Bool.or_eq_true, Bool.or_eq_true, sameName, refinesConcept_iff made',
    refinesConcept_iff made, or_assoc]

theorem isCompatible_iff : tested.isCompatible wanted = true ↔
    tested.family = wanted.family ∨ wanted = ofNative .anything := by
  rw [isCompatible, Bool.or_eq_true, Bool.or_eq_true, isSome_and_beq, beq_iff_eq,
    made'.native?_eq_some, isStrictlyCompatible_iff made made' named, family_eq_family]
  simp only [made.head?_eq_some, made'.head?_eq_some]
  grind

end Families

theorem isStrictlyCompatible_comm :
    tested.isStrictlyCompatible wanted = wanted.isStrictlyCompatible tested := by
  have sameName : tested.sameName wanted = wanted.sameName tested := by
    rw [Concept.sameName, Concept.sameName, Bool.beq_comm, Bool.beq_comm (a := tested.code)]
  rw [isStrictlyCompatible, isStrictlyCompatible, sameName, Bool.or_right_comm]

theorem isCompatible_of_isStrictlyCompatible
    (compatible : tested.isStrictlyCompatible wanted = true) :
    tested.isCompatible wanted = true := by
  rw [isCompatible, compatible, Bool.true_or, Bool.true_or]

end Concept

namespace Vocabulary

variable {vocabulary : Vocabulary} {concept : Concept}

theorem made_of_mem_after (changes : List Change) :
    ∀ concept ∈ (after changes).concepts, concept.Made := by
  refine after_preserves (fun vocabulary => ∀ concept ∈ vocabulary.concepts, concept.Made)
    (fun made new _ _ => ?_) (fun made _ _ => made) ?_ changes
  · exact List.forall_mem_append.2 ⟨made, List.forall_mem_singleton.2 new⟩
  · intro concept member
    obtain ⟨native, -, rfl⟩ := List.mem_map.1 member
    exact .native native

/-- After changes in any order, whether they have succeeded or not, data of a concept may flow where
another one is wanted exactly if both concepts are of one family, or if Anything is wanted. So data
flows from a concept to itself, it may flow back unless it has come to Anything, and it may flow on
from everywhere but Anything.

Data that flows strictly may flow back strictly, and it flows. -/
theorem after_families (changes : List Change) :
    let vocabulary := after changes
    (∀ tested ∈ vocabulary.concepts, ∀ wanted ∈ vocabulary.concepts,
      tested.isCompatible wanted = true ↔
        tested.family = wanted.family ∨ wanted = .ofNative .anything) ∧
    (∀ concept ∈ vocabulary.concepts, concept.isCompatible concept = true) ∧
    (∀ tested ∈ vocabulary.concepts, ∀ wanted ∈ vocabulary.concepts,
      wanted ≠ .ofNative .anything → tested.isCompatible wanted = true →
      wanted.isCompatible tested = true) ∧
    (∀ tested ∈ vocabulary.concepts, ∀ between ∈ vocabulary.concepts,
      ∀ wanted ∈ vocabulary.concepts, between ≠ .ofNative .anything →
      tested.isCompatible between = true → between.isCompatible wanted = true →
      tested.isCompatible wanted = true) ∧
    ∀ tested ∈ vocabulary.concepts, ∀ wanted ∈ vocabulary.concepts,
      (tested.isStrictlyCompatible wanted = true → wanted.isStrictlyCompatible tested = true) ∧
      (tested.isStrictlyCompatible wanted = true → tested.isCompatible wanted = true) := by
  intro vocabulary
  have sound : vocabulary.Sound := .after changes
  have made := made_of_mem_after changes
  have flows : ∀ tested ∈ vocabulary.concepts, ∀ wanted ∈ vocabulary.concepts,
      (tested.isCompatible wanted = true ↔
        tested.family = wanted.family ∨ wanted = .ofNative .anything) :=
    fun tested member wanted member' => Concept.isCompatible_iff (made tested member)
      (made wanted member') (sound.eq_of_fullName member member')
  refine ⟨flows, fun concept _ => concept.isCompatible_self, ?symm, ?trans, ?strict⟩
  case symm =>
    intro tested member wanted member' other compatible
    have family := ((flows tested member wanted member').1 compatible).resolve_right other
    exact (flows wanted member' tested member).2 (.inl family.symm)
  case trans =>
    intro tested member between member' wanted member'' other compatible compatible'
    have family := ((flows tested member between member').1 compatible).resolve_right other
    refine (flows tested member wanted member'').2 ?_
    rw [family]
    exact (flows between member' wanted member'').1 compatible'
  case strict =>
    intro tested _ wanted _
    exact ⟨fun compatible => Concept.isStrictlyCompatible_comm.trans compatible,
      Concept.isCompatible_of_isStrictlyCompatible⟩

end Vocabulary

namespace Sample

/-- An article is a text too. -/
def article : Concept := ⟨"press", "Article", "An article", ClassName.text, some .text⟩

/-- Load the concepts of lawyers, and define an article. -/
def publishing : List Vocabulary.Change :=
  [.load "legal" (.ofList [("Contract", .brief "A legal contract")]),
    .define "press" "Article" "An article" ClassName.text (some .text)]

/-- Contracts are texts and texts may be taken for articles, so contracts may be taken for articles,
and articles for contracts, though not strictly. -/
theorem contracts_and_articles :
    let vocabulary := Vocabulary.after publishing
    (contract ∈ vocabulary.concepts ∧ text ∈ vocabulary.concepts ∧
      article ∈ vocabulary.concepts) ∧
    (text ≠ .ofNative .anything ∧ article ≠ .ofNative .anything) ∧
    contract.isCompatible text = true ∧ text.isCompatible article = true ∧
    contract.isCompatible article = true ∧ contract.family = article.family ∧
    article.isCompatible contract = true ∧ contract.isStrictlyCompatible article = false := by
  have known : contract ∈ (Vocabulary.after publishing).concepts := by decide +kernel
  have known' : text ∈ (Vocabulary.after publishing).concepts := by decide +kernel
  have known'' : article ∈ (Vocabulary.after publishing).concepts := by decide +kernel
  have notAnything : text ≠ .ofNative .anything := by decide +kernel
  have notAnything' : article ≠ .ofNative .anything := by decide +kernel
  obtain ⟨flows, -, symm, trans, strict⟩ := Vocabulary.after_families publishing
  have down := (strict contract known text known').2 (by decide +kernel)
  have up := (strict text known' article known'').2 (by decide +kernel)
  have across := trans contract known text known' article known'' notAnything down up
  exact ⟨⟨known, known', known''⟩, ⟨notAnything, notAnything'⟩, down, up, across,
    ((flows contract known article known'').1 across).resolve_right notAnything',
    symm contract known article known'' notAnything' across, by decide +kernel⟩

end Sample

end Conduit
