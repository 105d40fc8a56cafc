import Conduit.Proofs.Keyed
import Conduit.Proofs.Vocabulary.Growth
import Conduit.Proofs.Vocabulary.Names

/-!
# What references lead to

Concepts are defined and added, classes are registered, and whole domains are loaded, in any order,
and any of it may fail, a load also half way. Through all of that the native concepts stay, names
stay apart, and every concept that is not open has a class that is registered.

As names are apart and well-formed, a reference leads to a concept for one of three reasons, and to
no other concept. It is the full name of the concept. Or it is the code of a native concept. Or it
is another code, and no other concept has it.
-/

namespace Conduit

theorem Native.ofCode?_code (native : Native) : ofCode? native.code = some native := by
  cases native <;> decide +kernel

theorem Native.code_of_ofCode? {code : String} {native : Native}
    (known : ofCode? code = some native) : native.code = code := by
  simpa using List.find?_some known

theorem Reference.ofText_bare {text code : String} (isCode : isConceptCode code = true)
    (bare : Text.trimmed text = code) : ofText text = .ok ⟨none, code⟩ :=
  ofText_eq_ok.2 ⟨⟨nofun, isCode⟩, bare⟩

/-- Is this a code, but not that of a native concept? -/
def IsOwnCode (code : String) : Prop :=
  isConceptCode code = true ∧ Native.ofCode? code = none

namespace Concept

variable {concept : Concept}

/-- A native concept, or one that has been defined. -/
inductive Made : Concept → Prop
  | native (native : Native) : Made (ofNative native)
  | defined {domain code definition className : String} {refines : Option Native}
      {concept : Concept}
      (defined : define domain code definition className refines = .ok concept) : Made concept

/-- Domain and code are what such names have to be. -/
structure Proper (concept : Concept) : Prop where
  domain : isDomain concept.domain = true
  code : isConceptCode concept.code = true

theorem proper_ofNative (native : Native) : (ofNative native).Proper where
  domain := by cases native <;> decide +kernel
  code := by cases native <;> decide +kernel

section Define

variable {domain code definition className : String} {refines : Option Native}

theorem proper_of_define (defined : define domain code definition className refines = .ok concept) :
    concept.Proper := by
  obtain ⟨inDomain, isCode, -, rfl⟩ := define_eq_ok.1 defined
  exact ⟨inDomain, isCode⟩

/-- Only native concepts are open. -/
theorem isOpen_of_define (defined : define domain code definition className refines = .ok concept) :
    concept.isOpen = false := by
  obtain ⟨-, -, own, rfl⟩ := define_eq_ok.1 defined
  rw [isOpen, native?, if_neg own]
  rfl

end Define

namespace Proper

/-- The full name of a concept can be read as a reference. -/
theorem wellFormed (proper : concept.Proper) :
    Reference.WellFormed ⟨some concept.domain, concept.code⟩ :=
  ⟨by rintro _ ⟨⟩; exact proper.domain, proper.code⟩

theorem fullName_eq (proper : concept.Proper) {domain code : String}
    (isCode : isConceptCode code = true) :
    concept.fullName = qualify domain code ↔ concept.domain = domain ∧ concept.code = code := by
  constructor
  · exact qualify_inj (not_mem_of_isConceptCode proper.code) (not_mem_of_isConceptCode isCode)
  · rintro ⟨rfl, rfl⟩
    rfl

end Proper

end Concept

namespace Vocabulary

variable {vocabulary : Vocabulary} {concept : Concept}

/-- What may be done to a vocabulary. -/
inductive Change where
  /-- Define a concept and add it. -/
  | define (domain code definition className : String) (refines : Option Native)
  /-- Add a native concept, as if it were not there. -/
  | addNative (native : Native)
  | register (className : String) (fields : ClassFields)
  | load (domain : String) (blueprints : OrderedMap ConceptBlueprint)

/-- The vocabulary after a change. What cannot be defined or added changes nothing. -/
def change (vocabulary : Vocabulary) : Change → Vocabulary
  | .define domain code definition className refines =>
    match Concept.define domain code definition className refines >>= vocabulary.add with
    | .ok vocabulary => vocabulary
    | .error _ => vocabulary
  | .addNative native =>
    match vocabulary.add (.ofNative native) with
    | .ok vocabulary => vocabulary
    | .error _ => vocabulary
  | .register className fields => vocabulary.register className fields
  | .load domain blueprints => (vocabulary.load domain blueprints).2

/-- The vocabulary after changes in any order. -/
def after (changes : List Change) : Vocabulary :=
  changes.foldl change initial

section Preserves

variable (property : Vocabulary → Prop)
variable (add : ∀ {vocabulary : Vocabulary} {concept : Concept}, property vocabulary →
  concept.Made → (∀ other ∈ vocabulary.concepts, other.fullName ≠ concept.fullName) →
  (concept.isOpen = true ∨ vocabulary.registry.contains concept.className = true) →
  property { vocabulary with concepts := vocabulary.concepts ++ [concept] })
variable (register : ∀ {vocabulary : Vocabulary}, property vocabulary → ∀ className fields,
  property (vocabulary.register className fields))

include add register

/-- A change registers classes, and then it adds concepts of new names whose classes are known, if
they need be. -/
theorem change_preserves (holds : property vocabulary) (next : Change) :
    property (vocabulary.change next) := by
  cases next with
  | define domain code definition className refines =>
      rw [change]
      split
      · next extended grown =>
        obtain ⟨concept, defined, added⟩ := except_bind_eq_ok.1 grown
        obtain ⟨new, known, rfl⟩ := add_eq_ok.1 added
        exact add holds (.defined defined) new known
      · exact holds
  | addNative native =>
      rw [change]
      split
      · next extended added =>
        obtain ⟨new, known, rfl⟩ := add_eq_ok.1 added
        exact add holds (.native native) new known
      · exact holds
  | register className fields => exact register holds className fields
  | load domain blueprints =>
      have registered : property (vocabulary.registerInline blueprints.entries) := by
        refine List.foldlRecOn blueprints.entries _ holds fun _ holds entry _ => ?_
        split
        · exact register holds _ _
        · exact holds
      refine addAll_preserves property (fun holds built new known => ?_) registered
      obtain ⟨_, _, _, defined, -⟩ := ConceptBlueprint.exists_define built
      exact add holds (.defined defined) new known

/-- What the vocabulary of the native concepts has, and what both preserve, every vocabulary has
that comes about by changes. -/
theorem after_preserves (initial : property initial) (changes : List Change) :
    property (after changes) :=
  List.foldlRecOn changes change initial fun _ holds next _ =>
    change_preserves property add register holds next

end Preserves

/-- What all changes preserve. -/
structure Sound (vocabulary : Vocabulary) : Prop where
  natives : Native.all.map Concept.ofNative <+: vocabulary.concepts
  proper : ∀ concept ∈ vocabulary.concepts, concept.Proper
  distinct : (vocabulary.concepts.map Concept.fullName).Nodup
  classes : ∀ concept ∈ vocabulary.concepts, concept ≠ .ofNative .anything →
    concept ≠ .ofNative .dynamic → vocabulary.registry.contains concept.className = true

namespace Sound

theorem initial : Sound initial where
  natives := List.prefix_rfl
  proper := by
    intro concept member
    obtain ⟨native, -, rfl⟩ := List.mem_map.1 member
    exact Concept.proper_ofNative native
  distinct := by decide +kernel
  classes := by decide +kernel

theorem mem_ofNative (sound : vocabulary.Sound) (native : Native) :
    .ofNative native ∈ vocabulary.concepts :=
  sound.natives.subset (List.mem_map_of_mem (by cases native <;> decide))

/-- A concept of a new name and a known class may be added. -/
theorem append (sound : vocabulary.Sound) {domain code definition className : String}
    {refines : Option Native}
    (defined : Concept.define domain code definition className refines = .ok concept)
    (new : ∀ other ∈ vocabulary.concepts, other.fullName ≠ concept.fullName)
    (known : concept.isOpen = true ∨ vocabulary.registry.contains concept.className = true) :
    Sound { vocabulary with concepts := vocabulary.concepts ++ [concept] } where
  natives := sound.natives.trans (List.prefix_append _ _)
  proper := List.forall_mem_append.2
    ⟨sound.proper, List.forall_mem_singleton.2 (Concept.proper_of_define defined)⟩
  distinct := nodup_map_append.2 ⟨sound.distinct, new⟩
  classes := by
    have shut := Concept.isOpen_of_define defined
    refine List.forall_mem_append.2 ⟨sound.classes, List.forall_mem_singleton.2 fun _ _ => ?_⟩
    exact known.resolve_left (by rw [shut]; exact Bool.false_ne_true)

/-- More classes may be known, and they may have other fields. -/
theorem register (sound : vocabulary.Sound) (className : String) (fields : ClassFields) :
    (vocabulary.register className fields).Sound where
  natives := sound.natives
  proper := sound.proper
  distinct := sound.distinct
  classes concept member other other' :=
    (OrderedMap.contains_insert _ _ _ _).2 (.inr (sound.classes concept member other other'))

/-- A native concept is there already, and so what is added has been defined. -/
theorem add (sound : vocabulary.Sound) (made : concept.Made)
    (new : ∀ other ∈ vocabulary.concepts, other.fullName ≠ concept.fullName)
    (known : concept.isOpen = true ∨ vocabulary.registry.contains concept.className = true) :
    Sound { vocabulary with concepts := vocabulary.concepts ++ [concept] } := by
  cases made with
  | native native => exact absurd rfl (new _ (sound.mem_ofNative native))
  | defined defined => exact sound.append defined new known

theorem change (sound : vocabulary.Sound) (next : Change) : (vocabulary.change next).Sound :=
  change_preserves Sound add register sound next

theorem after (changes : List Change) : (Vocabulary.after changes).Sound :=
  after_preserves Sound add register initial changes

section Lookup

variable (sound : vocabulary.Sound)

include sound

theorem eq_of_fullName {other : Concept} (member : concept ∈ vocabulary.concepts)
    (member' : other ∈ vocabulary.concepts) (same : concept.fullName = other.fullName) :
    concept = other :=
  List.inj_on_of_nodup_map sound.distinct member member' same

theorem lookup_eq_ok {domain code : String} : vocabulary.lookup domain code = .ok concept ↔
    concept ∈ vocabulary.concepts ∧ concept.fullName = Concept.qualify domain code := by
  rw [← find?_key_eq_some sound.distinct, lookup, ← find?]
  cases vocabulary.find? (Concept.qualify domain code) <;> simp

theorem lookup_native (native : Native) :
    vocabulary.lookup Native.domain native.code = .ok concept ↔ concept = .ofNative native := by
  rw [sound.lookup_eq_ok]
  constructor
  · rintro ⟨member, same⟩
    exact sound.eq_of_fullName member (sound.mem_ofNative native) same
  · rintro rfl
    exact ⟨sound.mem_ofNative native, rfl⟩

/-- The concepts of a code are this one alone. -/
theorem filter_code_eq {code : String} : vocabulary.concepts.filter (·.code == code) = [concept] ↔
    concept ∈ vocabulary.concepts ∧ concept.code = code ∧
      ∀ other ∈ vocabulary.concepts, other.code = code → other = concept := by
  have once : (vocabulary.concepts.filter (·.code == code)).Nodup :=
    (sound.distinct.of_map _).filter _
  rw [← List.perm_singleton, List.perm_ext_iff_of_nodup once (List.nodup_singleton _)]
  simp only [List.mem_filter, beq_iff_eq, List.mem_singleton]
  constructor
  · intro same
    obtain ⟨member, has⟩ := (same concept).2 rfl
    exact ⟨member, has, fun other among has => (same other).1 ⟨among, has⟩⟩
  · rintro ⟨member, has, sole⟩ other
    constructor
    · rintro ⟨among, has⟩
      exact sole other among has
    · rintro rfl
      exact ⟨member, has⟩

/-- The full name of a concept, the code of a native concept, and a code of one concept only lead
to that concept, and nothing else does. -/
theorem resolve_eq_ok {text : String} : vocabulary.resolve text = .ok concept ↔
    concept ∈ vocabulary.concepts ∧
      (Text.trimmed text = concept.fullName ∨
        (∃ native, Text.trimmed text = native.code ∧ concept = .ofNative native) ∨
        (IsOwnCode (Text.trimmed text) ∧ concept.code = Text.trimmed text ∧
          ∀ other ∈ vocabulary.concepts, other.code = Text.trimmed text → other = concept)) := by
  constructor
  · intro found
    obtain ⟨⟨domain, code⟩, read, found⟩ := except_bind_eq_ok.1 found
    obtain ⟨wellFormed, written⟩ := Reference.ofText_eq_ok.1 read
    cases domain with
    | some domain =>
        obtain ⟨member, same⟩ := sound.lookup_eq_ok.1 found
        exact ⟨member, .inl (written.trans same.symm)⟩
    | none =>
        obtain rfl : Text.trimmed text = code := written
        dsimp only at found
        split at found
        · next native known =>
          obtain rfl := (sound.lookup_native native).1 found
          exact ⟨sound.mem_ofNative native,
            .inr (.inl ⟨native, (Native.code_of_ofCode? known).symm, rfl⟩)⟩
        · next foreign =>
          split at found
          · next sole =>
            cases found
            obtain ⟨member, has, alone⟩ := sound.filter_code_eq.1 sole
            exact ⟨member, .inr (.inr ⟨⟨wellFormed.code, foreign⟩, has, alone⟩)⟩
          · cases found
  · rintro ⟨member, full | ⟨native, bare, rfl⟩ | ⟨⟨isCode, foreign⟩, has, alone⟩⟩
    · have wellFormed := (sound.proper concept member).wellFormed
      rw [resolve, Reference.ofText_eq_ok.2 ⟨wellFormed, full⟩]
      exact sound.lookup_eq_ok.2 ⟨member, rfl⟩
    · have isCode : isConceptCode native.code = true := (Concept.proper_ofNative native).code
      simp only [resolve, Reference.ofText_bare isCode bare, bind, Except.bind, Native.ofCode?_code]
      exact (sound.lookup_native native).2 rfl
    · have sole := sound.filter_code_eq.2 ⟨member, has, alone⟩
      simp only [resolve, Reference.ofText_bare isCode rfl, bind, Except.bind, foreign, sole]
      rfl

/-- Inside a domain, a code that is not native leads to the concept of that domain. -/
theorem resolveIn_eq_ok {domain text : String} (own : IsOwnCode (Text.trimmed text)) :
    vocabulary.resolveIn domain text = .ok concept ↔ concept ∈ vocabulary.concepts ∧
      concept.domain = domain ∧ concept.code = Text.trimmed text := by
  obtain ⟨isCode, foreign⟩ := own
  simp only [resolveIn, Reference.ofText_bare isCode rfl, bind, Except.bind, foreign]
  rw [sound.lookup_eq_ok]
  exact and_congr_right fun member => (sound.proper concept member).fullName_eq isCode

end Lookup

end Sound

/-- All other references lead to the same inside a domain and outside. -/
theorem resolveIn_eq_resolve {domain text : String} (other : ¬ IsOwnCode (Text.trimmed text)) :
    vocabulary.resolveIn domain text = vocabulary.resolve text := by
  rw [resolveIn, resolve]
  cases read : Reference.ofText text with
  | error fault => rfl
  | ok reference =>
      obtain ⟨wellFormed, written⟩ := Reference.ofText_eq_ok.1 read
      obtain ⟨_ | inDomain, code⟩ := reference
      · obtain rfl : Text.trimmed text = code := written
        obtain ⟨native, known⟩ := Option.ne_none_iff_exists'.1 fun foreign =>
          other ⟨wellFormed.code, foreign⟩
        simp only [bind, Except.bind, known]
      · rfl

/-- After changes in any order, whether they have succeeded or not, all native concepts are there as
they were, no two concepts have the same domain and the same code, and the class of every concept is
registered, unless it is one of the two that are open.

A reference then leads to a concept exactly if, apart from blanks around it, it is the full name of
that concept, or the concept is native and it is its code, or it is another code that no other
concept has. Inside a domain only the last is different: such a code leads to the concept of that
domain, whatever others have it. -/
theorem after_resolve (changes : List Change) :
    let vocabulary := after changes
    (∀ native, .ofNative native ∈ vocabulary.concepts) ∧
    (vocabulary.concepts.Pairwise fun concept other =>
      ¬ (concept.domain = other.domain ∧ concept.code = other.code)) ∧
    (∀ concept ∈ vocabulary.concepts, concept ≠ .ofNative .anything →
      concept ≠ .ofNative .dynamic → vocabulary.registry.contains concept.className = true) ∧
    ∀ text,
      (∀ concept, vocabulary.resolve text = .ok concept ↔
        concept ∈ vocabulary.concepts ∧
          (Text.trimmed text = concept.fullName ∨
            (∃ native, Text.trimmed text = native.code ∧ concept = .ofNative native) ∨
            (IsOwnCode (Text.trimmed text) ∧ concept.code = Text.trimmed text ∧
              ∀ other ∈ vocabulary.concepts, other.code = Text.trimmed text →
                other = concept))) ∧
      ∀ domain,
        (IsOwnCode (Text.trimmed text) → ∀ concept,
          vocabulary.resolveIn domain text = .ok concept ↔ concept ∈ vocabulary.concepts ∧
            concept.domain = domain ∧ concept.code = Text.trimmed text) ∧
        (¬ IsOwnCode (Text.trimmed text) →
          vocabulary.resolveIn domain text = vocabulary.resolve text) := by
  intro vocabulary
  have sound : vocabulary.Sound := .after changes
  refine ⟨sound.mem_ofNative, ?_, sound.classes, fun text => ⟨fun concept => sound.resolve_eq_ok,
    fun domain => ⟨fun own concept => sound.resolveIn_eq_ok own, resolveIn_eq_resolve⟩⟩⟩
  refine (List.pairwise_map.1 sound.distinct).imp fun apart same => apart ?_
  rw [Concept.fullName, Concept.fullName, same.1, same.2]

/-- Two domains have a concept of the same code, and so the code alone leads nowhere. -/
example :
    let vocabulary := after [.load "legal" (.ofList [("Report", .brief "A verdict")]),
      .load "press" (.ofList [("Report", .brief "An article")])]
    vocabulary.resolve "Report" = .error (.notFound "Report") ∧
      vocabulary.resolveIn "press" "Report" = vocabulary.resolve " press.Report " ∧
      vocabulary.resolve " press.Report " =
        .ok ⟨"press", "Report", "An article", ClassName.text, some .text⟩ :=
  ⟨rfl, rfl, rfl⟩

end Vocabulary

end Conduit
