import Conduit.Proofs.Keyed
import Conduit.Proofs.Loading
import Conduit.Proofs.Sample
import Conduit.Proofs.Vocabulary.Names

/-!
# The order of declarations

A bundle lists concepts and pipes, and it makes no difference in which order. The classes of all
concepts are registered before the first concept is added, all concepts are added before the first
pipe is built, and a pipe that calls others does so by their codes. So whether a concept or a pipe
can be added depends on what was there before the bundle, and not on its neighbours: their keys make
different names.
-/

namespace Conduit

/-- In one domain different codes make different names. -/
theorem Concept.qualify_injective (domain : String) : Function.Injective (qualify domain) := by
  intro code code' same
  have chars := congrArg String.toList same
  rw [toList_qualify, toList_qualify, List.append_cancel_left_eq, List.cons.injEq] at chars
  exact String.toList_inj.1 chars.2

theorem ConceptBlueprint.fullName_of_build {domain code : String} {blueprint : ConceptBlueprint}
    {concept : Concept} (built : blueprint.build domain code = .ok concept) :
    concept.fullName = Concept.qualify domain code := by
  obtain ⟨_, _, _, defined, -⟩ := exists_define built
  obtain ⟨-, -, -, rfl⟩ := Concept.define_eq_ok.1 defined
  rfl

namespace Vocabulary

variable {vocabulary extended : Vocabulary} {domain : String} {concept : Concept}
variable {concepts : List Concept} {entry : String × ConceptBlueprint}

/-- The declaration makes a concept that can be added. -/
structure Admits (vocabulary : Vocabulary) (domain : String) (entry : String × ConceptBlueprint)
    (concept : Concept) : Prop where
  built : entry.2.build domain entry.1 = .ok concept
  new : ∀ other ∈ vocabulary.concepts, other.fullName ≠ concept.fullName
  known : concept.isOpen = true ∨ vocabulary.registry.contains concept.className = true

theorem Admits.fullName (admits : vocabulary.Admits domain entry concept) :
    concept.fullName = Concept.qualify domain entry.1 :=
  ConceptBlueprint.fullName_of_build admits.built

theorem Admits.of_eq {later : Vocabulary} (admits : vocabulary.Admits domain entry concept)
    (concepts : later.concepts = vocabulary.concepts)
    (classes : ∀ className, later.registry.contains className =
      vocabulary.registry.contains className) : later.Admits domain entry concept :=
  ⟨admits.built, concepts ▸ admits.new, classes _ ▸ admits.known⟩

/-- A concept that has been declared under another code is not in the way. -/
theorem admits_append {added : Concept} {first : String × ConceptBlueprint}
    (admits : vocabulary.Admits domain first added) (apart : entry.1 ≠ first.1) :
    Admits { vocabulary with concepts := vocabulary.concepts ++ [added] } domain entry concept ↔
      vocabulary.Admits domain entry concept := by
  constructor
  · rintro ⟨built, new, known⟩
    exact ⟨built, (List.forall_mem_append.1 new).1, known⟩
  · intro admits'
    refine ⟨admits'.built, List.forall_mem_append.2 ⟨admits'.new, ?_⟩, admits'.known⟩
    rw [List.forall_mem_singleton, admits.fullName, admits'.fullName]
    exact fun same => apart (Concept.qualify_injective domain same).symm

theorem forall₂_admits_append {added : Concept} {first : String × ConceptBlueprint}
    {rest : List (String × ConceptBlueprint)} (admits : vocabulary.Admits domain first added)
    (fresh : first.1 ∉ rest.map Prod.fst) :
    List.Forall₂ (Admits { vocabulary with concepts := vocabulary.concepts ++ [added] } domain)
      rest concepts ↔ List.Forall₂ (vocabulary.Admits domain) rest concepts :=
  forall₂_congr_of_mem fun entry member _ => admits_append admits fun same =>
    fresh (List.mem_map.2 ⟨entry, member, same⟩)

theorem addAll_cons_eq_ok {rest : List (String × ConceptBlueprint)} :
    vocabulary.addAll domain (entry :: rest) = (.ok concepts, extended) ↔
      ∃ concept more, vocabulary.Admits domain entry concept ∧
        addAll { vocabulary with concepts := vocabulary.concepts ++ [concept] } domain rest =
          (.ok more, extended) ∧ concepts = concept :: more := by
  rw [addAll]
  constructor
  · intro loaded
    split at loaded
    · cases loaded
    · next concept built =>
      split at loaded
      · cases loaded
      · next grown added =>
        obtain ⟨new, known, rfl⟩ := add_eq_ok.1 added
        rcases outcome : addAll { vocabulary with concepts := vocabulary.concepts ++ [concept] }
          domain rest with ⟨error | more, final⟩
        · rw [outcome] at loaded
          cases loaded
        · rw [outcome] at loaded
          cases loaded
          exact ⟨concept, more, ⟨built, new, known⟩, outcome, rfl⟩
  · rintro ⟨concept, more, ⟨built, new, known⟩, outcome, rfl⟩
    simp only [built, add_eq_ok.2 ⟨new, known, rfl⟩, outcome]
    rfl

/-- Declared concepts are added exactly if each of them can be added on its own. -/
theorem addAll_eq_ok {blueprints : List (String × ConceptBlueprint)}
    (distinct : (blueprints.map Prod.fst).Nodup) :
    vocabulary.addAll domain blueprints = (.ok concepts, extended) ↔
      List.Forall₂ (vocabulary.Admits domain) blueprints concepts ∧
        extended = { vocabulary with concepts := vocabulary.concepts ++ concepts } := by
  induction blueprints generalizing vocabulary concepts with
  | nil =>
      rw [addAll, List.forall₂_nil_left_iff]
      constructor
      · rintro ⟨⟩
        exact ⟨rfl, by rw [List.append_nil]⟩
      · rintro ⟨rfl, rfl⟩
        rw [List.append_nil]
  | cons first blueprints ih =>
      rw [List.map_cons, List.nodup_cons] at distinct
      rw [addAll_cons_eq_ok, List.forall₂_cons_left_iff]
      constructor
      · rintro ⟨concept, more, admits, added, rfl⟩
        obtain ⟨each, rfl⟩ := (ih distinct.2).1 added
        have others := (forall₂_admits_append admits distinct.1).1 each
        exact ⟨⟨concept, more, admits, others, rfl⟩, by simp⟩
      · rintro ⟨⟨concept, more, admits, others, rfl⟩, rfl⟩
        have each := (forall₂_admits_append admits distinct.1).2 others
        exact ⟨concept, more, admits, (ih distinct.2).2 ⟨each, by simp⟩, rfl⟩

/-- Two vocabularies hold the same concepts under the same names, and the same classes. -/
structure SameContents (vocabulary other : Vocabulary) : Prop where
  concepts : vocabulary.concepts.Perm other.concepts
  find? : ∀ fullName, other.find? fullName = vocabulary.find? fullName
  classes : vocabulary.registry.classes.entries.Perm other.registry.classes.entries

section Load

variable {blueprints blueprints' : OrderedMap ConceptBlueprint}

/-- Every class has the fields under its own code, in whatever order the codes come. -/
theorem fields?_registerInline_perm (vocabulary : Vocabulary)
    (perm : blueprints.entries.Perm blueprints'.entries) (className : String) :
    (vocabulary.registerInline blueprints'.entries).registry.fields? className =
      (vocabulary.registerInline blueprints.entries).registry.fields? className := by
  have same : blueprints'.entries.lookup className = blueprints.entries.lookup className :=
    OrderedMap.perm_iff.1 perm className
  rw [fields?_registerInline vocabulary blueprints.distinct,
    fields?_registerInline vocabulary blueprints'.distinct, same]

theorem load_perm (perm : blueprints.entries.Perm blueprints'.entries)
    (loaded : vocabulary.load domain blueprints = (.ok concepts, extended)) :
    ∃ concepts' extended', vocabulary.load domain blueprints' = (.ok concepts', extended') ∧
      extended.SameContents extended' := by
  have fields := fields?_registerInline_perm vocabulary perm
  have same : (vocabulary.registerInline blueprints'.entries).concepts =
      (vocabulary.registerInline blueprints.entries).concepts := by
    rw [registerInline_concepts, registerInline_concepts]
  obtain ⟨each, rfl⟩ := (addAll_eq_ok blueprints.distinct).1 loaded
  obtain ⟨concepts', each', perm'⟩ := List.perm_comp_forall₂ perm.symm each
  have admitted := each'.imp fun entry concept (admits : Admits _ domain entry concept) =>
    admits.of_eq same fun className => congrArg Option.isSome (fields className)
  have distinct : (concepts.map Concept.fullName).Nodup := by
    have named := blueprints.distinct.map (Concept.qualify_injective domain)
    rw [List.map_map] at named
    exact nodup_map_of_forall₂ named each fun entry concept admits => admits.fullName
  refine ⟨concepts', _, (addAll_eq_ok blueprints'.distinct).2 ⟨admitted, rfl⟩, ?_, ?_, ?_⟩
  · dsimp only
    rw [same]
    exact perm'.symm.append_left _
  · intro fullName
    dsimp only [find?]
    rw [same]
    exact find?_append_key_perm distinct perm'.symm
  · exact OrderedMap.perm_iff.2 fields

end Load

/-- References inside a domain are looked up by the full name. -/
theorem require_congr {other : Vocabulary}
    (same : ∀ fullName, other.find? fullName = vocabulary.find? fullName) :
    other.require = vocabulary.require := by
  funext domain reference
  have lookup : other.lookup = vocabulary.lookup := by
    funext domain code
    rw [Vocabulary.lookup, Vocabulary.lookup, same]
  rw [require, require, resolveIn, resolveIn, lookup]

end Vocabulary

theorem PipeBlueprint.code_of_build {vocabulary : Vocabulary} {domain code : String}
    {blueprint : PipeBlueprint} {pipe : Pipe}
    (built : blueprint.build vocabulary domain code = .ok pipe) : pipe.code = code := by
  obtain ⟨inputs, output, multiplicity, body, -, -, -, rfl⟩ := exists_parts built
  rfl

/-- Of a vocabulary, the pipes that are built see only what their references lead to. -/
theorem PipeBlueprint.build_congr {vocabulary other : Vocabulary}
    (same : ∀ fullName, other.find? fullName = vocabulary.find? fullName) :
    PipeBlueprint.build other = PipeBlueprint.build vocabulary := by
  funext domain code blueprint
  simp only [PipeBlueprint.build, InputBlueprint.buildAll, BodyBlueprint.build,
    Vocabulary.require_congr same]

/-- Two bundles declare the same, in whatever order. -/
structure Bundle.Reorders (bundle other : Bundle) : Prop where
  domain : other.domain = bundle.domain
  concepts : bundle.concepts.entries.Perm other.concepts.entries
  pipes : bundle.pipes.entries.Perm other.pipes.entries

theorem Bundle.Reorders.symm {bundle other : Bundle} (reorders : bundle.Reorders other) :
    other.Reorders bundle :=
  ⟨reorders.domain.symm, reorders.concepts.symm, reorders.pipes.symm⟩

namespace Library

variable {library extended : Library} {domain : String} {pipe : Pipe}
variable {entry : String × PipeBlueprint}

/-- The declaration makes a pipe that can be added. -/
structure Admits (library : Library) (domain : String) (entry : String × PipeBlueprint)
    (pipe : Pipe) : Prop where
  built : entry.2.build library.vocabulary domain entry.1 = .ok pipe
  new : ∀ other ∈ library.pipes, other.code ≠ pipe.code

theorem Admits.code (admits : library.Admits domain entry pipe) : pipe.code = entry.1 :=
  PipeBlueprint.code_of_build admits.built

theorem Admits.of_find? {other : Vocabulary} (admits : library.Admits domain entry pipe)
    (same : ∀ fullName, other.find? fullName = library.vocabulary.find? fullName) :
    Admits { library with vocabulary := other } domain entry pipe :=
  ⟨PipeBlueprint.build_congr same ▸ admits.built, admits.new⟩

/-- A pipe that has been declared under another code is not in the way. -/
theorem admits_append {added : Pipe} {first : String × PipeBlueprint}
    (admits : library.Admits domain first added) (apart : entry.1 ≠ first.1) :
    Admits { library with pipes := library.pipes ++ [added] } domain entry pipe ↔
      library.Admits domain entry pipe := by
  constructor
  · rintro ⟨built, new⟩
    exact ⟨built, (List.forall_mem_append.1 new).1⟩
  · intro admits'
    refine ⟨admits'.built, List.forall_mem_append.2 ⟨admits'.new, ?_⟩⟩
    rw [List.forall_mem_singleton, admits.code, admits'.code]
    exact apart.symm

theorem forall₂_admits_append {added : Pipe} {first : String × PipeBlueprint} {pipes : List Pipe}
    {rest : List (String × PipeBlueprint)} (admits : library.Admits domain first added)
    (fresh : first.1 ∉ rest.map Prod.fst) :
    List.Forall₂ (Admits { library with pipes := library.pipes ++ [added] } domain) rest pipes ↔
      List.Forall₂ (library.Admits domain) rest pipes :=
  forall₂_congr_of_mem fun entry member _ => admits_append admits fun same =>
    fresh (List.mem_map.2 ⟨entry, member, same⟩)

theorem addPipes_cons_eq_ok {rest : List (String × PipeBlueprint)} :
    library.addPipes domain (entry :: rest) = .ok extended ↔
      ∃ pipe, library.Admits domain entry pipe ∧
        addPipes { library with pipes := library.pipes ++ [pipe] } domain rest = .ok extended := by
  rw [addPipes, except_bind_eq_ok]
  refine exists_congr fun pipe => ?_
  rw [except_bind_eq_ok]
  constructor
  · rintro ⟨built, larger, grown, added⟩
    obtain ⟨new, rfl⟩ := addPipe_eq_ok.1 grown
    exact ⟨⟨built, new⟩, added⟩
  · rintro ⟨⟨built, new⟩, added⟩
    exact ⟨built, _, addPipe_eq_ok.2 ⟨new, rfl⟩, added⟩

/-- Declared pipes are added exactly if each of them can be added on its own. -/
theorem addPipes_eq_ok {blueprints : List (String × PipeBlueprint)}
    (distinct : (blueprints.map Prod.fst).Nodup) :
    library.addPipes domain blueprints = .ok extended ↔
      ∃ pipes, List.Forall₂ (library.Admits domain) blueprints pipes ∧
        extended = { library with pipes := library.pipes ++ pipes } := by
  induction blueprints generalizing library with
  | nil =>
      simp [addPipes, eq_comm]
  | cons first blueprints ih =>
      rw [List.map_cons, List.nodup_cons] at distinct
      rw [addPipes_cons_eq_ok]
      constructor
      · rintro ⟨pipe, admits, added⟩
        obtain ⟨more, each, rfl⟩ := (ih distinct.2).1 added
        have others := (forall₂_admits_append admits distinct.1).1 each
        exact ⟨pipe :: more, .cons admits others, by simp⟩
      · rintro ⟨pipes, all, rfl⟩
        obtain ⟨pipe, more, admits, others, rfl⟩ := List.forall₂_cons_left_iff.1 all
        have each := (forall₂_admits_append admits distinct.1).2 others
        exact ⟨pipe, admits, (ih distinct.2).2 ⟨more, each, by simp⟩⟩

/-- Two libraries hold the same concepts, classes and pipes under the same names, and call on the
same collaborators. -/
structure SameContents (library other : Library) : Prop where
  vocabulary : library.vocabulary.SameContents other.vocabulary
  pipes : library.pipes.Perm other.pipes
  find? : ∀ code, other.find? code = library.find? code
  collaborators : other.collaborators = library.collaborators

theorem load_perm {bundle bundle' : Bundle} (reorders : bundle.Reorders bundle')
    (accepted : library.load bundle = .ok extended) :
    ∃ extended', library.load bundle' = .ok extended' ∧ extended.SameContents extended' := by
  rw [load] at accepted
  split at accepted
  · cases accepted
  · next concepts vocabulary loaded =>
    obtain ⟨concepts', vocabulary', loaded', same⟩ := Vocabulary.load_perm reorders.concepts loaded
    obtain ⟨pipes, each, rfl⟩ := (addPipes_eq_ok bundle.pipes.distinct).1 accepted
    obtain ⟨pipes', each', perm⟩ := List.perm_comp_forall₂ reorders.pipes.symm each
    have admitted := each'.imp fun entry pipe (admits : Admits _ bundle.domain entry pipe) =>
      admits.of_find? same.find?
    have distinct : (pipes.map Pipe.code).Nodup :=
      nodup_map_of_forall₂ bundle.pipes.distinct each fun entry pipe admits => admits.code
    refine ⟨{ library with vocabulary := vocabulary', pipes := library.pipes ++ pipes' }, ?_,
      same, perm.symm.append_left _, fun code => find?_append_key_perm distinct perm.symm, rfl⟩
    rw [load, reorders.domain, loaded']
    exact (addPipes_eq_ok bundle'.pipes.distinct).2 ⟨pipes', admitted, rfl⟩

/-- A bundle may declare its concepts and its pipes in any order. Whatever the library is, either
all orders can be loaded or none can, and they leave the same concepts, classes and pipes. -/
theorem load_reordered (library : Library) {bundle bundle' : Bundle}
    (reorders : bundle.Reorders bundle') :
    ((∃ loaded, library.load bundle = .ok loaded) ↔
      ∃ loaded, library.load bundle' = .ok loaded) ∧
    ∀ loaded loaded', library.load bundle = .ok loaded → library.load bundle' = .ok loaded' →
      loaded.SameContents loaded' := by
  refine ⟨⟨?_, ?_⟩, ?_⟩
  · rintro ⟨loaded, accepted⟩
    obtain ⟨loaded', accepted', -⟩ := load_perm reorders accepted
    exact ⟨loaded', accepted'⟩
  · rintro ⟨loaded, accepted⟩
    obtain ⟨loaded', accepted', -⟩ := load_perm reorders.symm accepted
    exact ⟨loaded', accepted'⟩
  · intro loaded loaded' accepted accepted'
    obtain ⟨other, also, same⟩ := load_perm reorders accepted
    obtain rfl : other = loaded' := Except.ok.inj (also.symm.trans accepted')
    exact same

end Library

namespace Sample

/-- A memo is built like a letter. -/
def memo : String × ConceptBlueprint :=
  ("Memo", .full "A memo" (some (.named "Letter")) none)

/-- A letter has a body. -/
def letter : String × ConceptBlueprint :=
  ("Letter", .full "A letter" (some (.inline (.ofList [("body", .text)]))) none)

/-- Have a memo made of a letter that another pipe writes. -/
def dictate : String × PipeBlueprint :=
  ("dictate", ⟨"Dictate a memo", ∅, "Memo", none, none,
    .sequence [⟨"write_letter", some "letter", none, none, none, none⟩]⟩)

/-- Have a letter written by a model. -/
def writeLetter : String × PipeBlueprint :=
  ("write_letter", ⟨"Write a letter", ∅, "Letter", none, none, .prompt "Write a letter" none⟩)

/-- What is used is declared behind what uses it. -/
def mail : Bundle := ⟨"mail", none, .ofList [memo, letter], .ofList [dictate, writeLetter]⟩

/-- What is used is declared first. -/
def sortedMail : Bundle := ⟨"mail", none, .ofList [letter, memo], .ofList [writeLetter, dictate]⟩

/-- Both can be loaded, and apart from the order the same has been loaded. -/
theorem mail_reordered :
    let library := Library.initial collaborators
    mail.Reorders sortedMail ∧ ∃ loaded loaded',
      library.load mail = .ok loaded ∧
      loaded.pipes.map Pipe.code = ["dictate", "write_letter"] ∧
      library.load sortedMail = .ok loaded' ∧
      loaded'.pipes.map Pipe.code = ["write_letter", "dictate"] ∧
      loaded.SameContents loaded' := by
  intro library
  have reorders : mail.Reorders sortedMail := ⟨rfl, .swap _ _ _, .swap _ _ _⟩
  obtain ⟨loaded, accepted, pipes⟩ : ∃ loaded, library.load mail = .ok loaded ∧
      loaded.pipes.map Pipe.code = ["dictate", "write_letter"] := ⟨_, rfl, rfl⟩
  obtain ⟨loaded', accepted', pipes'⟩ : ∃ loaded, library.load sortedMail = .ok loaded ∧
      loaded.pipes.map Pipe.code = ["write_letter", "dictate"] := ⟨_, rfl, rfl⟩
  obtain ⟨-, same⟩ := Library.load_reordered library reorders
  exact ⟨reorders, loaded, loaded', accepted, pipes, accepted', pipes',
    same loaded loaded' accepted accepted'⟩

end Sample

end Conduit
