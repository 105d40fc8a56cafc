import Conduit.Proofs.LoadingOrder
import Conduit.Proofs.Run.Jobs
import Conduit.Proofs.Run.Agreement

/-!
# Known concepts

In a library that has come about by loading bundles, and by nothing else, a pipe speaks of concepts
of the vocabulary only. Whatever such a pipe makes is of a concept that the pipe speaks of, or it
is taken out of a list, or it is an answer, and answers are texts. So a run that is given stuffs of
known concepts, whose content fits, has no other stuffs at hand wherever it comes to.

This is of use where it matters what a pipe deep inside a run finds in its memory. If such a pipe
sends certain jobs only, as long as its memory is like that, then so does every run.
-/

namespace Conduit

/-- What fits a concept as an item of a list fits it by itself. -/
theorem Stuff.misfit?_of_item {concept : Concept} {items : List Content} {item : Content}
    (fits : misfit? concept (.list items) = none) (member : item ∈ items) :
    misfit? concept item = none := by
  cases isOpen : concept.isOpen with
  | true => rw [misfit?, if_pos isOpen]
  | false =>
      obtain ⟨single, one⟩ := (misfit?_list isOpen).1 fits item member
      exact (misfit?_single isOpen single).2 one

namespace Vocabulary

variable {vocabulary : Vocabulary} {concept : Concept} {domain : String}

theorem mem_of_lookup {code : String} (found : vocabulary.lookup domain code = .ok concept) :
    concept ∈ vocabulary.concepts := by
  rw [lookup] at found
  split at found <;> cases found
  next known => exact List.mem_of_find?_eq_some known

theorem mem_of_require {reference : String}
    (required : vocabulary.require domain reference = .ok concept) :
    concept ∈ vocabulary.concepts := by
  obtain ⟨parsed, -, found⟩ := except_bind_eq_ok.1 (except_mapError_eq_ok.1 required)
  split at found
  · exact mem_of_lookup found
  · split at found <;> exact mem_of_lookup found

theorem Loaded.mem_ofNative (loaded : vocabulary.Loaded) (native : Native) :
    .ofNative native ∈ vocabulary.concepts := by
  refine loaded.preserves (fun concepts => .ofNative native ∈ concepts) ?_ fun known _ _ =>
    List.mem_append_left _ known
  exact List.mem_map_of_mem (by cases native <;> decide)

theorem Loaded.mem_textConcept (loaded : vocabulary.Loaded) :
    vocabulary.textConcept ∈ vocabulary.concepts := by
  rw [textConcept]
  cases found : vocabulary.lookup Native.domain Native.text.code with
  | ok concept => exact mem_of_lookup found
  | error error => exact loaded.mem_ofNative .text

end Vocabulary

theorem InputBlueprint.buildAll_known {vocabulary : Vocabulary} {domain : String}
    {blueprints : OrderedMap InputBlueprint} {inputs : Inputs}
    (built : buildAll vocabulary domain blueprints = .ok inputs) :
    ∀ entry ∈ inputs.entries, entry.2.concept ∈ vocabulary.concepts := by
  refine except_foldlM_preserves (fun inputs : Inputs => ∀ entry ∈ inputs.entries,
    entry.2.concept ∈ vocabulary.concepts) (List.forall_mem_nil _) ?_ built
  intro here declared later known stored entry member
  obtain ⟨concept, required, made⟩ := except_bind_eq_ok.1 stored
  cases made
  rcases OrderedMap.mem_assign member with rfl | old
  · exact Vocabulary.mem_of_require required
  · exact known entry old

/-- A pipe that is built speaks of concepts of the vocabulary. -/
theorem PipeBlueprint.build_speaksOf {vocabulary : Vocabulary} {domain code : String}
    {blueprint : PipeBlueprint} {pipe : Pipe} {concept : Concept}
    (built : blueprint.build vocabulary domain code = .ok pipe) (speaks : pipe.SpeaksOf concept) :
    concept ∈ vocabulary.concepts := by
  obtain ⟨inputs, output, multiplicity, body, inputsBuilt, required, bodyBuilt, rfl⟩ :=
    exists_parts built
  cases speaks with
  | input declared => exact InputBlueprint.buildAll_known inputsBuilt _ declared
  | output => exact Vocabulary.mem_of_require required
  | combined isParallel combined =>
      have defined := BodyBlueprint.build_defined bodyBuilt
      obtain rfl : body = _ := isParallel
      obtain ⟨reference, required⟩ := defined _ combined
      exact Vocabulary.mem_of_require required

namespace Library

/-- The libraries that come about by loading bundles, and by nothing else. -/
inductive FromBundles : Library → Prop
  | initial (collaborators : Collaborators) : FromBundles (.initial collaborators)
  | load {library extended : Library} {bundle : Bundle} (before : FromBundles library)
      (accepted : library.load bundle = .ok extended) : FromBundles extended

namespace FromBundles

variable {library : Library}

theorem loaded (bundles : library.FromBundles) : library.Loaded := by
  induction bundles with
  | initial collaborators => exact .initial collaborators
  | load _ accepted before => exact .load before accepted

/-- A bundle that is loaded adds its concepts, and then pipes that are built of its declarations. -/
theorem of_load {extended : Library} {bundle : Bundle}
    (accepted : library.load bundle = .ok extended) :
    extended.vocabulary = (library.vocabulary.load bundle.domain bundle.concepts).2 ∧
      ∀ pipe ∈ extended.pipes, pipe ∈ library.pipes ∨
        ∃ (code : String) (blueprint : PipeBlueprint),
          blueprint.build extended.vocabulary bundle.domain code = .ok pipe := by
  rw [Library.load] at accepted
  split at accepted
  · cases accepted
  · next concepts vocabulary loaded =>
    obtain ⟨pipes, each, rfl⟩ := (addPipes_eq_ok bundle.pipes.distinct).1 accepted
    refine ⟨by rw [loaded], fun pipe member => ?_⟩
    rcases List.mem_append.1 member with old | new
    · exact .inl old
    · obtain ⟨entry, -, admits⟩ := exists_left_of_forall₂ each new
      exact .inr ⟨entry.1, entry.2, admits.built⟩

theorem vocabulary_loaded (bundles : library.FromBundles) : library.vocabulary.Loaded := by
  induction bundles with
  | initial collaborators => exact .initial
  | load _ accepted before =>
      rw [(of_load accepted).1]
      exact .load before _ _

/-- Concepts stay, and so a pipe speaks of known ones also when more has been loaded. -/
theorem speaksOf (bundles : library.FromBundles) {pipe : Pipe} (member : pipe ∈ library.pipes)
    {concept : Concept} (speaks : pipe.SpeaksOf concept) :
    concept ∈ library.vocabulary.concepts := by
  induction bundles with
  | initial collaborators => cases member
  | load _ accepted before =>
      obtain ⟨vocabulary, pipes⟩ := of_load accepted
      rcases pipes pipe member with old | ⟨code, blueprint, built⟩
      · rw [vocabulary]
        exact (Vocabulary.load_concepts _ _ _).subset (before old)
      · exact blueprint.build_speaksOf built speaks

end FromBundles

/-- The stuff is of a concept of the vocabulary, and its content fits. -/
structure Knows (library : Library) (stuff : Stuff) : Prop where
  concept : stuff.concept ∈ library.vocabulary.concepts
  fits : stuff.Fits

/-- All stuffs of the memory are known. -/
def KnowsAll (library : Library) (memory : WorkingMemory) : Prop :=
  memory.Every library.Knows

/-- What a run gives is known. -/
def KnowsOutput (library : Library) (output : Output) : Prop :=
  library.KnowsAll output.memory ∧ library.Knows output.main

/-- What a body gives is known. -/
def KnowsProduct (library : Library) (product : Product) : Prop :=
  library.KnowsAll product.memory ∧ library.Knows product.stuff

open Run

variable {library : Library} {memory : WorkingMemory} {stuff : Stuff} {pipe : Pipe}
variable {params : Params} {output : Option String} {allowed : Job → Prop} {runner : Runner}

theorem Knows.rename (known : library.Knows stuff) (name : String) :
    library.Knows (stuff.rename name) :=
  ⟨known.concept, known.fits.rename name⟩

theorem Knows.of_make {name : String} {concept : Concept} {content : Content}
    (member : concept ∈ library.vocabulary.concepts)
    (made : Stuff.make name concept content = .ok stuff) : library.Knows stuff := by
  refine ⟨?_, Stuff.fits_of_make made⟩
  obtain ⟨-, rfl⟩ := Stuff.make_eq_ok.1 made
  exact member

/-- An item of a list that fits a concept fits the concept by itself. -/
theorem Knows.item {items : List Content} {item : Content} (known : library.Knows stuff)
    (list : stuff.content = .list items) (member : item ∈ items) (name : String) :
    library.Knows ⟨name, stuff.concept, item⟩ := by
  refine ⟨known.concept, ?_⟩
  have fits := known.fits
  rw [Stuff.Fits, list] at fits
  exact Stuff.misfit?_of_item fits member

theorem KnowsAll.store (known : library.KnowsAll memory) (knows : library.Knows stuff)
    (name : String) : library.KnowsAll (memory.store name stuff) :=
  WorkingMemory.Every.store known (knows.rename name)

/-- A way to run pipes that, given known stuffs, gives known ones and sends such jobs only. -/
def Trusts (library : Library) (allowed : Job → Prop) (runner : Runner) : Prop :=
  ∀ pipe ∈ library.pipes, ∀ memory, library.KnowsAll memory → ∀ params output,
    Sends allowed library.KnowsOutput (runner pipe memory params output)

theorem sends_conclude {name : String} (known : library.KnowsAll memory)
    (knows : library.Knows stuff) :
    Sends allowed library.KnowsOutput (conclude memory name stuff) := by
  rw [conclude_eq]
  exact .pure ⟨WorkingMemory.Every.storeMain known (knows.rename name), knows.rename name⟩

theorem sends_get {code : String} :
    Sends allowed (· ∈ library.pipes) (Run.require id (library.get code)) :=
  .require fun _ found => mem_of_find? (get_eq_ok.1 found)

section Bodies

variable (bundles : library.FromBundles) (trusts : library.Trusts allowed runner)
variable (known : library.KnowsAll memory)
include bundles trusts known

theorem sends_fanOut {branch : Pipe} {batch : Batch} {result : String}
    (member : branch ∈ library.pipes) :
    Sends allowed library.Knows (fanOut runner branch memory params batch result) := by
  have listed : Sends allowed (fun found => memory.getList batch.list = .ok found)
      (Run.require Cause.memory (memory.getList batch.list)) := .require fun _ found => found
  apply listed.bind
  rintro ⟨list, items⟩ found
  obtain ⟨found, content⟩ := WorkingMemory.getList_eq_ok.1 found
  have knows : library.Knows list := known.of_find? found
  have joined := Sends.join fun item (inside : item ∈ items) =>
    trusts branch member (itemMemory memory list batch.item item)
      (known.store (knows.item content inside batch.item) batch.item) params none
  exact joined.bind fun _ _ => .require fun _ made =>
    .of_make (bundles.speaksOf member .output) made

theorem sends_runStep {step : Step} :
    Sends allowed library.KnowsOutput (library.runStep runner step memory params) := by
  apply sends_get.bind
  intro pipe member
  cases step.batch with
  | none => exact trusts pipe member memory known _ step.result
  | some batch =>
      exact (sends_fanOut bundles trusts known member).bind fun _ knows =>
        sends_conclude known knows

omit known in
theorem sends_runSteps {first : Step} {rest : List Step} {memory : WorkingMemory}
    (known : library.KnowsAll memory) :
    Sends allowed library.KnowsProduct (library.runSteps runner params first rest memory) := by
  induction rest generalizing first memory with
  | nil => exact (sends_runStep bundles trusts known).bind fun _ knows => .pure knows
  | cons next rest ih =>
      exact (sends_runStep bundles trusts known).bind fun _ knows => ih knows.1

theorem sends_runBranch {branch : Branch} :
    Sends allowed (fun result => library.Knows result.2)
      (library.runBranch runner memory params branch) :=
  (sends_runStep bundles trusts known).bind fun _ knows => .pure knows.2

omit bundles trusts in
theorem knows_keepResults {results : List (String × Stuff)}
    (each : ∀ result ∈ results, library.Knows result.2) :
    library.KnowsAll (keepResults memory results) := by
  induction results generalizing memory with
  | nil => exact known
  | cons result results ih =>
      have stored := known.store (each result List.mem_cons_self) result.1
      exact ih stored fun other member => each other (List.mem_cons_of_mem _ member)

theorem sends_runParallel {parallel : Parallel} (member : pipe ∈ library.pipes)
    (body : pipe.body = .parallel parallel) :
    Sends allowed library.KnowsProduct
      (library.runParallel runner pipe.signature parallel memory params output) := by
  apply (Sends.idle (.require _ _)).bind
  intro _ _
  have branches : ∀ branch ∈ parallel.rest, Sends allowed (fun result => library.Knows result.2)
      (library.runBranch runner memory params branch) :=
    fun _ _ => sends_runBranch bundles trusts known
  apply ((sends_runBranch bundles trusts known).both (.join branches)).bind
  rintro ⟨first, others⟩ ⟨one, rest⟩
  have each : ∀ result ∈ first :: others, library.Knows result.2 :=
    List.forall_mem_cons.2 ⟨one, rest⟩
  have gathered : Sends allowed library.Knows (Run.require Cause.concept
      (gatherResults pipe.signature parallel output first others)) := by
    refine .require fun stuff gathered => ?_
    rw [gatherResults] at gathered
    split at gathered
    · next combined => exact .of_make (bundles.speaksOf member (.combined body combined)) gathered
    · cases gathered
      exact each _ List.getLastD_mem_cons
  refine gathered.bind fun stuff knows => .pure ⟨?_, knows⟩
  dsimp only
  split
  · exact knows_keepResults known each
  · exact known

theorem sends_runCondition {condition : Condition} :
    Sends allowed library.KnowsProduct
      (library.runCondition runner pipe.signature condition memory params output) := by
  apply (Sends.idle (.require _ _)).bind
  intro answer _
  have kept : Sends allowed library.KnowsAll (Run.require Cause.concept
      (library.keepAnswer condition memory (Text.trimmed answer))) := by
    refine .require fun later kept => ?_
    rw [keepAnswer] at kept
    split at kept
    · cases kept
      exact known
    · obtain ⟨stuff, made, stored⟩ := except_bind_eq_ok.1 kept
      cases stored
      exact known.store (.of_make bundles.vocabulary_loaded.mem_textConcept made) _
  apply kept.bind
  intro later known
  apply (Sends.idle (.require _ _)).bind
  intro code _
  apply sends_get.bind
  intro pipe member
  exact (trusts pipe member later known params output).bind fun _ knows => .pure knows

theorem sends_runBatch {code : String} {batch : Batch} :
    Sends allowed library.KnowsProduct
      (library.runBatch runner pipe.signature code batch memory params output) := by
  apply sends_get.bind
  intro branch member
  exact (sends_fanOut bundles trusts known member).bind fun _ knows => .pure ⟨known, knows⟩

end Bodies

/-- Pipes that make content send such jobs only, if they are given known stuffs that pass the check
of the inputs. -/
def WorkSends (library : Library) (allowed : Job → Prop) : Prop :=
  ∀ pipe ∈ library.pipes, ∀ memory, library.KnowsAll memory → ∀ params output work,
    checkInputs pipe memory params = .ok () →
    library.work? pipe memory params output = some work → Sends allowed (fun _ => True) work

variable (bundles : library.FromBundles) (works : library.WorkSends allowed)
include bundles works

theorem sends_execute (trusts : library.Trusts allowed runner) (member : pipe ∈ library.pipes)
    (known : library.KnowsAll memory) :
    Sends allowed library.KnowsOutput (library.execute runner pipe memory params output) := by
  have checked : Sends allowed (fun _ => checkInputs pipe memory params = .ok ())
      (Run.require id (checkInputs pipe memory params)) := .require fun _ passed => passed
  apply checked.bind
  intro _ passed
  have ran : Sends allowed library.KnowsProduct
      (library.runBody runner pipe memory params output) := by
    cases known? : library.work? pipe memory params output with
    | some work =>
        have sends := works pipe member memory known params output work passed known?
        have makes : ∀ stack, Meets stack (library.Makes pipe.signature params output)
            (fun _ => True) work := fun _ => meets_work (fun _ _ => trivial) known?
        have made : Sends allowed library.Knows work :=
          (sends.of_meets makes).mono_good fun stuff makes =>
            ⟨makes.concept ▸ bundles.speaksOf member .output, makes.fits⟩
        rw [runBody_of_work known?]
        exact made.bind fun _ knows => .pure ⟨known, knows⟩
    | none =>
        rw [runBody]
        cases body : pipe.body with
        | sequence sequence => exact sends_runSteps bundles trusts known
        | parallel parallel => exact sends_runParallel bundles trusts known member body
        | condition condition => exact sends_runCondition bundles trusts known
        | batch code batch => exact sends_runBatch bundles trusts known
        | _ => simp [work?, body] at known?
  apply ran.bind
  intro product knows
  apply (Sends.idle (.require _ _)).bind
  intro _ _
  exact sends_conclude knows.1 knows.2

/-- The induction is on the room that is left on the stack. -/
theorem trusts_runWithin (room : Nat) : library.Trusts allowed (library.runWithin room) := by
  induction room with
  | zero =>
      intro pipe _ memory _ params output
      exact .framed fun state => ⟨.refl state, nofun⟩
  | succ room ih =>
      intro pipe member memory known params output
      exact .framed (sends_execute bundles works ih member known)

theorem trusts_run : library.Trusts allowed library.run :=
  fun pipe member memory known params output state =>
    trusts_runWithin bundles works _ pipe member memory known params output state

end Library

end Conduit
