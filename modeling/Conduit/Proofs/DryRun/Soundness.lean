import Conduit.Proofs.Sample
import Conduit.Proofs.DryRun.Solidity

/-!
# A dry run that passes rules out mistakes of structure

When the dry run of a pipe has passed, a live run on inputs that fit cannot fail for a reason
that lies in how pipes are put together. No pipe is missing, no input is missing or of a wrong
concept, no output is, and the stack does not overflow. If the live run succeeds, its memory has
the outline of that of the dry run.

The two runs are compared step by step, on memories with the same outline. Their lists may be of
different lengths. Whatever a live run does for an item of a list, the dry run has done for the
first item of its own list, which is not empty.
-/

namespace Conduit

/-- Does the cause lie in how pipes are put together? -/
def Cause.isStructural : Cause → Bool
  | .pipeNotFound _ | .stackOverflow _ _ | .missingInputs _ _ => true
  | .inputMismatch _ _ _ _ | .outputMismatch _ _ _ => true
  | _ => false

theorem Cause.OfWork.not_isStructural {cause : Cause} (h : cause.OfWork) :
    cause.isStructural = false := by
  cases h <;> rfl

namespace Library

open Run

/-- The same pipes with other collaborators. -/
def withCollaborators (library : Library) (collaborators : Collaborators) : Library :=
  { library with collaborators }

@[simp] theorem find?_withCollaborators (library : Library) (collaborators : Collaborators)
    (code : String) : (library.withCollaborators collaborators).find? code = library.find? code :=
  rfl

/-- A live run is compared with the dry run, at the same stack and with the room that the limit
leaves. Its failure is excused when it has nothing to do with structure. -/
def foreseen (limit room : Nat) : Comparison where
  Start s t := t.stack = s.stack ∧ limit ≤ room + s.stack.length
  Calm _ _ := True
  Excuse _ error := error.cause.isStructural = false
  start started advances advances' := by
    rw [advances.stack, advances'.stack]
    exact started
  calm_refl _ := trivial
  calm_trans _ _ := trivial
  excuse _ excused := excused

/-- A live run may be judged by itself, once the dry run is known to have succeeded. -/
theorem follows_of_meets {α : Type} {related : α → Prop} {limit room : Nat} {run : Run α}
    {s t after : RunState}
    (h : Meets t.stack related (fun error => error.cause.isStructural = false) run) :
    (foreseen limit room).Follows related s after (run t).1 := by
  have outcome := (h t rfl).2
  cases result : (run t).1 with
  | ok value =>
      rw [result] at outcome
      exact ⟨outcome, trivial⟩
  | error error =>
      rw [result] at outcome
      exact outcome

variable {runner runner' : Runner} {branch : Pipe} {memory memory' : WorkingMemory}
variable {params params' : Params} {batch : Batch} {result : String} {limit room : Nat}

/-- A fan-out by itself: what its branches do not fail with, it does not fail with either. -/
theorem meets_fanOut_named {stack : PipeStack} {bad : RunError → Prop} {list : Stuff}
    (fault : ∀ cause : Cause, cause.OfWork → bad (.ofCause cause))
    (found : memory.find? batch.list = some list)
    (branches : ∀ item, Meets stack (fun _ => True) bad
      (runner branch (itemMemory memory list batch.item item) params none)) :
    Meets stack (fun stuff => stuff.name = result ∧ stuff.concept = branch.signature.output) bad
      (fanOut runner branch memory params batch result) := by
  have listing : Meets stack (fun listed => listed.1 = list) bad
      (Run.require Cause.memory (memory.getList batch.list)) := by
    refine .require (fun listed ok => ?_) fun error _ => fault _ (.memory error)
    obtain ⟨there, -⟩ := WorkingMemory.getList_eq_ok.1 ok
    exact Option.some.inj (there.symm.trans found)
  apply listing.bind
  rintro ⟨_, items⟩ same
  obtain rfl : _ = list := same
  have joined := Meets.join fun item (_ : item ∈ items) => branches item
  refine joined.bind fun outputs _ =>
    .require (fun stuff made => ?_) fun error _ => fault _ (.concept error)
  obtain ⟨-, rfl⟩ := Stuff.make_eq_ok.1 made
  exact ⟨rfl, rfl⟩

/-- The dry run has been through the pipe for the first item of its list, and so no branch of the
live run fails for a reason of structure. -/
theorem tracks_fanOut_foreseen (advancing' : AdvancesAll runner')
    (branches : ∀ {memory memory'}, memory.Outlines memory' → Tracks (foreseen limit room)
      Likeness.outline.Outputs (runner branch memory params none)
      (runner' branch memory' params' none))
    (solid : ∀ stack : PipeStack, limit ≤ room + stack.length → Meets stack (solidity.Has memory)
      (fun _ => True) (fanOut runner branch memory params batch result))
    (outlines : memory.Outlines memory') :
    Tracks (foreseen limit room) Stuff.Outlines (fanOut runner branch memory params batch result)
      (fanOut runner' branch memory' params' batch result) := by
  rintro s t after stuff ⟨level, enough⟩ succeeds
  have whole : stuff.Solid := (solid s.stack enough).ok rfl succeeds outlines.solid
  obtain ⟨name, concept, list, items, known, first⟩ := fanOut_ok succeeds
  obtain ⟨found, listed⟩ := WorkingMemory.getList_eq_ok.1 known
  obtain ⟨list', found', same⟩ := outlines.find found
  have solidList : (Content.list items).Solid := listed ▸ same.solid
  obtain ⟨nonempty, each⟩ := solidList.items
  obtain ⟨item, rest, rfl⟩ := List.exists_cons_of_ne_nil nonempty
  obtain ⟨output, later, ran⟩ := first item rest rfl
  have live : ∀ item', Meets t.stack (fun _ => True)
      (fun error => error.cause.isStructural = false)
      (runner' branch (itemMemory memory' list' batch.item item') params' none) := by
    intro item' state start
    refine ⟨advancing' _ _ _ _ state, ?_⟩
    have outlined : (itemMemory memory list batch.item item).Outlines
        (itemMemory memory' list' batch.item item') :=
      outlines.store batch.item ⟨rfl, same.concept, each item List.mem_cons_self⟩
    have followed := branches outlined s state later output ⟨start.trans level, enough⟩ ran
    cases outcome :
        (runner' branch (itemMemory memory' list' batch.item item') params' none state).1 with
    | ok output' => trivial
    | error error =>
        rw [outcome] at followed
        exact followed
  have fanned : Meets t.stack
      (fun stuff' => stuff'.name = result ∧ stuff'.concept = branch.signature.output)
      (fun error => error.cause.isStructural = false)
      (fanOut runner' branch memory' params' batch result) :=
    meets_fanOut_named (fun _ h => h.not_isStructural) found' live
  exact follows_of_meets (fanned.mono_good fun stuff' named =>
    ⟨named.1.trans name.symm, named.2.trans concept.symm, whole⟩)

/-- Either run holds its place at the same level, so that neither overflows where the other does
not. -/
theorem tracks_framed_foreseen {α β : Type} {related : α → β → Prop} {first : Run α}
    {second : Run β} {limit' : Nat} {code : String} {context context' : PipeStack → Context}
    (same : limit' = limit) (advancing : Advancing first)
    (body : 0 < room → Tracks (foreseen limit (room - 1)) related first second) :
    Tracks (foreseen limit room) related (Run.framed limit code context first)
      (Run.framed limit' code context' second) := by
  subst same
  refine .framed (foreseen limit' (room - 1)) advancing ?_ ?_ ?_ ?_
  · rintro s t ⟨level, enough⟩ free -
    refine ⟨⟨congrArg (· ++ [code]) level, ?_⟩, body (by omega)⟩
    rw [RunState.enter_stack, List.length_append, List.length_singleton]
    omega
  · intros
    trivial
  · intro after error context excused
    change (error.annotate context).cause.isStructural = false
    rw [RunError.annotate_cause]
    exact excused
  · rintro s t after context ⟨level, -⟩ free full -
    rw [level] at full
    omega

/-- The work of a pipe has the declared concept and the wanted name in either run, and what a dry
run makes up is solid. -/
theorem tracks_work {library library' : Library} {pipe : Pipe} {output : Option String}
    {work work' : Run Stuff} (sampling : Sampling pipe params)
    (known : library.work? pipe memory params output = some work)
    (known' : library'.work? pipe memory' params' output = some work') :
    Tracks (foreseen limit room) Stuff.Outlines work work' := by
  intro s t after stuff _ succeeds
  have made : Meets s.stack (library.Makes pipe.signature params output) (fun _ => True) work :=
    meets_work (fun _ _ => trivial) known
  have made' : Meets t.stack (library'.Makes pipe.signature params' output)
      (fun error => error.cause.isStructural = false) work' :=
    meets_work (fun _ h => h.not_isStructural) known'
  have makes := made.ok rfl succeeds
  exact follows_of_meets (made'.mono_good fun stuff' makes' =>
    ⟨makes'.name.trans makes.name.symm, makes'.concept.trans makes.concept.symm,
      sampling.solid makes⟩)

/-- The induction is on the room, which is the same for both runs. -/
theorem tracks_foreseen {library : Library}
    (foreseeable : ∀ pipe ∈ library.pipes, pipe.Foreseeable) (collaborators : Collaborators)
    (room : Nat) (pipe : Pipe)
    (memory memory' : WorkingMemory) (params params' : Params) (output : Option String)
    (sampling : Sampling pipe params)
    (same : params'.limit = params.limit) (outlines : memory.Outlines memory') :
    Tracks (foreseen params.limit room) Likeness.outline.Outputs
      (library.runWithin room pipe memory params output)
      ((library.withCollaborators collaborators).runWithin room pipe memory' params' output) := by
  induction room generalizing pipe memory memory' params params' output with
  | zero => exact tracks_framed_foreseen same (fun state => .refl state) nofun
  | succ room ih =>
      refine tracks_framed_foreseen same (advancing_execute (advancing_runWithin room)) fun _ => ?_
      have serves : ∀ code multiplicity, pipe.Calls params code multiplicity →
          ServesBoth library (library.withCollaborators collaborators)
            (foreseen params.limit room) .outline (library.runWithin room)
            ((library.withCollaborators collaborators).runWithin room) params params' code
            multiplicity := by
        intro code multiplicity calls callee found
        have inside : Sampling callee (params.forCallee multiplicity) :=
          (library.solid foreseeable).calls sampling calls found
        refine ⟨callee, found, rfl, ?_, ?_⟩
        · intro memory memory' output outlines
          exact ih _ _ _ _ _ _ inside same outlines
        · intro memory memory' batch result outlines
          refine tracks_fanOut_foreseen (advancing_runWithin room)
            (fun outlines => ih _ _ _ _ _ _ inside same outlines) (fun stack enough => ?_)
            outlines
          refine meets_fanOut (fun _ _ => trivial) fun memory => ?_
          have ran := (library.solid foreseeable).meets_runWithin room _ memory _ none stack
            inside enough
          exact ran.consequence (fun _ good => good.1) fun _ _ => trivial
      have alike : Likeness.outline.Memories memory memory' := outlines
      refine tracks_execute (advancing_runWithin room) (advancing_runWithin room) serves
        (fun condition body => ?_)
        (fun work work' known known' => ?_) alike
      · have impossible := sampling.foreseeable.body
        rw [body] at impossible
        cases impossible
      · exact tracks_work sampling known known'

end Library

/-- What is made up for an input has its name, its concept, and lists with items. -/
theorem Vocabulary.storeInput_eq_ok {vocabulary : Vocabulary} {pipe : Pipe} {length : Nat}
    {memory later : WorkingMemory} {entry : String × Requirement} :
    vocabulary.storeInput pipe length memory entry = .ok later ↔
      ∃ content, vocabulary.sampleInput (pipe.listInputs.contains entry.1) entry.2 length =
        .ok content ∧ Stuff.misfit? entry.2.concept content = none ∧
        later = memory.store entry.1 ⟨entry.1, entry.2.concept, content⟩ := by
  rw [storeInput]
  cases vocabulary.sampleInput (pipe.listInputs.contains entry.1) entry.2 length with
  | error error => simp [bind, Except.bind]
  | ok content =>
      simp only [bind, Except.bind, Except.ok.injEq, exists_eq_left']
      cases made : Stuff.make entry.1 entry.2.concept content with
      | error error =>
          have fits : Stuff.misfit? entry.2.concept content ≠ none := by
            intro fits
            rw [Stuff.make_eq_ok.2 ⟨fits, rfl⟩] at made
            cases made
          simp [fits]
      | ok stuff =>
          obtain ⟨fits, rfl⟩ := Stuff.make_eq_ok.1 made
          simp [fits, pure, Except.pure, eq_comm]

theorem Vocabulary.storeInputs_outlines {vocabulary : Vocabulary} {pipe : Pipe} {length : Nat}
    {entries : List (String × Requirement)} {inputs : List Stuff}
    {here there memory : WorkingMemory} (long : 0 < length)
    (positive : ∀ entry ∈ entries, Multiplicity.Positive entry.2.multiplicity)
    (given : inputs.map (fun stuff => (stuff.name, stuff.concept)) =
      entries.map fun entry => (entry.1, entry.2.concept))
    (outlines : here.Outlines there)
    (h : entries.foldlM (vocabulary.storeInput pipe length) here = .ok memory) :
    memory.Outlines (inputs.foldl (fun memory stuff => memory.store stuff.name stuff) there) := by
  induction entries generalizing inputs here there with
  | nil =>
      obtain rfl := List.map_eq_nil_iff.1 given
      cases h
      exact outlines
  | cons entry entries ih =>
      obtain ⟨stuff, inputs, rfl, same, given⟩ := List.map_eq_cons_iff.1 given
      obtain ⟨name, concept⟩ := Prod.mk.inj same
      rw [List.foldlM_cons] at h
      cases stored : vocabulary.storeInput pipe length here entry with
      | error error =>
          rw [stored] at h
          cases h
      | ok later =>
          rw [stored] at h
          obtain ⟨content, sampled, -, rfl⟩ := storeInput_eq_ok.1 stored
          have solid := sampleInput_solid (positive entry List.mem_cons_self) long sampled
          have outlined : Stuff.Outlines ⟨entry.1, entry.2.concept, content⟩ stuff :=
            ⟨name, concept, solid⟩
          rw [List.foldl_cons, name]
          exact ih (fun entry member => positive entry (List.mem_cons_of_mem _ member)) given
            (outlines.store entry.1 outlined) h

/-- The memory of a dry run has the outline of any memory with stuffs of the declared names and
concepts. -/
theorem Vocabulary.sampleInputs_outlines {vocabulary : Vocabulary} {pipe : Pipe} {length : Nat}
    {memory : WorkingMemory} {inputs : List Stuff} (foreseeable : pipe.Foreseeable)
    (long : 0 < length)
    (given : inputs.map (fun stuff => (stuff.name, stuff.concept)) =
      pipe.signature.inputs.entries.map fun entry => (entry.1, entry.2.concept))
    (h : vocabulary.sampleInputs pipe length = .ok memory) :
    memory.Outlines (.ofStuffs inputs) := by
  have blank : WorkingMemory.empty.Outlines .empty := ⟨.nil, rfl⟩
  exact storeInputs_outlines long foreseeable.inputs given blank h

namespace Engine

/-- The same engine with other collaborators. -/
def withCollaborators (engine : Engine) (collaborators : Collaborators) : Engine :=
  ⟨engine.library.withCollaborators collaborators, engine.config⟩

/-- A dry run that passes is one of the pipe on what has been made up for its inputs. -/
theorem dryRun_eq_ok {engine : Engine} {code : String} {pipe : Pipe} {start final : RunState}
    {dry : Output} (found : engine.library.find? code = some pipe) :
    engine.dryRun code start = (.ok dry, final) ↔
      ∃ memory, engine.library.vocabulary.sampleInputs pipe engine.config.dryListLength =
        .ok memory ∧ engine.library.run pipe memory (.ofConfig engine.config .dry) none start =
          (.ok dry, final) := by
  rw [dryRun]
  rw [Library.get_eq_ok.2 found]
  change engine.library.dryRun engine.config pipe start = _ ↔ _
  rw [Library.dryRun]
  cases engine.library.vocabulary.sampleInputs pipe engine.config.dryListLength with
  | error error =>
      constructor
      · intro passes
        cases passes
      · rintro ⟨memory, sampled, -⟩
        cases sampled
  | ok memory =>
      constructor
      · intro passes
        exact ⟨memory, rfl, passes⟩
      · rintro ⟨_, sampled, passes⟩
        cases sampled
        exact passes

/-- A run of a pipe that is there is one on a memory with the given stuffs. -/
theorem run_eq {engine : Engine} {code : String} {pipe : Pipe} {inputs : List Stuff}
    {mode : Option RunMode} (collaborators : Collaborators)
    (found : engine.library.find? code = some pipe) :
    (engine.withCollaborators collaborators).run code inputs mode =
      (engine.library.withCollaborators collaborators).run pipe (.ofStuffs inputs)
        (.ofConfig engine.config (mode.getD engine.config.mode)) none := by
  have found' := Library.find?_withCollaborators engine.library collaborators code
  rw [found] at found'
  rw [run, runWithMemory, Library.runCode, withCollaborators]
  rw [Library.get_eq_ok.2 found']
  rfl

/-- When the dry run of a pipe passes, in a library without conditions and zero counts, then a run
on stuffs of the declared names and concepts leaves a memory with the same outline, or fails for
a reason that does not lie in how pipes are put together. This is so whatever the contents are,
whatever the collaborators answer, and in either mode. -/
theorem dryRun_sound {engine : Engine} {code : String} {pipe : Pipe} {inputs : List Stuff}
    {start start' final : RunState} {dry : Output}
    (foreseeable : ∀ pipe ∈ engine.library.pipes, pipe.Foreseeable)
    (long : 0 < engine.config.dryListLength)
    (found : engine.library.find? code = some pipe)
    (passes : engine.dryRun code start = (.ok dry, final))
    (given : inputs.map (fun stuff => (stuff.name, stuff.concept)) =
      pipe.signature.inputs.entries.map fun entry => (entry.1, entry.2.concept))
    (fresh : start.stack = []) (fresh' : start'.stack = []) (mode : Option RunMode)
    (collaborators : Collaborators) :
    match ((engine.withCollaborators collaborators).run code inputs mode start').1 with
    | .ok live =>
      live.memory.outline = dry.memory.outline ∧ live.memory.aliases = dry.memory.aliases
    | .error error => error.cause.isStructural = false := by
  obtain ⟨memory, sampled, ran⟩ := (dryRun_eq_ok found).1 passes
  have known := foreseeable pipe (Library.mem_of_find? found)
  have outlines := Vocabulary.sampleInputs_outlines known long given sampled
  have level : start'.stack = start.stack := fresh'.trans fresh.symm
  have enough : engine.config.stackLimit ≤
      engine.config.stackLimit - start.stack.length + start.stack.length := by omega
  have followed := Library.tracks_foreseen foreseeable collaborators _ pipe memory
    (.ofStuffs inputs) (.ofConfig engine.config .dry)
    (.ofConfig engine.config (mode.getD engine.config.mode)) none ⟨known, rfl, long, nofun⟩ rfl
    outlines start start' final dry ⟨level, enough⟩ ran
  have live : (engine.withCollaborators collaborators).run code inputs mode start' =
      (engine.library.withCollaborators collaborators).runWithin
        (engine.config.stackLimit - start.stack.length) pipe (.ofStuffs inputs)
        (.ofConfig engine.config (mode.getD engine.config.mode)) none start' := by
    rw [run_eq collaborators found, Library.run, level]
    rfl
  rw [← live] at followed
  cases outcome : ((engine.withCollaborators collaborators).run code inputs mode start').1 with
  | ok result =>
      rw [outcome] at followed
      obtain ⟨⟨memories, -⟩, -⟩ := followed
      exact ⟨memories.outline_eq, memories.aliases⟩
  | error error =>
      rw [outcome] at followed
      exact followed

/-- The dry run of the report passes on lists of three lines, and foresees the run on two, with
another renderer. -/
theorem report_dryRun_sound :
    ∃ dry final live,
      (∀ pipe ∈ Sample.library.pipes, pipe.Foreseeable) ∧ 0 < Sample.engine.config.dryListLength ∧
      Sample.engine.dryRun "report" .initial = (.ok dry, final) ∧
      ((Sample.engine.withCollaborators Sample.whisperers).run "report" Sample.stuffs (some .live)
        .initial).1 = .ok live ∧
      live.memory.outline = dry.memory.outline ∧ live.memory.aliases = dry.memory.aliases := by
  have foreseeable : ∀ pipe ∈ Sample.library.pipes, pipe.Foreseeable := by decide
  have long : 0 < Sample.engine.config.dryListLength := by decide
  have found : Sample.engine.library.find? "report" = some Sample.report := rfl
  have given : Sample.stuffs.map (fun stuff => (stuff.name, stuff.concept)) =
      Sample.report.signature.inputs.entries.map fun entry => (entry.1, entry.2.concept) := rfl
  have fresh : RunState.initial.stack = [] := rfl
  obtain ⟨dry, final, passes⟩ : ∃ dry final,
      Sample.engine.dryRun "report" .initial = (.ok dry, final) := ⟨_, _, rfl⟩
  obtain ⟨live, succeeds⟩ : ∃ live,
      ((Sample.engine.withCollaborators Sample.whisperers).run "report" Sample.stuffs (some .live)
        .initial).1 = .ok live := ⟨_, rfl⟩
  have sound := dryRun_sound foreseeable long found passes given fresh fresh (some .live)
    Sample.whisperers
  rw [succeeds] at sound
  exact ⟨dry, final, live, foreseeable, long, passes, succeeds, sound⟩

end Engine

end Conduit
