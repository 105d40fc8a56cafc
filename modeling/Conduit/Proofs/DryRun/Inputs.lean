import Conduit.Proofs.ErrorAnnotation
import Conduit.Proofs.DryRun.Lists
import Conduit.Proofs.DryRun.Soundness
import Conduit.Proofs.Run.ContentFaults

/-!
# The inputs of a dry run

A dry run makes up one stuff for every declared input. Whether it is a list is read off the declared
multiplicity, and off the batch of the pipe, whose list may be declared without one. What is made
up in this way is just what the pipe asks for later on. The content fits the concept, the check of
the inputs finds them all, and the list of a batch is a list.

So the pipe that is tried out does not fail because of what it was given. The pipes that it calls
may, for they are given what it makes of that.
-/

namespace Conduit

theorem Content.exists_items {content : Content} (listed : content.isList = true) :
    ∃ items, content = .list items := by
  cases content with
  | list items => exact ⟨items, rfl⟩
  | _ => cases listed

namespace Stuff

/-- Single contents that may stand for a concept may stand for it as a list. -/
theorem misfit?_list_eq_none {concept : Concept} {items : List Content}
    (each : ∀ item ∈ items, item.isList = false ∧ misfit? concept item = none) :
    misfit? concept (.list items) = none := by
  cases isOpen : concept.isOpen with
  | true => rw [misfit?, if_pos isOpen]
  | false =>
      refine (misfit?_list isOpen).2 fun item member => ?_
      obtain ⟨single, fits⟩ := each item member
      exact ⟨single, (misfit?_single isOpen single).1 fits⟩

end Stuff

namespace Vocabulary

variable {vocabulary : Vocabulary} {concept : Concept} {content : Content} {pipe : Pipe}
variable {length : Nat} {memory later : WorkingMemory} {entry : String × Requirement}
variable {isList : Bool} {requirement : Requirement}

theorem sampleList_fits {count : Nat} (made : vocabulary.sampleList concept count = .ok content) :
    Stuff.misfit? concept content = none := by
  rw [sampleList] at made
  split at made
  · cases made
    exact Stuff.misfit?_list_eq_none (List.forall_mem_nil _)
  · obtain ⟨item, sampled, rfl⟩ := except_map_eq_ok.1 made
    refine Stuff.misfit?_list_eq_none fun other member => ?_
    rw [List.eq_of_mem_replicate member]
    exact ⟨sample_isList sampled, sample_fits sampled⟩

theorem sampleList_length {count : Nat} {items : List Content}
    (made : vocabulary.sampleList concept count = .ok (.list items)) : items.length = count := by
  rw [sampleList] at made
  split at made
  · next none =>
    cases made
    exact none.symm
  · obtain ⟨item, -, same⟩ := except_map_eq_ok.1 made
    cases same
    exact List.length_replicate

theorem sampleInput_fits
    (made : vocabulary.sampleInput isList requirement length = .ok content) :
    Stuff.misfit? requirement.concept content = none := by
  rw [sampleInput] at made
  split at made
  · exact sampleList_fits made
  · exact sample_fits made

theorem sampleInput_isList
    (made : vocabulary.sampleInput isList requirement length = .ok content) :
    content.isList = isList := by
  rw [sampleInput] at made
  split at made
  · next many => rw [sampleList_isList made, many]
  · next one => rw [sample_isList made, Bool.eq_false_iff.2 one]

theorem sampleInput_length {items : List Content}
    (made : vocabulary.sampleInput isList requirement length = .ok (.list items)) :
    items.length = (requirement.multiplicity.bind Multiplicity.count?).getD length := by
  have listed := sampleInput_isList made
  rw [sampleInput, ← listed] at made
  exact sampleList_length made

end Vocabulary

/-- What has been made up for an input of the pipe stands in the slot of its name. It is what could
be made for the declared concept. It is a list if the pipe takes a list there, and then it has the
declared number of items, or the given one where none is declared. -/
structure Pipe.Sampled (pipe : Pipe) (length : Nat) (entry : String × Requirement)
    (slot : String × Stuff) : Prop where
  name : slot.1 = entry.1
  made : Stuff.make entry.1 entry.2.concept slot.2.content = .ok slot.2
  listed : slot.2.content.isList = true ↔ entry.1 ∈ pipe.listInputs
  counted : ∀ items, slot.2.content = .list items →
    items.length = (entry.2.multiplicity.bind Multiplicity.count?).getD length

theorem OrderedMap.assign_of_not_mem {α : Type} {key : String} {value : α}
    {entries : List (String × α)} (fresh : key ∉ entries.map Prod.fst) :
    assign key value entries = entries ++ [(key, value)] := by
  induction entries with
  | nil => rfl
  | cons entry entries ih =>
      obtain ⟨other, there⟩ := entry
      rw [List.map_cons, List.mem_cons, not_or] at fresh
      rw [assign, if_neg fun same => fresh.1 same.symm, ih fresh.2, List.cons_append]

/-- The list of a batch is one of the lists that the pipe takes. -/
theorem Pipe.mem_listInputs_of_batch {pipe : Pipe} {branch : String} {batch : Batch}
    (body : pipe.body = .batch branch batch) : batch.list ∈ pipe.listInputs := by
  unfold Pipe.listInputs
  rw [body]
  dsimp only
  split
  · next declared => exact List.contains_iff_mem.1 declared
  · exact List.mem_append_right _ (List.mem_singleton_self _)

namespace Vocabulary

variable {vocabulary : Vocabulary} {pipe : Pipe} {length : Nat} {memory later : WorkingMemory}
variable {entry : String × Requirement}

theorem failsOnly_storeInput (memory : WorkingMemory) (entry : String × Requirement) :
    FailsOnly (ConceptError.LacksClass vocabulary entry.2.concept)
      (vocabulary.storeInput pipe length memory entry) := by
  refine (vocabulary.failsOnly_sampleInput _ _ _).bind fun content made => ?_
  have stuff : Stuff.make entry.1 entry.2.concept content =
      .ok ⟨entry.1, entry.2.concept, content⟩ := Stuff.make_eq_ok.2 ⟨sampleInput_fits made, rfl⟩
  rw [stuff]
  exact .ok _

theorem failsOnly_sampleInputs (vocabulary : Vocabulary) (pipe : Pipe) (length : Nat) :
    FailsOnly (fun error => ∃ entry ∈ pipe.signature.inputs.entries,
      error.LacksClass vocabulary entry.2.concept) (vocabulary.sampleInputs pipe length) :=
  .foldlM (fun memory entry declared => (failsOnly_storeInput memory entry).mono
    fun _ lacks => ⟨entry, declared, lacks⟩) _

/-- What has been made up for a new name stands behind all else. -/
theorem storeInput_sampled (stored : vocabulary.storeInput pipe length memory entry = .ok later)
    (fresh : entry.1 ∉ memory.slots.keys) :
    ∃ slot, later.slots.entries = memory.slots.entries ++ [slot] ∧
      pipe.Sampled length entry slot := by
  obtain ⟨content, sampled, fits, rfl⟩ := storeInput_eq_ok.1 stored
  refine ⟨(entry.1, ⟨entry.1, entry.2.concept, content⟩),
    OrderedMap.assign_of_not_mem fresh, rfl, Stuff.make_eq_ok.2 ⟨fits, rfl⟩, ?_, ?_⟩
  · rw [sampleInput_isList sampled]
    exact List.contains_iff_mem
  · rintro items rfl
    exact sampleInput_length sampled

/-- The induction is on the inputs that are left. Their names are not in the memory yet. -/
theorem storeInputs_sampled {entries : List (String × Requirement)}
    (distinct : (memory.slots.keys ++ entries.map Prod.fst).Nodup)
    (stored : entries.foldlM (vocabulary.storeInput pipe length) memory = .ok later) :
    ∃ slots, later.slots.entries = memory.slots.entries ++ slots ∧
      List.Forall₂ (pipe.Sampled length) entries slots := by
  induction entries generalizing memory with
  | nil =>
      cases stored
      exact ⟨[], (List.append_nil _).symm, .nil⟩
  | cons entry entries ih =>
      rw [List.foldlM_cons] at stored
      obtain ⟨next, here, stored⟩ := except_bind_eq_ok.1 stored
      have fresh : entry.1 ∉ memory.slots.keys := fun member =>
        List.disjoint_of_nodup_append distinct member List.mem_cons_self
      obtain ⟨slot, entered, sampled⟩ := storeInput_sampled here fresh
      have distinct' : (next.slots.keys ++ entries.map Prod.fst).Nodup := by
        have keys : next.slots.keys = memory.slots.keys ++ [entry.1] := by
          rw [OrderedMap.keys, entered, List.map_append, List.map_singleton, sampled.name]
          rfl
        rw [keys, List.append_assoc]
        exact distinct
      obtain ⟨slots, rest, each⟩ := ih distinct' stored
      refine ⟨slot :: slots, ?_, .cons sampled each⟩
      rw [rest, entered, List.append_assoc, List.singleton_append]

theorem sampleInputs_sampled (made : vocabulary.sampleInputs pipe length = .ok memory) :
    List.Forall₂ (pipe.Sampled length) pipe.signature.inputs.entries memory.slots.entries := by
  have distinct : (WorkingMemory.empty.slots.keys ++
      pipe.signature.inputs.entries.map Prod.fst).Nodup := pipe.signature.inputs.distinct
  obtain ⟨slots, entries, each⟩ := storeInputs_sampled distinct made
  rw [entries]
  exact each

/-- Every input is found under its name. -/
theorem find?_sampleInputs (made : vocabulary.sampleInputs pipe length = .ok memory)
    (declared : entry ∈ pipe.signature.inputs.entries) :
    ∃ stuff, memory.find? entry.1 = some stuff ∧ pipe.Sampled length entry (entry.1, stuff) := by
  obtain ⟨⟨name, stuff⟩, member, sampled⟩ :=
    exists_left_of_forall₂ (sampleInputs_sampled made).flip declared
  obtain rfl : name = entry.1 := sampled.name
  refine ⟨stuff, ?_, sampled⟩
  rw [WorkingMemory.find?, OrderedMap.get?_eq_some.2 member]

/-- The list of a batch is there, and it is a list. -/
theorem getList_sampleInputs {branch : String} {batch : Batch}
    (made : vocabulary.sampleInputs pipe length = .ok memory)
    (body : pipe.body = .batch branch batch) (declared : batch.list ∈ pipe.signature.inputs.keys) :
    ∃ list items, memory.getList batch.list = .ok (list, items) := by
  obtain ⟨entry, member, named⟩ := List.mem_map.1 declared
  obtain ⟨stuff, found, sampled⟩ := find?_sampleInputs made member
  have isList := sampled.listed.2 (named ▸ Pipe.mem_listInputs_of_batch body)
  obtain ⟨items, content⟩ := Content.exists_items isList
  exact ⟨stuff, items, WorkingMemory.getList_eq_ok.2 ⟨named ▸ found, content⟩⟩

end Vocabulary

/-- The causes that lie in what the pipe is given. An input is missing, or it is of a concept that
may not flow there, or a list that the pipe goes through, and declares, is not there or is none. -/
inductive Cause.OfInputs (pipe : Pipe) : Cause → Prop
  | missingInputs (code : String) (names : List String) : OfInputs pipe (.missingInputs code names)
  | pretendedInputs (code : String) (names : List String) :
      OfInputs pipe (.dryRun (.missingInputs code names))
  | inputMismatch (code input expected found : String) :
      OfInputs pipe (.inputMismatch code input expected found)
  | list {branch : String} {batch : Batch} (body : pipe.body = .batch branch batch)
      (declared : batch.list ∈ pipe.signature.inputs.keys) (error : MemoryError) :
      OfInputs pipe (.memory error)

/-- It is told where the failure was. If no other pipe was under way there, then the failure does
not lie in what this one was given. -/
def RunError.SparesInputs (pipe : Pipe) (error : RunError) : Prop :=
  ∃ context cause, error = .located context (.ofCause cause) ∧
    (context.stack = [pipe.code] → ¬ cause.OfInputs pipe)

theorem RunError.SparesInputs.annotate {pipe : Pipe} (cause : Cause)
    (other : ¬ cause.OfInputs pipe) (context : Context) :
    ((RunError.ofCause cause).annotate context).SparesInputs pipe :=
  ⟨context, cause, rfl, fun _ => other⟩

/-- A pipe that was called from this one is not the only one under way. -/
theorem RunError.Tells.sparesInputs {library : Library} {pipe callee : Pipe} {params : Params}
    {error : RunError} (tells : error.Tells library callee params [pipe.code]) :
    error.SparesInputs pipe := by
  cases tells with
  | @overflow context path mode full path' told => exact ⟨context, _, rfl, fun _ => nofun⟩
  | @inside context cause path mode other calls told last =>
      refine ⟨context, cause, rfl, fun alone => ?_⟩
      rw [alone, List.self_eq_append_right] at told
      exact absurd told calls.ne_nil

namespace Library

open Run

variable {library : Library} {runner : Runner} {pipe : Pipe} {memory : WorkingMemory}
variable {params : Params} {output : Option String} {length : Nat} {stack : PipeStack}
variable {bad : RunError → Prop}

/-- What has been made up passes the check of the inputs. -/
theorem checkInputs_sampleInputs (made : library.vocabulary.sampleInputs pipe length = .ok memory)
    (params : Params) : checkInputs pipe memory params = .ok () := by
  refine checkInputs_eq_ok.2 fun entry declared => checkInput_eq_ok.2 ?_
  obtain ⟨stuff, found, sampled⟩ := Vocabulary.find?_sampleInputs made declared
  obtain ⟨-, made⟩ := Stuff.make_eq_ok.1 sampled.made
  have concept : stuff.concept = entry.2.concept := congrArg Stuff.concept made
  refine ⟨stuff, found, ?_⟩
  rw [concept, Concept.isCompatible_self, Bool.or_true]

/-- The body of a pipe does not fail because of what has been made up for it. -/
theorem meets_runBody_sampled (made : library.vocabulary.sampleInputs pipe length = .ok memory)
    (fault : ∀ cause : Cause, ¬ cause.OfInputs pipe → bad (.ofCause cause))
    (serves : ∀ code multiplicity, pipe.Calls params code multiplicity →
      library.Serves .trivial runner params stack bad code multiplicity) :
    Meets stack (fun _ => True) bad (library.runBody runner pipe memory params output) := by
  by_cases listed : ∃ branch batch, pipe.body = .batch branch batch ∧
      batch.list ∈ pipe.signature.inputs.keys
  · obtain ⟨branch, batch, body, declared⟩ := listed
    obtain ⟨list, items, found⟩ := Vocabulary.getList_sampleInputs made body declared
    have serves := serves branch none (.batch body)
    rw [runBody, body]
    refine (meets_get serves).bind fun callee known => ?_
    have fanned : Meets stack (fun _ => True) bad (fanOut runner callee memory
        (params.forCallee none) batch (pipe.signature.resultName output)) :=
      meets_fanOut_of_list (fun error => fault (.concept error) (by rintro ⟨⟩)) found fun memory =>
        serves.found callee known memory none
    exact fanned.bind fun _ _ => .pure trivial
  · have ofBody : ∀ cause : Cause, cause.OfBody → bad (.ofCause cause) := by
      refine fun cause h => fault cause fun ofInputs => ?_
      cases ofInputs with
      | list body declared error => exact listed ⟨_, _, body, declared⟩
      | _ => cases h with | work h => cases h
    exact (meets_runBody ofBody serves fun _ _ => trivial).mono_good fun _ _ => trivial

theorem meets_run_sampled (made : library.vocabulary.sampleInputs pipe length = .ok memory) :
    Meets [] (fun _ => True) (RunError.SparesInputs pipe)
      (library.run pipe memory params output) := by
  rw [run_eq_framed]
  refine .framed (fun _ => .annotate (.stackOverflow _ _) (by rintro ⟨⟩) _) fun room => ?_
  have serves : ∀ code multiplicity, pipe.Calls params code multiplicity →
      library.Serves .trivial library.run params [pipe.code]
        (fun error => (error.annotate (contextOf pipe params output [pipe.code])).SparesInputs pipe)
        code multiplicity := by
    refine fun code multiplicity _ => ⟨fun _ => .annotate (.pipeNotFound code) (by rintro ⟨⟩) _,
      fun callee _ memory output => ?_⟩
    have called := library.annotated.meets_run callee memory (params.forCallee multiplicity) output
      [pipe.code] trivial
    refine called.consequence (fun _ _ => ⟨trivial, trivial⟩) fun error tells => ?_
    have tells := tells room
    rw [tells.annotate_eq]
    exact tells.sparesInputs
  rw [execute, checkInputs_sampleInputs made]
  have ran : Meets [pipe.code] (fun _ => True)
      (fun error => (error.annotate (contextOf pipe params output [pipe.code])).SparesInputs pipe)
      (library.runBody library.run pipe memory params output) :=
    meets_runBody_sampled made (fun cause other => .annotate cause other _) serves
  refine ran.bind fun product _ => ?_
  refine .bind (.require (fun _ _ => trivial) fun cause failed => ?_) fun _ _ => ?_
  · rw [checkOutput_eq_error failed]
    exact .annotate (.outputMismatch _ _ _) (by rintro ⟨⟩) _
  · rw [conclude_eq]
    exact .pure trivial

/-- Only the lack of a class keeps inputs from being made up. What is made up stands in slots of the
declared names, in the order of the declaration. Each is a stuff that can be made for the declared
concept, and a list if the pipe takes a list there, with as many items as are declared, or else as
many as are asked for. So it passes the check of the inputs. When a dry run fails nevertheless, then
at another pipe further up, or for a reason that does not lie in the inputs. In particular it does
not fail because the list of a batch, if that is declared, is none. -/
theorem dryRun_spares_inputs (library : Library) (pipe : Pipe) :
    (∀ length, FailsOnly (fun error => ∃ className, error = .classNotFound className)
      (library.vocabulary.sampleInputs pipe length)) ∧
    (∀ length memory, library.vocabulary.sampleInputs pipe length = .ok memory →
      List.Forall₂ (pipe.Sampled length) pipe.signature.inputs.entries memory.slots.entries ∧
        ∀ params, checkInputs pipe memory params = .ok ()) ∧
    ∀ config state final error, state.stack = [] →
      library.dryRun config pipe state = (.error error, final) →
      (∃ className, error = .ofCause (.concept (.classNotFound className))) ∨
        error.SparesInputs pipe := by
  have lacking : ∀ length, FailsOnly (fun error => ∃ className, error = .classNotFound className)
      (library.vocabulary.sampleInputs pipe length) := fun length =>
    (library.vocabulary.failsOnly_sampleInputs pipe length).mono fun error lacks => by
      obtain ⟨entry, -, className, -, rfl⟩ := lacks
      exact ⟨className, rfl⟩
  refine ⟨lacking, fun length memory made =>
    ⟨Vocabulary.sampleInputs_sampled made, checkInputs_sampleInputs made⟩, ?_⟩
  intro config state final error fresh fails
  rw [dryRun] at fails
  cases made : library.vocabulary.sampleInputs pipe config.dryListLength with
  | error fault =>
      rw [made] at fails
      cases fails
      obtain ⟨className, rfl⟩ := lacking _ fault made
      exact .inl ⟨className, rfl⟩
  | ok memory =>
      rw [made] at fails
      exact .inr ((meets_run_sampled made).error fresh fails)

/-- Three lines are made up for the pipe that shouts all lines. Its dry run fails nevertheless, for
the pipe that shouts a line has not been written. -/
theorem shout_all_spares_inputs : ∃ memory error final,
    Sample.unfinished.vocabulary.sampleInputs Sample.shoutAll 3 = .ok memory ∧
      List.Forall₂ (Sample.shoutAll.Sampled 3) Sample.shoutAll.signature.inputs.entries
        memory.slots.entries ∧
      Sample.unfinished.dryRun .standard Sample.shoutAll .initial = (.error error, final) ∧
      error.cause = .pipeNotFound "shout" ∧ error.SparesInputs Sample.shoutAll := by
  obtain ⟨memory, made⟩ : ∃ memory,
      Sample.unfinished.vocabulary.sampleInputs Sample.shoutAll 3 = .ok memory := ⟨_, rfl⟩
  obtain ⟨error, final, fails, cause⟩ : ∃ error final,
      Sample.unfinished.dryRun .standard Sample.shoutAll .initial = (.error error, final) ∧
        error.cause = .pipeNotFound "shout" := ⟨_, _, rfl, rfl⟩
  obtain ⟨-, fit, spares⟩ := dryRun_spares_inputs Sample.unfinished Sample.shoutAll
  refine ⟨memory, error, final, made, (fit 3 memory made).1, fails, cause, ?_⟩
  obtain ⟨className, rfl⟩ | spared := spares .standard .initial final error rfl fails
  · cases cause
  · exact spared

end Library

end Conduit
