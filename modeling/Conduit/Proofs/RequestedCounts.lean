import Conduit.Proofs.DryRun.Inputs
import Conduit.Proofs.Run.Jobs
import Conduit.Proofs.Vocabulary.Frame

/-!
# How many things are asked for

What a pipe declares and what its caller wants instead come to one demand. It is read in four
places: by the job for a language model, by the job for an image, where the answer is brought in
line with what is wanted, and where a dry run makes something up. Whether several things are wanted,
and how many, are two parts of the demand, and not every place reads both.

They agree all the same, with one exception. A declared count of zero stands for one thing, and yet
it is said as a count.
-/

namespace Conduit

namespace Sample

/-- A bundle with two pipes that ask a model. One wants no lines at all. The other one wants two
notes, and nobody has said what the author of a note is. -/
def notebook : Bundle where
  domain := "demo"
  definition := none
  concepts := .ofList [("Note", declared "A note" [("author", .record "Author")])]
  pipes := .ofList
    [("line", { definition := "Write no line", inputs := ∅, output := "Text", count := some 0
                many := none, body := .prompt "Write a line" none }),
     ("notes", { definition := "Write two notes", inputs := ∅, output := "Note", count := some 2
                 many := none, body := .prompt "Write two notes" none })]

def noLine : Pipe where
  signature :=
    { domain := "demo", code := "line", definition := "Write no line"
      inputs := ∅, output := text, multiplicity := some (.count 0) }
  body := .prompt ⟨"Write a line", none⟩

def twoNotes : Pipe where
  signature :=
    { domain := "demo", code := "notes", definition := "Write two notes", inputs := ∅
      output := ⟨"demo", "Note", "A note", "Note", none⟩, multiplicity := some (.count 2) }
  body := .prompt ⟨"Write two notes", none⟩

/-- The bundle is loaded, and the model answers in one way. -/
def desktop : Library where
  vocabulary := (Vocabulary.initial.load "demo" notebook.concepts).2
  pipes := [noLine, twoNotes]
  collaborators := { collaborators with generator := some fun _ _ => .ok (.text "Dear all") }

/-- A live run whose caller wants two things. -/
def twice : Params := { live 1 with multiplicity := some (.count 2) }

end Sample

namespace Job

/-- The job asks for one thing. -/
def AsksForOne : Job → Prop
  | text job | object job => job.many = false ∧ job.count = none
  | image _ _ count => count = 1
  | extract .. => False

/-- The job asks for several things, and says how many. -/
def AsksFor (n : Nat) : Job → Prop
  | text job | object job => job.many = true ∧ job.count = some n
  | image _ _ count => 1 < n ∧ count = n
  | extract .. => False

/-- The job tells what is wanted, as far as it has a place for it. -/
def States (demand : Demand) : Job → Prop
  | text job | object job => job.many = demand.many ∧ job.count = demand.count
  | image _ _ count => count = demand.count.getD 1
  | extract .. => False

end Job

/-- Several things are wanted, and it is said how many. -/
def Demand.AsksFor (n : Nat) (demand : Demand) : Prop :=
  demand.many = true ∧ demand.count = some n

/-- The content is a list of so many items. -/
def Content.Lists (n : Nat) (content : Content) : Prop :=
  ∃ items, content = .list items ∧ items.length = n

/-- The pipe asks the generator, for what a model writes or for images. -/
def PipeBody.AsksModel : PipeBody → Prop
  | prompt _ | image _ => True
  | _ => False

theorem PipeBody.AsksModel.makesContent {body : PipeBody} (asks : body.AsksModel) :
    body.MakesContent := by
  cases body <;> trivial

/-- What is wanted of a pipe with these parameters. -/
def Pipe.demand (pipe : Pipe) (params : Params) : Demand :=
  .resolve pipe.signature.multiplicity params.multiplicity

namespace Demand

variable {declared override : Option Multiplicity} {n : Nat}

/-- Where one thing is wanted, a count is said only if it is a declared zero. -/
theorem resolve_count_of_one (one : (resolve declared override).many = false) :
    (resolve declared override).count = none ∨
      declared = some (.count 0) ∧ override = none ∧
        (resolve declared override).count = some 0 := by
  rcases override with _ | (_ | _) | n
  · rcases declared with _ | many | count
    · exact .inl rfl
    · exact .inl rfl
    · have zero : count = 0 := Nat.eq_zero_of_not_pos (of_decide_eq_false one)
      subst zero
      exact .inr ⟨rfl, rfl, rfl⟩
  · exact .inl rfl
  · rcases declared with _ | many | count
    · cases one
    · cases one
    · cases one
  · cases one

/-- A count that is not zero is said only where several things are wanted. -/
theorem resolve_many_of_count (said : (resolve declared override).count = some n)
    (positive : 0 < n) : (resolve declared override).many = true := by
  by_contra one
  rcases resolve_count_of_one (Bool.eq_false_iff.2 one) with none | ⟨-, -, zero⟩
  · cases said.symm.trans none
  · cases said.symm.trans zero
    exact Nat.lt_irrefl 0 positive

end Demand

/-- The pipe declares a count of zero, and its caller wants nothing else. -/
def Pipe.LeavesZero (pipe : Pipe) (params : Params) : Prop :=
  pipe.signature.multiplicity = some (.count 0) ∧ params.multiplicity = none

namespace Job.States

variable {job : Job} {demand : Demand} {n : Nat}

/-- What a job asks for is what is wanted. -/
theorem asksFor {declared override : Option Multiplicity}
    (states : job.States (.resolve declared override)) (asks : job.AsksFor n) :
    (Demand.resolve declared override).AsksFor n := by
  cases job with
  | text job => exact ⟨states.1.symm.trans asks.1, states.2.symm.trans asks.2⟩
  | object job => exact ⟨states.1.symm.trans asks.1, states.2.symm.trans asks.2⟩
  | image pipe words count =>
      obtain ⟨several, rfl⟩ := asks
      have said : (Demand.resolve declared override).count = some count := by
        cases wanted : (Demand.resolve declared override).count with
        | none =>
            rw [States, wanted] at states
            subst states
            exact absurd several (Nat.lt_irrefl 1)
        | some other =>
            rw [States, wanted] at states
            rw [states, Option.getD_some]
      exact ⟨Demand.resolve_many_of_count said (Nat.lt_trans Nat.zero_lt_one several), said⟩
  | extract => cases asks

theorem asksForOne (states : job.States demand) (one : demand.many = false)
    (none : demand.count = none) : job.AsksForOne := by
  cases job with
  | text job => exact ⟨states.1.trans one, states.2.trans none⟩
  | object job => exact ⟨states.1.trans one, states.2.trans none⟩
  | image pipe words count =>
      rw [States, none] at states
      exact states
  | extract => exact states

end Job.States

namespace Vocabulary

variable {vocabulary : Vocabulary} {signature : Signature} {override : Option Multiplicity}
variable {length : Nat} {content : Content}

theorem sampleOutput_fits
    (made : vocabulary.sampleOutput signature override length = .ok content) :
    Stuff.misfit? signature.output content = none := by
  unfold sampleOutput at made
  dsimp only at made
  split at made
  · exact sampleList_fits made
  · exact sample_fits made

/-- Where several things are wanted and it is said how many, so many are made up. -/
theorem sampleOutput_lists {n : Nat}
    (many : (Demand.resolve signature.multiplicity override).many = true)
    (said : (Demand.resolve signature.multiplicity override).count = some n)
    (made : vocabulary.sampleOutput signature override length = .ok content) : content.Lists n := by
  obtain ⟨items, rfl⟩ := Content.exists_items ((sampleOutput_isList made).trans many)
  unfold sampleOutput at made
  dsimp only at made
  rw [if_pos many, said] at made
  exact ⟨items, rfl, sampleList_length made⟩

end Vocabulary

namespace Library

open Run

variable {library : Library} {pipe : Pipe} {memory memory' : WorkingMemory}
variable {params dry : Params} {output : Option String} {state state' final : RunState}
variable {draft : Run Job} {job : Job} {n : Nat}

/-- How a pipe comes to the job with which it asks the generator. -/
def drafting (library : Library) (pipe : Pipe) (memory : WorkingMemory) (demand : Demand) :
    Option (Run Job) :=
  match pipe.body with
  | .prompt prompt => some do
    let words ← library.render memory prompt.template
    let images ← library.attachments memory pipe.signature.inputs.entries
    return modelJob pipe.signature prompt.system demand words images
  | .image prompt => some do
    let words ← library.imageWords memory prompt
    return .image pipe.code words (demand.count.getD 1)
  | _ => none

theorem exists_drafting (library : Library) (asks : pipe.body.AsksModel) (memory : WorkingMemory)
    (demand : Demand) : ∃ draft, library.drafting pipe memory demand = some draft := by
  rw [drafting]
  cases body : pipe.body <;> rw [body] at asks <;> first | exact ⟨_, rfl⟩ | cases asks

theorem idle_drafting {demand : Demand}
    (known : library.drafting pipe memory demand = some draft) : Idle draft := by
  unfold drafting at known
  split at known
  · cases known
    exact (Idle.require _ _).bind fun _ => idle_attachments.bind fun _ => .pure _
  · cases known
    exact idle_imageWords.bind fun _ => .pure _
  · cases known

/-- The job does not depend on who answers it. -/
theorem Peer.drafting_eq {library' : Library} (peer : library.Peer library') (demand : Demand) :
    library'.drafting pipe memory demand = library.drafting pipe memory demand := by
  rw [drafting, drafting]
  cases pipe.body with
  | prompt prompt => simp only [peer.render_eq, peer.attachments_eq]
  | image prompt =>
      cases prompt with
      | template source => simp only [imageWords, peer.render_eq]
      | input name => rfl
  | _ => rfl

/-- The drafted job is put to the generator, or else, in a dry run, an answer is made up. -/
theorem work?_of_drafting (known : library.drafting pipe memory (pipe.demand params) = some draft) :
    library.work? pipe memory params output = some (draft >>= fun job =>
      if params.isDry then library.pretend pipe.signature params output
      else library.obtain pipe.signature output (pipe.demand params).many job) := by
  unfold drafting at known
  unfold work?
  split at known <;> cases known <;> rename_i body <;> simp only [body, bind_assoc]
  · rfl
  · rfl

/-- The job tells what is wanted. -/
theorem states_of_drafting {demand : Demand}
    (known : library.drafting pipe memory demand = some draft)
    (drafted : draft state = (.ok job, final)) : job.States demand := by
  unfold drafting at known
  split at known
  · cases known
    obtain ⟨words, _, -, drafted⟩ := bind_eq_ok.1 drafted
    obtain ⟨images, _, -, made⟩ := bind_eq_ok.1 drafted
    cases made
    dsimp only [modelJob]
    split <;> exact ⟨rfl, rfl⟩
  · cases known
    obtain ⟨words, _, -, made⟩ := bind_eq_ok.1 drafted
    cases made
    rfl
  · cases known

/-- The same library, with a generator that knows one answer. -/
def answering (library : Library) (answer : Content) : Library :=
  { library with collaborators :=
      { library.collaborators with generator := some fun _ _ => .ok answer } }

theorem peer_answering (library : Library) (answer : Content) :
    library.Peer (library.answering answer) :=
  ⟨rfl, rfl, rfl⟩

theorem obtain_answering {signature : Signature} {many : Bool} {answer : Content} :
    (library.answering answer).obtain signature output many job state = (do
      let content ← Run.require Cause.collaborator (shape signature.code many answer)
      signature.produce output content)
        { state with journal := state.journal ++ [Request.job job] } :=
  rfl

/-- The run requires a single answer: whenever it is given a list, it fails for that reason. -/
def RefusesLists (library : Library) (pipe : Pipe) (memory : WorkingMemory) (params : Params)
    (output : Option String) (state : RunState) : Prop :=
  ∀ items, ∃ error final,
    (library.answering (.list items)).run pipe memory params output state = (.error error, final) ∧
      error.cause = .collaborator (.listForOne pipe.code)

/-- The pipe has found its place and its inputs, and is about to ask the generator this. -/
structure Poses (library : Library) (pipe : Pipe) (memory : WorkingMemory) (params : Params)
    (state : RunState) (job : Job) : Prop where
  room : state.stack.length < params.limit
  checked : checkInputs pipe memory params = .ok ()
  drafted : library.drafting pipe memory (pipe.demand params) = some (pure job)

/-- A live run that has asked the generator was about to do so. -/
theorem exists_poses (asks : pipe.body.AsksModel) (live : params.isDry = false)
    (sent : (library.run pipe memory params output state).2.jobs ≠ state.jobs) :
    ∃ job, library.Poses pipe memory params state job ∧
      (library.run pipe memory params output state).2.jobs = state.jobs ++ [job] := by
  obtain ⟨draft, known⟩ := library.exists_drafting asks memory (pipe.demand params)
  have work : library.work? pipe memory params output = _ := work?_of_drafting known
  have room : state.stack.length < params.limit := by
    by_contra full
    rw [run_eq_framed, framed_full (Nat.not_lt.1 full)] at sent
    exact sent rfl
  have checked : checkInputs pipe memory params = .ok () := by
    cases passed : checkInputs pipe memory params with
    | ok _ => rfl
    | error cause =>
        have executed : library.execute library.run pipe memory params output
            (state.enter pipe.code) = (.error (.ofCause cause), state.enter pipe.code) := by
          rw [execute, passed]
          rfl
        rw [run_eq_framed, framed_error room executed] at sent
        exact absurd rfl sent
  obtain ⟨result, rfl⟩ := idle_drafting known
  cases result with
  | error cause =>
      have failed : library.runBody library.run pipe memory params output
          (state.enter pipe.code) = (.error (.ofCause cause), state.enter pipe.code) := by
        rw [runBody_of_work work]
        rfl
      rw [run_eq_error room checked failed] at sent
      exact absurd rfl sent
  | ok job =>
      refine ⟨job, ⟨room, checked, known⟩, ?_⟩
      have asksOnce : AsksOnce (· = job) (library.run pipe memory params output) := by
        refine asksOnce_run_of_work work ?_
        rw [live]
        exact asksOnce_obtain
      rcases asksOnce state with none | ⟨_, rfl, asked⟩
      · exact absurd none sent
      · exact asked

namespace Poses

theorem states (poses : library.Poses pipe memory params state job) :
    job.States (pipe.demand params) :=
  states_of_drafting poses.drafted (pure_apply job state)

theorem runBody_eq (poses : library.Poses pipe memory params state job) (runner : Runner) :
    library.runBody runner pipe memory params output = working memory
      (if params.isDry then library.pretend pipe.signature params output
      else library.obtain pipe.signature output (pipe.demand params).many job) :=
  runBody_of_work (work?_of_drafting poses.drafted)

/-- The question depends on the demand, and not on the mode. -/
theorem of_demand (poses : library.Poses pipe memory params state job)
    (same : dry.multiplicity = params.multiplicity) (room : state'.stack.length < dry.limit) :
    library.Poses pipe memory dry state' job where
  room := room
  checked := checkInputs_eq_ok.2 (checkInputs_eq_ok.1 poses.checked)
  drafted := by
    rw [Pipe.demand, same]
    exact poses.drafted

/-- Nor does it depend on what the generator answers. -/
theorem answering (poses : library.Poses pipe memory params state job) (answer : Content) :
    (library.answering answer).Poses pipe memory params state job :=
  ⟨poses.room, poses.checked, ((library.peer_answering answer).drafting_eq _).trans poses.drafted⟩

/-- What the pipe has made passes the check of its output, and so the run succeeds. -/
theorem run_ok {stuff : Stuff} {inner : RunState}
    (poses : library.Poses pipe memory params state job)
    (made : (if params.isDry then library.pretend pipe.signature params output
      else library.obtain pipe.signature output (pipe.demand params).many job)
        (state.enter pipe.code) = (.ok stuff, inner)) :
    library.run pipe memory params output state =
      (.ok ⟨memory.storeMain (output.getD stuff.name) stuff,
        stuff.rename (output.getD stuff.name)⟩, inner.leave pipe.code) := by
  have work : library.work? pipe memory params output = some _ := work?_of_drafting poses.drafted
  have makes : Meets (state.enter pipe.code).stack
      (library.Makes pipe.signature params output) (fun _ => True) _ :=
    meets_work (fun _ _ => trivial) work
  have concept : stuff.concept = pipe.signature.output := (makes.ok rfl made).concept
  refine run_eq_ok.2 ⟨poses.room, poses.checked, ⟨memory, stuff⟩, inner, ?_, ?_, rfl, rfl⟩
  · rw [poses.runBody_eq]
    exact bind_ok made
  · rw [concept]
    exact checkOutput_declared pipe

/-- Where lists are refused, one thing is wanted. -/
theorem one_of_refuses (poses : library.Poses pipe memory params state job)
    (live : params.isDry = false)
    (refuses : library.RefusesLists pipe memory params output state) :
    (pipe.demand params).many = false := by
  by_contra several
  rw [Bool.not_eq_false] at several
  obtain ⟨error, final, fails, -⟩ := refuses []
  have fits : Stuff.misfit? pipe.signature.output (.list []) = none :=
    Stuff.misfit?_list_eq_none (List.forall_mem_nil _)
  have made : Stuff.make (pipe.signature.resultName output) pipe.signature.output (.list []) =
      .ok ⟨pipe.signature.resultName output, pipe.signature.output, .list []⟩ :=
    Stuff.make_eq_ok.2 ⟨fits, rfl⟩
  obtain ⟨inner, answered⟩ : ∃ inner, (library.answering (.list [])).obtain pipe.signature output
      (pipe.demand params).many job (state.enter pipe.code) =
        (.ok ⟨pipe.signature.resultName output, pipe.signature.output, .list []⟩, inner) := by
    rw [obtain_answering, several]
    exact ⟨_, require_eq_ok.2 ⟨made, rfl⟩⟩
  have ran := (poses.answering (.list [])).run_ok (by rw [live]; exact answered)
  cases fails.symm.trans ran

/-- A dry run finds its place and its inputs like a live one. Nothing but the lack of a class keeps
it from making up what is wanted. -/
theorem run_dry (poses : library.Poses pipe memory dry state job) (isDry : dry.isDry = true) :
    (∃ given final, library.run pipe memory dry output state = (.ok given, final)) ∨
      ∃ error final className, library.run pipe memory dry output state = (.error error, final) ∧
        error.cause = .concept (.classNotFound className) := by
  cases made : library.vocabulary.sampleOutput pipe.signature dry.multiplicity dry.listLength with
  | ok content =>
      have pretended : library.pretend pipe.signature dry output (state.enter pipe.code) =
          (.ok ⟨pipe.signature.resultName output, pipe.signature.output, content⟩,
            state.enter pipe.code) := by
        rw [pretend, made]
        have fits := Vocabulary.sampleOutput_fits made
        exact require_eq_ok.2 ⟨Stuff.make_eq_ok.2 ⟨fits, rfl⟩, rfl⟩
      exact .inl ⟨_, _, poses.run_ok (by rw [if_pos isDry]; exact pretended)⟩
  | error error =>
      have pretended : library.pretend pipe.signature dry output (state.enter pipe.code) =
          (.error (.ofCause (.concept error)), state.enter pipe.code) := by
        rw [pretend, made]
        rfl
      have failed : library.runBody library.run pipe memory dry output (state.enter pipe.code) =
          (.error (.ofCause (.concept error)), state.enter pipe.code) := by
        rw [poses.runBody_eq, if_pos isDry]
        exact bind_error pretended
      obtain ⟨className, -, rfl⟩ := Vocabulary.failsOnly_sampleOutput _ _ _ _ error made
      exact .inr ⟨_, _, className, run_eq_error poses.room poses.checked failed, rfl⟩

end Poses

/-- What a dry run gives has been made up. -/
theorem run_dry_made {given : Output} (asks : pipe.body.AsksModel) (isDry : dry.isDry = true)
    (ran : library.run pipe memory dry output state = (.ok given, final)) :
    library.vocabulary.sampleOutput pipe.signature dry.multiplicity dry.listLength =
      .ok given.main.content := by
  obtain ⟨draft, drafted⟩ := library.exists_drafting asks memory (pipe.demand dry)
  obtain ⟨work, stuff, inner, known, worked, content⟩ := run_content asks.makesContent ran
  rw [work?_of_drafting drafted] at known
  cases known
  obtain ⟨job, _, -, pretended⟩ := bind_eq_ok.1 worked
  rw [if_pos isDry] at pretended
  obtain ⟨made, _, sampled, produced⟩ := bind_eq_ok.1 pretended
  rw [content, produce_content produced]
  exact (require_eq_ok.1 sampled).1

/-- A live run asks the generator once, if at all. If it then requires a single answer, the job asks
for one thing, unless a declared zero holds. In that case the job for a language model asks for one
thing as well, and says the zero. If the job asks for several things and says how many, or if that
is what is wanted of the pipe, then every dry run for the same caller that succeeds gives a list of
so many. On the memory of the live run it does succeed, unless a class is missing that it takes to
make something up. -/
theorem run_counts (asks : pipe.body.AsksModel) (live : params.isDry = false)
    (sent : (library.run pipe memory params output state).2.jobs ≠ state.jobs) :
    ∃ job, (library.run pipe memory params output state).2.jobs = state.jobs ++ [job] ∧
      (library.RefusesLists pipe memory params output state →
        (¬ pipe.LeavesZero params → job.AsksForOne) ∧
        (pipe.LeavesZero params → ∀ model, job = .text model ∨ job = .object model →
          model.many = false ∧ model.count = some 0)) ∧
      ∀ n, job.AsksFor n ∨ (pipe.demand params).AsksFor n →
        ∀ dry : Params, dry.isDry = true → dry.multiplicity = params.multiplicity →
          (∀ memory' output' state' given final,
            library.run pipe memory' dry output' state' = (.ok given, final) →
              given.main.content.Lists n) ∧
          ∀ output' state', state'.stack.length < dry.limit →
            (∃ given final, library.run pipe memory dry output' state' = (.ok given, final)) ∨
              ∃ error final className,
                library.run pipe memory dry output' state' = (.error error, final) ∧
                  error.cause = .concept (.classNotFound className) := by
  obtain ⟨job, poses, asked⟩ := exists_poses asks live sent
  have states := poses.states
  refine ⟨job, asked, fun refuses => ?_, fun n several dry isDry same => ?_⟩
  · have one := poses.one_of_refuses live refuses
    have said := Demand.resolve_count_of_one one
    constructor
    · intro other
      rcases said with none | ⟨declared, override, -⟩
      · exact states.asksForOne one none
      · exact absurd ⟨declared, override⟩ other
    · rintro ⟨declared, override⟩ model kind
      have demand : pipe.demand params = ⟨some (.count 0), false, some 0⟩ := by
        rw [Pipe.demand, declared, override]
        rfl
      rw [demand] at states
      rcases kind with rfl | rfl
      · exact states
      · exact states
  · have wanted : (pipe.demand params).AsksFor n := several.elim states.asksFor id
    rw [Pipe.demand, ← same] at wanted
    constructor
    · intro memory' output' state' given final ran
      exact Vocabulary.sampleOutput_lists wanted.1 wanted.2 (run_dry_made asks isDry ran)
    · intro output' state' room
      exact (poses.of_demand same room).run_dry isDry

/-- The model of the office is asked for one line, as a list would be refused. When two lines are
wanted it is asked for two, and a dry run gives two. -/
theorem office_counts :
    (∃ job, Sample.openOffice.RefusesLists Sample.write .empty (Sample.live 1) none .initial ∧
      (Sample.openOffice.run Sample.write .empty (Sample.live 1) none .initial).2.jobs = [job] ∧
      job.AsksForOne) ∧
    ∃ job given final,
      (Sample.openOffice.run Sample.write .empty Sample.twice none .initial).2.jobs = [job] ∧
      job.AsksFor 2 ∧
      Sample.openOffice.run Sample.write .empty { Sample.twice with mode := .dry } none .initial =
        (.ok given, final) ∧
      given.main.content.Lists 2 := by
  have asks : Sample.write.body.AsksModel := trivial
  constructor
  · have sent : (Sample.openOffice.run Sample.write .empty (Sample.live 1) none .initial).2.jobs ≠
        RunState.initial.jobs := List.cons_ne_nil _ _
    obtain ⟨job, asked, single, -⟩ := run_counts asks rfl sent
    have refuses : Sample.openOffice.RefusesLists Sample.write .empty (Sample.live 1) none
        .initial := fun _ => ⟨_, _, rfl, rfl⟩
    exact ⟨job, refuses, asked, (single refuses).1 nofun⟩
  · have sent : (Sample.openOffice.run Sample.write .empty Sample.twice none .initial).2.jobs ≠
        RunState.initial.jobs := List.cons_ne_nil _ _
    obtain ⟨job, asked, -, several⟩ := run_counts asks rfl sent
    have two : job.AsksFor 2 := by
      cases asked
      exact ⟨rfl, rfl⟩
    obtain ⟨given, final, pretended⟩ : ∃ given final,
        Sample.openOffice.run Sample.write .empty { Sample.twice with mode := .dry } none .initial =
          (.ok given, final) := ⟨_, _, rfl⟩
    have lists := (several 2 (.inl two) { Sample.twice with mode := .dry } rfl rfl).1
    exact ⟨job, given, final, asked, two, pretended, lists _ _ _ _ _ pretended⟩

/-- Where no lines are wanted, the model is asked for one line, as a list would be refused, and is
told the zero nevertheless. Where two notes are wanted it is asked for two, but a dry run gives
none, for it cannot make up their authors. -/
theorem notebook_counts :
    ∃ one two : ModelJob, Sample.desktop.Loaded ∧
      Sample.desktop.find? "line" = some Sample.noLine ∧
      Sample.desktop.RefusesLists Sample.noLine .empty (Sample.live 1) none .initial ∧
      (Sample.desktop.run Sample.noLine .empty (Sample.live 1) none .initial).2.jobs =
        [.text one] ∧
      ¬ (Job.text one).AsksForOne ∧
      Sample.desktop.find? "notes" = some Sample.twoNotes ∧
      (Sample.desktop.run Sample.twoNotes .empty (Sample.live 1) none .initial).2.jobs =
        [.object two] ∧
      (Job.object two).AsksFor 2 ∧
      ∀ given final,
        Sample.desktop.run Sample.twoNotes .empty (Sample.dry 1) none .initial ≠
          (.ok given, final) := by
  have accepted : (Library.initial Sample.desktop.collaborators).load Sample.notebook =
      .ok Sample.desktop := rfl
  obtain ⟨one, asked, zero⟩ : ∃ one : ModelJob,
      (Sample.desktop.run Sample.noLine .empty (Sample.live 1) none .initial).2.jobs =
        [.text one] ∧ one.count = some 0 := ⟨_, rfl, rfl⟩
  obtain ⟨two, asked', several⟩ : ∃ two : ModelJob,
      (Sample.desktop.run Sample.twoNotes .empty (Sample.live 1) none .initial).2.jobs =
        [.object two] ∧ (Job.object two).AsksFor 2 := ⟨_, rfl, rfl, rfl⟩
  refine ⟨one, two, .load (.initial _) accepted, rfl, fun _ => ⟨_, _, rfl, rfl⟩, asked, ?_, rfl,
    asked', several, ?_⟩
  · rintro ⟨-, none⟩
    cases zero.symm.trans none
  · intro given final ran
    have asks : Sample.twoNotes.body.AsksModel := trivial
    obtain ⟨note, sampled, -⟩ := except_map_eq_ok.1 (run_dry_made asks rfl ran)
    obtain ⟨value, made, -⟩ := except_map_eq_ok.1 sampled
    have author : Sample.desktop.vocabulary.registry.LeadsTo "Note" "Author" :=
      ⟨_, rfl, .record "Author", List.mem_singleton_self _, rfl⟩
    cases Registry.sample_succeeds.1 ⟨value, made⟩ "Author" (.single author)

end Library

end Conduit
