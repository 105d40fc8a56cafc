import Conduit.Proofs.Loading
import Conduit.Proofs.Sample
import Conduit.Proofs.DryRun.Solidity
import Conduit.Proofs.Run.Agreement

/-!
# One thing or several, dry and live

A pipe that makes content says by its multiplicity, and its caller by an override, whether one thing
or a list of things is wanted. A dry run makes up just that. In a live run the answer of the
generator is brought in line with it, and so both give a list or neither does, whatever the
generator has answered. Pages always are a list, and a composed text never is.

The answer of a function is taken as it is. So a live run that calls one gives a list if the
function does, and not if a list is wanted.
-/

namespace Conduit

namespace PipeBody

/-- The pipe makes content itself. -/
def MakesContent : PipeBody → Prop
  | prompt _ | image _ | extract _ | call _ | compose _ => True
  | _ => False

/-- Is a list to be expected, given whether several things are wanted? -/
def promisesList : PipeBody → Bool → Bool
  | extract _, _ => true
  | compose _, _ => false
  | _, many => many

end PipeBody

namespace Sample

/-- A bundle with one pipe, which wants two words from a function. -/
def words : Bundle where
  domain := "demo"
  definition := none
  concepts := ∅
  pipes := .ofList
    [("name", { definition := "Name two colours", inputs := ∅, output := "Text", count := some 2
                many := none, body := .call "name" })]

/-- The function knows one word. -/
def oneWord : Collaborators :=
  { collaborators with functions := Functions.empty.register "name" fun _ => .ok (.text "red") }

end Sample

namespace Vocabulary

variable {vocabulary : Vocabulary} {concept : Concept} {content : Content}

theorem sampleList_isList {count : Nat} (made : vocabulary.sampleList concept count = .ok content) :
    content.isList = true := by
  rw [sampleList] at made
  split at made
  · cases made
    rfl
  · obtain ⟨item, -, rfl⟩ := except_map_eq_ok.1 made
    rfl

/-- A list is made up where several things are wanted. -/
theorem sampleOutput_isList {signature : Signature} {override : Option Multiplicity} {length : Nat}
    (made : vocabulary.sampleOutput signature override length = .ok content) :
    content.isList = (Demand.resolve signature.multiplicity override).many := by
  unfold sampleOutput at made
  dsimp only at made
  split at made
  · next many => rw [sampleList_isList made, many]
  · next one => rw [sample_isList made, Bool.eq_false_iff.2 one]

end Vocabulary

/-- What has been brought in line with what is wanted is a list if several things are. -/
theorem shape_isList {pipe : String} {many : Bool} {content shaped : Content}
    (h : shape pipe many content = .ok shaped) : shaped.isList = many := by
  cases many <;> cases list : content.isList <;> simp only [shape, list] at h <;> cases h
  · exact list
  · rfl
  · exact list

theorem Functions.get_eq_ok {functions : Functions} {name : String} {function : Function} :
    functions.get name = .ok function ↔ functions.find? name = some function := by
  rw [get]
  cases functions.find? name <;> simp

namespace Library

open Run

variable {library : Library} {signature : Signature} {pipe : Pipe} {memory : WorkingMemory}
variable {params : Params} {output : Option String} {state final : RunState} {stuff : Stuff}

theorem produce_content {content : Content}
    (ran : signature.produce output content state = (.ok stuff, final)) :
    stuff.content = content := by
  obtain ⟨made, -⟩ := require_eq_ok.1 ran
  obtain ⟨-, rfl⟩ := Stuff.make_eq_ok.1 made
  rfl

theorem pretend_isList (ran : library.pretend signature params output state = (.ok stuff, final)) :
    stuff.content.isList = (Demand.resolve signature.multiplicity params.multiplicity).many := by
  obtain ⟨content, _, made, produced⟩ := bind_eq_ok.1 ran
  rw [produce_content produced]
  exact Vocabulary.sampleOutput_isList (require_eq_ok.1 made).1

theorem obtain_isList {many : Bool} {job : Job}
    (ran : library.obtain signature output many job state = (.ok stuff, final)) :
    stuff.content.isList = many := by
  obtain ⟨answer, _, -, ran⟩ := bind_eq_ok.1 ran
  obtain ⟨content, _, shaped, produced⟩ := bind_eq_ok.1 ran
  rw [produce_content produced]
  exact shape_isList (require_eq_ok.1 shaped).1

theorem runPrompt_isList {prompt : Prompt}
    (ran : library.runPrompt signature prompt memory params output state = (.ok stuff, final)) :
    stuff.content.isList = (Demand.resolve signature.multiplicity params.multiplicity).many := by
  obtain ⟨words, _, -, ran⟩ := bind_eq_ok.1 ran
  obtain ⟨images, _, -, ran⟩ := bind_eq_ok.1 ran
  split at ran
  · exact pretend_isList ran
  · exact obtain_isList ran

theorem runImage_isList {prompt : ImagePrompt}
    (ran : library.runImage signature prompt memory params output state = (.ok stuff, final)) :
    stuff.content.isList = (Demand.resolve signature.multiplicity params.multiplicity).many := by
  obtain ⟨words, _, -, ran⟩ := bind_eq_ok.1 ran
  split at ran
  · exact pretend_isList ran
  · exact obtain_isList ran

theorem runExtract_isList {extraction : Extraction}
    (ran : library.runExtract signature extraction memory params output state =
      (.ok stuff, final)) : stuff.content.isList = true := by
  obtain ⟨document, _, -, ran⟩ := bind_eq_ok.1 ran
  split at ran
  · obtain ⟨pages, _, made, produced⟩ := bind_eq_ok.1 ran
    rw [produce_content produced]
    exact Vocabulary.sampleList_isList (require_eq_ok.1 made).1
  · exact obtain_isList ran

theorem runCompose_isList {template : String}
    (ran : library.runCompose signature template memory output state = (.ok stuff, final)) :
    stuff.content.isList = false := by
  obtain ⟨rendered, _, -, produced⟩ := bind_eq_ok.1 ran
  rw [produce_content produced]
  split <;> rfl

/-- In a dry run the function is not called, and what it would answer is made up. -/
theorem runCall_isList {name : String} (dry : params.isDry = true)
    (ran : library.runCall signature name memory params output state = (.ok stuff, final)) :
    stuff.content.isList = (Demand.resolve signature.multiplicity params.multiplicity).many := by
  obtain ⟨function, _, -, ran⟩ := bind_eq_ok.1 ran
  rw [if_pos dry] at ran
  exact pretend_isList ran

/-- In a live run the answer of the function becomes the content as it is. -/
theorem runCall_content {name : String} (live : params.isDry = false)
    (ran : library.runCall signature name memory params output state = (.ok stuff, final)) :
    ∃ function inputs, library.collaborators.functions.find? name = some function ∧
      gather memory signature.inputs.keys = .ok inputs ∧ function inputs = .ok stuff.content := by
  obtain ⟨function, _, found, ran⟩ := bind_eq_ok.1 ran
  rw [if_neg (by rw [live]; exact Bool.false_ne_true)] at ran
  obtain ⟨inputs, _, gathered, ran⟩ := bind_eq_ok.1 ran
  obtain ⟨content, _, answered, produced⟩ := bind_eq_ok.1 ran
  rw [produce_content produced]
  refine ⟨function, inputs, ?_, (require_eq_ok.1 gathered).1, (require_eq_ok.1 answered).1⟩
  exact Functions.get_eq_ok.1 (require_eq_ok.1 found).1

/-- Whether a pipe gives a list is settled by its kind and by what is wanted, unless a function
settles it. -/
theorem work_isList {work : Run Stuff}
    (asksNone : params.isDry = true ∨ ∀ name, pipe.body ≠ .call name)
    (known : library.work? pipe memory params output = some work)
    (ran : work state = (.ok stuff, final)) :
    stuff.content.isList = pipe.body.promisesList
      (Demand.resolve pipe.signature.multiplicity params.multiplicity).many := by
  cases body : pipe.body <;> simp only [work?, body] at known <;> cases known
  case prompt => exact runPrompt_isList ran
  case image => exact runImage_isList ran
  case extract => exact runExtract_isList ran
  case call name => exact runCall_isList (asksNone.resolve_right fun none => none name body) ran
  case compose => exact runCompose_isList ran

/-- The content that a run gives is that of the stuff which the work of the pipe gives. -/
theorem run_content {given : Output} (makes : pipe.body.MakesContent)
    (ran : library.run pipe memory params output state = (.ok given, final)) :
    ∃ work stuff inner, library.work? pipe memory params output = some work ∧
      work (state.enter pipe.code) = (.ok stuff, inner) ∧
      given.main.content = stuff.content := by
  obtain ⟨work, known⟩ : ∃ work, library.work? pipe memory params output = some work := by
    rw [work?]
    cases body : pipe.body <;> rw [body] at makes <;> first | exact ⟨_, rfl⟩ | cases makes
  obtain ⟨-, -, product, inner, produced, -, rfl, -⟩ := run_eq_ok.1 ran
  rw [runBody_of_work known] at produced
  obtain ⟨stuff, _, worked, made⟩ := bind_eq_ok.1 produced
  cases made
  exact ⟨work, stuff, inner, known, worked, rfl⟩

/-- A pipe that makes content is run dry and live, with the same multiplicity wanted by the caller.
If it calls no function, then either both runs give a list or neither does. If it does call one, the
dry run gives a list where several things are wanted, and the live run gives just what the function
answers. -/
theorem run_lists {dry live : Params} {memory memory' : WorkingMemory}
    {output output' : Option String} {state state' final final' : RunState} {given given' : Output}
    (makes : pipe.body.MakesContent) (isDry : dry.isDry = true) (isLive : live.isDry = false)
    (same : live.multiplicity = dry.multiplicity)
    (pretended : library.run pipe memory dry output state = (.ok given, final))
    (ran : library.run pipe memory' live output' state' = (.ok given', final')) :
    ((∀ name, pipe.body ≠ .call name) →
      given'.main.content.isList = given.main.content.isList) ∧
    ∀ name, pipe.body = .call name →
      given.main.content.isList =
        (Demand.resolve pipe.signature.multiplicity dry.multiplicity).many ∧
      ∃ function inputs, library.collaborators.functions.find? name = some function ∧
        gather memory' pipe.signature.inputs.keys = .ok inputs ∧
        function inputs = .ok given'.main.content := by
  obtain ⟨work, stuff, _, known, worked, content⟩ := run_content makes pretended
  obtain ⟨work', stuff', _, known', worked', content'⟩ := run_content makes ran
  have pretends := work_isList (.inl isDry) known worked
  rw [content, content', pretends]
  constructor
  · intro asksNone
    rw [work_isList (.inr asksNone) known' worked', same]
  · intro name body
    simp only [work?, body] at known'
    cases known'
    rw [body]
    exact ⟨rfl, runCall_content isLive worked'⟩

/-- The model of the office writes one letter where one is wanted, dry and live. A line is stamped
by a function, and what it answers is one thing as well. -/
theorem office_lists :
    (∃ given final given' final',
      Sample.openOffice.run Sample.write Sample.memory (Sample.dry 1) none .initial =
        (.ok given, final) ∧
      Sample.openOffice.run Sample.write Sample.memory (Sample.live 1) none .initial =
        (.ok given', final') ∧
      given'.main.content.isList = given.main.content.isList) ∧
    ∃ given' final' function inputs,
      Sample.openOffice.run Sample.stamp Sample.memory (Sample.live 1) none .initial =
        (.ok given', final') ∧
      Sample.openOffice.collaborators.functions.find? "stamp" = some function ∧
      function inputs = .ok given'.main.content := by
  have isLive : (Sample.live 1).isDry = false := rfl
  have same : (Sample.live 1).multiplicity = (Sample.dry 1).multiplicity := rfl
  constructor
  · obtain ⟨given, final, pretended⟩ : ∃ given final,
        Sample.openOffice.run Sample.write Sample.memory (Sample.dry 1) none .initial =
          (.ok given, final) := ⟨_, _, rfl⟩
    obtain ⟨given', final', ran⟩ : ∃ given final,
        Sample.openOffice.run Sample.write Sample.memory (Sample.live 1) none .initial =
          (.ok given, final) := ⟨_, _, rfl⟩
    have makes : Sample.write.body.MakesContent := trivial
    have lists := run_lists makes rfl isLive same pretended ran
    exact ⟨given, final, given', final', pretended, ran, lists.1 nofun⟩
  · obtain ⟨given, final, pretended⟩ : ∃ given final,
        Sample.openOffice.run Sample.stamp Sample.memory (Sample.dry 1) none .initial =
          (.ok given, final) := ⟨_, _, rfl⟩
    obtain ⟨given', final', ran⟩ : ∃ given final,
        Sample.openOffice.run Sample.stamp Sample.memory (Sample.live 1) none .initial =
          (.ok given, final) := ⟨_, _, rfl⟩
    have makes : Sample.stamp.body.MakesContent := trivial
    have lists := run_lists makes rfl isLive same pretended ran
    obtain ⟨-, function, inputs, found, -, answered⟩ := lists.2 "stamp" rfl
    exact ⟨given', final', function, inputs, ran, found, answered⟩

/-- Two words are wanted of a function that knows one. A dry run gives a list, and a live run the
word itself. -/
theorem one_word_no_list :
    ∃ (library : Library) (pipe : Pipe) (given given' : Output) (final final' : RunState),
      library.Loaded ∧ library.find? "name" = some pipe ∧ pipe.body = .call "name" ∧
      pipe.signature.multiplicity = some (.count 2) ∧
      library.run pipe .empty (Sample.dry 1) none .initial = (.ok given, final) ∧
      library.run pipe .empty (Sample.live 1) none .initial = (.ok given', final') ∧
      given.main.content.isList = true ∧ given'.main.content.isList = false := by
  obtain ⟨library, accepted, pipe, given, given', final, final', rest⟩ : ∃ library : Library,
      (Library.initial Sample.oneWord).load Sample.words = .ok library ∧
      ∃ (pipe : Pipe) (given given' : Output) (final final' : RunState),
        library.find? "name" = some pipe ∧ pipe.body = .call "name" ∧
        pipe.signature.multiplicity = some (.count 2) ∧
        library.run pipe .empty (Sample.dry 1) none .initial = (.ok given, final) ∧
        library.run pipe .empty (Sample.live 1) none .initial = (.ok given', final') ∧
        given.main.content.isList = true ∧ given'.main.content.isList = false :=
    ⟨_, rfl, _, _, _, _, _, rfl, rfl, rfl, rfl, rfl, rfl, rfl⟩
  have loaded : library.Loaded := .load (.initial Sample.oneWord) accepted
  exact ⟨library, pipe, given, given', final, final', loaded, rest⟩

end Library

end Conduit
