import Conduit.Proofs.Except
import Conduit.Proofs.Sample
import Conduit.Proofs.Run.Depth
import Conduit.Proofs.Text.Blank

/-!
# A condition stands for the pipe that it chooses

A condition asks an evaluator or a renderer about the memory, and what it is told chooses a pipe. To
the result of that pipe it adds nothing of its own. The result is stored twice, by the pipe and then
by the condition, under the same name in the same memory, and the second time nothing changes. The
chosen pipe has run one place further up the stack than it would have run by itself. Since it has
succeeded there, it succeeds one place further down.
-/

namespace Conduit

/-- The pipe that is chosen for an answer: the one that is meant for it, or else the one that is
meant for any other answer, or else, in a dry run, the first one of all. -/
def Condition.selection (condition : Condition) (dry : Bool) (answer : String) :
    Option String :=
  (condition.choices.get? answer).or
    (condition.otherwise.or (if dry then condition.choices.values.head? else none))

/-- How a value reads as a word: null as nothing, a string as it is, and anything else as it is
printed. -/
inductive Json.Reads : Json → String → Prop
  | null : Reads null ""
  | string (text : String) : Reads (string text) text
  | bool (value : Bool) : Reads (bool value) (toString value)
  | integer (value : Int) : Reads (integer value) (toString value)
  | double (value : Float) : Reads (double value) (double value).text
  | array (items : List Json) : Reads (array items) (array items).text
  | object (fields : List (String × Json)) : Reads (object fields) (object fields).text

namespace Sample

/-- A choice by the tone of a line, which is kept. -/
def byTone : Condition :=
  ⟨.expression "tone(line)", .ofList [("soft", "whisper"), ("loud", "shout")], none, some "tone",
    .inl rfl⟩

def say : Pipe where
  signature :=
    { domain := "demo", code := "say", definition := "Say a line"
      inputs := .ofList [("line", ⟨text, none⟩)], output := text, multiplicity := none }
  body := .condition byTone

/-- The library with one more pipe, and an evaluator that finds every line to be loud. -/
def talking : Library where
  vocabulary := library.vocabulary
  pipes := say :: library.pipes
  collaborators := { collaborators with evaluator := some fun _ _ => .ok (.string " loud ") }

end Sample

/-- The concept of texts is looked up by its name, and the native one stands in for it. -/
theorem Vocabulary.textConcept_eq (vocabulary : Vocabulary) :
    vocabulary.textConcept = (vocabulary.find? "native.Text").getD (.ofNative .text) := by
  have name : Concept.qualify Native.domain Native.text.code = "native.Text" := rfl
  rw [textConcept, lookup, name]
  cases vocabulary.find? "native.Text" <;> rfl

namespace Library

open Run

/-- What is said on a memory to the question of a condition: by the evaluator to an expression, and
by the renderer to a template. -/
inductive Answers (library : Library) (memory : WorkingMemory) : Question → String → Prop
  | expression {source : String} {evaluator : Evaluator} {value : Json} {said : String}
      (asks : library.collaborators.evaluator = some evaluator)
      (evaluates : evaluator source memory.view = .ok value) (reads : value.Reads said) :
      Answers library memory (.expression source) said
  | template {source : String} {renderer : Renderer} {said : String}
      (asks : library.collaborators.renderer = some renderer)
      (renders : renderer source memory.view = .ok said) :
      Answers library memory (.template source) said

/-- The memory with an answer in it, as a text under the name that the condition gives it, if it
gives one. -/
def noting (library : Library) (condition : Condition) (memory : WorkingMemory)
    (answer : String) : WorkingMemory :=
  match condition.answerName with
  | none => memory
  | some name =>
    let concept := (library.vocabulary.find? "native.Text").getD (.ofNative .text)
    memory.store name ⟨name, concept, .text answer⟩

variable {library : Library} {runner : Runner} {signature : Signature} {condition : Condition}
variable {pipe : Pipe} {memory later : WorkingMemory} {params : Params} {output : Option String}
variable {said answer code : String} {state final after : RunState} {product : Product}
variable {result : Output}

theorem reads_answerText (value : Json) : value.Reads (answerText value) := by
  cases value with
  | null => exact .null
  | string text => exact .string text
  | bool value => cases value <;> exact .bool _
  | integer value =>
      have printed : answerText (.integer value) = toString value := String.ofList_toList
      exact printed ▸ .integer value
  | double value => exact .double value
  | array items => exact .array items
  | object fields => exact .object fields

theorem answers_of_consult {question : Question}
    (consulted : library.consult question memory = .ok said) :
    library.Answers memory question said := by
  cases question with
  | expression source =>
      obtain ⟨value, evaluated, rfl⟩ := except_map_eq_ok.1 consulted
      rw [Collaborators.evaluate] at evaluated
      split at evaluated
      · next asks => exact .expression asks evaluated (reads_answerText value)
      · cases evaluated
  | template source =>
      rw [consult, Collaborators.render] at consulted
      split at consulted
      · next asks => exact .template asks consulted
      · cases consulted

theorem choose_eq_ok : choose signature condition params answer = .ok code ↔
    condition.selection params.isDry answer = some code := by
  unfold choose Condition.selection
  cases condition.choices.get? answer with
  | some chosen => simp
  | none =>
      cases condition.otherwise with
      | some chosen => simp
      | none => cases condition.choices.values.head? <;> cases params.isDry <;> simp

theorem eq_noting_of_keepAnswer (kept : library.keepAnswer condition memory answer = .ok later) :
    later = library.noting condition memory answer := by
  rw [keepAnswer] at kept
  rw [noting]
  cases named : condition.answerName with
  | none =>
      simp only [named] at kept
      cases kept
      rfl
  | some name =>
      simp only [named] at kept
      obtain ⟨stuff, made, stored⟩ := except_bind_eq_ok.1 kept
      obtain ⟨-, rfl⟩ := Stuff.make_eq_ok.1 made
      rw [library.vocabulary.textConcept_eq] at stored
      cases stored
      rfl

/-- A condition that succeeds has an answer and a pipe for it, and its product is what that pipe
gives. -/
theorem runCondition_eq_ok
    (ran : library.runCondition runner signature condition memory params output state =
      (.ok product, after)) :
    ∃ said answer code chosen result,
      library.Answers memory condition.question said ∧ Text.Trims said answer ∧
      condition.selection params.isDry answer = some code ∧
      library.find? code = some chosen ∧
      runner chosen (library.noting condition memory answer) params output state =
        (.ok result, after) ∧
      product = ⟨result.memory, result.main⟩ := by
  obtain ⟨said, _, consulted, ran⟩ := bind_eq_ok.1 ran
  obtain ⟨answered, rfl⟩ := require_eq_ok.1 consulted
  obtain ⟨later, _, noted, ran⟩ := bind_eq_ok.1 ran
  obtain ⟨kept, rfl⟩ := require_eq_ok.1 noted
  obtain ⟨code, _, selected, ran⟩ := bind_eq_ok.1 ran
  obtain ⟨chosen, rfl⟩ := require_eq_ok.1 selected
  obtain ⟨callee, _, looked, ran⟩ := bind_eq_ok.1 ran
  obtain ⟨found, rfl⟩ := require_eq_ok.1 looked
  obtain ⟨result, _, ran, given⟩ := bind_eq_ok.1 ran
  obtain rfl := eq_noting_of_keepAnswer kept
  cases given
  exact ⟨said, Text.trimmed said, code, callee, result, answers_of_consult answered,
    Text.trims_iff.2 rfl, choose_eq_ok.1 chosen, get_eq_ok.1 found, ran, rfl⟩

/-- Where a condition succeeds, the pipe that it chooses succeeds in its place. It is chosen by what
is said to the question of the condition, without the blanks around it. On the same memory with this
answer in it, with the same parameters and the same wanted name, it gives the same memory and the
same result. -/
theorem run_delegates (steady : library.collaborators.Steady)
    (chooses : pipe.body = .condition condition)
    (ran : library.run pipe memory params output state = (.ok result, final)) :
    ∃ said answer code chosen after,
      library.Answers memory condition.question said ∧ Text.Trims said answer ∧
      condition.selection params.isDry answer = some code ∧
      library.find? code = some chosen ∧
      library.run chosen (library.noting condition memory answer) params output state =
        (.ok result, after) := by
  obtain ⟨-, -, product, inner, body, -, given, -⟩ := run_eq_ok.1 ran
  simp only [runBody, chooses] at body
  obtain ⟨said, answer, code, chosen, inside, answers, trims, selected, found, called, rfl⟩ :=
    runCondition_eq_ok body
  obtain ⟨stored, renamed⟩ := run_stored called
  have same : result = inside := by
    rw [given]
    exact congrArg₂ Output.mk stored renamed
  have low : state.stack.length ≤ (state.enter pipe.code).stack.length := by
    rw [RunState.length_enter]
    exact Nat.le_succ _
  obtain ⟨after, succeeds⟩ := run_lower steady low called
  rw [← same] at succeeds
  exact ⟨said, answer, code, chosen, after, answers, trims, selected, found, succeeds⟩

/-- A line is said in a loud voice. It might as well have been shouted, with the tone in the
memory. -/
theorem say_delegates :
    Sample.talking.collaborators.Steady ∧ Sample.say.body = .condition Sample.byTone ∧
    ∃ result final after,
      Sample.talking.run Sample.say Sample.memory (Sample.live 2) none .initial =
        (.ok result, final) ∧
      Sample.talking.run Sample.shout
        (Sample.memory.store "tone" ⟨"tone", Sample.text, .text "loud"⟩) (Sample.live 2) none
        .initial = (.ok result, after) := by
  have steady : Sample.talking.collaborators.Steady := fun _ absent => nomatch absent
  obtain ⟨result, final, succeeds⟩ : ∃ result final,
      Sample.talking.run Sample.say Sample.memory (Sample.live 2) none .initial =
        (.ok result, final) := ⟨_, _, rfl⟩
  obtain ⟨said, answer, code, chosen, after, answers, trims, selected, found, shouted⟩ :=
    run_delegates steady rfl succeeds
  obtain rfl : said = " loud " := by
    obtain ⟨asks, evaluates, reads⟩ := answers
    cases asks
    cases evaluates
    cases reads
    rfl
  obtain rfl : answer = "loud" := Text.trims_iff.1 trims
  obtain rfl : "shout" = code := Option.some.inj selected
  obtain rfl : Sample.shout = chosen := Option.some.inj found
  exact ⟨steady, rfl, result, final, after, succeeds, shouted⟩

end Library

end Conduit
