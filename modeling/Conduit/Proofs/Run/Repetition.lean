import Conduit.Proofs.Except
import Conduit.Proofs.Memory.Order
import Conduit.Proofs.Run.Agreement
import Conduit.Proofs.Run.Likeness
import Conduit.Proofs.Run.Oblivious

/-!
# The same run once more

A pipe is run twice on memories that look the same. The second run may have another limit, and it
may begin on another stack. Where the generator answers each job for itself, what the body of a pipe
does by itself depends on neither of them, and so the second run follows the first one if the runs
of the callees do.

What is allowed for when the two runs are compared is left open, except that work which does not
rise on the stack has to be allowed for.
-/

namespace Conduit

namespace Likeness

/-- Memories that are alike cannot be told apart by those who look at them, and stuffs are alike
only if they are the same. -/
structure LooksSame (like : Likeness) : Prop where
  stuffs : like.Stuffs = Eq
  find? : ∀ {memory memory'}, like.Memories memory memory' →
    ∀ name, memory'.find? name = memory.find? name
  view : ∀ {memory memory'}, like.Memories memory memory' → memory'.view = memory.view

/-- Two memories or stuffs are the same. -/
def equality : Likeness where
  Memories := Eq
  Stuffs := Eq
  name h := by rw [h]
  concept h := by rw [h]
  rename _ h := by rw [h]
  find := by
    rintro memory _ name stuff rfl found
    exact ⟨stuff, found, rfl⟩
  store := by
    rintro memory _ stuff _ name rfl rfl
    rfl
  storeMain := by
    rintro memory _ stuff _ name rfl rfl
    rfl
  record := by
    intro results results' name concept className stuff each made
    have same : List.Forall₂ Eq results results' :=
      each.imp fun _ _ one => Prod.ext one.1.symm one.2
    rw [List.forall₂_eq_eq_eq] at same
    exact ⟨stuff, same ▸ made, rfl⟩

/-- Two memories hold the same stuffs and aliases in whatever order. -/
def upToOrder : Likeness where
  __ := equality
  Memories := WorkingMemory.Reordered
  find h found := ⟨_, (h.find?_eq _).trans found, rfl⟩
  store := by
    rintro memory memory' stuff _ name h rfl
    exact h.store name stuff
  storeMain := by
    rintro memory memory' stuff _ name h rfl
    exact h.storeMain name stuff

theorem equality_looksSame : equality.LooksSame :=
  ⟨rfl, fun h _ => by rw [h], fun h => by rw [h]⟩

theorem upToOrder_looksSame : upToOrder.LooksSame :=
  ⟨rfl, fun h name => WorkingMemory.Reordered.find?_eq h name, WorkingMemory.Reordered.view_eq⟩

theorem eq_of_outputs {output output' : Output} (same : equality.Outputs output output') :
    output' = output :=
  congrArg₂ Output.mk same.1.symm same.2.symm

end Likeness

/-- Nothing is held against the first run when its peak stays where it was. -/
def Comparison.AllowsRest (comparison : Comparison) : Prop :=
  ∀ before after : RunState, after.peak = before.peak → comparison.Calm before after

namespace Library

open Run

variable {library library' : Library} {comparison : Comparison} {like : Likeness}
variable {runner runner' : Runner} {pipe : Pipe} {memory memory' : WorkingMemory}
variable {params params' : Params} {limit : Nat} {output : Option String}

theorem tracks_oblivious {α : Type} {run : Run α} (rest : comparison.AllowsRest)
    (h : Oblivious run) : Tracks comparison Eq run run := by
  intro s t after value _ result
  obtain ⟨same, peak⟩ := h s t
  rw [result] at same peak
  rw [← same]
  exact ⟨rfl, rest _ _ peak⟩

theorem attachments_congr (get : memory'.get = memory.get) (inputs : List (String × Requirement)) :
    library.attachments memory' inputs = library.attachments memory inputs := by
  induction inputs with
  | nil => rfl
  | cons entry inputs ih =>
      obtain ⟨name, requirement⟩ := entry
      rw [attachments, attachments, get, ih]

/-- Pipes that make content do the same work on memories that look the same. -/
theorem work?_congr (vocabulary : library'.vocabulary = library.vocabulary)
    (collaborators : library'.collaborators = library.collaborators)
    (found : ∀ name, memory'.find? name = memory.find? name) (view : memory'.view = memory.view) :
    library'.work? pipe memory' params output = library.work? pipe memory params output := by
  have get : memory'.get = memory.get := by
    funext name
    rw [WorkingMemory.get, WorkingMemory.get, found]
  have rendered : ∀ template, library.render memory' template = library.render memory template :=
    fun template => by rw [render, render, view]
  rw [work?_eq vocabulary collaborators, work?, work?]
  cases pipe.body with
  | prompt prompt => simp only [runPrompt, rendered, attachments_congr get]
  | image prompt => simp only [runImage, imageWords, rendered, get]
  | extract extraction => simp only [runExtract, get]
  | call function => simp only [runCall, gather, get]
  | compose template => simp only [runCompose, rendered]
  | _ => rfl

/-- All branches of a list are run once more, and the first failure is the result. -/
theorem tracks_fanOut {branch branch' : Pipe} {batch : Batch} {result : String}
    (looks : like.LooksSame) (signature : branch'.signature = branch.signature)
    (advancing : AdvancesAll runner) (advancing' : AdvancesAll runner')
    (branches : ∀ {memory memory'}, like.Memories memory memory' → Tracks comparison like.Outputs
      (runner branch memory params none) (runner' branch' memory' params' none))
    (alike : like.Memories memory memory') :
    Tracks comparison like.Stuffs (fanOut runner branch memory params batch result)
      (fanOut runner' branch' memory' params' batch result) := by
  have stuffs : ∀ stuff, like.Stuffs stuff stuff := fun stuff => by rw [looks.stuffs]
  refine .require_bind fun ⟨list, items⟩ found => ⟨(list, items), ?_, ?_⟩
  · rw [WorkingMemory.getList_eq_ok] at found ⊢
    rwa [looks.find? alike]
  have stored : ∀ item, like.Memories (itemMemory memory list batch.item item)
      (itemMemory memory' list batch.item item) :=
    fun item => like.store batch.item alike (stuffs _)
  have joined := Tracks.join (fun item (_ : item ∈ items) => branches (stored item))
    (fun _ => advancing _ _ _ _) fun _ => advancing' _ _ _ _
  refine joined.bind (.join fun _ => advancing _ _ _ _) (.join fun _ => advancing' _ _ _ _)
    (fun _ => .require _ _) fun outputs outputs' each => ?_
  have same : outputs.map (·.main.content) = outputs'.map (·.main.content) := by
    induction each with
    | nil => rfl
    | cons one _ ih =>
        have main := one.2
        rw [looks.stuffs] at main
        rw [List.map_cons, List.map_cons, ih, main]
  rw [same, signature]
  exact .require fun stuff made => ⟨stuff, made, stuffs stuff⟩

/-- The question of a condition has the same answer once more. -/
theorem tracks_runCondition {condition : Condition} (looks : like.LooksSame)
    (vocabulary : library'.vocabulary = library.vocabulary)
    (collaborators : library'.collaborators = library.collaborators)
    (serves : ∀ code, ServesBoth library library' comparison like runner runner' params
      { params with limit } code params.multiplicity)
    (alike : like.Memories memory memory') :
    Tracks comparison like.Products
      (library.runCondition runner pipe.signature condition memory params output)
      (library'.runCondition runner' pipe.signature condition memory'
        { params with limit } output) := by
  have consulted : library'.consult condition.question memory' =
      library.consult condition.question memory := by
    unfold consult
    rw [collaborators, looks.view alike]
  refine .require_bind fun answer answered => ⟨answer, consulted.trans answered, ?_⟩
  refine .require_bind fun later kept => ?_
  obtain ⟨later', kept', alike'⟩ : ∃ later', library'.keepAnswer condition memory'
      (Text.trimmed answer) = .ok later' ∧ like.Memories later later' := by
    rw [keepAnswer] at kept ⊢
    cases known : condition.answerName with
    | none =>
        simp only [known] at kept ⊢
        cases kept
        exact ⟨memory', rfl, alike⟩
    | some name =>
        simp only [known] at kept ⊢
        obtain ⟨stuff, made, stored⟩ := except_bind_eq_ok.1 kept
        cases stored
        refine ⟨memory'.store name stuff, ?_, like.store name alike (by rw [looks.stuffs])⟩
        rw [vocabulary, made]
        rfl
  refine ⟨later', kept', ?_⟩
  refine .require_bind fun code chosen => ⟨code, chosen, ?_⟩
  refine .require_bind fun callee h => ?_
  obtain ⟨callee', h', stands⟩ := (serves code).get h
  exact ⟨callee', h', (stands.run output alike').map fun _ _ outputs => outputs⟩

/-- A pipe that holds its place runs once more as it has run if its callees do. -/
theorem tracks_execute_alike (steady : library.collaborators.Steady) (looks : like.LooksSame)
    (rest : comparison.AllowsRest) (vocabulary : library'.vocabulary = library.vocabulary)
    (collaborators : library'.collaborators = library.collaborators)
    (advancing : AdvancesAll runner) (advancing' : AdvancesAll runner')
    (serves : ∀ code multiplicity, ServesBoth library library' comparison like runner runner'
      params { params with limit } code multiplicity)
    (alike : like.Memories memory memory') :
    Tracks comparison like.Outputs (library.execute runner pipe memory params output)
      (library'.execute runner' pipe memory' { params with limit } output) := by
  refine tracks_execute advancing advancing' (fun code multiplicity _ => serves code multiplicity)
    (fun condition _ => tracks_runCondition looks vocabulary collaborators
      (fun code => serves code params.multiplicity) alike) ?_ alike
  intro work work' known known'
  have same : library'.work? pipe memory' { params with limit } output =
      library.work? pipe memory params output :=
    work?_congr vocabulary collaborators (looks.find? alike) (looks.view alike)
  obtain rfl : work = work' := Option.some.inj (known.symm.trans (same.symm.trans known'))
  rw [looks.stuffs]
  exact tracks_oblivious rest (oblivious_work steady known)

/-- So it does on the same memory in the same library. -/
theorem tracks_execute_again (steady : library.collaborators.Steady)
    (rest : comparison.AllowsRest) (advancing : AdvancesAll runner)
    (advancing' : AdvancesAll runner')
    (callees : ∀ multiplicity callee memory output, Tracks comparison Likeness.equality.Outputs
      (runner callee memory (params.forCallee multiplicity) output)
      (runner' callee memory ({ params with limit }.forCallee multiplicity) output)) :
    Tracks comparison Likeness.equality.Outputs
      (library.execute runner pipe memory params output)
      (library.execute runner' pipe memory { params with limit } output) := by
  have looks := Likeness.equality_looksSame
  refine tracks_execute_alike steady looks rest rfl rfl advancing advancing' ?_ rfl
  intro code multiplicity callee found
  have runs : ∀ {memory memory'} output, Likeness.equality.Memories memory memory' →
      Tracks comparison Likeness.equality.Outputs
        (runner callee memory (params.forCallee multiplicity) output)
        (runner' callee memory' ({ params with limit }.forCallee multiplicity) output) := by
    rintro memory _ output rfl
    exact callees multiplicity callee memory output
  exact ⟨callee, found, rfl, runs, fun batch result alike =>
    tracks_fanOut looks rfl advancing advancing' (runs none) alike⟩

end Library

end Conduit
