import Conduit.Proofs.Run.Comparison
import Conduit.Proofs.Run.Interpreter

/-!
# Runs on memories that are alike

Two runs of a pipe begin with memories that are alike. If what they store stays alike, then
whatever the first run finds the second finds as well, and all checks that the first passes the
second passes. This is so for any likeness that storing respects and that keeps names and
concepts.

The two runs may differ in their parameters and in the collaborators of their libraries. What
depends on these is left to the caller: the callees, the results for the items of a list, the
choice of a condition, and the making of content.
-/

namespace Conduit

/-- A likeness of memories and of what they hold. -/
structure Likeness where
  Memories : WorkingMemory → WorkingMemory → Prop
  Stuffs : Stuff → Stuff → Prop
  name : ∀ {stuff stuff'}, Stuffs stuff stuff' → stuff'.name = stuff.name
  concept : ∀ {stuff stuff'}, Stuffs stuff stuff' → stuff'.concept = stuff.concept
  rename : ∀ {stuff stuff'} name, Stuffs stuff stuff' →
    Stuffs (stuff.rename name) (stuff'.rename name)
  find : ∀ {memory memory' name stuff}, Memories memory memory' →
    memory.find? name = some stuff →
    ∃ stuff', memory'.find? name = some stuff' ∧ Stuffs stuff stuff'
  store : ∀ {memory memory' stuff stuff'} name, Memories memory memory' → Stuffs stuff stuff' →
    Memories (memory.store name stuff) (memory'.store name stuff')
  storeMain : ∀ {memory memory' stuff stuff'} name, Memories memory memory' →
    Stuffs stuff stuff' → Memories (memory.storeMain name stuff) (memory'.storeMain name stuff')
  /-- The records of results that are alike are so too. -/
  record : ∀ {results results' : List (String × Stuff)} {name concept className stuff},
    List.Forall₂ (fun result result' => result'.1 = result.1 ∧ Stuffs result.2 result'.2)
      results results' →
    Stuff.make name concept (.structured className (Library.combine results)) = .ok stuff →
    ∃ stuff', Stuff.make name concept (.structured className (Library.combine results')) =
      .ok stuff' ∧ Stuffs stuff stuff'

namespace Likeness

/-- A likeness of what runs give. -/
def Outputs (like : Likeness) (output output' : Output) : Prop :=
  like.Memories output.memory output'.memory ∧ like.Stuffs output.main output'.main

/-- A likeness of what bodies give. -/
def Products (like : Likeness) (product product' : Product) : Prop :=
  like.Memories product.memory product'.memory ∧ like.Stuffs product.stuff product'.stuff

/-- A likeness of the results of branches. -/
def Results (like : Likeness) (result result' : String × Stuff) : Prop :=
  result'.1 = result.1 ∧ like.Stuffs result.2 result'.2

end Likeness

namespace Library

open Run

/-- The second pipe shows the same to its callers as the first one, and the two are run alike. -/
structure StandsFor (comparison : Comparison) (like : Likeness) (runner runner' : Runner)
    (params params' : Params) (callee callee' : Pipe) : Prop where
  signature : callee'.signature = callee.signature
  run : ∀ {memory memory'} output, like.Memories memory memory' → Tracks comparison like.Outputs
    (runner callee memory params output) (runner' callee' memory' params' output)
  fan : ∀ {memory memory'} batch result, like.Memories memory memory' →
    Tracks comparison like.Stuffs (fanOut runner callee memory params batch result)
      (fanOut runner' callee' memory' params' batch result)

/-- What two bodies rely on for one of their calls: where the first one finds a pipe, the second one
finds a pipe that stands for it. -/
def ServesBoth (library library' : Library) (comparison : Comparison) (like : Likeness)
    (runner runner' : Runner) (params params' : Params) (code : String)
    (multiplicity : Option Multiplicity) : Prop :=
  ∀ callee, library.find? code = some callee → ∃ callee', library'.find? code = some callee' ∧
    StandsFor comparison like runner runner' (params.forCallee multiplicity)
      (params'.forCallee multiplicity) callee callee'

variable {library library' : Library} {comparison : Comparison} {like : Likeness}
variable {runner runner' : Runner} {params params' : Params} {memory memory' : WorkingMemory}

theorem tracks_conclude {stuff stuff' : Stuff} {name : String}
    (alike : like.Memories memory memory') (stuffs : like.Stuffs stuff stuff') :
    Tracks comparison like.Outputs (conclude memory name stuff) (conclude memory' name stuff') := by
  rw [conclude_eq, conclude_eq]
  exact .pure ⟨like.storeMain name alike stuffs, like.rename name stuffs⟩

/-- What the second body finds when the first one finds a pipe. -/
theorem ServesBoth.get {code : String} {multiplicity : Option Multiplicity} {callee : Pipe}
    (serves : ServesBoth library library' comparison like runner runner' params params' code
      multiplicity) (found : library.get code = .ok callee) :
    ∃ callee', library'.get code = .ok callee' ∧ StandsFor comparison like runner runner'
      (params.forCallee multiplicity) (params'.forCallee multiplicity) callee callee' := by
  obtain ⟨callee', found', stands⟩ := serves callee (get_eq_ok.1 found)
  exact ⟨callee', get_eq_ok.2 found', stands⟩

theorem tracks_runStep {step : Step}
    (serves : ServesBoth library library' comparison like runner runner' params params' step.pipe
      step.multiplicity)
    (alike : like.Memories memory memory') :
    Tracks comparison like.Outputs (library.runStep runner step memory params)
      (library'.runStep runner' step memory' params') := by
  apply Tracks.require_bind
  intro pipe found
  obtain ⟨pipe', found', stands⟩ := serves.get found
  refine ⟨pipe', found', ?_⟩
  rw [stands.signature]
  cases step.batch with
  | none => exact stands.run _ alike
  | some batch =>
      have fanned := stands.fan batch (pipe.signature.resultName step.result) alike
      simp only [conclude_eq]
      exact fanned.map fun stuff stuff' stuffs =>
        ⟨like.storeMain _ alike stuffs, like.rename _ stuffs⟩

theorem tracks_runBranch {branch : Branch}
    (serves : ServesBoth library library' comparison like runner runner' params params' branch.pipe
      branch.multiplicity)
    (alike : like.Memories memory memory') :
    Tracks comparison like.Results (library.runBranch runner memory params branch)
      (library'.runBranch runner' memory' params' branch) := by
  have stepped : Tracks comparison like.Outputs
      (library.runStep runner branch.step memory params)
      (library'.runStep runner' branch.step memory' params') := tracks_runStep serves alike
  exact stepped.map fun _ _ outputs => ⟨rfl, outputs.2⟩

section Sequences

variable (advancing : AdvancesAll runner) (advancing' : AdvancesAll runner')
include advancing advancing'

theorem tracks_runSteps {first : Step} {rest : List Step}
    (serves : ∀ step ∈ first :: rest, ServesBoth library library' comparison like runner runner'
      params params' step.pipe step.multiplicity)
    (alike : like.Memories memory memory') :
    Tracks comparison like.Products (library.runSteps runner params first rest memory)
      (library'.runSteps runner' params' first rest memory') := by
  induction rest generalizing first memory memory' with
  | nil =>
      have stepped := tracks_runStep (serves first List.mem_cons_self) alike
      exact stepped.map fun _ _ outputs => outputs
  | cons next rest ih =>
      have stepped := tracks_runStep (serves first List.mem_cons_self) alike
      refine stepped.bind (advancing_runStep advancing) (advancing_runStep advancing')
        (fun _ => advancing_runSteps advancing) fun output output' outputs => ?_
      exact ih (fun step member => serves step (List.mem_cons_of_mem _ member)) outputs.1

end Sequences

theorem alike_keepResults {results results' : List (String × Stuff)}
    (each : List.Forall₂ like.Results results results') (alike : like.Memories memory memory') :
    like.Memories (keepResults memory results) (keepResults memory' results') := by
  induction each generalizing memory memory' with
  | nil => exact alike
  | @cons result result' _ _ one _ ih =>
      have stored := like.store result.1 alike one.2
      simp only [keepResults, List.foldl_cons]
      rw [one.1]
      exact ih stored

theorem alike_last {first first' : String × Stuff} {others others' : List (String × Stuff)}
    (one : like.Results first first') (each : List.Forall₂ like.Results others others') :
    like.Results (others.getLastD first) (others'.getLastD first') := by
  induction each generalizing first first' with
  | nil => exact one
  | cons next _ ih =>
      rw [List.getLastD_cons, List.getLastD_cons]
      exact ih next

theorem gatherResults_alike {signature : Signature} {parallel : Parallel} {output : Option String}
    {first first' : String × Stuff} {others others' : List (String × Stuff)} {stuff : Stuff}
    (one : like.Results first first') (each : List.Forall₂ like.Results others others')
    (h : gatherResults signature parallel output first others = .ok stuff) :
    ∃ stuff', gatherResults signature parallel output first' others' = .ok stuff' ∧
      like.Stuffs stuff stuff' := by
  rw [gatherResults] at h ⊢
  cases known : parallel.combined with
  | some concept =>
      simp only [known] at h ⊢
      exact like.record (.cons one each) h
  | none =>
      simp only [known] at h ⊢
      cases h
      exact ⟨_, rfl, (alike_last one each).2⟩

theorem checkBranches_of_serves {branches : List Branch}
    (serves : ∀ branch ∈ branches, ServesBoth library library' comparison like runner runner' params
      params' branch.pipe branch.multiplicity)
    (h : library.checkBranches branches = .ok ()) : library'.checkBranches branches = .ok () := by
  rw [checkBranches_eq_ok] at h ⊢
  intro branch member
  obtain ⟨callee, found⟩ := Option.isSome_iff_exists.1 (h branch member)
  obtain ⟨callee', found', -⟩ := serves branch member callee found
  rw [found']
  rfl

theorem tracks_runBatch {signature : Signature} {branch : String} {batch : Batch}
    {output : Option String}
    (serves : ServesBoth library library' comparison like runner runner' params params' branch none)
    (alike : like.Memories memory memory') :
    Tracks comparison like.Products
      (library.runBatch runner signature branch batch memory params output)
      (library'.runBatch runner' signature branch batch memory' params' output) := by
  apply Tracks.require_bind
  intro pipe found
  obtain ⟨pipe', found', stands⟩ := serves.get found
  refine ⟨pipe', found', ?_⟩
  have fanned := stands.fan batch (signature.resultName output) alike
  exact fanned.map fun _ _ stuffs => ⟨alike, stuffs⟩

/-- What passes the check of the inputs does so because of names and concepts. -/
theorem checkInputs_of_alike {pipe pipe' : Pipe}
    (inputs : pipe'.signature.inputs = pipe.signature.inputs) (alike : like.Memories memory memory')
    (h : checkInputs pipe memory params = .ok ()) : checkInputs pipe' memory' params' = .ok () := by
  rw [checkInputs_eq_ok] at h ⊢
  rw [inputs]
  intro entry member
  obtain ⟨stuff, found, fits⟩ := checkInput_eq_ok.1 (h entry member)
  obtain ⟨stuff', found', stuffs⟩ := like.find alike found
  refine checkInput_eq_ok.2 ⟨stuff', found', ?_⟩
  rw [like.concept stuffs]
  exact fits

theorem checkOutput_of_output {pipe pipe' : Pipe} {produced : Concept}
    (declared : pipe'.signature.output = pipe.signature.output)
    (h : checkOutput pipe produced = .ok ()) : checkOutput pipe' produced = .ok () := by
  rw [checkOutput_eq_ok] at h ⊢
  rwa [declared]

section Bodies

variable (advancing : AdvancesAll runner) (advancing' : AdvancesAll runner')
include advancing advancing'

theorem tracks_runParallel {signature : Signature} {parallel : Parallel} {output : Option String}
    (serves : ∀ branch ∈ parallel.branches, ServesBoth library library' comparison like runner
      runner' params params' branch.pipe branch.multiplicity)
    (alike : like.Memories memory memory') :
    Tracks comparison like.Products
      (library.runParallel runner signature parallel memory params output)
      (library'.runParallel runner' signature parallel memory' params' output) := by
  refine .require_bind fun _ h => ⟨(), checkBranches_of_serves serves h, ?_⟩
  have branches : ∀ branch ∈ parallel.branches, Tracks comparison like.Results
      (library.runBranch runner memory params branch)
      (library'.runBranch runner' memory' params' branch) :=
    fun branch member => tracks_runBranch (serves branch member) alike
  have each : ∀ branch, Advancing (library.runBranch runner memory params branch) :=
    fun _ => advancing_runBranch advancing
  have each' : ∀ branch, Advancing (library'.runBranch runner' memory' params' branch) :=
    fun _ => advancing_runBranch advancing'
  have first := branches parallel.first List.mem_cons_self
  have others := Tracks.join
    (fun branch member => branches branch (List.mem_cons_of_mem _ member)) each each'
  have ran := first.both others (each _) (each' _) (.join each)
  refine ran.bind ((each _).both (.join each)) ((each' _).both (.join each'))
    (fun _ => (Advancing.require _ _).bind fun _ => .pure _) ?_
  rintro ⟨first, others⟩ ⟨first', others'⟩ ⟨one, rest⟩
  apply Tracks.require_bind
  intro stuff gathered
  obtain ⟨stuff', gathered', stuffs⟩ := gatherResults_alike one rest gathered
  refine ⟨stuff', gathered', .pure ⟨?_, stuffs⟩⟩
  dsimp only
  split
  · exact alike_keepResults (.cons one rest) alike
  · exact alike

theorem tracks_runBody {pipe : Pipe} {output : Option String}
    (serves : ∀ code multiplicity, pipe.Calls params code multiplicity →
      ServesBoth library library' comparison like runner runner' params params' code multiplicity)
    (chooses : ∀ condition, pipe.body = .condition condition → Tracks comparison like.Products
      (library.runCondition runner pipe.signature condition memory params output)
      (library'.runCondition runner' pipe.signature condition memory' params' output))
    (works : ∀ work work', library.work? pipe memory params output = some work →
      library'.work? pipe memory' params' output = some work' →
      Tracks comparison like.Stuffs work work')
    (alike : like.Memories memory memory') :
    Tracks comparison like.Products (library.runBody runner pipe memory params output)
      (library'.runBody runner' pipe memory' params' output) := by
  have working : ∀ work work', library.work? pipe memory params output = some work →
      library'.work? pipe memory' params' output = some work' → Tracks comparison like.Products
        (library.runBody runner pipe memory params output)
        (library'.runBody runner' pipe memory' params' output) := by
    intro work work' known known'
    rw [runBody_of_work known, runBody_of_work known']
    exact (works work work' known known').map fun _ _ stuffs => ⟨alike, stuffs⟩
  cases body : pipe.body with
  | sequence sequence =>
      simp only [runBody, body]
      exact tracks_runSteps advancing advancing'
        (fun step member => serves _ _ (.step body member)) alike
  | parallel parallel =>
      simp only [runBody, body]
      exact tracks_runParallel advancing advancing'
        (fun branch member => serves _ _ (.branch body member)) alike
  | condition condition =>
      simp only [runBody, body]
      exact chooses condition body
  | batch code batch =>
      simp only [runBody, body]
      exact tracks_runBatch (serves _ _ (.batch body)) alike
  | _ => exact working _ _ (by rw [work?, body]) (by rw [work?, body])

/-- Two pipes that hold their places run alike if their bodies do. -/
theorem tracks_execute_of_body {pipe pipe' : Pipe} {output : Option String}
    (signature : pipe'.signature = pipe.signature) (alike : like.Memories memory memory')
    (ran : Tracks comparison like.Products (library.runBody runner pipe memory params output)
      (library'.runBody runner' pipe' memory' params' output)) :
    Tracks comparison like.Outputs (library.execute runner pipe memory params output)
      (library'.execute runner' pipe' memory' params' output) := by
  have inputs : pipe'.signature.inputs = pipe.signature.inputs := by rw [signature]
  have declared : pipe'.signature.output = pipe.signature.output := by rw [signature]
  refine .require_bind fun _ checked => ⟨(), checkInputs_of_alike inputs alike checked, ?_⟩
  refine ran.bind (advancing_runBody advancing) (advancing_runBody advancing')
    (fun product => ?_) ?_
  · simp only [conclude_eq]
    exact (Advancing.require _ _).bind fun _ => .pure _
  · rintro product product' ⟨memories, stuffs⟩
    rw [like.concept stuffs, like.name stuffs]
    exact .require_bind fun _ checked => ⟨(), checkOutput_of_output declared checked,
      tracks_conclude memories stuffs⟩

/-- A pipe that holds its place runs alike if its calls, its choices and its own work are alike. -/
theorem tracks_execute {pipe : Pipe} {output : Option String}
    (serves : ∀ code multiplicity, pipe.Calls params code multiplicity →
      ServesBoth library library' comparison like runner runner' params params' code multiplicity)
    (chooses : ∀ condition, pipe.body = .condition condition → Tracks comparison like.Products
      (library.runCondition runner pipe.signature condition memory params output)
      (library'.runCondition runner' pipe.signature condition memory' params' output))
    (works : ∀ work work', library.work? pipe memory params output = some work →
      library'.work? pipe memory' params' output = some work' →
      Tracks comparison like.Stuffs work work')
    (alike : like.Memories memory memory') :
    Tracks comparison like.Outputs (library.execute runner pipe memory params output)
      (library'.execute runner' pipe memory' params' output) :=
  tracks_execute_of_body advancing advancing' rfl alike
    (tracks_runBody advancing advancing' serves chooses works alike)

end Bodies

end Library

end Conduit
