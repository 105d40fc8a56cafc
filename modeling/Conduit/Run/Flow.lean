import Conduit.Library
import Conduit.Run.Params
import Conduit.Run.State

/-!
# Running pipes that run other pipes

How these pipes run depends on how a pipe is run at all, which is a parameter here.
Steps pass their memory on. Branches each have a copy of the memory; all of them
are run, in order, and the first failure is the failure of the whole.
-/

namespace Conduit

/-- A way to run a pipe on a memory, with the wanted name of its result. -/
abbrev Runner := Pipe → WorkingMemory → Params → Option String → Run Output

/-- The value of an expression as an answer: null is no text at all. -/
def answerText : Json → String
  | .null => ""
  | value => value.scalar

namespace Library

/-- The memory of the branch that runs for an item of a list. -/
def itemMemory (memory : WorkingMemory) (list : Stuff) (name : String) (item : Content) :
    WorkingMemory :=
  memory.store name ⟨name, list.concept, item⟩

/-- Run a pipe for every item of a list, and make a list of the results. -/
def fanOut (runner : Runner) (branch : Pipe) (memory : WorkingMemory) (params : Params)
    (batch : Batch) (result : String) : Run Stuff := do
  let (list, items) ← Run.require Cause.memory (memory.getList batch.list)
  let outputs ← Run.join (items.map fun item =>
    runner branch (itemMemory memory list batch.item item) params none)
  Run.require Cause.concept
    (Stuff.make result branch.signature.output (.list (outputs.map (·.main.content))))

/-- Store a result as the latest one. -/
def conclude (memory : WorkingMemory) (name : String) (stuff : Stuff) : Run Output := do
  let memory := memory.storeMain name stuff
  let main ← Run.require Cause.memory (memory.get name)
  return ⟨memory, main⟩

/-- Run the pipe of a step, once or for every item of a list. -/
def runStep (library : Library) (runner : Runner) (step : Step) (memory : WorkingMemory)
    (params : Params) : Run Output := do
  let pipe ← Run.require id (library.get step.pipe)
  let params := params.forCallee step.multiplicity
  match step.batch with
  | none => runner pipe memory params step.result
  | some batch =>
    let name := pipe.signature.resultName step.result
    let stuff ← fanOut runner pipe memory params batch name
    conclude memory name stuff

/-- Run steps one after the other, the first on the given memory. The product is that of the
last. -/
def runSteps (library : Library) (runner : Runner) (params : Params) (first : Step) :
    List Step → WorkingMemory → Run Product
  | [], memory => do
    let output ← library.runStep runner first memory params
    return ⟨output.memory, output.main⟩
  | next :: rest, memory => do
    let output ← library.runStep runner first memory params
    library.runSteps runner params next rest output.memory

/-- Have every pipe of some branches looked up. -/
def checkBranches (library : Library) : List Branch → Except Cause Unit
  | [] => .ok ()
  | branch :: branches => do
    let _ ← library.get branch.pipe
    library.checkBranches branches

/-- The memory with the results of branches in it. -/
def keepResults (memory : WorkingMemory) (results : List (String × Stuff)) : WorkingMemory :=
  results.foldl (fun memory result => memory.store result.1 result.2) memory

/-- The record of the results of branches. -/
def combine (results : List (String × Stuff)) : Json :=
  Json.ofFields (results.map fun result => (result.1, result.2.content.view))

/-- Run the pipe of a branch, and name its result. -/
def runBranch (library : Library) (runner : Runner) (memory : WorkingMemory) (params : Params)
    (branch : Branch) : Run (String × Stuff) := do
  let output ← library.runStep runner branch.step memory params
  return (branch.result, output.main)

/-- The product of a parallel: the record of the results, or else the result of the last branch. -/
def gatherResults (signature : Signature) (parallel : Parallel) (output : Option String)
    (first : String × Stuff) (others : List (String × Stuff)) : Except ConceptError Stuff :=
  match parallel.combined with
  | some concept =>
    Stuff.make (signature.resultName output) concept
      (.structured concept.className (combine (first :: others)))
  | none => .ok (others.getLastD first).2

/-- Run branches side by side, each on a copy of the memory. -/
def runParallel (library : Library) (runner : Runner) (signature : Signature) (parallel : Parallel)
    (memory : WorkingMemory) (params : Params) (output : Option String) : Run Product := do
  Run.require id (library.checkBranches parallel.branches)
  let run := library.runBranch runner memory params
  let (first, others) ← Run.both (run parallel.first) (Run.join (parallel.rest.map run))
  let stuff ← Run.require Cause.concept (gatherResults signature parallel output first others)
  return ⟨if parallel.keepsEach then keepResults memory (first :: others) else memory, stuff⟩

/-- The answer to the question of a condition, as its collaborator gives it. -/
def consult (library : Library) (question : Question) (memory : WorkingMemory) :
    Except CollaboratorError String :=
  match question with
  | .expression source => (library.collaborators.evaluate source memory.view).map answerText
  | .template source => library.collaborators.render source memory.view

/-- What is said when the question of a condition has no answer. -/
def noAnswer (signature : Signature) (question : Question) (params : Params)
    (error : CollaboratorError) : Cause :=
  let text := (Cause.collaborator error).message
  if params.isDry then .dryRun (.evaluation signature.code question.source text)
  else .condition (.evaluation signature.code text)

/-- The pipe that a condition chooses. A dry run takes the first choice where nothing matches. -/
def choose (signature : Signature) (condition : Condition) (params : Params) (answer : String) :
    Except Cause String :=
  match condition.choices.get? answer, condition.otherwise with
  | some code, _ => .ok code
  | none, some code => .ok code
  | none, none =>
    match condition.choices.values.head? with
    | some code =>
      if params.isDry then .ok code
      else .error (.condition (.noMatch signature.code answer))
    | none => .error (.condition (.noMatch signature.code answer))

/-- The memory with an answer in it, as a text, if the condition names it. -/
def keepAnswer (library : Library) (condition : Condition) (memory : WorkingMemory)
    (answer : String) : Except ConceptError WorkingMemory :=
  match condition.answerName with
  | none => .ok memory
  | some name => do
    let stuff ← Stuff.make name library.vocabulary.textConcept (.text answer)
    return memory.store name stuff

/-- Ask the question and run the pipe that the answer chooses. The answer is taken without the
blanks around it. -/
def runCondition (library : Library) (runner : Runner) (signature : Signature)
    (condition : Condition) (memory : WorkingMemory) (params : Params) (output : Option String) :
    Run Product := do
  let answer ← Run.require (noAnswer signature condition.question params)
    (library.consult condition.question memory)
  let answer := Text.trimmed answer
  let memory ← Run.require Cause.concept (library.keepAnswer condition memory answer)
  let code ← Run.require id (choose signature condition params answer)
  let pipe ← Run.require id (library.get code)
  let chosen ← runner pipe memory params output
  return ⟨chosen.memory, chosen.main⟩

/-- Run a pipe for every item of a list. The memory stays as it is. -/
def runBatch (library : Library) (runner : Runner) (signature : Signature) (branch : String)
    (batch : Batch) (memory : WorkingMemory) (params : Params) (output : Option String) :
    Run Product := do
  let pipe ← Run.require id (library.get branch)
  let stuff ← fanOut runner pipe memory (params.forCallee none) batch
    (signature.resultName output)
  return ⟨memory, stuff⟩

end Library

end Conduit
