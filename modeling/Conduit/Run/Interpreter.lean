import Conduit.Run.Flow
import Conduit.Run.Work

/-!
# Running a pipe

To run a pipe is to take a place on the stack, check the inputs, run the body,
check the output, and store it as the latest result. Pipes may call each other in
circles; the places left on the stack bound how deep calls go, and the recursion
is on their number.
-/

namespace Conduit

namespace Library

/-- The inputs have to be there, and of concepts that may flow where they are wanted. -/
def checkInput (pipe : Pipe) (memory : WorkingMemory) (entry : String × Requirement) :
    Except Cause Unit := do
  let stuff ← (memory.get entry.1).mapError Cause.memory
  let wanted := entry.2.concept
  if wanted.isOpen || stuff.concept.isCompatible wanted then return ()
  else throw (.inputMismatch pipe.code entry.1 wanted.fullName stuff.concept.fullName)

/-- Check all inputs: first that none is missing, then each in turn. -/
def checkInputs (pipe : Pipe) (memory : WorkingMemory) (params : Params) : Except Cause Unit :=
  match memory.missing pipe.signature.inputs.keys with
  | [] => pipe.signature.inputs.entries.forM (checkInput pipe memory)
  | missing =>
    if params.isDry then .error (.dryRun (.missingInputs pipe.code missing))
    else .error (.missingInputs pipe.code missing)

/-- The output has to be of a concept that may flow where the declared one is wanted. -/
def checkOutput (pipe : Pipe) (produced : Concept) : Except Cause Unit :=
  let declared := pipe.signature.output
  if declared.isOpen || produced.isCompatible declared then .ok ()
  else .error (.outputMismatch pipe.code declared.fullName produced.fullName)

/-- Let a pipe that makes content do so; the memory stays as it is. -/
def working (memory : WorkingMemory) (work : Run Stuff) : Run Product := do
  return ⟨memory, ← work⟩

/-- Run the body of a pipe, given how other pipes are run. -/
def runBody (library : Library) (runner : Runner) (pipe : Pipe) (memory : WorkingMemory)
    (params : Params) (output : Option String) : Run Product :=
  let signature := pipe.signature
  match pipe.body with
  | .sequence sequence => library.runSteps runner params sequence.first sequence.rest memory
  | .parallel parallel => library.runParallel runner signature parallel memory params output
  | .condition condition => library.runCondition runner signature condition memory params output
  | .batch branch batch => library.runBatch runner signature branch batch memory params output
  | .prompt prompt => working memory (library.runPrompt signature prompt memory params output)
  | .image prompt => working memory (library.runImage signature prompt memory params output)
  | .extract extraction =>
    working memory (library.runExtract signature extraction memory params output)
  | .call function => working memory (library.runCall signature function memory params output)
  | .compose template => working memory (library.runCompose signature template memory output)

/-- Run a pipe that holds its place on the stack, given how other pipes are run. -/
def execute (library : Library) (runner : Runner) (pipe : Pipe) (memory : WorkingMemory)
    (params : Params) (output : Option String) : Run Output := do
  Run.require id (checkInputs pipe memory params)
  let product ← library.runBody runner pipe memory params output
  Run.require id (checkOutput pipe product.stuff.concept)
  conclude product.memory (output.getD product.stuff.name) product.stuff

/-- Where a pipe fails, given the pipes under way. -/
def contextOf (pipe : Pipe) (params : Params) (output : Option String) (stack : PipeStack) :
    Context :=
  ⟨pipe.code, params.mode, output, stack⟩

/-- Run a pipe when so many places are left on the stack. -/
def runWithin (library : Library) : (room : Nat) → Runner
  | 0, pipe, _, params, output =>
    Run.framed params.limit pipe.code (contextOf pipe params output)
      fun state => Run.fail (.stackOverflow params.limit state.stack) state
  | room + 1, pipe, memory, params, output =>
    Run.framed params.limit pipe.code (contextOf pipe params output)
      (library.execute (library.runWithin room) pipe memory params output)

/-- Run a pipe. -/
def run (library : Library) : Runner :=
  fun pipe memory params output state =>
    library.runWithin (params.limit - state.stack.length) pipe memory params output state

/-- Run the pipe of a code. -/
def runCode (library : Library) (code : String) (memory : WorkingMemory) (params : Params)
    (output : Option String) : Run Output := do
  let pipe ← Run.require id (library.get code)
  library.run pipe memory params output

end Library

end Conduit
