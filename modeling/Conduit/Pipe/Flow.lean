import Conduit.Pipe.Signature
import Conduit.Pipe.Fault

/-!
# Pipes that run other pipes

A sequence runs steps one after the other, a parallel runs branches side by side, a
condition chooses one pipe, and a batch runs one pipe for every item of a list. A
step of a sequence or a branch of a parallel may itself be run for every item of
a list. The other pipes are known by their codes only and may be missing.
-/

namespace Conduit

/-- A list to take items from, and the name that each item gets. -/
structure Batch where
  list : String
  item : String
  deriving DecidableEq, Repr

/-- A use of another pipe. -/
structure Step where
  /-- The code of the pipe. -/
  pipe : String
  /-- The name of the result, if it is not left to the pipe. -/
  result : Option String
  multiplicity : Option Multiplicity
  /-- The list for whose items the pipe is run, if it is not run just once. -/
  batch : Option Batch
  deriving DecidableEq, Repr

/-- A use of another pipe whose result has a name. -/
structure Branch where
  pipe : String
  result : String
  multiplicity : Option Multiplicity
  batch : Option Batch
  deriving DecidableEq, Repr

/-- A branch as a step. -/
def Branch.step (branch : Branch) : Step :=
  ⟨branch.pipe, some branch.result, branch.multiplicity, branch.batch⟩

/-- A step as a branch, if it names its result. -/
def Step.branch? (step : Step) : Option Branch :=
  step.result.map fun result => ⟨step.pipe, result, step.multiplicity, step.batch⟩

/-- Steps that are run one after the other; there is at least one. -/
structure Sequence where
  first : Step
  rest : List Step
  deriving DecidableEq, Repr

namespace Sequence

/-- All steps in order. -/
def steps (sequence : Sequence) : List Step :=
  sequence.first :: sequence.rest

/-- Does the step name a list and an item, if it is run for the items of a list? -/
def namesBatch (step : Step) : Bool :=
  step.batch.all fun batch => !batch.list.isEmpty && !batch.item.isEmpty

/-- Define a sequence. -/
def define (steps : List Step) : Except PipeFault Sequence :=
  match steps with
  | [] => .error .noSteps
  | first :: rest =>
    match steps.find? (!namesBatch ·) with
    | some step => .error (.emptyBatch step.pipe)
    | none => .ok ⟨first, rest⟩

end Sequence

/-- Branches that are run side by side; there is at least one. -/
structure Parallel where
  first : Branch
  rest : List Branch
  /-- Are the results of the branches kept under their names? -/
  keepsEach : Bool
  /-- The concept of the record of all results, if that is the output. -/
  combined : Option Concept
  deriving DecidableEq, Repr

namespace Parallel

/-- All branches in order. -/
def branches (parallel : Parallel) : List Branch :=
  parallel.first :: parallel.rest

/-- Is this the class of a native concept that is not open? Such a class is no record of results. -/
def isClosedNativeClass (className : String) : Bool :=
  Native.all.any fun native => !native.isOpen && native.className == className

/-- The branches that some steps are; every step has to name its result. -/
def branchesOf : List Step → Except PipeFault (List Branch)
  | [] => .ok []
  | step :: steps =>
    match step.branch? with
    | some branch => (branchesOf steps).map (branch :: ·)
    | none => .error (.unnamedBranch step.pipe)

/-- Define a parallel. Unless it is said otherwise, the results of the branches are kept. -/
def define (steps : List Step) (keepsEach : Option Bool) (combined : Option Concept) :
    Except PipeFault Parallel := do
  match ← branchesOf steps with
  | [] => throw .noBranches
  | first :: rest =>
    match combined with
    | none => if keepsEach = some true then pure () else throw .noOutput
    | some concept =>
      if isClosedNativeClass concept.className then
        throw (.combinedNotRecord concept.fullName concept.className)
    return ⟨first, rest, keepsEach.getD true, combined⟩

end Parallel

/-- What a condition looks at. -/
inductive Question where
  /-- The value of an expression. -/
  | expression (source : String)
  /-- The text that a template gives. -/
  | template (source : String)
  deriving DecidableEq, Repr

/-- The expression or template itself. -/
def Question.source : Question → String
  | expression source => source
  | template source => source

/-- A choice of one pipe by the answer to a question. -/
structure Condition where
  question : Question
  /-- The pipes by the answers for which they are chosen. -/
  choices : OrderedMap String
  /-- The pipe that is chosen for any other answer. -/
  otherwise : Option String
  /-- The name under which the answer is kept, if it is. -/
  answerName : Option String
  /-- Something can be chosen. -/
  live : choices.isEmpty = false ∨ otherwise.isSome = true

namespace Condition

/-- Define a condition. -/
def define (expression template : Option String) (choices : OrderedMap String)
    (otherwise answerName : Option String) : Except PipeFault Condition := do
  let question ← match expression, template with
    | some source, none => .ok (Question.expression source)
    | none, some source => .ok (Question.template source)
    | _, _ => .error PipeFault.expressionCount
  if live : choices.isEmpty = false ∨ otherwise.isSome = true then
    return { question, choices, otherwise, answerName, live }
  else throw .emptyMap

/-- The codes of the pipes that may be chosen. -/
def pipes (condition : Condition) : List String :=
  let chosen := condition.choices.values
  match condition.otherwise with
  | some code => if chosen.contains code then chosen else chosen ++ [code]
  | none => chosen

end Condition

/-- Define the batch of a pipe with these inputs. Without a list name the only input is meant. -/
def Batch.define (inputs : Inputs) (list : Option String) (item : String) :
    Except PipeFault Batch := do
  let list ← match list, inputs.sole? with
    | some name, _ => .ok name
    | none, some (name, _) => .ok name
    | none, none => .error (PipeFault.ambiguousList inputs.size)
  if item.isEmpty then throw .emptyItemName
  if item = list then throw .itemIsList
  return ⟨list, item⟩

end Conduit
