import Conduit.Library
import Conduit.Bundle.Basic

/-!
# Loading bundles

Loading a bundle adds its concepts to the vocabulary and then its pipes to the
library. The concepts that pipes refer to are resolved, and every pipe is checked;
only references to other pipes stay open. A bundle with a fault is not loaded.
-/

namespace Conduit

/-- The step that is declared. -/
def StepBlueprint.build (blueprint : StepBlueprint) : Except PipeFault Step :=
  match Multiplicity.ofFields? blueprint.count blueprint.many with
  | none => .error (.stepCounts blueprint.pipe)
  | some multiplicity =>
    match blueprint.list, blueprint.item with
    | some list, some item =>
      .ok ⟨blueprint.pipe, blueprint.result, multiplicity, some ⟨list, item⟩⟩
    | none, none => .ok ⟨blueprint.pipe, blueprint.result, multiplicity, none⟩
    | _, _ => .error (.halfBatch blueprint.pipe)

/-- The concept that a reference in a domain means. -/
def Vocabulary.require (vocabulary : Vocabulary) (domain reference : String) :
    Except Cause Concept :=
  (vocabulary.resolveIn domain reference).mapError Cause.concept

/-- The inputs that are declared. -/
def InputBlueprint.buildAll (vocabulary : Vocabulary) (domain : String)
    (blueprints : OrderedMap InputBlueprint) : Except Cause Inputs :=
  blueprints.entries.foldlM (fun inputs entry => do
    let concept ← vocabulary.require domain entry.2.concept
    return inputs.insert entry.1 ⟨concept, entry.2.multiplicity⟩) ∅

/-- The body that is declared for a pipe with these inputs and this output. -/
def BodyBlueprint.build (vocabulary : Vocabulary) (domain code : String) (inputs : Inputs)
    (output : Concept) (blueprint : BodyBlueprint) : Except Cause PipeBody := do
  let check {α : Type} (result : Except PipeFault α) : Except Cause α :=
    result.mapError (Cause.definition code)
  match blueprint with
  | .sequence steps =>
    let steps ← check (steps.mapM StepBlueprint.build)
    return .sequence (← check (Sequence.define steps))
  | .parallel branches keepsEach combined =>
    let combined ← combined.mapM (vocabulary.require domain)
    let steps ← check (branches.mapM StepBlueprint.build)
    return .parallel (← check (Parallel.define steps keepsEach combined))
  | .condition expression template choices otherwise answerName =>
    return .condition
      (← check (Condition.define expression template choices otherwise answerName))
  | .batch branch list item => return .batch branch (← check (Batch.define inputs list item))
  | .prompt template system => return .prompt (← check (Prompt.define template system))
  | .image template => return .image (← check (ImagePrompt.define inputs output template))
  | .extract pageViews => return .extract (← check (Extraction.define inputs output pageViews))
  | .call function => return .call (← check (checkFunctionName function))
  | .compose template => return .compose (← check (checkComposition output template))

/-- The pipe that is declared under a code in a domain. -/
def PipeBlueprint.build (vocabulary : Vocabulary) (domain code : String)
    (blueprint : PipeBlueprint) : Except Cause Pipe := do
  let inputs ← InputBlueprint.buildAll vocabulary domain blueprint.inputs
  let output ← vocabulary.require domain blueprint.output
  match Multiplicity.ofFields? blueprint.count blueprint.many with
  | none => throw (.definition code .conflictingCounts)
  | some multiplicity =>
    let body ← blueprint.body.build vocabulary domain code inputs output
    let definition := blueprint.definition
    return ⟨{ domain, code, definition, inputs, output, multiplicity }, body⟩

namespace Library

/-- Add the pipes that are declared in a domain. -/
def addPipes (library : Library) (domain : String) :
    List (String × PipeBlueprint) → Except Cause Library
  | [] => .ok library
  | (code, blueprint) :: rest => do
    let pipe ← blueprint.build library.vocabulary domain code
    let library ← library.addPipe pipe
    library.addPipes domain rest

/-- Load a bundle. -/
def load (library : Library) (bundle : Bundle) : Except Cause Library :=
  match library.vocabulary.load bundle.domain bundle.concepts with
  | (.error error, _) => .error (.concept error)
  | (.ok _, vocabulary) =>
    { library with vocabulary }.addPipes bundle.domain bundle.pipes.entries

end Library

end Conduit
