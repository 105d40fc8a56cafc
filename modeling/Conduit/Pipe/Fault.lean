import Conduit.Multiplicity

/-!
# What can be wrong with the definition of a pipe

Pipes are checked when they are defined, so that a pipe that exists can be run.
-/

namespace Conduit

/-- Why a pipe cannot be what is written. -/
inductive PipeFault where
  /-- Both a count and a flag are given for the output. -/
  | conflictingCounts
  /-- Both a count and a flag are given for a step. -/
  | stepCounts (step : String)
  /-- A step names a list or an item, but not both. -/
  | halfBatch (step : String)
  | noSteps
  | emptyBatch (step : String)
  | noBranches
  | unnamedBranch (branch : String)
  /-- A parallel keeps neither the results of its branches nor their combination. -/
  | noOutput
  /-- The combined output is of a class that is no record. -/
  | combinedNotRecord (concept className : String)
  /-- There is no expression, or more than one. -/
  | expressionCount
  /-- Nothing could ever be selected. -/
  | emptyMap
  /-- No list is named, and there is not exactly one input. -/
  | ambiguousList (inputs : Nat)
  | emptyItemName
  | itemIsList
  | emptyPrompt
  | notImage (concept : String)
  | noImagePrompt
  | noDocument
  | documentClass (input className : String)
  | notPages (concept : String)
  | emptyFunctionName
  | notTextual (concept className : String)
  /-- There is a pipe of this code already. -/
  | duplicate
  deriving DecidableEq, Repr

/-- The wording of a fault. -/
def PipeFault.message : PipeFault → String
  | conflictingCounts => Multiplicity.conflictMessage
  | stepCounts step => s!"step '{step}': {Multiplicity.conflictMessage}"
  | halfBatch step => s!"step '{step}' must set both batch_over and batch_as"
  | noSteps => "a sequence needs at least one step"
  | emptyBatch step => s!"step '{step}' has an empty batch_over or batch_as"
  | noBranches => "a parallel needs at least one branch"
  | unnamedBranch branch => s!"branch '{branch}' must name its result"
  | noOutput => "set add_each_output or combined_output"
  | combinedNotRecord concept className =>
    s!"combined_output '{concept}' must have a record structure, not '{className}'"
  | expressionCount => "exactly one of expression and expression_template must be set"
  | emptyMap => "an empty pipe_map requires a default_pipe_code"
  | ambiguousList inputs =>
    s!"input_list_name must be set when the pipe declares {inputs} inputs"
  | emptyItemName => "input_item_name is empty"
  | itemIsList => "input_item_name must differ from input_list_name"
  | emptyPrompt => "prompt_template is empty"
  | notImage concept => s!"output '{concept}' is not an image concept"
  | noImagePrompt => "needs a prompt_template or a single text input"
  | noDocument => "needs exactly one image or PDF input"
  | documentClass input className =>
    s!"input '{input}' must be an image or a PDF, not '{className}'"
  | notPages concept => s!"output '{concept}' must be a page concept"
  | emptyFunctionName => "function_name is empty"
  | notTextual concept className =>
    s!"output '{concept}' must be text or HTML, not '{className}'"
  | duplicate => "a pipe with this code is already defined"

end Conduit
