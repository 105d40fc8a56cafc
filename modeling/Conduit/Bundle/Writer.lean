import Conduit.Json.Record
import Conduit.Bundle.Basic

/-!
# Writing bundles

A bundle is written with every field that it could have; what it does not say is
null.
-/

namespace Conduit

/-- Write a map. -/
def OrderedMap.toJson {α : Type} (write : α → Json) (map : OrderedMap α) : Json :=
  Json.ofFields (map.entries.map fun entry => (entry.1, write entry.2))

namespace Bundle

/-- Write a text that may be missing. -/
def textJson (text : Option String) : Json :=
  Json.ofOption (text.map .string)

/-- Write a flag that may be missing. -/
def flagJson (flag : Option Bool) : Json :=
  Json.ofOption (flag.map .bool)

/-- Write a count that may be missing. -/
def countJson (count : Option Nat) : Json :=
  Json.ofOption (count.map fun n => .integer n)

/-- Write how a concept is built. -/
def structureJson : StructureBlueprint → Json
  | .named className => .string className
  | .inline fields => fields.toJson fun type => .string type.written

/-- Write a concept. -/
def conceptJson : ConceptBlueprint → Json
  | .brief definition => .string definition
  | .full definition structure? refines => Json.ofFields
    [("definition", .string definition),
     ("structure", Json.ofOption (structure?.map structureJson)),
     ("refines", textJson refines)]

/-- Write an input. -/
def inputJson : InputBlueprint → Json
  | .brief concept => .string concept
  | .full concept multiplicity => Json.ofFields
    [("concept", .string concept),
     ("multiplicity", Json.ofOption (multiplicity.map Multiplicity.toJson))]

/-- Write a step or a branch. -/
def stepJson (step : StepBlueprint) : Json := Json.ofFields
  [("pipe", .string step.pipe),
   ("result", textJson step.result),
   ("nb_output", countJson step.count),
   ("multiple_output", flagJson step.many),
   ("batch_over", textJson step.list),
   ("batch_as", textJson step.item)]

/-- The fields of a body, with its kind. -/
def bodyJson : BodyBlueprint → List (String × Json)
  | .sequence steps =>
    [("type", .string "PipeSequence"), ("steps", .array (steps.map stepJson))]
  | .parallel branches keepsEach combined =>
    [("type", .string "PipeParallel"), ("parallels", .array (branches.map stepJson)),
     ("add_each_output", flagJson keepsEach), ("combined_output", textJson combined)]
  | .condition expression template choices otherwise answerName =>
    [("type", .string "PipeCondition"), ("expression", textJson expression),
     ("expression_template", textJson template), ("pipe_map", choices.toJson .string),
     ("default_pipe_code", textJson otherwise),
     ("add_alias_from_expression_to", textJson answerName)]
  | .batch branch list item =>
    [("type", .string "PipeBatch"), ("branch_pipe_code", .string branch),
     ("input_list_name", textJson list), ("input_item_name", .string item)]
  | .prompt template system =>
    [("type", .string "PipeLLM"), ("prompt_template", .string template),
     ("system_prompt", textJson system)]
  | .image template => [("type", .string "PipeImgGen"), ("prompt_template", textJson template)]
  | .extract pageViews => [("type", .string "PipeExtract"), ("page_views", .bool pageViews)]
  | .call function => [("type", .string "PipeFunc"), ("function_name", .string function)]
  | .compose template => [("type", .string "PipeCompose"), ("template", .string template)]

/-- Write a pipe. -/
def pipeJson (pipe : PipeBlueprint) : Json := Json.ofFields
  ([("definition", .string pipe.definition),
    ("inputs", pipe.inputs.toJson inputJson),
    ("output", .string pipe.output),
    ("nb_output", countJson pipe.count),
    ("multiple_output", flagJson pipe.many)] ++ bodyJson pipe.body)

/-- Write a bundle. -/
def toJson (bundle : Bundle) : Json := Json.ofFields
  [("domain", .string bundle.domain),
   ("definition", textJson bundle.definition),
   ("concepts", bundle.concepts.toJson conceptJson),
   ("pipes", bundle.pipes.toJson pipeJson)]

end Bundle

end Conduit
