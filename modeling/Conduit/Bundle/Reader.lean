import Conduit.Json.Record
import Conduit.Bundle.Basic

/-!
# Reading bundles

A bundle is a JSON text in which order counts: concepts, pipes, inputs and fields
keep the order of the text. A record must not give a field twice; a map may give a
key again, and its last value stands in its first place. What no one asks for is
passed over, but it has to be well-formed, and inside a concept, an input or a
pipe it has to be a value.
-/

namespace Conduit

namespace Document

/-- The document itself, if it is a value whose containers nest at most `room` deep. -/
def checked? (room : Nat) (document : Document) : Option Document :=
  if (document.value? room).isSome then some document else none

/-- Read a map from any keys. -/
def map? {α : Type} (read : Document → Option α) (document : Document) : Option (OrderedMap α) :=
  (document.entries? read).map .ofList

end Document

namespace Bundle

/-- How deep values nest at most inside the parts of a bundle: the bundle itself, the map of
concepts or pipes, a pipe, and its map of inputs are containers around them. -/
def conceptRoom : Nat := Document.depthLimit - 2

/-- How deep a field of a pipe may nest. -/
def pipeRoom : Nat := Document.depthLimit - 3

/-- How deep an input may nest. -/
def inputRoom : Nat := Document.depthLimit - 4

/-- Read the type of a field. -/
def fieldTypeOf? (document : Document) : Option FieldType :=
  document.string?.bind fun text => (FieldType.ofText text).toOption

/-- Read how a concept is built. -/
def structureOf? : Document → Option StructureBlueprint
  | .text className => className.map .named
  | document => (document.map? fieldTypeOf?).map .inline

/-- Read a concept, in which containers nest at most `room` deep. -/
def conceptOf? (room : Nat) (document : Document) : Option ConceptBlueprint := do
  match ← document.checked? room with
  | .text definition => definition.map .brief
  | document =>
    let record ← document.fields? ["definition", "structure", "refines"]
    let definition ← record.required "definition" Document.string?
    let structure? ← record.withDefault "structure" none (Document.nullable? structureOf?)
    let refines ← record.withDefault "refines" none (Document.nullable? Document.string?)
    return .full definition structure? refines

/-- Read an input. -/
def inputOf? (document : Document) : Option InputBlueprint := do
  match ← document.checked? inputRoom with
  | .text concept => concept.map .brief
  | document =>
    let record ← document.fields? ["concept", "multiplicity"]
    let concept ← record.required "concept" Document.string?
    let multiplicity ← record.withDefault "multiplicity" none
      (Document.nullable? Multiplicity.ofDocument?)
    return .full concept multiplicity

/-- Read a string that may be missing. -/
def textOf? (record : Record Document) (name : String) : Option (Option String) :=
  record.withDefault name none (Document.nullable? Document.string?)

/-- Read a boolean that may be missing. -/
def flagOf? (record : Record Document) (name : String) : Option (Option Bool) :=
  record.withDefault name none (Document.nullable? Document.bool?)

/-- Read a count that may be missing. -/
def countOf? (record : Record Document) (name : String) : Option (Option Nat) :=
  record.withDefault name none (Document.nullable? (Document.nat? Multiplicity.bound))

/-- Read a step or a branch. -/
def stepOf? (document : Document) : Option StepBlueprint := do
  let record ← document.record?
    ["pipe", "result", "nb_output", "multiple_output", "batch_over", "batch_as"]
  let pipe ← record.required "pipe" Document.string?
  let result ← textOf? record "result"
  let count ← countOf? record "nb_output"
  let many ← flagOf? record "multiple_output"
  let list ← textOf? record "batch_over"
  let item ← textOf? record "batch_as"
  return { pipe, result, count, many, list, item }

/-- The kinds of bodies in the order of their numbers, each with its own fields. -/
def bodyFields : List (String × List String) :=
  [("PipeSequence", ["steps"]),
   ("PipeParallel", ["parallels", "add_each_output", "combined_output"]),
   ("PipeCondition", ["expression", "expression_template", "pipe_map", "default_pipe_code",
     "add_alias_from_expression_to"]),
   ("PipeBatch", ["branch_pipe_code", "input_list_name", "input_item_name"]),
   ("PipeLLM", ["prompt_template", "system_prompt"]),
   ("PipeImgGen", ["prompt_template"]),
   ("PipeExtract", ["page_views"]),
   ("PipeFunc", ["function_name"]),
   ("PipeCompose", ["template"])]

/-- Read the kind of a body, which is a name or a number. -/
def kindOf? : Document → Option (String × List String)
  | .number numeral => (Document.nat? bodyFields.length (.number numeral)).bind (bodyFields[·]?)
  | document => document.string?.bind fun name => bodyFields.find? (·.1 == name)

/-- Read the body of a pipe of a kind. -/
def bodyOf? (record : Record Document) : String → Option BodyBlueprint
  | "PipeSequence" => do
    return .sequence (← record.required "steps" (Document.items? stepOf?))
  | "PipeParallel" => do
    let branches ← record.required "parallels" (Document.items? stepOf?)
    return .parallel branches (← flagOf? record "add_each_output")
      (← textOf? record "combined_output")
  | "PipeCondition" => do
    let expression ← textOf? record "expression"
    let template ← textOf? record "expression_template"
    let choices ← record.withDefault "pipe_map" ∅ (Document.map? Document.string?)
    return .condition expression template choices (← textOf? record "default_pipe_code")
      (← textOf? record "add_alias_from_expression_to")
  | "PipeBatch" => do
    let branch ← record.required "branch_pipe_code" Document.string?
    let list ← textOf? record "input_list_name"
    return .batch branch list (← record.required "input_item_name" Document.string?)
  | "PipeLLM" => do
    let template ← record.required "prompt_template" Document.string?
    return .prompt template (← textOf? record "system_prompt")
  | "PipeImgGen" => return .image (← textOf? record "prompt_template")
  | "PipeExtract" => return .extract (← record.withDefault "page_views" false Document.bool?)
  | "PipeFunc" => return .call (← record.required "function_name" Document.string?)
  | "PipeCompose" => return .compose (← record.required "template" Document.string?)
  | _ => none

/-- The fields that pipes of every kind have. -/
def commonFields : List String :=
  ["definition", "inputs", "output", "nb_output", "multiple_output"]

/-- Read a pipe. Its fields are those of every pipe, its kind, and those of its kind. -/
def pipeOf? (document : Document) : Option PipeBlueprint := do
  let record ← document.fields? commonFields
  let definition ← record.withDefault "definition" "" Document.string?
  let inputs ← record.withDefault "inputs" ∅ (Document.map? inputOf?)
  let output ← record.required "output" Document.string?
  let count ← countOf? record "nb_output"
  let many ← flagOf? record "multiple_output"
  let own : Record Document := record.filter fun field => !commonFields.contains field.1
  let own ← own.mapM fun field => (field.2.checked? pipeRoom).map (field.1, ·)
  let (kind, names) ← Record.required own "type" kindOf?
  if Record.unique ("type" :: names) own then
    let body ← bodyOf? own kind
    return { definition, inputs, output, count, many, body }
  else none

/-- Read a bundle. -/
def ofDocument? (document : Document) : Option Bundle := do
  let record ← document.record? ["domain", "definition", "concepts", "pipes"]
  let domain ← record.required "domain" Document.string?
  let definition ← textOf? record "definition"
  let concepts ← record.withDefault "concepts" ∅ (Document.map? (conceptOf? conceptRoom))
  let pipes ← record.withDefault "pipes" ∅ (Document.map? pipeOf?)
  return { domain, definition, concepts, pipes }

/-- Read a bundle from its text. -/
def ofText? (text : String) : Option Bundle :=
  (Document.ofText? text).bind ofDocument?

end Bundle

end Conduit
