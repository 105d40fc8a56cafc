import Conduit.Pipe.Flow
import Conduit.Pipe.Work

/-!
# Pipes

A pipe is a signature and a body. The body is one of nine kinds: four run other
pipes, five make content themselves.
-/

namespace Conduit

/-- What a pipe does. -/
inductive PipeBody where
  | sequence (sequence : Sequence)
  | parallel (parallel : Parallel)
  | condition (condition : Condition)
  /-- Run a pipe for every item of a list. -/
  | batch (branch : String) (batch : Batch)
  | prompt (prompt : Prompt)
  | image (prompt : ImagePrompt)
  | extract (extraction : Extraction)
  /-- Call a function. -/
  | call (function : String)
  /-- Fill in a template. -/
  | compose (template : String)

namespace PipeBody

/-- The name of the kind of a body. -/
def kindName : PipeBody → String
  | sequence _ => "PipeSequence"
  | parallel _ => "PipeParallel"
  | condition _ => "PipeCondition"
  | batch _ _ => "PipeBatch"
  | prompt _ => "PipeLLM"
  | image _ => "PipeImgGen"
  | extract _ => "PipeExtract"
  | call _ => "PipeFunc"
  | compose _ => "PipeCompose"

/-- The codes of the pipes that a body may run. -/
def pipes : PipeBody → List String
  | sequence body => body.steps.map Step.pipe
  | parallel body => body.branches.map Branch.pipe
  | condition body => body.pipes
  | batch branch _ => [branch]
  | _ => []

end PipeBody

/-- A pipe. -/
structure Pipe where
  signature : Signature
  body : PipeBody

namespace Pipe

/-- The code by which a pipe is known. -/
def code (pipe : Pipe) : String :=
  pipe.signature.code

/-- The codes of the pipes that a pipe may run. -/
def callees (pipe : Pipe) : List String :=
  pipe.body.pipes

/-- The names of the inputs that are lists: those that are declared so, and the list of a batch. -/
def listInputs (pipe : Pipe) : List String :=
  let declared := (pipe.signature.inputs.entries.filter fun entry => entry.2.isList).map Prod.fst
  match pipe.body with
  | .batch _ batch => if declared.contains batch.list then declared else declared ++ [batch.list]
  | _ => declared

end Pipe

end Conduit
