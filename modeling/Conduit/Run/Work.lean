import Conduit.Library
import Conduit.DryRun.Synthesis
import Conduit.Run.Params
import Conduit.Run.State

/-!
# Running pipes that make content

These pipes read the memory and produce one stuff; the memory stays as it is. In a
dry run the generator and the functions are not asked: what they would answer is
made up. Templates are filled in all the same.
-/

namespace Conduit

/-- Bring an answer in line with what is wanted: where several things are wanted, one thing is a
list of one; where one thing is wanted, a list is refused. -/
def shape (pipe : String) (many : Bool) (content : Content) : Except CollaboratorError Content :=
  match many, content.isList with
  | true, false => .ok (.list [content])
  | false, true => .error (.listForOne pipe)
  | _, _ => .ok content

/-- The stuff that a pipe produces, whose content has to fit the declared concept. -/
def Signature.produce (signature : Signature) (output : Option String) (content : Content) :
    Run Stuff :=
  Run.require Cause.concept
    (Stuff.make (signature.resultName output) signature.output content)

namespace Library

/-- What a pipe produces in a dry run. -/
def pretend (library : Library) (signature : Signature) (params : Params)
    (output : Option String) : Run Stuff := do
  let content ← Run.require Cause.concept
    (library.vocabulary.sampleOutput signature params.multiplicity params.listLength)
  signature.produce output content

/-- Give the generator a job, and make a stuff of its answer. -/
def obtain (library : Library) (signature : Signature) (output : Option String) (many : Bool)
    (job : Job) : Run Stuff := do
  let content ← Run.generate library.collaborators job
  let content ← Run.require Cause.collaborator (shape signature.code many content)
  signature.produce output content

/-- Fill in a template with the view of a memory. -/
def render (library : Library) (memory : WorkingMemory) (template : String) : Run String :=
  Run.require Cause.collaborator (library.collaborators.render template memory.view)

/-- The images of a content, those of its items if it is a list. -/
def attachedImages (content : Content) : List Image :=
  match content.items? with
  | some items => items.flatMap Content.images
  | none => content.images

/-- The images to attach to a prompt: those of every input whose concept is a kind of image. -/
def attachments (library : Library) (memory : WorkingMemory) :
    List (String × Requirement) → Run (List Image)
  | [] => pure []
  | (name, requirement) :: inputs => do
    let here ←
      if ← Run.require Cause.concept (library.vocabulary.isImageLike requirement.concept) then
        let stuff ← Run.require Cause.memory (memory.get name)
        pure (attachedImages stuff.content)
      else pure []
    let others ← library.attachments memory inputs
    return here ++ others

/-- The job that a question to a language model is. -/
def modelJob (signature : Signature) (system : Option String) (demand : Demand) (prompt : String)
    (images : List Image) : Job :=
  let job : ModelJob :=
    { pipe := signature.code
      prompt, system, images
      className := signature.output.className
      concept := signature.output.fullName
      many := demand.many
      count := demand.count }
  if job.className = ClassName.text then .text job else .object job

/-- Ask a language model. -/
def runPrompt (library : Library) (signature : Signature) (prompt : Prompt)
    (memory : WorkingMemory) (params : Params) (output : Option String) : Run Stuff := do
  let words ← library.render memory prompt.template
  let images ← library.attachments memory signature.inputs.entries
  if params.isDry then library.pretend signature params output
  else
    let demand := Demand.resolve signature.multiplicity params.multiplicity
    library.obtain signature output demand.many
      (modelJob signature prompt.system demand words images)

/-- The words from which an image is painted. -/
def imageWords (library : Library) (memory : WorkingMemory) : ImagePrompt → Run String
  | .template source => library.render memory source
  | .input name => do
    let stuff ← Run.require Cause.memory (memory.get name)
    return stuff.content.plainText

/-- Have images painted: as many as are asked for, or one. -/
def runImage (library : Library) (signature : Signature) (prompt : ImagePrompt)
    (memory : WorkingMemory) (params : Params) (output : Option String) : Run Stuff := do
  let words ← library.imageWords memory prompt
  if params.isDry then library.pretend signature params output
  else
    let demand := Demand.resolve signature.multiplicity params.multiplicity
    library.obtain signature output demand.many
      (.image signature.code words (demand.count.getD 1))

/-- Have a document split into pages, which always are a list. -/
def runExtract (library : Library) (signature : Signature) (extraction : Extraction)
    (memory : WorkingMemory) (params : Params) (output : Option String) : Run Stuff := do
  let document ← Run.require Cause.memory (memory.get extraction.input)
  if params.isDry then
    let pages ← Run.require Cause.concept
      (library.vocabulary.sampleList signature.output params.listLength)
    signature.produce output pages
  else
    library.obtain signature output true
      (.extract signature.code document.content extraction.pageViews)

/-- The stuffs of the declared inputs, by name. -/
def gather (memory : WorkingMemory) (names : List String) : Except MemoryError (OrderedMap Stuff) :=
  names.foldlM (fun stuffs name => do
    let stuff ← memory.get name
    return stuffs.insert name stuff) ∅

/-- Call a function, which has to be there in a dry run as well. -/
def runCall (library : Library) (signature : Signature) (name : String)
    (memory : WorkingMemory) (params : Params) (output : Option String) : Run Stuff := do
  let function ← Run.require Cause.collaborator (library.collaborators.functions.get name)
  if params.isDry then library.pretend signature params output
  else
    let inputs ← Run.require Cause.memory (gather memory signature.inputs.keys)
    let content ← Run.call name function inputs
    signature.produce output content

/-- The style class of composed HTML. -/
def composedClass : String := "pipeweave-compose"

/-- Fill in a template, in a dry run as in a live one. -/
def runCompose (library : Library) (signature : Signature) (template : String)
    (memory : WorkingMemory) (output : Option String) : Run Stuff := do
  let rendered ← library.render memory template
  let content :=
    if signature.output.className = ClassName.html then Content.html rendered composedClass
    else Content.text rendered
  signature.produce output content

end Library

end Conduit
