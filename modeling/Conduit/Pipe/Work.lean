import Conduit.Text.Blank
import Conduit.Schema.ClassName
import Conduit.Pipe.Signature
import Conduit.Pipe.Fault

/-!
# Pipes that make content

A language model answers a prompt, an image model paints one, an extraction splits
a document into pages, a function is called with the inputs, and a template is
filled in. Each of them asks for inputs and an output that suit it.
-/

namespace Conduit

/-- A question to a language model. -/
structure Prompt where
  template : String
  system : Option String
  deriving DecidableEq, Repr

/-- Define a question; its template is not blank. -/
def Prompt.define (template : String) (system : Option String) : Except PipeFault Prompt :=
  if (Text.trimmed template).isEmpty then .error .emptyPrompt else .ok ⟨template, system⟩

/-- What an image is painted from. -/
inductive ImagePrompt where
  /-- A template that is filled in. -/
  | template (source : String)
  /-- The text of an input. -/
  | input (name : String)
  deriving DecidableEq, Repr

/-- Define an image prompt. Without a template the only input is meant, and it has to be a text. -/
def ImagePrompt.define (inputs : Inputs) (output : Concept) (template : Option String) :
    Except PipeFault ImagePrompt :=
  if output.className ≠ ClassName.image then .error (.notImage output.fullName)
  else match template, inputs.sole? with
    | some source, _ => .ok (.template source)
    | none, some (name, requirement) =>
      if requirement.concept.className = ClassName.text then .ok (.input name)
      else .error .noImagePrompt
    | none, none => .error .noImagePrompt

/-- An extraction of pages. -/
structure Extraction where
  /-- The name of the document. -/
  input : String
  /-- Are pictures of the pages wanted as well? -/
  pageViews : Bool
  deriving DecidableEq, Repr

/-- Define an extraction from the only input, which is an image or a PDF. -/
def Extraction.define (inputs : Inputs) (output : Concept) (pageViews : Bool) :
    Except PipeFault Extraction :=
  match inputs.sole? with
  | none => .error .noDocument
  | some (name, requirement) =>
    let className := requirement.concept.className
    if className ≠ ClassName.image && className ≠ ClassName.pdf then
      .error (.documentClass name className)
    else if output.className ≠ ClassName.page then .error (.notPages output.fullName)
    else .ok ⟨name, pageViews⟩

/-- Define a call of a function by its name, which is not blank. -/
def checkFunctionName (name : String) : Except PipeFault String :=
  if (Text.trimmed name).isEmpty then .error .emptyFunctionName else .ok name

/-- Define a composition; its output is a text or HTML. -/
def checkComposition (output : Concept) (template : String) : Except PipeFault String :=
  if output.className ≠ ClassName.text && output.className ≠ ClassName.html then
    .error (.notTextual output.fullName output.className)
  else .ok template

end Conduit
