import Conduit.OrderedMap
import Conduit.Text.SortedNames
import Conduit.Memory.Stuff

/-!
# Collaborators

A library calls on others for what it cannot do itself: a generator answers jobs, a
renderer fills in templates, an evaluator computes expressions, and functions do
the rest. Each may be missing, and each may fail. A generator may remember the
jobs it has had, so its answer depends on them; all others depend on their
arguments only.
-/

namespace Conduit

/-- A collaborator that is missing or not. -/
inductive Service where
  | generator
  | renderer
  | evaluator
  deriving DecidableEq, Repr

/-- What a service is called. -/
def Service.name : Service → String
  | generator => "content generator"
  | renderer => "template renderer"
  | evaluator => "expression evaluator"

/-- What can go wrong with a collaborator. -/
inductive CollaboratorError where
  | generation (text : String)
  | render (text : String)
  | evaluation (text : String)
  | function (name text : String)
  | functionNotFound (name : String)
  | unavailable (service : Service)
  | unexpectedContent (text : String)
  deriving DecidableEq, Repr

namespace CollaboratorError

/-- The wording of a collaborator's error. -/
def message : CollaboratorError → String
  | generation text => s!"Content generation failed: {text}"
  | render text => s!"Template rendering failed: {text}"
  | evaluation text => s!"Expression evaluation failed: {text}"
  | function name text => s!"Function '{name}' failed: {text}"
  | functionNotFound name => s!"Function '{name}' is not registered"
  | unavailable service => s!"No {service.name} configured"
  | unexpectedContent text => s!"Unexpected content: {text}"

/-- A pipe has asked for one thing and was given a list. -/
def listForOne (pipe : String) : CollaboratorError :=
  unexpectedContent s!"pipe '{pipe}' expected a single output but got a list"

end CollaboratorError

/-- A job for a language model. -/
structure ModelJob where
  /-- The code of the pipe that asks. -/
  pipe : String
  prompt : String
  system : Option String
  images : List Image
  /-- The class of every thing that is wanted. -/
  className : String
  /-- The full name of the concept of what is wanted. -/
  concept : String
  /-- Are several things wanted? -/
  many : Bool
  /-- How many, if it is said. -/
  count : Option Nat

/-- A job for the generator. -/
inductive Job where
  /-- Write texts. -/
  | text (job : ModelJob)
  /-- Write records. -/
  | object (job : ModelJob)
  /-- Paint so many images. -/
  | image (pipe prompt : String) (count : Nat)
  /-- Split a document into pages. -/
  | extract (pipe : String) (document : Content) (pageViews : Bool)

/-- The code of the pipe that asks. -/
def Job.pipe : Job → String
  | text job => job.pipe
  | object job => job.pipe
  | image pipe _ _ => pipe
  | extract pipe _ _ => pipe

/-- A generator answers a job, given the jobs it has had before. -/
abbrev Generator := List Job → Job → Except CollaboratorError Content

/-- A renderer fills a view of the memory into a template. -/
abbrev Renderer := String → Json → Except CollaboratorError String

/-- An evaluator computes an expression over a view of the memory. -/
abbrev Evaluator := String → Json → Except CollaboratorError Json

/-- A function makes a content from named stuffs. -/
abbrev Function := OrderedMap Stuff → Except CollaboratorError Content

/-- The functions that pipes may call, by name. -/
structure Functions where
  table : OrderedMap Function

namespace Functions

/-- No functions. -/
def empty : Functions := ⟨∅⟩

/-- Give a function a name, in place of the one that has had it. -/
def register (functions : Functions) (name : String) (function : Function) : Functions :=
  ⟨functions.table.insert name function⟩

/-- The function of this name. -/
def find? (functions : Functions) (name : String) : Option Function :=
  functions.table.get? name

/-- The function of this name, which has to be there. -/
def get (functions : Functions) (name : String) : Except CollaboratorError Function :=
  match functions.find? name with
  | some function => .ok function
  | none => .error (.functionNotFound name)

/-- Is there a function of this name? -/
def contains (functions : Functions) (name : String) : Bool :=
  (functions.find? name).isSome

/-- The names of the functions, in order. -/
def names (functions : Functions) : List String :=
  Text.sortedNames functions.table.keys

/-- The number of functions. -/
def size (functions : Functions) : Nat :=
  functions.table.size

end Functions

/-- All whom a library may call on. -/
structure Collaborators where
  generator : Option Generator
  renderer : Option Renderer
  evaluator : Option Evaluator
  functions : Functions

namespace Collaborators

/-- Fill in a template. -/
def render (collaborators : Collaborators) (template : String) (view : Json) :
    Except CollaboratorError String :=
  match collaborators.renderer with
  | some renderer => renderer template view
  | none => .error (.unavailable .renderer)

/-- Compute an expression. -/
def evaluate (collaborators : Collaborators) (expression : String) (view : Json) :
    Except CollaboratorError Json :=
  match collaborators.evaluator with
  | some evaluator => evaluator expression view
  | none => .error (.unavailable .evaluator)

end Collaborators

end Conduit
