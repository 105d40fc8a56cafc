import Conduit.Vocabulary
import Conduit.Pipe.Basic
import Conduit.Run.Error

/-!
# The library

A library holds the vocabulary, the pipes and the collaborators of what has been
loaded. Pipes refer to each other by code; a reference that leads to no pipe is
dangling, and fails only when a run comes to it.
-/

namespace Conduit

/-- What has been loaded, and whom it calls on. -/
structure Library where
  vocabulary : Vocabulary
  /-- The pipes, in order of arrival. -/
  pipes : List Pipe
  collaborators : Collaborators

namespace Library

/-- The library without pipes. -/
def initial (collaborators : Collaborators) : Library :=
  ⟨.initial, [], collaborators⟩

/-- The pipe of this code. -/
def find? (library : Library) (code : String) : Option Pipe :=
  library.pipes.find? fun pipe => pipe.code == code

/-- The pipe of this code, which has to be there. -/
def get (library : Library) (code : String) : Except Cause Pipe :=
  match library.find? code with
  | some pipe => .ok pipe
  | none => .error (.pipeNotFound code)

/-- Is there a pipe of this code? -/
def contains (library : Library) (code : String) : Bool :=
  (library.find? code).isSome

/-- Add a pipe whose code is new. -/
def addPipe (library : Library) (pipe : Pipe) : Except Cause Library :=
  if library.contains pipe.code then .error (.definition pipe.code .duplicate)
  else .ok { library with pipes := library.pipes ++ [pipe] }

/-- Give a class these fields. -/
def register (library : Library) (className : String) (fields : ClassFields) : Library :=
  { library with vocabulary := library.vocabulary.register className fields }

/-- Add a concept. -/
def addConcept (library : Library) (concept : Concept) : Except ConceptError Library :=
  (library.vocabulary.add concept).map fun vocabulary => { library with vocabulary }

/-- Make a stuff of the concept that a reference means. -/
def makeStuff (library : Library) (name reference : String) (content : Content) :
    Except ConceptError Stuff := do
  let concept ← library.vocabulary.resolve reference
  Stuff.make name concept content

/-- The references to pipes that are not there, each with the pipe that makes it. -/
def dangling (library : Library) : List (String × String) :=
  library.pipes.flatMap fun pipe =>
    (pipe.callees.filter (!library.contains ·)).map (pipe.code, ·)

end Library

end Conduit
