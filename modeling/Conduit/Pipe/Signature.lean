import Conduit.OrderedMap
import Conduit.Text.SnakeCase
import Conduit.Concept.Basic
import Conduit.Multiplicity

/-!
# What a pipe shows to its callers

A signature names a pipe, its inputs with their concepts, and the concept of its
output. Either may stand for several things.
-/

namespace Conduit

/-- What an input has to be. -/
structure Requirement where
  concept : Concept
  multiplicity : Option Multiplicity
  deriving DecidableEq, Repr

/-- Does the input have to be a list? -/
def Requirement.isList (requirement : Requirement) : Bool :=
  requirement.multiplicity.any Multiplicity.isMany

/-- The inputs of a pipe, in the order of their declaration. -/
abbrev Inputs := OrderedMap Requirement

/-- What a pipe shows to its callers. -/
structure Signature where
  domain : String
  code : String
  /-- What the pipe does, in words. -/
  definition : String
  inputs : Inputs
  output : Concept
  multiplicity : Option Multiplicity

/-- The name of what the pipe produces: the one that is asked for, or else that of the output
concept. -/
def Signature.resultName (signature : Signature) (requested : Option String) : String :=
  requested.getD (Text.snakeCase signature.output.code)

end Conduit
