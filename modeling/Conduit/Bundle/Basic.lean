import Conduit.OrderedMap
import Conduit.Multiplicity
import Conduit.Concept.Blueprint

/-!
# Bundles

A bundle declares the concepts and pipes of a domain. What it declares is a
blueprint: references are not resolved yet, and defaults are not filled in.
-/

namespace Conduit

/-- An input as a bundle declares it. -/
inductive InputBlueprint where
  /-- A reference to a concept. -/
  | brief (concept : String)
  | full (concept : String) (multiplicity : Option Multiplicity)

namespace InputBlueprint

/-- The reference to the concept of the input. -/
def concept : InputBlueprint → String
  | brief concept => concept
  | full concept _ => concept

/-- The multiplicity of the input. -/
def multiplicity : InputBlueprint → Option Multiplicity
  | brief _ => none
  | full _ multiplicity => multiplicity

end InputBlueprint

/-- A step or a branch as a bundle declares it. -/
structure StepBlueprint where
  pipe : String
  result : Option String
  count : Option Nat
  many : Option Bool
  /-- The list for whose items the pipe is run. -/
  list : Option String
  /-- The name of such an item. -/
  item : Option String

/-- The body of a pipe as a bundle declares it. -/
inductive BodyBlueprint where
  | sequence (steps : List StepBlueprint)
  | parallel (branches : List StepBlueprint) (keepsEach : Option Bool) (combined : Option String)
  | condition (expression template : Option String) (choices : OrderedMap String)
      (otherwise answerName : Option String)
  | batch (branch : String) (list : Option String) (item : String)
  | prompt (template : String) (system : Option String)
  | image (template : Option String)
  | extract (pageViews : Bool)
  | call (function : String)
  | compose (template : String)

/-- A pipe as a bundle declares it. -/
structure PipeBlueprint where
  definition : String
  inputs : OrderedMap InputBlueprint
  output : String
  count : Option Nat
  many : Option Bool
  body : BodyBlueprint

/-- What a bundle declares. -/
structure Bundle where
  domain : String
  definition : Option String
  concepts : OrderedMap ConceptBlueprint
  pipes : OrderedMap PipeBlueprint

end Conduit
