import Conduit.Json.Record

/-!
# How many

A multiplicity says that there are several things, or how many. A pipe declares one
for its output, and its caller may override it; resolving the two tells whether
several things are wanted, and how many exactly if anyone has said so.
-/

namespace Conduit

/-- One thing or several, perhaps with their number. -/
inductive Multiplicity where
  /-- Several things, or just one. -/
  | flag (many : Bool)
  /-- So many things. -/
  | count (count : Nat)
  deriving DecidableEq, Repr

namespace Multiplicity

/-- A count is below this bound. -/
def bound : Nat := Nat.pow 2 32

/-- Does the multiplicity stand for a list? No things at all are no list. -/
def isMany : Multiplicity → Bool
  | flag many => many
  | count n => 0 < n

/-- The number of things, if it is said. -/
def count? : Multiplicity → Option Nat
  | flag _ => none
  | count n => some n

/-- The multiplicity that a count or a flag declares; nothing when both are given. -/
def ofFields? : Option Nat → Option Bool → Option (Option Multiplicity)
  | some _, some _ => none
  | some n, none => some (some (count n))
  | none, some many => some (some (flag many))
  | none, none => some none

/-- The wording when both a count and a flag are given. -/
def conflictMessage : String :=
  "nb_output and multiple_output are mutually exclusive"

/-- Read a multiplicity. -/
def ofJson? : Json → Option Multiplicity
  | .bool many => some (flag many)
  | value => (value.nat? bound).map count

/-- Read a multiplicity as it is written in a document. -/
def ofDocument? : Document → Option Multiplicity
  | .bool many => some (flag many)
  | document => (document.nat? bound).map count

/-- Write a multiplicity. -/
def toJson : Multiplicity → Json
  | flag many => .bool many
  | count n => .integer n

end Multiplicity

/-- What a declared multiplicity and its override come to. -/
structure Demand where
  /-- The multiplicity that holds. -/
  multiplicity : Option Multiplicity
  /-- Are several things wanted? -/
  many : Bool
  /-- How many, if it is said. -/
  count : Option Nat
  deriving DecidableEq, Repr

namespace Demand

/-- The override holds, if there is one; but asking for several things leaves a declared count
as it is. -/
def resolve (declared override : Option Multiplicity) : Demand :=
  match override with
  | none =>
    ⟨declared, declared.any Multiplicity.isMany, declared.bind Multiplicity.count?⟩
  | some (.flag false) => ⟨some (.flag false), false, none⟩
  | some (.flag true) =>
    match declared with
    | some (.count n) => ⟨some (.count n), true, some n⟩
    | _ => ⟨some (.flag true), true, none⟩
  | some (.count n) => ⟨some (.count n), true, some n⟩

end Demand

end Conduit
