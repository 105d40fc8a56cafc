import Conduit.Json.Document

/-!
# Records

A record with fixed fields is written as an object, or in some places as the array
of its values in the order of its fields, where the last ones may be left out.
Unknown fields of an object are passed over.
-/

namespace Conduit

/-- The fields of a record that have been found. -/
abbrev Record (ν : Type) := List (String × ν)

namespace Record

variable {ν α : Type}

/-- Read a field that must be there. -/
def required (record : Record ν) (name : String) (read : ν → Option α) : Option α :=
  (record.lookup name).bind read

/-- Read a field that stands for a fixed value when it is left out. -/
def withDefault (record : Record ν) (name : String) (value : α) (read : ν → Option α) : Option α :=
  match record.lookup name with
  | some field => read field
  | none => some value

/-- Name the values of an array by the fields of the record; there may be fewer values. -/
def ofItems? (names : List String) (items : List ν) : Option (Record ν) :=
  if items.length ≤ names.length then some (names.zip items) else none

/-- Does no name of the list occur twice among the fields? -/
def unique (names : List String) (record : Record ν) : Bool :=
  names.all fun name => (record.filter fun field => field.1 == name).length ≤ 1

end Record

namespace Json

/-- Find the fields of a record that is written as an object or an array. -/
def record? (names : List String) : Json → Option (Record Json)
  | object fields => some fields
  | array items => Record.ofItems? names items
  | _ => none

/-- Read a string. -/
def string? : Json → Option String
  | string text => some text
  | _ => none

/-- Read a boolean. -/
def bool? : Json → Option Bool
  | bool value => some value
  | _ => none

/-- Read a natural number below a bound. -/
def nat? (bound : Nat) : Json → Option Nat
  | integer value => if 0 ≤ value && value < bound then some value.toNat else none
  | _ => none

/-- Read any number as a double. -/
def double? : Json → Option Float
  | integer value => some (Float.ofInt value)
  | double value => some value
  | _ => none

/-- Read null as nothing. -/
def nullable? {α : Type} (read : Json → Option α) : Json → Option (Option α)
  | null => some none
  | value => (read value).map some

/-- Read every item of an array. -/
def items? {α : Type} (read : Json → Option α) : Json → Option (List α)
  | array items => items.mapM read
  | _ => none

end Json

namespace Document

/-- Name the fields of an object; no key may have an unpaired surrogate. -/
def named? (fields : List (Option String × Document)) : Option (Record Document) :=
  fields.mapM fun field => field.1.map (·, field.2)

/-- Find the fields of a record that is written as an object; none may occur twice. -/
def fields? (names : List String) : Document → Option (Record Document)
  | object fields => (named? fields).filter (Record.unique names)
  | _ => none

/-- Find the fields of a record that is written as an object or an array. -/
def record? (names : List String) : Document → Option (Record Document)
  | array items => Record.ofItems? names items
  | document => document.fields? names

/-- Find the entries of an object that maps any keys to values. -/
def entries? {α : Type} (read : Document → Option α) : Document → Option (List (String × α))
  | object fields => do
    let entries ← named? fields
    entries.mapM fun entry => (read entry.2).map (entry.1, ·)
  | _ => none

/-- Read a string. -/
def string? : Document → Option String
  | text value => value
  | _ => none

/-- Read a boolean. -/
def bool? : Document → Option Bool
  | bool value => some value
  | _ => none

/-- Read a natural number below a bound. -/
def nat? (bound : Nat) : Document → Option Nat
  | number numeral => numeral.value?.bind (Json.nat? bound)
  | _ => none

/-- Read null as nothing. -/
def nullable? {α : Type} (read : Document → Option α) : Document → Option (Option α)
  | null => some none
  | document => (read document).map some

/-- Read every item of an array. -/
def items? {α : Type} (read : Document → Option α) : Document → Option (List α)
  | array items => items.mapM read
  | _ => none

end Document

end Conduit
