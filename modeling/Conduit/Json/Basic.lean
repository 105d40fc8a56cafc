/-!
# JSON values

A value keeps integers apart from doubles, as the texts `1` and `1.0` do. The
fields of an object are sorted by key in the order of Unicode code points, and a
key occurs once; `Json.ofFields` establishes both.
-/

namespace Conduit

/-- A JSON value. -/
inductive Json where
  | null
  | bool (value : Bool)
  /-- A number written without a point and an exponent. -/
  | integer (value : Int)
  /-- Any other number. -/
  | double (value : Float)
  | string (text : String)
  | array (items : List Json)
  /-- The fields, by ascending key. -/
  | object (fields : List (String × Json))

namespace Json

instance : Inhabited Json := ⟨null⟩

mutual

/-- Are two values equal? Doubles are compared as numbers, so the two zeros are equal. -/
def same : Json → Json → Bool
  | null, null => true
  | bool a, bool b => a == b
  | integer a, integer b => a == b
  | double a, double b => a == b
  | string a, string b => a == b
  | array as, array bs => sameItems as bs
  | object as, object bs => sameFields as bs
  | _, _ => false

/-- Are two lists of items equal? -/
def sameItems : List Json → List Json → Bool
  | [], [] => true
  | a :: as, b :: bs => same a b && sameItems as bs
  | _, _ => false

/-- Are two lists of fields equal? -/
def sameFields : List (String × Json) → List (String × Json) → Bool
  | [], [] => true
  | (k, a) :: as, (l, b) :: bs => k == l && same a b && sameFields as bs
  | _, _ => false

end

instance : BEq Json := ⟨same⟩

/-- Write a field into sorted fields; an earlier value of the key is lost. -/
def insertField (key : String) (value : Json) : List (String × Json) → List (String × Json)
  | [] => [(key, value)]
  | (k, v) :: rest =>
    if key < k then (key, value) :: (k, v) :: rest
    else if key = k then (key, value) :: rest
    else (k, v) :: insertField key value rest

/-- The object with the given fields, written one after the other. -/
def ofFields (fields : List (String × Json)) : Json :=
  object (fields.foldl (fun sorted field => insertField field.1 field.2 sorted) [])

/-- The value of a field of an object. -/
def field? (key : String) : Json → Option Json
  | object fields => fields.lookup key
  | _ => none

/-- An array of texts. -/
def ofStrings (texts : List String) : Json :=
  array (texts.map string)

/-- The value itself, or null. -/
def ofOption : Option Json → Json
  | some value => value
  | none => null

end Json

end Conduit
