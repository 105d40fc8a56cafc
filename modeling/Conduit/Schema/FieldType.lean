import Conduit.Text.Blank

/-!
# Types of fields

A field of a class holds a scalar, an image, a record of some class, a list, or
perhaps nothing. `FieldType.ofText` reads the written form, in which blanks may
stand around a type and just inside each pair of brackets.
-/

namespace Conduit

/-- The type of a field. -/
inductive FieldType where
  | text
  | number
  | bool
  | image
  | list (item : FieldType)
  | optional (value : FieldType)
  | record (className : String)
  deriving DecidableEq, Repr

/-- A text that is no field type. -/
structure UnknownFieldType where
  /-- The innermost text that could not be read, without the blanks around it. -/
  text : String
  deriving DecidableEq, Repr

/-- The wording of the fault. -/
def UnknownFieldType.message (fault : UnknownFieldType) : String :=
  s!"unknown field type '{fault.text}'"

namespace FieldType

/-- The written form, character by character. -/
def chars : FieldType → List Char
  | text => "text".toList
  | number => "number".toList
  | bool => "bool".toList
  | image => "image".toList
  | list item => "list[".toList ++ item.chars ++ [']']
  | optional value => "optional[".toList ++ value.chars ++ [']']
  | record className => className.toList

/-- The written form. -/
def written (type : FieldType) : String :=
  String.ofList type.chars

/-- What stands between an opening and a bracket that closes the text. -/
def enclosed? (opening cs : List Char) : Option (List Char) :=
  if opening.isPrefixOf cs && (cs.drop opening.length).getLast? == some ']' then
    some (cs.drop opening.length).dropLast
  else none

/-- Is this the name of a class: a capital and then letters and digits, all of ASCII? -/
def isClassName : List Char → Bool
  | [] => false
  | first :: rest => first.isUpper && rest.all Char.isAlphanum

/-- A type that is written without brackets. -/
def plain? (cs : List Char) : Option FieldType :=
  if cs = "text".toList then some text
  else if cs = "number".toList then some number
  else if cs = "bool".toList then some bool
  else if cs = "image".toList then some image
  else if isClassName cs then some (record (String.ofList cs))
  else none

theorem length_enclosed?_lt {opening cs inner : List Char} (h : enclosed? opening cs = some inner) :
    inner.length < cs.length := by
  simp only [enclosed?, Bool.and_eq_true, beq_iff_eq] at h
  split at h
  · rename_i hc
    cases h
    have last := List.mem_of_getLast? hc.2
    have pos := List.length_pos_of_mem last
    simp only [List.length_dropLast, List.length_drop] at *
    omega
  · cases h

theorem length_enclosed?_trim_lt {opening raw inner : List Char}
    (h : enclosed? opening (Text.trim raw) = some inner) : inner.length < raw.length :=
  Nat.lt_of_lt_of_le (length_enclosed?_lt h) (Text.length_trim_le raw)

/-- Read a type from its characters. -/
def ofChars (raw : List Char) : Except UnknownFieldType FieldType :=
  match h : enclosed? "list[".toList (Text.trim raw) with
  | some inner =>
    have := length_enclosed?_trim_lt h
    (ofChars inner).map list
  | none =>
    match h : enclosed? "optional[".toList (Text.trim raw) with
    | some inner =>
      have := length_enclosed?_trim_lt h
      (ofChars inner).map optional
    | none =>
      match plain? (Text.trim raw) with
      | some type => .ok type
      | none => .error ⟨String.ofList (Text.trim raw)⟩
termination_by raw.length

/-- Read a type from its written form. -/
def ofText (text : String) : Except UnknownFieldType FieldType :=
  ofChars text.toList

/-- The type without the mark that it may be missing. -/
def unwrapped : FieldType → FieldType
  | optional value => value.unwrapped
  | type => type

end FieldType

end Conduit
