import Conduit.Json.Token

/-!
# Documents

A `Document` is a JSON text as it was written: fields in their order and as often
as they occur, numbers by their digits. What a reader leaves aside need not be
more than well-formed; what it looks at must also be a value, which
`Document.value?` decides.
-/

namespace Conduit

open Json (Numeral Token)

/-- A JSON text, field by field as it was written. -/
inductive Document where
  | null
  | bool (value : Bool)
  | number (numeral : Numeral)
  /-- A quoted text, or one with an unpaired surrogate. -/
  | text (value : Option String)
  | array (items : List Document)
  | object (fields : List (Option String × Document))

namespace Document

instance : Inhabited Document := ⟨null⟩

/-- A container that is not yet closed, with what it holds so far, last part first. -/
inductive Frame where
  | array (items : List Document)
  | object (fields : List (Option String × Document))
  /-- An object whose field of this name has no value yet. -/
  | field (fields : List (Option String × Document)) (key : Option String)

/-- What may come next. -/
inductive Expect where
  | value
  /-- The first item of an array, or its end. -/
  | itemOrEnd
  /-- The first key of an object, or its end. -/
  | keyOrEnd
  | key
  | colon
  /-- A comma, or the end of the innermost container. -/
  | commaOrEnd
  /-- Nothing, for the document is complete. -/
  | nothing (complete : Document)

/-- The open containers, innermost first, and what may come next. -/
structure Builder where
  frames : List Frame
  expect : Expect

namespace Builder

/-- Nothing has been read. -/
def start : Builder := ⟨[], .value⟩

/-- Put a complete value where it belongs. -/
def complete? (frames : List Frame) (value : Document) : Option Builder :=
  match frames with
  | [] => some ⟨[], .nothing value⟩
  | .array items :: outer => some ⟨.array (value :: items) :: outer, .commaOrEnd⟩
  | .field fields key :: outer => some ⟨.object ((key, value) :: fields) :: outer, .commaOrEnd⟩
  | .object _ :: _ => none

/-- Begin a value with its first token. -/
def value? (frames : List Frame) : Token → Option Builder
  | .openArray => some ⟨.array [] :: frames, .itemOrEnd⟩
  | .openObject => some ⟨.object [] :: frames, .keyOrEnd⟩
  | .null => complete? frames .null
  | .bool value => complete? frames (.bool value)
  | .number numeral => complete? frames (.number numeral)
  | .text value => complete? frames (.text value)
  | _ => none

/-- Close the innermost container with its bracket. -/
def close? (frames : List Frame) (token : Token) : Option Builder :=
  match frames, token with
  | .array items :: outer, .closeArray => complete? outer (.array items.reverse)
  | .object fields :: outer, .closeObject => complete? outer (.object fields.reverse)
  | _, _ => none

/-- Begin a field with its key. -/
def key? (frames : List Frame) (token : Token) : Option Builder :=
  match frames, token with
  | .object fields :: outer, .text key => some ⟨.field fields key :: outer, .colon⟩
  | _, _ => none

/-- Read one token. -/
def step? (b : Builder) (token : Token) : Option Builder :=
  match b.expect, token with
  | .value, token => value? b.frames token
  | .itemOrEnd, .closeArray => close? b.frames .closeArray
  | .itemOrEnd, token => value? b.frames token
  | .keyOrEnd, .closeObject => close? b.frames .closeObject
  | .keyOrEnd, token => key? b.frames token
  | .key, token => key? b.frames token
  | .colon, .colon => some ⟨b.frames, .value⟩
  | .colon, _ => none
  | .commaOrEnd, .comma =>
    match b.frames with
    | .array _ :: _ => some ⟨b.frames, .value⟩
    | _ => some ⟨b.frames, .key⟩
  | .commaOrEnd, token => close? b.frames token
  | .nothing _, _ => none

/-- The document, if it is complete. -/
def finish? (b : Builder) : Option Document :=
  match b.expect with
  | .nothing complete => some complete
  | _ => none

end Builder

/-- Read a document from all of a text. -/
def ofText? (text : String) : Option Document :=
  (Json.tokens? text).bind fun tokens =>
    (tokens.foldlM Builder.step? Builder.start).bind Builder.finish?

mutual

/-- The value of a document whose containers nest at most `room` deep. A key that occurs again
replaces the earlier value. -/
def value? (room : Nat) : Document → Option Json
  | null => some .null
  | bool value => some (.bool value)
  | number numeral => numeral.value?
  | text value => value.map .string
  | array items => match room with
    | 0 => none
    | room + 1 => (itemValues? room items).map .array
  | object fields => match room with
    | 0 => none
    | room + 1 => (fieldValues? room fields).map Json.ofFields

/-- The values of some items. -/
def itemValues? (room : Nat) : List Document → Option (List Json)
  | [] => some []
  | item :: items => do
    let value ← value? room item
    let values ← itemValues? room items
    return value :: values

/-- The values of some fields. -/
def fieldValues? (room : Nat) : List (Option String × Document) → Option (List (String × Json))
  | [] => some []
  | (key, item) :: fields => do
    let key ← key
    let value ← value? room item
    let values ← fieldValues? room fields
    return (key, value) :: values

end

/-- How deep containers may nest in a text that is read as a value. -/
def depthLimit : Nat := 127

end Document

/-- Read a value from all of a text. -/
def Json.ofText? (text : String) : Option Json :=
  (Document.ofText? text).bind (Document.value? Document.depthLimit)

end Conduit
