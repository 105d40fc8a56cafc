import Conduit.Content.Basic
import Conduit.Json.Record

/-!
# Content as JSON that can be read back

A content is written as an object whose field `kind` tells which content it is.
Reading also takes every record, and the content itself, as the array of its values
in the order of the fields. Inside a list the kind may be given by its number.
-/

namespace Conduit.Content

/-- The kinds of content, in the order of their numbers. -/
inductive Kind where
  | text
  | number
  | image
  | pdf
  | textAndImages
  | page
  | html
  | structured
  | list
  deriving DecidableEq, Repr

namespace Kind

/-- All kinds, by number. -/
def all : List Kind :=
  [text, number, image, pdf, textAndImages, page, html, structured, list]

/-- The name of a kind. -/
def name : Kind → String
  | text => "text"
  | number => "number"
  | image => "image"
  | pdf => "pdf"
  | textAndImages => "text_and_images"
  | page => "page"
  | html => "html"
  | structured => "structured"
  | list => "list"

/-- Read a kind; only that of an item may be a number. -/
def ofJson? (isItem : Bool) : Json → Option Kind
  | .string name => all.find? fun kind => kind.name == name
  | .integer (.ofNat place) => if isItem then all[place]? else none
  | _ => none

end Kind

/-- Add the kind to the fields of a content, which are sorted. -/
def tagged (kind : Kind) (fields : List (String × Json)) : Json :=
  .object (Json.insertField "kind" (.string kind.name) fields)

mutual

/-- Write a content so that it can be read back. -/
def toJson : Content → Json
  | text words => tagged .text [("text", .string words)]
  | number value => tagged .number [("number", numberJson value)]
  | image picture => tagged .image (imageFields picture)
  | pdf url => tagged .pdf [("url", .string url)]
  | textAndImages value => tagged .textAndImages (bodyFields value)
  | page body view => tagged .page (pageFields body view)
  | html inner cssClass => tagged .html (htmlFields inner cssClass)
  | structured className value =>
    tagged .structured [("class_name", .string className), ("value", value)]
  | list items => tagged .list [("items", .array (itemsJson items))]

/-- Write some contents. -/
def itemsJson : List Content → List Json
  | [] => []
  | item :: items => toJson item :: itemsJson items

end

/-- Read an image. -/
def imageOf? (value : Json) : Option Image := do
  let record ← value.record? ["url", "caption"]
  let url ← record.required "url" Json.string?
  let caption ← record.withDefault "caption" none (Json.nullable? Json.string?)
  return ⟨url, caption⟩

/-- Read the record of a text. -/
def textOf? (value : Json) : Option String := do
  (← value.record? ["text"]).required "text" Json.string?

/-- Read a text with images. Only in an array does the text have to be there. -/
def bodyOf? (value : Json) : Option TextAndImages := do
  let record ← value.record? ["text", "images"]
  let text ← match value with
    | .array _ => record.required "text" (Json.nullable? textOf?)
    | _ => record.withDefault "text" none (Json.nullable? textOf?)
  let images ← record.withDefault "images" [] (Json.items? imageOf?)
  return ⟨text, images⟩

/-- Read a page. -/
def pageOf? (value : Json) : Option Content := do
  let record ← value.record? ["text_and_images", "page_view"]
  let body ← record.required "text_and_images" bodyOf?
  let view ← record.withDefault "page_view" none (Json.nullable? imageOf?)
  return page body view

/-- Read an HTML fragment. -/
def htmlOf? (value : Json) : Option Content := do
  let record ← value.record? ["inner_html", "css_class"]
  let inner ← record.required "inner_html" Json.string?
  let cssClass ← record.required "css_class" Json.string?
  return html inner cssClass

/-- Read a record of some class. -/
def structuredOf? (value : Json) : Option Content := do
  let record ← value.record? ["class_name", "value"]
  let className ← record.required "class_name" Json.string?
  let value ← record.required "value" some
  return structured className value

/-- Read a record with one field. -/
def soleOf? {α : Type} (name : String) (read : Json → Option α) (value : Json) : Option α := do
  (← value.record? [name]).required name read

/-- Read a content of a known kind from its record; the items of a list have been read. -/
def ofRecord? (kind : Kind) (value : Json) (items : Option (List Content)) : Option Content :=
  match kind with
  | .text => (textOf? value).map text
  | .number => (soleOf? "number" Json.double? value).map number
  | .image => (imageOf? value).map image
  | .pdf => (soleOf? "url" Json.string? value).map pdf
  | .textAndImages => (bodyOf? value).map textAndImages
  | .page => pageOf? value
  | .html => htmlOf? value
  | .structured => structuredOf? value
  | .list => items.map list

mutual

/-- Read a content, which may be an item of a list. -/
def read? (isItem : Bool) : Json → Option Content
  | .object fields => do
    let kind ← (fields.lookup "kind").bind (Kind.ofJson? isItem)
    ofRecord? kind (.object fields) (itemsOf? fields)
  | .array [] => none
  | .array (kind :: values) => do
    let kind ← Kind.ofJson? isItem kind
    ofRecord? kind (.array values) (soleItems? values)
  | _ => none

/-- Read the items of the list among the fields of an object. -/
def itemsOf? : List (String × Json) → Option (List Content)
  | [] => none
  | (key, .array items) :: fields => if key = "items" then readAll? items else itemsOf? fields
  | (key, _) :: fields => if key = "items" then none else itemsOf? fields

/-- Read the items of the only list among the values of an array. -/
def soleItems? : List Json → Option (List Content)
  | [.array items] => readAll? items
  | _ => none

/-- Read the items of a list. -/
def readAll? : List Json → Option (List Content)
  | [] => some []
  | item :: items => do
    let content ← read? true item
    let contents ← readAll? items
    return content :: contents

end

/-- Read a content. -/
def ofJson? (value : Json) : Option Content :=
  read? false value

end Conduit.Content
