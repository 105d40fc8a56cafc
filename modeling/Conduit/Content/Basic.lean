import Conduit.Json.Printer
import Conduit.Schema.ClassName

/-!
# Content

Content is the data that flows through pipes: a text, a number, images, a page, a
record of some class, or a list of contents. Every content has a class, a plain
text for prompts, and a JSON view for templates and expressions.
-/

namespace Conduit

/-- An image, known by where it is found. -/
structure Image where
  url : String
  caption : Option String
  deriving DecidableEq, Repr

/-- A text, perhaps, with images. -/
structure TextAndImages where
  text : Option String
  images : List Image
  deriving DecidableEq, Repr

/-- The data that flows through pipes. -/
inductive Content where
  | text (words : String)
  | number (value : Float)
  | image (picture : Image)
  | pdf (url : String)
  | textAndImages (value : TextAndImages)
  | page (body : TextAndImages) (view : Option Image)
  | html (inner cssClass : String)
  /-- A record of a class that is known by its name only. -/
  | structured (className : String) (value : Json)
  | list (items : List Content)

namespace Content

instance : Inhabited Content := ⟨list []⟩

mutual

/-- Are two contents equal? Numbers are compared as numbers. -/
def same : Content → Content → Bool
  | text a, text b => a == b
  | number a, number b => a == b
  | image a, image b => a == b
  | pdf a, pdf b => a == b
  | textAndImages a, textAndImages b => a == b
  | page a v, page b w => a == b && v == w
  | html a c, html b d => a == b && c == d
  | structured c a, structured d b => c == d && a == b
  | list as, list bs => sameItems as bs
  | _, _ => false

/-- Are two lists of contents equal, item by item? -/
def sameItems : List Content → List Content → Bool
  | [], [] => true
  | a :: as, b :: bs => same a b && sameItems as bs
  | _, _ => false

end

instance : BEq Content := ⟨same⟩

/-- The name of the class of a content. -/
def className : Content → String
  | text _ => ClassName.text
  | number _ => ClassName.number
  | image _ => ClassName.image
  | pdf _ => ClassName.pdf
  | textAndImages _ => ClassName.textAndImages
  | page _ _ => ClassName.page
  | html _ _ => ClassName.html
  | structured className _ => className
  | list _ => ClassName.list

/-- The text of a content that is a text. -/
def text? : Content → Option String
  | text words => some words
  | _ => none

/-- The items of a content that is a list. -/
def items? : Content → Option (List Content)
  | list items => some items
  | _ => none

/-- Is the content a list? -/
def isList (content : Content) : Bool :=
  content.items?.isSome

/-- The images of a content, without looking into lists. -/
def images : Content → List Image
  | image picture => [picture]
  | textAndImages value => value.images
  | page body view => body.images ++ view.toList
  | _ => []

/-- In a text a number has the fewest digits that identify it, ties going up, and no exponent; a
whole number shows no point. -/
def numberLayout : Decimal.Layout where
  tie := .up
  positional _ := true
  pointZero := false

/-- A number in a text. -/
def numberText (x : Float) : String :=
  if x.isNaN then "NaN"
  else if x.isInf then if x < 0 then "-inf" else "inf"
  else numberLayout.render x

mutual

/-- The plain text of a content, as it stands in a prompt. -/
def plainText : Content → String
  | text words => words
  | number value => numberText value
  | image picture => picture.url
  | pdf url => url
  | textAndImages value => value.text.getD ""
  | page body _ => body.text.getD ""
  | html inner _ => inner
  | structured _ value => value.text
  | list items => "\n".intercalate (plainTexts items)

/-- The plain texts of some contents. -/
def plainTexts : List Content → List String
  | [] => []
  | item :: items => plainText item :: plainTexts items

end

/-- The fields of an image, by ascending key. -/
def imageFields (picture : Image) : List (String × Json) :=
  match picture.caption with
  | some caption => [("caption", .string caption), ("url", .string picture.url)]
  | none => [("url", .string picture.url)]

/-- An image as JSON; a caption that is missing is left out. -/
def imageJson (picture : Image) : Json :=
  .object (imageFields picture)

/-- The fields of a text with images, by ascending key. -/
def bodyFields (body : TextAndImages) : List (String × Json) :=
  [("images", .array (body.images.map imageJson)),
   ("text", match body.text with
     | some words => .object [("text", .string words)]
     | none => .null)]

/-- A text with images as JSON; a text that is missing is null. -/
def bodyJson (body : TextAndImages) : Json :=
  .object (bodyFields body)

/-- The fields of a page, by ascending key. -/
def pageFields (body : TextAndImages) (view : Option Image) : List (String × Json) :=
  match view with
  | some picture => [("page_view", imageJson picture), ("text_and_images", bodyJson body)]
  | none => [("text_and_images", bodyJson body)]

/-- The fields of an HTML fragment, by ascending key. -/
def htmlFields (inner cssClass : String) : List (String × Json) :=
  [("css_class", .string cssClass), ("inner_html", .string inner)]

/-- A number as JSON: a double, or null when it is not finite. -/
def numberJson (value : Float) : Json :=
  if value.isFinite then .double value else .null

mutual

/-- The JSON view of a content for templates and expressions. -/
def view : Content → Json
  | text words => .object [("text", .string words)]
  | number value => .object [("number", numberJson value)]
  | image picture => imageJson picture
  | pdf url => .object [("url", .string url)]
  | textAndImages value => bodyJson value
  | page body view => .object (pageFields body view)
  | html inner cssClass => .object (htmlFields inner cssClass)
  | structured _ value => value
  | list items => .object [("items", .array (views items))]

/-- The JSON views of some contents. -/
def views : List Content → List Json
  | [] => []
  | item :: items => view item :: views items

end

end Content

end Conduit
