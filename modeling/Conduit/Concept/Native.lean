import Conduit.Schema.ClassName

/-!
# The native concepts

Ten concepts exist in every vocabulary, in the domain `native`. Two of them are
open: they take content of any class.
-/

namespace Conduit

/-- A concept that every vocabulary has. -/
inductive Native where
  | text
  | image
  | pdf
  | textAndImages
  | number
  | imgGenPrompt
  | page
  | html
  | anything
  | dynamic
  deriving DecidableEq, Repr

namespace Native

/-- The domain of the native concepts, which no other concept may use. -/
def domain : String := "native"

/-- All native concepts, in the order in which a vocabulary lists them. -/
def all : List Native :=
  [text, image, pdf, textAndImages, number, imgGenPrompt, page, html, anything, dynamic]

/-- The code of a native concept. -/
def code : Native → String
  | text => "Text"
  | image => "Image"
  | pdf => "PDF"
  | textAndImages => "TextAndImages"
  | number => "Number"
  | imgGenPrompt => "ImgGenPrompt"
  | page => "Page"
  | html => "Html"
  | anything => "Anything"
  | dynamic => "Dynamic"

/-- The class of its content. -/
def className : Native → String
  | text | imgGenPrompt => ClassName.text
  | image => ClassName.image
  | pdf => ClassName.pdf
  | textAndImages => ClassName.textAndImages
  | number => ClassName.number
  | page => ClassName.page
  | html => ClassName.html
  | anything => ClassName.anything
  | dynamic => ClassName.dynamic

/-- What it means, in words. -/
def definition : Native → String
  | text => "A text"
  | image => "An image"
  | pdf => "A PDF document"
  | textAndImages => "A text with attached images"
  | number => "A number"
  | imgGenPrompt => "A prompt for image generation"
  | page => "A page of a document, with its text, images and page view"
  | html => "An HTML fragment"
  | anything => "Anything"
  | dynamic => "Content whose shape is decided at run time"

/-- Does it take content of any class? -/
def isOpen : Native → Bool
  | anything | dynamic => true
  | _ => false

/-- The native concept with this code. -/
def ofCode? (code : String) : Option Native :=
  all.find? fun native => native.code == code

end Native

end Conduit
