/-!
# The classes of content

Every content belongs to a class, known by its name. These are the classes that
exist in every registry, and the class of lists, which no concept can declare.
-/

namespace Conduit.ClassName

def text : String := "TextContent"
def number : String := "NumberContent"
def image : String := "ImageContent"
def pdf : String := "PdfContent"
def textAndImages : String := "TextAndImagesContent"
def page : String := "PageContent"
def html : String := "HtmlContent"
def list : String := "ListContent"
def anything : String := "AnythingContent"
def dynamic : String := "DynamicContent"

end Conduit.ClassName
