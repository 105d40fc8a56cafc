/-!
# Snake case

The result of a pipe is named after its output concept when no other name is
given: `TextAndImages` becomes `text_and_images` and `HTMLPage` becomes
`html_page`. Only ASCII letters change.
-/

namespace Conduit.Text

/-- Does an upper-case letter between these two neighbours begin a word? It does after a
lower-case letter or a digit, and as the last capital of an acronym. -/
def beginsWord (previous next : Option Char) : Bool :=
  match previous with
  | none => false
  | some p => p.isLower || p.isDigit || (p.isUpper && next.any Char.isLower)

/-- Write the characters in snake case, given the character before them. -/
def snakeAfter (previous : Option Char) : List Char → List Char
  | [] => []
  | c :: rest =>
    if c.isUpper then
      if beginsWord previous rest.head? then
        '_' :: c.toLower :: snakeAfter (some c) rest
      else
        c.toLower :: snakeAfter (some c) rest
    else
      c :: snakeAfter (some c) rest

/-- The text in snake case. -/
def snakeCase (text : String) : String :=
  String.ofList (snakeAfter none text.toList)

end Conduit.Text
