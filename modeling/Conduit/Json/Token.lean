import Conduit.Json.Numeral

/-!
# The tokens of a JSON text

The characters of a text are read one by one. A word is the longest run of the
characters that numbers and names are made of; a quoted text ends at the next
quote that is not escaped. An escaped unit is kept as it is until the whole text
is known, since two of them may stand for one character.
-/

namespace Conduit.Json

/-- A token. A quoted text with an unpaired surrogate is no string, which `text none` says. -/
inductive Token where
  | openArray
  | closeArray
  | openObject
  | closeObject
  | comma
  | colon
  | null
  | bool (value : Bool)
  | number (numeral : Numeral)
  | text (value : Option String)

/-- A part of a quoted text. -/
inductive Piece where
  /-- A character, as it is or behind a backslash. -/
  | char (c : Char)
  /-- A unit of sixteen bits, written as four digits of base sixteen. -/
  | unit (value : Nat)

namespace Piece

/-- Join the pieces to characters: a leading and a trailing surrogate make one character, and
neither may stand alone. -/
def join? : List Piece → Option (List Char)
  | [] => some []
  | char c :: rest => (join? rest).map (c :: ·)
  | [unit a] => if a < 0xD800 || 0xDFFF < a then some [Char.ofNat a] else none
  | unit a :: char c :: rest =>
    if a < 0xD800 || 0xDFFF < a then (join? rest).map (Char.ofNat a :: c :: ·) else none
  | unit a :: unit b :: rest =>
    if a < 0xD800 || 0xDFFF < a then (join? (unit b :: rest)).map (Char.ofNat a :: ·)
    else if a ≤ 0xDBFF && 0xDC00 ≤ b && b ≤ 0xDFFF then
      (join? rest).map (Char.ofNat (0x10000 + (a - 0xD800) * 0x400 + (b - 0xDC00)) :: ·)
    else none

end Piece

/-- The character that a letter behind a backslash stands for. -/
def unescape? : Char → Option Char
  | '"' => some '"'
  | '\\' => some '\\'
  | '/' => some '/'
  | 'b' => some '\x08'
  | 'f' => some '\x0c'
  | 'n' => some '\n'
  | 'r' => some '\r'
  | 't' => some '\t'
  | _ => none

/-- The value of a digit of base sixteen, in either case. -/
def hexValue? (c : Char) : Option Nat :=
  if c.isDigit then some (c.toNat - 48)
  else if 'a' ≤ c && c ≤ 'f' then some (c.toNat - 87)
  else if 'A' ≤ c && c ≤ 'F' then some (c.toNat - 55)
  else none

/-- The four blanks that may stand between tokens. -/
def isSpace (c : Char) : Bool :=
  c == ' ' || c == '\t' || c == '\n' || c == '\r'

/-- The characters of names and numbers. -/
def isWordChar (c : Char) : Bool :=
  c.isAlphanum || c == '+' || c == '-' || c == '.'

namespace Token

/-- A token of one character. -/
def ofPunctuation? : Char → Option Token
  | '[' => some openArray
  | ']' => some closeArray
  | '{' => some openObject
  | '}' => some closeObject
  | ',' => some comma
  | ':' => some colon
  | _ => none

/-- The token that a word is. -/
def ofWord? (word : List Char) : Option Token :=
  if word = "null".toList then some null
  else if word = "true".toList then some (bool true)
  else if word = "false".toList then some (bool false)
  else (Numeral.ofChars? word).map number

end Token

/-- Where the reading of a text stands. What has been read is held last part first. -/
inductive Scan where
  /-- Between two tokens. -/
  | between
  /-- Inside a word. -/
  | word (read : List Char)
  /-- Inside quotes. -/
  | quoted (read : List Piece)
  /-- Behind a backslash. -/
  | escaped (read : List Piece)
  /-- Inside a unit, with so many digits still to come. -/
  | digits (read : List Piece) (missing value : Nat)

/-- The tokens read so far, last first, and where the reading stands. -/
structure Scanner where
  tokens : List Token
  scan : Scan

namespace Scanner

/-- Nothing has been read. -/
def start : Scanner := ⟨[], .between⟩

/-- Read a character between two tokens. -/
def begin? (tokens : List Token) (c : Char) : Option Scanner :=
  if isSpace c then some ⟨tokens, .between⟩
  else if c == '"' then some ⟨tokens, .quoted []⟩
  else if isWordChar c then some ⟨tokens, .word [c]⟩
  else (Token.ofPunctuation? c).map fun token => ⟨token :: tokens, .between⟩

/-- Read a character inside quotes. -/
def quoted? (tokens : List Token) (read : List Piece) (c : Char) : Option Scanner :=
  if c == '"' then
    some ⟨.text ((Piece.join? read.reverse).map String.ofList) :: tokens, .between⟩
  else if c == '\\' then some ⟨tokens, .escaped read⟩
  else if c.toNat < 0x20 then none
  else some ⟨tokens, .quoted (.char c :: read)⟩

/-- Read a character behind a backslash. -/
def escaped? (tokens : List Token) (read : List Piece) (c : Char) : Option Scanner :=
  if c == 'u' then some ⟨tokens, .digits read 4 0⟩
  else (unescape? c).map fun plain => ⟨tokens, .quoted (.char plain :: read)⟩

/-- Read a digit of a unit; the last one completes it. -/
def digit? (tokens : List Token) (read : List Piece) (missing value : Nat) (c : Char) :
    Option Scanner :=
  (hexValue? c).map fun digit =>
    let value := 16 * value + digit
    if missing ≤ 1 then ⟨tokens, .quoted (.unit value :: read)⟩
    else ⟨tokens, .digits read (missing - 1) value⟩

/-- Read one character. -/
def step? (s : Scanner) (c : Char) : Option Scanner :=
  match s.scan with
  | .between => begin? s.tokens c
  | .word read =>
    if isWordChar c then some ⟨s.tokens, .word (c :: read)⟩
    else (Token.ofWord? read.reverse).bind fun token => begin? (token :: s.tokens) c
  | .quoted read => quoted? s.tokens read c
  | .escaped read => escaped? s.tokens read c
  | .digits read missing value => digit? s.tokens read missing value c

/-- The tokens, if the text may end here. -/
def finish? (s : Scanner) : Option (List Token) :=
  match s.scan with
  | .between => some s.tokens.reverse
  | .word read => (Token.ofWord? read.reverse).map fun token => (token :: s.tokens).reverse
  | _ => none

end Scanner

/-- The tokens of a text. -/
def tokens? (text : String) : Option (List Token) :=
  (text.toList.foldlM Scanner.step? Scanner.start).bind Scanner.finish?

end Conduit.Json
