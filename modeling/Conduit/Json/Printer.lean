import Conduit.Json.Basic
import Conduit.Decimal.Layout

/-!
# The text of a JSON value

Values are written compactly: no blanks, fields in key order, characters beyond
ASCII as they are. Doubles always show that they are doubles.
-/

namespace Conduit.Json

/-- Doubles have the fewest digits that identify them, ties going to the even digit. From 0.00001
up to below 1e16 they are positional and show a point; all others have a signed exponent. -/
def doubleLayout : Decimal.Layout where
  tie := .even
  positional point := -5 < point && point ≤ 16
  pointZero := true

/-- A digit of a number in base sixteen. -/
def hexDigit (n : Nat) : Char :=
  if n < 10 then Char.ofNat (48 + n) else Char.ofNat (87 + n)

/-- A character inside quotes. -/
def escape (c : Char) : List Char :=
  match c with
  | '"' => ['\\', '"']
  | '\\' => ['\\', '\\']
  | '\x08' => ['\\', 'b']
  | '\t' => ['\\', 't']
  | '\n' => ['\\', 'n']
  | '\x0c' => ['\\', 'f']
  | '\r' => ['\\', 'r']
  | _ =>
    if c.toNat < 0x20 then
      ['\\', 'u', '0', '0', hexDigit (c.toNat / 16), hexDigit (c.toNat % 16)]
    else [c]

/-- A text in quotes. -/
def quote (text : String) : List Char :=
  '"' :: text.toList.flatMap escape ++ ['"']

/-- A double; one that is not finite has no number in JSON and is written as null. -/
def doubleChars (x : Float) : List Char :=
  if x.isFinite then (doubleLayout.render x).toList else "null".toList

mutual

/-- The characters of a value. -/
def chars : Json → List Char
  | null => "null".toList
  | bool value => (if value then "true" else "false").toList
  | integer value => (toString value).toList
  | double value => doubleChars value
  | string text => quote text
  | array [] => ['[', ']']
  | array (item :: items) => '[' :: chars item ++ itemChars items
  | object [] => ['{', '}']
  | object ((key, value) :: fields) => '{' :: quote key ++ ':' :: chars value ++ fieldChars fields

/-- The remaining items of an array and its bracket. -/
def itemChars : List Json → List Char
  | [] => [']']
  | item :: items => ',' :: chars item ++ itemChars items

/-- The remaining fields of an object and its brace. -/
def fieldChars : List (String × Json) → List Char
  | [] => ['}']
  | (key, value) :: fields => ',' :: quote key ++ ':' :: chars value ++ fieldChars fields

end

/-- The text of a value. -/
def text (value : Json) : String :=
  String.ofList value.chars

/-- How a value reads inside a text: a string as it is, anything else as JSON. -/
def scalar : Json → String
  | string text => text
  | value => value.text

end Conduit.Json
