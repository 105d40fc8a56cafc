import Conduit.Json.Basic

/-!
# Numbers as they are written

A `Numeral` is the text of a JSON number taken apart; `Numeral.value?` is the
number it stands for. Integers of up to 64 bits are exact. Everything else is a
double, computed in one multiplication or division from as many leading digits as
fit 64 bits, which may differ in the last bit from the nearest double.
-/

namespace Conduit.Json

/-- The parts of a written number. -/
structure Numeral where
  /-- Does it begin with a minus sign? -/
  negative : Bool
  /-- The digits before the point. -/
  whole : List Char
  /-- The digits after the point, if it has one. -/
  fraction : Option (List Char)
  /-- The exponent, if it has one. -/
  exponent : Option Int

namespace Numeral

/-- The number with these decimal digits. -/
def natOf (digits : List Char) : Nat :=
  digits.foldl (fun n c => 10 * n + (c.toNat - 48)) 0

/-- Cut off the digits at the front. -/
def splitDigits (cs : List Char) : List Char × List Char :=
  (cs.takeWhile Char.isDigit, cs.dropWhile Char.isDigit)

/-- Digits before the point: at least one, and no zero before others. -/
def isWhole : List Char → Bool
  | [] => false
  | ['0'] => true
  | '0' :: _ => false
  | _ => true

/-- Read an exponent, which ends the number. -/
def exponent? : List Char → Option (Option Int)
  | [] => some none
  | mark :: rest =>
    if mark == 'e' || mark == 'E' then
      let (negative, digits) := match rest with
        | '-' :: digits => (true, digits)
        | '+' :: digits => (false, digits)
        | digits => (false, digits)
      if !digits.isEmpty && digits.all Char.isDigit then
        some (some (if negative then -natOf digits else natOf digits))
      else none
    else none

/-- Read what follows the digits before the point. -/
def tail? (negative : Bool) (whole : List Char) : List Char → Option Numeral
  | '.' :: rest =>
    let (digits, rest) := splitDigits rest
    if digits.isEmpty then none
    else (exponent? rest).map (⟨negative, whole, some digits, ·⟩)
  | rest => (exponent? rest).map (⟨negative, whole, none, ·⟩)

/-- Read a number from all of the characters. -/
def ofChars? (cs : List Char) : Option Numeral :=
  let (negative, unsigned) := match cs with
    | '-' :: rest => (true, rest)
    | cs => (false, cs)
  let (whole, rest) := splitDigits unsigned
  if isWhole whole then tail? negative whole rest else none

/-- Append digits to a significand until one no longer fits 64 bits; count the ones appended. -/
def absorb (significand : Nat) : List Char → Nat × Nat
  | [] => (significand, 0)
  | c :: rest =>
    let next := 10 * significand + (c.toNat - 48)
    if next < Nat.pow 2 64 then
      let (significand, count) := absorb next rest
      (significand, count + 1)
    else (significand, 0)

/-- A power of ten as the nearest double. -/
def powerOfTen (exponent : Nat) : Float :=
  Float.ofScientific 1 false exponent

/-- The double `significand · 10 ^ exponent`, or nothing beyond the range of doubles. -/
def scale? (significand : Nat) (exponent : Int) : Option Float :=
  let x := Float.ofNat significand
  if significand = 0 then some x
  else if 308 < exponent then none
  else if 0 ≤ exponent then
    let scaled := x * powerOfTen exponent.toNat
    if scaled.isFinite then some scaled else none
  else if -308 ≤ exponent then some (x / powerOfTen (-exponent).toNat)
  else if -616 ≤ exponent then
    some (x / powerOfTen 308 / powerOfTen (-308 - exponent).toNat)
  else some 0

/-- The double that the number stands for. -/
def double? (n : Numeral) : Option Float :=
  let (integral, kept) := absorb 0 n.whole
  let dropped := n.whole.length - kept
  let (significand, places) := absorb integral (n.fraction.getD [])
  let exponent := (dropped : Int) - places + n.exponent.getD 0
  (scale? significand exponent).map fun x => if n.negative then -x else x

/-- The integer that the number stands for, if it is written as one, is not minus zero, and lies
between `-2 ^ 63` and `2 ^ 64 - 1`. -/
def integer? (n : Numeral) : Option Int :=
  if n.fraction.isNone && n.exponent.isNone then
    let magnitude := natOf n.whole
    if n.negative then
      if 0 < magnitude && magnitude ≤ Nat.pow 2 63 then some (-magnitude) else none
    else if magnitude < Nat.pow 2 64 then some magnitude else none
  else none

/-- The number, or nothing when it is beyond the range of doubles. -/
def value? (n : Numeral) : Option Json :=
  match n.integer? with
  | some i => some (.integer i)
  | none => n.double?.map .double

end Numeral

end Conduit.Json
