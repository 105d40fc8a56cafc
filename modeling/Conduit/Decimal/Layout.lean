import Conduit.Decimal.Shortest

/-!
# How a decimal is laid out

A `Layout` holds the decisions that a format makes about the text of a number:
when digits are written positionally, whether a whole number shows a `.0`, and
how ties between two shortest decimals go.
-/

namespace Conduit.Decimal

/-- The decisions of a number format. -/
structure Layout where
  /-- How a tie between two shortest decimals is broken. -/
  tie : Tie
  /-- Is a number with its point at this place written without an exponent? -/
  positional : Int → Bool
  /-- Does a whole number in positional form end in `.0`? -/
  pointZero : Bool

namespace Layout

/-- A run of zeros. -/
def zeros (n : Nat) : List Char :=
  List.replicate n '0'

/-- The digits with the point in its place, and zeros where the digits do not reach. -/
def plain (layout : Layout) (d : Digits) : List Char :=
  let size := d.digits.length
  if d.point ≤ 0 then
    '0' :: '.' :: (zeros (-d.point).toNat ++ d.digits)
  else
    let whole := d.point.toNat
    if whole < size then d.digits.take whole ++ '.' :: d.digits.drop whole
    else d.digits ++ zeros (whole - size) ++ if layout.pointZero then ['.', '0'] else []

/-- One digit before the point and the others behind it, with a signed exponent of ten. -/
def scientific (d : Digits) : List Char :=
  let exponent := d.point - 1
  let fraction := d.digits.drop 1
  d.digits.take 1 ++ (if fraction.isEmpty then [] else '.' :: fraction) ++
    'e' :: (if exponent < 0 then '-' else '+') :: digitsOf exponent.natAbs

/-- The text of zero. -/
def zero (layout : Layout) : List Char :=
  if layout.pointZero then ['0', '.', '0'] else ['0']

/-- The text of the magnitude of a finite double. -/
def magnitude (layout : Layout) (x : Float) : List Char :=
  if x == 0 then layout.zero
  else
    let d := (neighbourhood x).shortest layout.tie
    if layout.positional d.point then layout.plain d else scientific d

/-- The text of a finite double. A negative zero keeps its sign. -/
def render (layout : Layout) (x : Float) : String :=
  let magnitude := layout.magnitude x
  String.ofList (if x.toBits.toNat < Nat.pow 2 63 then magnitude else '-' :: magnitude)

end Layout

end Conduit.Decimal
