/-!
# The shortest decimal of a double

A positive double stands for an interval of reals: those nearer to it than to
its neighbours, with both ends when its mantissa is even. The shortest decimal is
the point of that interval on the coarsest decimal grid that meets it.

All of it is exact arithmetic on naturals. The value and the two ends are
multiples of one power of ten, so a grid is a power of ten in that unit, and the
finest grid, the unit itself, holds the value: the search always ends.
-/

namespace Conduit.Decimal

/-- Which of two equally near points of a grid is taken. -/
inductive Tie where
  /-- The one whose last digit is even. -/
  | even
  /-- The greater one. -/
  | up
  deriving DecidableEq, Repr

/-- A positive double and the interval around it, counted in units of `10 ^ (-places)`. -/
structure Neighbourhood where
  /-- The lower end. -/
  low : Nat
  /-- The double itself. -/
  value : Nat
  /-- The upper end. -/
  high : Nat
  /-- Do the ends belong to the interval? -/
  closed : Bool
  /-- The number of decimal places of the unit. -/
  places : Nat

namespace Neighbourhood

/-- The neighbourhood of `mantissa · 2 ^ exponent`. The lower neighbour of a power of two is half
as far away as the upper one, which `narrow` says. -/
def ofBinary (mantissa : Nat) (exponent : Int) (narrow : Bool) : Neighbourhood :=
  let quarter :=
    if 2 ≤ exponent then Nat.pow 2 (exponent - 2).toNat else Nat.pow 5 (2 - exponent).toNat
  { low := (4 * mantissa - if narrow then 1 else 2) * quarter
    value := 4 * mantissa * quarter
    high := (4 * mantissa + 2) * quarter
    closed := mantissa % 2 == 0
    places := (2 - exponent).toNat }

/-- Does a number of units lie in the interval? -/
def holds (n : Neighbourhood) (units : Nat) : Bool :=
  if n.closed then n.low ≤ units && units ≤ n.high else n.low < units && units < n.high

/-- The nearer of two neighbouring points of a grid, given as multiples of its step. -/
def nearer (n : Neighbourhood) (tie : Tie) (step below : Nat) : Nat :=
  match compare (2 * n.value) ((2 * below + 1) * step) with
  | .lt => below
  | .gt => below + 1
  | .eq => if tie = .even && below % 2 == 0 then below else below + 1

/-- The point that represents the value on the coarsest grid from `10 ^ size` down that meets the
interval, as a multiple of that grid's step, with the exponent of the step. -/
def search (n : Neighbourhood) (tie : Tie) : (size : Nat) → Nat × Nat
  | 0 => (n.value, 0)
  | size + 1 =>
    let step := Nat.pow 10 (size + 1)
    let below := n.value / step
    match n.holds (below * step), n.holds ((below + 1) * step) with
    | true, true => (n.nearer tie step below, size + 1)
    | true, false => (below, size + 1)
    | false, true => (below + 1, size + 1)
    | false, false => n.search tie size

end Neighbourhood

/-- The decimal digits of a natural number, most significant first. -/
def digitsOf (n : Nat) : List Char :=
  Nat.toDigits 10 n

/-- The number `0.d₁d₂…dₙ · 10 ^ point`. -/
structure Digits where
  /-- The digits; neither the first nor the last one is a zero. -/
  digits : List Char
  /-- The place of the decimal point, counted from before the first digit. -/
  point : Int
  deriving Repr

/-- The shortest decimal of a positive double in its neighbourhood. -/
def Neighbourhood.shortest (n : Neighbourhood) (tie : Tie) : Digits :=
  let found := n.search tie ((digitsOf n.value).length - 1)
  let digits := digitsOf found.1
  { digits := (digits.reverse.dropWhile (· == '0')).reverse
    point := digits.length + found.2 - n.places }

/-- The neighbourhood of the magnitude of a double that is neither zero, infinite nor a NaN. -/
def neighbourhood (x : Float) : Neighbourhood :=
  let bits := x.toBits.toNat
  let exponent : Nat := bits / Nat.pow 2 52 % Nat.pow 2 11
  let fraction : Nat := bits % Nat.pow 2 52
  if exponent = 0 then .ofBinary fraction (-1074) false
  else
    .ofBinary (Nat.pow 2 52 + fraction) ((exponent : Int) - 1075) (fraction == 0 && exponent != 1)

end Conduit.Decimal
