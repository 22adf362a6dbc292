import ReplicaPool.Number.Double

/-!
# Shortest decimal digits of a double

`Double.shortest` finds the fewest decimal digits that lie closer to a double than to any other
one. It walks the decimal grids from coarse to fine and takes the first that has a point in the
rounding interval, and of two such points the nearer one.
-/

namespace ReplicaPool

/-- A decimal number `digits · 10 ^ exponent`. -/
structure Decimal where
  digits : Nat
  exponent : Int
deriving DecidableEq, Repr

/-- The number of decimal digits of a natural number; zero has one. -/
def decimalLength (value : Nat) : Nat :=
  (Nat.toDigits 10 value).length

namespace Double

/-- The rounding interval in quarters of a unit, with whether its ends belong to it. -/
structure Interval where
  low : Nat
  middle : Nat
  high : Nat
  closed : Bool

/-- All numbers that round to the given double. The step below a power of two is half as wide. -/
def interval (number : Double) : Interval :=
  let step := 1 <<< number.doublings
  let middle := 4 * number.significand * step
  let below := if number.significand = octave ∧ 0 < number.doublings then step else 2 * step
  { low := middle - below
    middle
    high := middle + 2 * step
    closed := number.significand % 2 = 0 }

/-- Whether the ratio `point / scale`, in quarters of a unit, rounds to the interval's double. -/
def Interval.holds (bounds : Interval) (point scale : Nat) : Bool :=
  if bounds.closed then
    decide (bounds.low * scale ≤ point) && decide (point ≤ bounds.high * scale)
  else
    decide (bounds.low * scale < point) && decide (point < bounds.high * scale)

/-- Decimal grids are counted from `10⁻⁴⁰⁰`, which is finer than any double needs. -/
def gridOrigin : Nat := 400

/-- One quarter of a unit is `2⁻¹⁰⁷⁶`, so this many grid points of `10⁻⁴⁰⁰` make the scale whole. -/
def quarterScale : Nat := Nat.pow 10 gridOrigin

/-- The point of the grid `10 ^ level` that lies in the interval and is nearest to its middle; a tie
goes to the even point. -/
def nearestOnGrid? (bounds : Interval) (level : Nat) : Option Nat :=
  let spacing := Nat.pow 10 level <<< 1076
  let lower := bounds.middle * quarterScale / spacing
  let upper := lower + 1
  let lowerHolds := bounds.holds (lower * spacing) quarterScale
  let upperHolds := bounds.holds (upper * spacing) quarterScale
  if lowerHolds && upperHolds then
    let twice := 2 * (bounds.middle * quarterScale - lower * spacing)
    if twice < spacing then some lower
    else if spacing < twice then some upper
    else some (lower + lower % 2)
  else if lowerHolds then some lower
  else if upperHolds then some upper
  else none

/-- The first grid with a point in the interval, from `level` downwards. -/
def coarsestGrid (bounds : Interval) : Nat → Decimal
  | 0 => ⟨0, 0⟩
  | level + 1 =>
      match nearestOnGrid? bounds level with
      | some point => ⟨point, (level : Int) - gridOrigin⟩
      | none => coarsestGrid bounds level

def stripZeros : Nat → Decimal → Decimal
  | 0, number => number
  | fuel + 1, number =>
      if number.digits ≠ 0 ∧ number.digits % 10 = 0 then
        stripZeros fuel ⟨number.digits / 10, number.exponent + 1⟩
      else number

/-- The shortest decimal that rounds to the magnitude of a double. -/
def shortest (number : Double) : Decimal :=
  if number.code = 0 then ⟨0, 0⟩
  else
    let bounds := number.interval
    let whole := (bounds.middle * quarterScale) >>> 1076
    let found := coarsestGrid bounds (decimalLength whole)
    stripZeros (decimalLength found.digits) found

end Double

end ReplicaPool
