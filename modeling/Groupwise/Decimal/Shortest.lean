import Groupwise.Decimal.Binary

/-!
# Shortest decimals

The fewest decimal digits that read back as a given double. Of the grids of decimals with one, two
and up to seventeen digits, the first that has a point inside the double's rounding interval wins,
and on it the point nearest to the double. A double may lie halfway between two points.
-/
namespace Groupwise.Decimal

/-- The decimal `0.d₁d₂… · 10 ^ point`, with `digits` written without trailing zeros. -/
structure Digits where
  digits : Nat
  point : Int
  deriving Repr, DecidableEq

/-- The positive value `significand · 2 ^ exponent` with the ends of its rounding interval, all
over one denominator. -/
structure Interval where
  low : Nat
  value : Nat
  high : Nat
  denominator : Nat
  closed : Bool

namespace Interval

/-- The reals that round to the given double. -/
def ofBinary (significand : Nat) (exponent : Int) : Interval :=
  let below := if Binary.isBoundary significand exponent then 1 else 2
  let scaled := 4 * significand
  let up := Nat.pow 2 exponent.toNat
  { low := (scaled - below) * up
    value := scaled * up
    high := (scaled + 2) * up
    denominator := 4 * Nat.pow 2 (-exponent).toNat
    closed := significand % 2 == 0 }

def holds (i : Interval) (scaled : Nat) : Bool :=
  if i.closed then i.low ≤ scaled && scaled ≤ i.high else i.low < scaled && scaled < i.high

end Interval

inductive Tie where
  | upper
  | even
  deriving Repr, DecidableEq, Inhabited

/-- The nearest multiple of the grid's unit that lies in the interval. The unit is `10 ^ place`. -/
def gridPoint (tie : Tie) (i : Interval) (place : Int) : Option Nat :=
  let up := Nat.pow 10 place.toNat
  let down := Nat.pow 10 (-place).toNat
  let unit := up * i.denominator
  let value := i.value * down
  let scaled : Interval := { i with low := i.low * down, value := value, high := i.high * down }
  let below := value / unit
  let above := below + 1
  let belowHolds := 0 < below && scaled.holds (below * unit)
  let aboveHolds := scaled.holds (above * unit)
  if belowHolds && aboveHolds then
    let toBelow := value - below * unit
    let toAbove := above * unit - value
    let takesBelow := toBelow < toAbove || (toBelow == toAbove && tie == .even && below % 2 == 0)
    some (if takesBelow then below else above)
  else if belowHolds then some below
  else if aboveHolds then some above
  else none

/-- The decimal exponent `k` with `10 ^ (k - 1) ≤ numerator / denominator < 10 ^ k`, found by
stepping up from a low start. -/
def magnitude (numerator denominator : Nat) : Nat → Int → Int
  | 0, k => k
  | fuel + 1, k =>
    let below := if 0 ≤ k then numerator < denominator * Nat.pow 10 k.toNat
      else numerator * Nat.pow 10 (-k).toNat < denominator
    if below then k else magnitude numerator denominator fuel (k + 1)

def searchGrids (tie : Tie) (i : Interval) (point : Int) : Nat → Nat → Option Digits
  | 0, _ => none
  | fuel + 1, count =>
    match gridPoint tie i (point - (count : Int)) with
    | some n =>
      -- A point of the form `10 ^ count` belongs to the next decade.
      some { digits := n, point := if n = Nat.pow 10 count then point + 1 else point }
    | none => searchGrids tie i point fuel (count + 1)

/-- Drop trailing zeros; the fuel is the number of digits. -/
def stripZeros : Nat → Nat → Nat
  | 0, n => n
  | fuel + 1, n => if n % 10 == 0 && n != 0 then stripZeros fuel (n / 10) else n

def shortest (tie : Tie) (significand : Nat) (exponent : Int) : Digits :=
  let i := Interval.ofBinary significand exponent
  let start : Int := ((i.value.log2 : Int) - (i.denominator.log2 : Int) - 1) * 30103 / 100000 - 1
  let point := magnitude i.value i.denominator 8 start
  match searchGrids tie i point 17 1 with
  | some d => { d with digits := stripZeros 20 d.digits }
  | none => { digits := 0, point := 0 }

end Groupwise.Decimal
