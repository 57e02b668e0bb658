/-!
# Binary form of a double

A finite double is `± significand · 2 ^ exponent`. The functions here take one apart and put one
together from its exact value, rounding to the nearest double with ties to the even significand.
-/
namespace Groupwise.Decimal

inductive Binary where
  | nan
  | infinite (negative : Bool)
  | finite (negative : Bool) (significand : Nat) (exponent : Int)
  deriving Repr, DecidableEq

namespace Binary

def storedBits : Nat := 52

/-- The exponent of the least positive double. -/
def leastExponent : Int := -1074

def ofFloat (x : Float) : Binary :=
  let bits := x.toBits.toNat
  let negative := bits / Nat.pow 2 63 == 1
  let biased := bits / Nat.pow 2 storedBits % 2048
  let fraction := bits % Nat.pow 2 storedBits
  if biased == 2047 then (if fraction == 0 then .infinite negative else .nan)
  else if biased == 0 then .finite negative fraction leastExponent
  else .finite negative (Nat.pow 2 storedBits + fraction) ((biased : Int) - 1075)

/-- Whether the magnitude lies on a power of two above the subnormal range, where the gap below is
half the gap above. -/
def isBoundary (significand : Nat) (exponent : Int) : Bool :=
  significand == Nat.pow 2 storedBits && leastExponent < exponent

def signBit (negative : Bool) : Nat := if negative then Nat.pow 2 63 else 0

/-- The double with the given sign whose magnitude is `significand · 2 ^ exponent`, for a
significand below `2 ^ 53` that has its top bit set unless the exponent is the least one. -/
def assemble (negative : Bool) (significand : Nat) (exponent : Int) : Float :=
  let bits :=
    if significand < Nat.pow 2 storedBits then significand
    else (exponent + 1075).toNat * Nat.pow 2 storedBits + (significand - Nat.pow 2 storedBits)
  Float.ofBits (UInt64.ofNat (signBit negative + bits))

def infinity (negative : Bool) : Float :=
  Float.ofBits (UInt64.ofNat (signBit negative + 2047 * Nat.pow 2 storedBits))

/-- `numerator / denominator` to the nearest natural number, ties to even. -/
def roundDiv (numerator denominator : Nat) : Nat :=
  let q := numerator / denominator
  let r := numerator % denominator
  if denominator < 2 * r || (2 * r == denominator && q % 2 == 1) then q + 1 else q

def nearest (negative : Bool) (numerator denominator : Nat) : Float :=
  if numerator == 0 then Float.ofBits (UInt64.ofNat (signBit negative))
  else
    let estimate : Int := (numerator.log2 : Int) - (denominator.log2 : Int)
    -- The quotient lies between `2 ^ (estimate - 1)` and `2 ^ (estimate + 1)`.
    let large := if 0 ≤ estimate then denominator * Nat.pow 2 estimate.toNat ≤ numerator
      else denominator ≤ numerator * Nat.pow 2 (-estimate).toNat
    let magnitude := if large then estimate else estimate - 1
    let exponent := max leastExponent (magnitude - 52)
    let significand :=
      if 0 ≤ exponent then roundDiv numerator (denominator * Nat.pow 2 exponent.toNat)
      else roundDiv (numerator * Nat.pow 2 (-exponent).toNat) denominator
    -- Rounding up may carry into the next power of two.
    let (significand, exponent) :=
      if significand == Nat.pow 2 53 then (Nat.pow 2 storedBits, exponent + 1)
      else (significand, exponent)
    if 971 < exponent then infinity negative else assemble negative significand exponent

end Binary

/-- The nearest double to `± digits · 10 ^ scale`. Scales beyond any double's range are cut short,
so that no huge power is formed. -/
def toFloat (negative : Bool) (digits : Nat) (scale : Int) : Float :=
  if digits == 0 then Binary.nearest negative 0 1
  else if 400 < scale then Binary.infinity negative
  else if scale + (digits.log2 : Int) < -1200 then Binary.nearest negative 0 1
  else if 0 ≤ scale then Binary.nearest negative (digits * Nat.pow 10 scale.toNat) 1
  else Binary.nearest negative digits (Nat.pow 10 (-scale).toNat)

/-- The exact remainder of a division whose quotient is cut off toward zero; it has the sign of the
dividend. -/
def remainder (x y : Float) : Float :=
  match Binary.ofFloat x, Binary.ofFloat y with
  | .finite negative m e, .finite _ n f =>
    if n == 0 then 0.0 / 0.0
    else
      let low := min e f
      let r := (m * Nat.pow 2 (e - low).toNat) % (n * Nat.pow 2 (f - low).toNat)
      if 0 ≤ low then Binary.nearest negative (r * Nat.pow 2 low.toNat) 1
      else Binary.nearest negative r (Nat.pow 2 (-low).toNat)
  | .finite .., .infinite _ => x
  | _, _ => 0.0 / 0.0

end Groupwise.Decimal
