import Groupwise.Decimal.Layout
import Groupwise.Operator

/-!
# Numbers of groups

Metrics of groups compute with numbers of any type that has the operations below. Queries run with
doubles; exact numbers serve to state laws that rounding would disturb.
-/
namespace Groupwise

inductive Function where
  | log | abs | negate | floor | ceil | round
  deriving Repr, DecidableEq, Inhabited

namespace Function

def label : Function → String
  | .log => "Log"
  | .abs => "Abs"
  | .negate => "Negate"
  | .floor => "Floor"
  | .ceil => "Ceil"
  | .round => "Round"

def write (argument : String) : Function → String
  | .log => "log(" ++ argument ++ ")"
  | .abs => "abs(" ++ argument ++ ")"
  | .negate => "-" ++ argument
  | .floor => "floor(" ++ argument ++ ")"
  | .ceil => "ceil(" ++ argument ++ ")"
  | .round => "round(" ++ argument ++ ")"

end Function

class Numeric (ν : Type) where
  zero : ν
  one : ν
  calculate : Calculation → ν → ν → ν
  apply : Function → ν → ν
  compare : Comparison → ν → ν → Bool
  least : ν → ν → ν
  greatest : ν → ν → ν
  isFinite : ν → Bool
  isWhole : ν → Bool
  /-- The number without its fraction, within the range of a word. -/
  truncate : ν → Int64
  plain : ν → String
  /-- The text of the number in a listing. -/
  listing : ν → String

namespace Numeric

variable {ν : Type} [Numeric ν]

def add (a b : ν) : ν := calculate .add a b

def subtract (a b : ν) : ν := calculate .subtract a b

def isZero (a : ν) : Bool := compare .eq a zero

def isPositive (a : ν) : Bool := compare .gt a zero

end Numeric

/-- Doubles. Of a number and what is not a number, the extremes give the number. -/
instance : Numeric Float where
  zero := 0.0
  one := 1.0
  calculate
    | .add, a, b => a + b
    | .subtract, a, b => a - b
    | .multiply, a, b => a * b
    | .divide, a, b => a / b
    | .modulus, a, b => Decimal.remainder a b
    | .power, a, b => a.pow b
  apply
    | .log, a => a.log
    | .abs, a => a.abs
    | .negate, a => -a
    | .floor, a => a.floor
    | .ceil, a => a.ceil
    | .round, a => a.round
  compare
    | .eq, a, b => a == b
    | .ne, a, b => a != b
    | .lt, a, b => a < b
    | .lte, a, b => a ≤ b
    | .gt, a, b => b < a
    | .gte, a, b => b ≤ a
  least a b := if a.isNaN || b < a then b else a
  greatest a b := if a.isNaN || a < b then b else a
  isFinite a := a.isFinite
  isWhole a := a.isFinite && a == a.floor
  truncate a := a.toInt64
  plain a := Decimal.Layout.plain.write a
  listing a := Decimal.Layout.listing.write a

end Groupwise
