import Groupwise.Numeric
import Groupwise.Proofs.Evaluation.Pointwise
import Mathlib.Data.List.Perm.Basic
import Mathlib.Data.Rat.Floor

/-!
# Exact sums

Rounding makes a sum depend on the order of its terms. Where terms are rearranged, the laws that
rounding would break are asked for here, and rational numbers keep them.
-/
namespace Groupwise

/-- Numbers that are added up exactly. -/
class ExactSums (ν : Type) [Numeric ν] : Prop where
  add_comm : ∀ a b : ν, Numeric.add a b = Numeric.add b a
  add_assoc : ∀ a b c : ν, Numeric.add (Numeric.add a b) c = Numeric.add a (Numeric.add b c)
  zero_add : ∀ a : ν, Numeric.add Numeric.zero a = a
  eq_zero_of_isZero : ∀ a : ν, Numeric.isZero a = true → a = Numeric.zero

/-- Numbers whose differences are exact, too. -/
class ExactDifferences (ν : Type) [Numeric ν] : Prop extends ExactSums ν where
  subtract_of_add : ∀ a b : ν, Numeric.subtract (Numeric.add a b) b = a
  negate_eq : ∀ a : ν, Numeric.apply .negate a = Numeric.subtract Numeric.zero a

namespace Numeric

/-- The nearest whole number, away from zero where two are equally near. -/
def roundRational (a : ℚ) : ℚ := if 0 ≤ a then (a + 1 / 2).floor else (a - 1 / 2).ceil

/-- Rational numbers. Their sums, differences, products and quotients are exact. Powers with broken
exponents and logarithms are not among them and count as zero. -/
instance : Numeric ℚ where
  zero := 0
  one := 1
  calculate
    | .add, a, b => a + b
    | .subtract, a, b => a - b
    | .multiply, a, b => a * b
    | .divide, a, b => a / b
    | .modulus, a, b => a - b * (if 0 ≤ a / b then (a / b).floor else (a / b).ceil)
    | .power, a, b => if b.isInt then a ^ b.num else 0
  apply
    | .log, _ => 0
    | .abs, a => |a|
    | .negate, a => -a
    | .floor, a => a.floor
    | .ceil, a => a.ceil
    | .round, a => roundRational a
  compare
    | .eq, a, b => decide (a = b)
    | .ne, a, b => decide (a ≠ b)
    | .lt, a, b => decide (a < b)
    | .lte, a, b => decide (a ≤ b)
    | .gt, a, b => decide (b < a)
    | .gte, a, b => decide (b ≤ a)
  least := min
  greatest := max
  isFinite _ := true
  isWhole := Rat.isInt
  truncate a := Int64.ofIntClamp (if 0 ≤ a then a.floor else a.ceil)
  plain := toString
  listing := toString

instance : ExactSums ℚ where
  add_comm := Rat.add_comm
  add_assoc := Rat.add_assoc
  zero_add := Rat.zero_add
  eq_zero_of_isZero _ h := of_decide_eq_true h

instance : ExactDifferences ℚ where
  subtract_of_add := add_sub_cancel_right
  negate_eq a := (zero_sub a).symm

variable {ν : Type} [Numeric ν]

/-- The sum of some numbers, none at all giving zero. -/
def total (values : List ν) : ν := values.foldr Numeric.add Numeric.zero

variable [ExactSums ν]

theorem add_left_comm (a b c : ν) :
    Numeric.add a (Numeric.add b c) = Numeric.add b (Numeric.add a c) := by
  rw [← ExactSums.add_assoc, ExactSums.add_comm a, ExactSums.add_assoc]

theorem add_zero (a : ν) : Numeric.add a Numeric.zero = a := by
  rw [ExactSums.add_comm, ExactSums.zero_add]

instance : Std.Associative (Numeric.add (ν := ν)) := ⟨ExactSums.add_assoc⟩

instance : Std.LawfulIdentity (Numeric.add (ν := ν)) Numeric.zero where
  left_id := ExactSums.zero_add
  right_id := add_zero

theorem total_append (as bs : List ν) : total (as ++ bs) = Numeric.add (total as) (total bs) := by
  induction as with
  | nil => exact (ExactSums.zero_add _).symm
  | cons a as ih =>
    show Numeric.add a (total (as ++ bs)) = Numeric.add (Numeric.add a (total as)) (total bs)
    rw [ih, ExactSums.add_assoc]

theorem total_perm {as bs : List ν} (h : as.Perm bs) : total as = total bs :=
  have : LeftCommutative (Numeric.add (ν := ν)) := ⟨add_left_comm⟩
  h.foldr_eq _

/-- Adding up from the left gives the same sum. -/
theorem foldl_add_eq (a : ν) (values : List ν) :
    values.foldl Numeric.add a = Numeric.add a (total values) := by
  induction values generalizing a with
  | nil => exact (add_zero a).symm
  | cons b rest ih =>
    rw [List.foldl_cons, ih, ExactSums.add_assoc]
    rfl

theorem combineValues_add (values : List ν) :
    Evaluation.combineValues Numeric.add values = total values := by
  cases values with
  | nil => rfl
  | cons a rest => exact foldl_add_eq a rest

end Numeric

end Groupwise
