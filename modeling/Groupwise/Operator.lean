import Groupwise.Decimal.Binary

/-!
# Operators

Comparisons, integer arithmetic on documents, and arithmetic on the numbers of groups.
-/
namespace Groupwise

inductive Comparison where
  | eq | ne | lt | lte | gt | gte
  deriving Repr, DecidableEq, Inhabited

namespace Comparison

def symbol : Comparison → String
  | .eq => "="
  | .ne => "!="
  | .lt => "<"
  | .lte => "<="
  | .gt => ">"
  | .gte => ">="

def label : Comparison → String
  | .eq => "Eq"
  | .ne => "Ne"
  | .lt => "Lt"
  | .lte => "Lte"
  | .gt => "Gt"
  | .gte => "Gte"

/-- The comparison that holds exactly when this one does not. -/
def negate : Comparison → Comparison
  | .eq => .ne
  | .ne => .eq
  | .lt => .gte
  | .lte => .gt
  | .gt => .lte
  | .gte => .lt

/-- The comparison of two integers. -/
def holds (op : Comparison) (left right : Int64) : Bool :=
  match op with
  | .eq => left == right
  | .ne => left != right
  | .lt => decide (left < right)
  | .lte => decide (left ≤ right)
  | .gt => decide (right < left)
  | .gte => decide (right ≤ left)

theorem holds_negate (op : Comparison) (left right : Int64) :
    op.negate.holds left right = !op.holds left right := by
  cases op with
  | eq => simp [negate, holds, bne]
  | ne => simp [negate, holds, bne]
  | lt => rw [negate, holds, holds, ← decide_not, decide_eq_decide, Int64.not_lt]
  | lte => rw [negate, holds, holds, ← decide_not, decide_eq_decide, Int64.not_le]
  | gt => rw [negate, holds, holds, ← decide_not, decide_eq_decide, Int64.not_lt]
  | gte => rw [negate, holds, holds, ← decide_not, decide_eq_decide, Int64.not_le]

end Comparison

/-- Integer arithmetic that is neither associative nor free of errors. -/
inductive Arithmetic where
  | subtract | multiply | divide | modulus
  deriving Repr, DecidableEq, Inhabited

namespace Arithmetic

def symbol : Arithmetic → String
  | .subtract => "-"
  | .multiply => "*"
  | .divide => "/"
  | .modulus => "%"

def label : Arithmetic → String
  | .subtract => "Subtract"
  | .multiply => "Multiply"
  | .divide => "Divide"
  | .modulus => "Modulus"

/-- A whole number as a word, if it fits. -/
def fit (n : Int) : Option Int64 :=
  if Int64.minValue.toInt ≤ n ∧ n ≤ Int64.maxValue.toInt then some (Int64.ofInt n) else none

/-- The result where it is defined and fits into a word. The remainder of the least word by minus
one is refused together with the quotient, which does not fit. -/
def apply (op : Arithmetic) (left right : Int64) : Option Int64 :=
  match op with
  | .subtract => fit (left.toInt - right.toInt)
  | .multiply => fit (left.toInt * right.toInt)
  | .divide => if right == 0 then none else fit (left.toInt.tdiv right.toInt)
  | .modulus =>
    if right == 0 || (left == Int64.minValue && right == -1) then none
    else fit (left.toInt.tmod right.toInt)

end Arithmetic

/-- Arithmetic on the numbers of groups. -/
inductive Calculation where
  | add | subtract | multiply | divide | modulus | power
  deriving Repr, DecidableEq, Inhabited

namespace Calculation

def symbol : Calculation → String
  | .add => "+"
  | .subtract => "-"
  | .multiply => "*"
  | .divide => "/"
  | .modulus => "%"
  | .power => "^"

def label : Calculation → String
  | .add => "Add"
  | .subtract => "Subtract"
  | .multiply => "Multiply"
  | .divide => "Divide"
  | .modulus => "Modulus"
  | .power => "Power"

end Calculation

end Groupwise
