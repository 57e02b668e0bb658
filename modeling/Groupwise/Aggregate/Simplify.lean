import Groupwise.Aggregate.Revision
import Groupwise.Doc.Simplify

/-!
# Simplification of expressions over groups

Constants are folded in metrics and comparisons; document expressions inside are simplified too.
-/
namespace Groupwise.Aggregate

variable {ν : Type} [Numeric ν]

/-- Fold a function of a constant. The logarithm stays where it has no value, and a calculation
where its result is not finite. -/
def Metric.fold : Metric ν → Metric ν
  | .function .log (.constant v) =>
    if Numeric.isPositive v then .constant (Numeric.apply .log v)
    else .function .log (.constant v)
  | .function f (.constant v) => .constant (Numeric.apply f v)
  | .calculate op (.constant l) (.constant r) =>
    let v := Numeric.calculate op l r
    if Numeric.isFinite v then .constant v else .calculate op (.constant l) (.constant r)
  | m => m

def Filter.fold : Filter ν → Filter ν
  | .compare op (.constant l) (.constant r) =>
    if Numeric.compare op l r then .always else .never
  | .not .always => .never
  | .not .never => .always
  | .not (.not f) => f
  | f => f

def simplification : Revision ν where
  metric := Metric.fold
  docMetric := Doc.Metric.fold
  filter := Filter.fold
  docFilter := Doc.Filter.fold

def Metric.simplify (m : Metric ν) : Metric ν := m.revise simplification

end Groupwise.Aggregate
