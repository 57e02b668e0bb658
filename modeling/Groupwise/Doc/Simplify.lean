import Groupwise.Doc.Equality
import Groupwise.Doc.Revision

/-!
# Simplification of document expressions

Constants are folded, comparisons with literals become tests of fields where that is the same, and
negations are pushed into what they negate. The rules see operands that are simple already.
-/
namespace Groupwise.Doc

/-- The literal of a comparison and its other operand, the right one when both are literals. -/
def Metric.literalAndOther? (left right : Metric) : Option (Int64 × Metric) :=
  match left.literal?, right.literal? with
  | some c, _ => some (c, right)
  | none, some c => some (c, left)
  | none, none => none

def Metric.ofBool (b : Bool) : Metric := .constant (if b then 1 else 0)

def Metric.foldEquality (isEq : Bool) (c : Int64) : Metric → Option Metric
  | .field f =>
    let has := Metric.hasInt f c
    some (if isEq then has else .subtract (.constant 1) has)
  | .compare op left right =>
    -- Against one a comparison stays, against zero it is inverted, and it is nothing else.
    if c == (if isEq then 1 else 0) then some (.compare op left right)
    else if c == (if isEq then 0 else 1) then some (.compare op.negate left right)
    else some (.ofBool (!isEq))
  | _ => none

def Metric.foldCompare (op : Comparison) (left right : Metric) : Metric :=
  match left.literal?, right.literal? with
  | some l, some r => .ofBool (op.holds l r)
  | _, _ =>
    let folded := match op with
      | .eq => (literalAndOther? left right).bind fun (c, other) => other.foldEquality true c
      | .ne => (literalAndOther? left right).bind fun (c, other) => other.foldEquality false c
      | _ => none
    folded.getD (.compare op left right)

def Metric.foldArithmetic (op : Arithmetic) (left right : Metric) : Metric :=
  match op, left.constant?, right.constant? with
  | op, some l, some r =>
    match op.apply l r with
    | some v => .constant v
    | none => .arithmetic op left right
  | .multiply, some l, none =>
    if l == 0 then .constant 0 else if l == 1 then right else .arithmetic .multiply left right
  | .multiply, none, some r =>
    if r == 0 then .constant 0 else if r == 1 then left else .arithmetic .multiply left right
  | .subtract, none, some r => if r == 0 then left else .arithmetic .subtract left right
  | .divide, none, some r => if r == 1 then left else .arithmetic .divide left right
  | op, _, _ => .arithmetic op left right

/-- The scaled logarithm of a positive integer, cut off to an integer. -/
def logOfConstant (v : Int64) (scale : Int) : Int64 :=
  let s := Float.ofInt scale
  ((v.toFloat.log - s.log) * s).toInt64

/-- The scaled exponential of an integer, cut off to an integer. -/
def expOfConstant (v : Int64) (scale : Int) : Int64 :=
  let s := Float.ofInt scale
  ((v.toFloat / s).exp * s).toInt64

def signOf (v : Int64) : Int64 := if 0 < v then 1 else if v < 0 then -1 else 0

def Metric.fold : Metric → Metric
  | .arithmetic op left right => Metric.foldArithmetic op left right
  | .negate m =>
    match m.constant? with
    | some v => .constant (-v)
    | none => .negate m
  | .abs m =>
    match m.constant?, m with
    | some v, _ => .constant (if v < 0 then -v else v)
    | none, .abs inner => .abs inner
    | none, m => .abs m
  | .signum m =>
    match m.constant? with
    | some v => .constant (signOf v)
    | none => .signum m
  | .log m scale =>
    match m.constant? with
    | some v => if 0 < v && 0 < scale then .constant (logOfConstant v scale) else .log m scale
    | none => .log m scale
  | .exponentiate m scale =>
    match m.constant? with
    | some v => if 0 < scale then .constant (expOfConstant v scale) else .exponentiate m scale
    | none => .exponentiate m scale
  | .ifThenElse condition yes no =>
    match condition with
    | .always => yes
    | .never => no
    | _ => if yes == no then yes else .ifThenElse condition yes no
  | .compare op left right => Metric.foldCompare op left right
  | m => m

def Filter.ofBool (b : Bool) : Filter := if b then .always else .never

/-- A comparison of two metrics as a filter, given what an equality or inequality of either side
with a literal comes to. -/
def Filter.foldCompareWith (op : Comparison) (left right : Metric)
    (leftIs rightIs : Bool → Int64 → Option Filter) : Filter :=
  match left.literal?, right.literal? with
  | some l, some r => .ofBool (op.holds l r)
  | l, r =>
    let equality (isEq : Bool) : Filter :=
      let folded := match l, r with
        | some c, _ => rightIs isEq c
        | none, some c => leftIs isEq c
        | none, none => none
      folded.getD (.compare op left right)
    match op with
    | .eq => equality true
    | .ne => equality false
    | .gt | .lte =>
      if r == some Int64.maxValue || l == some Int64.minValue then .ofBool (op == .lte)
      else .compare op left right
    | .lt | .gte =>
      if r == some Int64.minValue || l == some Int64.maxValue then .ofBool (op == .gte)
      else .compare op left right

/-- An equality, or an inequality, of a metric with a literal as a filter. -/
def Metric.equalityFilter (isEq : Bool) (c : Int64) : Metric → Option Filter
  | .compare op left right =>
    -- The comparison is returned as it stands, even if it could be decided.
    if c == (if isEq then 1 else 0) then some (.compare op left right)
    else if c == (if isEq then 0 else 1) then
      some (Filter.foldCompareWith op.negate left right
        (fun isEq c => Metric.equalityFilter isEq c left)
        (fun isEq c => Metric.equalityFilter isEq c right))
    else some (.ofBool (!isEq))
  | .field f => some (if isEq then .fieldIs f (.ofInt c) else .fieldIsnt f (.ofInt c))
  | _ => none

def Filter.foldCompare (op : Comparison) (left right : Metric) : Filter :=
  Filter.foldCompareWith op left right
    (fun isEq c => left.equalityFilter isEq c) (fun isEq c => right.equalityFilter isEq c)

def Filter.foldNot : Filter → Filter
  | .always => .never
  | .never => .always
  | .compare op left right => Filter.foldCompare op.negate left right
  | .not f => f
  | .regex f p => .notRegex f p
  | .notRegex f p => .regex f p
  | .fieldIs f t => .fieldIsnt f t
  | .fieldIsnt f t => .fieldIs f t
  | f => .not f

/-- Simplify a range test: one that reaches the end of the integers is a comparison, and one that
holds a single integer is an equality. -/
def Filter.foldBetween (field : FieldSet) (lower upper : Int64) (inclusive : Bool) : Filter :=
  let unboundedBelow := lower == Int64.minValue
  let unboundedAbove := inclusive && upper == Int64.maxValue
  if unboundedBelow && unboundedAbove then .always
  else if unboundedBelow then
    Filter.foldCompare (if inclusive then .lte else .lt) (.field field) (.constant upper)
  else if unboundedAbove then Filter.foldCompare .gte (.field field) (.constant lower)
  else if !inclusive && upper == Int64.minValue then .never
  else if lower == (if inclusive then upper else upper - 1) then
    Filter.foldCompare .eq (.field field) (.constant lower)
  else .between field lower upper inclusive

def Filter.fold : Filter → Filter
  | .compare op left right => Filter.foldCompare op left right
  | .intIn field [term] => .fieldIs field (.ofInt term)
  | .stringIn field [term] => .fieldIs field (.string term)
  | .not f => Filter.foldNot f
  | .between field lower upper inclusive => Filter.foldBetween field lower upper inclusive
  | f => f

def Metric.simplify (m : Metric) : Metric := m.revise Metric.fold Filter.fold

def Filter.simplify (f : Filter) : Filter := f.revise Metric.fold Filter.fold

end Groupwise.Doc
