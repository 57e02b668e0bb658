import Groupwise.Aggregate.Expression
import Groupwise.Doc.Equality

/-!
# Equality of expressions over groups

Expressions are compared part by part, and numbers by their own equality.
-/
namespace Groupwise.Aggregate

variable {ν : Type} [Numeric ν]

mutual

def Metric.beq : Metric ν → Metric ν → Bool
  | .add ms, .add ns => Metric.beqAll ms ns
  | .calculate o l r, .calculate p m s => o == p && Metric.beq l m && Metric.beq r s
  | .function f m, .function g n => f == g && Metric.beq m n
  | .docStats m, .docStats n => m == n
  | .docStatsIn d m, .docStatsIn e n => d == e && m == n
  | .parent m, .parent n => Metric.beq m n
  | .lag k m, .lag l n => k == l && Metric.beq m n
  | .iterateLag k m, .iterateLag l n => k == l && Metric.beq m n
  | .window k m, .window l n => k == l && Metric.beq m n
  | .running k m, .running l n => k == l && Metric.beq m n
  | .distinct f x w, .distinct g y v => f == g && Filter.beqOption x y && w == v
  | .percentile f p, .percentile g q => f == g && p == q
  | .fieldMin f m x, .fieldMin g n y => f == g && Metric.beqOption m n && Filter.beqOption x y
  | .fieldMax f m x, .fieldMax g n y => f == g && Metric.beqOption m n && Filter.beqOption x y
  | .sumAcross g m, .sumAcross h n => Grouping.beq g h && Metric.beq m n
  | .lookup a, .lookup b => a == b
  | .multiLookup a, .multiLookup b => a == b
  | .ifThenElse c y n, .ifThenElse d z o =>
    Filter.beq c d && Metric.beq y z && Metric.beq n o
  | .least ms, .least ns => Metric.beqAll ms ns
  | .greatest ms, .greatest ns => Metric.beqAll ms ns
  | .qualified d m, .qualified e n => d == e && Metric.beq m n
  | .named m a, .named n b => Metric.beq m n && a == b
  | .reference a, .reference b => a == b
  | .bootstrap f x s m k o, .bootstrap g y t n l p =>
    f == g && Filter.beqOption x y && s == t && Metric.beq m n && k == l && o == p
  | .constant v, .constant w => Numeric.compare .eq v w
  | .average m, .average n => Metric.beq m n
  | _, _ => false

def Metric.beqAll : List (Metric ν) → List (Metric ν) → Bool
  | [], [] => true
  | m :: ms, n :: ns => Metric.beq m n && Metric.beqAll ms ns
  | _, _ => false

def Metric.beqOption : Option (Metric ν) → Option (Metric ν) → Bool
  | none, none => true
  | some m, some n => Metric.beq m n
  | _, _ => false

def Filter.beq : Filter ν → Filter ν → Bool
  | .termIs t, .termIs u => t == u
  | .termRegex p, .termRegex q => p == q
  | .compare o l r, .compare p m s => o == p && Metric.beq l m && Metric.beq r s
  | .and fs, .and gs => Filter.beqAll fs gs
  | .or fs, .or gs => Filter.beqAll fs gs
  | .not f, .not g => Filter.beq f g
  | .regex f p, .regex g q => f == g && p == q
  | .always, .always => true
  | .never, .never => true
  | .isDefaultGroup, .isDefaultGroup => true
  | _, _ => false

def Filter.beqAll : List (Filter ν) → List (Filter ν) → Bool
  | [], [] => true
  | f :: fs, g :: gs => Filter.beq f g && Filter.beqAll fs gs
  | _, _ => false

def Filter.beqOption : Option (Filter ν) → Option (Filter ν) → Bool
  | none, none => true
  | some f, some g => Filter.beq f g
  | _, _ => false

def Grouping.beq : Grouping ν → Grouping ν → Bool
  | .buckets m a b i e d, .buckets n a' b' i' e' d' =>
    m == n && a == a' && b == b' && i == i' && e == e' && d == d'
  | .time p f t r, .time p' f' t' r' => p == p' && f == f' && t == t' && r == r'
  | .timeBuckets n f t, .timeBuckets n' f' t' => n == n' && f == f' && t == t'
  | .month f t, .month f' t' => f == f' && t == t'
  | .termsIn f i s d, .termsIn f' i' s' d' => f == f' && i == i' && s == s' && d == d'
  | .terms f x l m d, .terms f' x' l' m' d' =>
    f == f' && Filter.beqOption x x' && l == l' && Metric.beqOption m m' && d == d'
  | .dayOfWeek, .dayOfWeek => true
  | .sessionName, .sessionName => true
  | .quantiles f n, .quantiles f' n' => f == f' && n == n'
  | .predicate f, .predicate f' => f == f'
  | .random f i k s, .random f' i' k' s' => f == f' && i == i' && k == k' && s == s'
  | .randomMetric m k s, .randomMetric m' k' s' => m == m' && k == k' && s == s'
  | _, _ => false

end

instance : BEq (Metric ν) := ⟨Metric.beq⟩

instance : BEq (Filter ν) := ⟨Filter.beq⟩

instance : BEq (Grouping ν) := ⟨Grouping.beq⟩

end Groupwise.Aggregate
