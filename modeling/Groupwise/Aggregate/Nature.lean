import Groupwise.Aggregate.Expression

/-!
# What a group expression depends on

An ordered metric looks at groups beside the one that it is computed for. Some metrics need a walk
over all terms of a field, and a term filter looks at the term of that walk.
-/
namespace Groupwise.Aggregate

variable {ν : Type}

mutual

/-- Whether the value of a group depends on the groups around it. -/
def Metric.isOrdered : Metric ν → Bool
  | .lag .. => true
  | .iterateLag .. => true
  | .window .. => true
  | .running .. => true
  | .distinct _ x w => w.isSome || Filter.isOrderedOption x
  | .ifThenElse c y n => c.isOrdered || y.isOrdered || n.isOrdered
  | .add ms => Metric.someOrdered ms
  | .least ms => Metric.someOrdered ms
  | .greatest ms => Metric.someOrdered ms
  | .calculate _ l r => l.isOrdered || r.isOrdered
  | .function _ m => m.isOrdered
  | .parent m => m.isOrdered
  | .average m => m.isOrdered
  | .sumAcross _ m => m.isOrdered
  | .qualified _ m => m.isOrdered
  | .named m _ => m.isOrdered
  | .bootstrap _ _ _ m _ _ => m.isOrdered
  | .fieldMin _ m _ => Metric.isOrderedOption m
  | .fieldMax _ m _ => Metric.isOrderedOption m
  | .docStats _ => false
  | .docStatsIn .. => false
  | .percentile .. => false
  | .lookup _ => false
  | .multiLookup _ => false
  | .reference _ => false
  | .constant _ => false

def Metric.someOrdered : List (Metric ν) → Bool
  | [] => false
  | m :: rest => m.isOrdered || Metric.someOrdered rest

def Metric.isOrderedOption : Option (Metric ν) → Bool
  | none => false
  | some m => m.isOrdered

def Filter.isOrdered : Filter ν → Bool
  | .compare _ l r => l.isOrdered || r.isOrdered
  | .and fs => Filter.someOrdered fs
  | .or fs => Filter.someOrdered fs
  | .not f => f.isOrdered
  | _ => false

def Filter.someOrdered : List (Filter ν) → Bool
  | [] => false
  | f :: rest => f.isOrdered || Filter.someOrdered rest

def Filter.isOrderedOption : Option (Filter ν) → Bool
  | none => false
  | some f => f.isOrdered

end

mutual

/-- Whether the metric needs a walk over the terms of a field. -/
def Metric.needsTerms : Metric ν → Bool
  | .distinct .. => true
  | .percentile .. => true
  | .fieldMin .. => true
  | .fieldMax .. => true
  | .sumAcross .. => true
  | .bootstrap .. => true
  | .ifThenElse c y n => c.needsTerms || y.needsTerms || n.needsTerms
  | .add ms => Metric.someNeedTerms ms
  | .least ms => Metric.someNeedTerms ms
  | .greatest ms => Metric.someNeedTerms ms
  | .calculate _ l r => l.needsTerms || r.needsTerms
  | .function _ m => m.needsTerms
  | .parent m => m.needsTerms
  | .average m => m.needsTerms
  | .lag _ m => m.needsTerms
  | .iterateLag _ m => m.needsTerms
  | .window _ m => m.needsTerms
  | .running _ m => m.needsTerms
  | .qualified _ m => m.needsTerms
  | .named m _ => m.needsTerms
  | .docStats _ => false
  | .docStatsIn .. => false
  | .lookup _ => false
  | .multiLookup _ => false
  | .reference _ => false
  | .constant _ => false

def Metric.someNeedTerms : List (Metric ν) → Bool
  | [] => false
  | m :: rest => m.needsTerms || Metric.someNeedTerms rest

def Filter.needsTerms : Filter ν → Bool
  | .compare _ l r => l.needsTerms || r.needsTerms
  | .and fs => Filter.someNeedTerms fs
  | .or fs => Filter.someNeedTerms fs
  | .not f => f.needsTerms
  | _ => false

def Filter.someNeedTerms : List (Filter ν) → Bool
  | [] => false
  | f :: rest => f.needsTerms || Filter.someNeedTerms rest

end

def Grouping.needsTerms : Grouping ν → Bool
  | .terms _ filter _ metric _ => filter.any (·.needsTerms) || metric.any (·.needsTerms)
  | _ => false

mutual

/-- Whether the filter looks at the current term. -/
def Filter.isTermFilter : Filter ν → Bool
  | .termIs _ => true
  | .termRegex _ => true
  | .regex .. => true
  | .and fs => Filter.someTermFilter fs
  | .or fs => Filter.someTermFilter fs
  | .not f => f.isTermFilter
  | _ => false

def Filter.someTermFilter : List (Filter ν) → Bool
  | [] => false
  | f :: rest => f.isTermFilter || Filter.someTermFilter rest

end

end Groupwise.Aggregate
