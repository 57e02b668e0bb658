import Groupwise.Plan.Extraction
import Groupwise.Proofs.Aggregate.Combination

/-!
# What expressions demand of a schedule

The computations for a metric run at the depth at which the metric stands, except that those inside
a parent's metric run at a lesser depth and those inside the filter of a count of distinct terms at
a greater one. A stage is read before the computations of the depth that it leads to, and a count
before those of its filter, so both must do without computations of their own depth.
-/
namespace Groupwise

open Aggregate

variable {ν : Type}

namespace Aggregate

mutual

/-- The truth value of a filter whatever its metrics are. -/
def Filter.constant? : Filter ν → Option Bool
  | .always => some true
  | .never => some false
  | .and fs => Connective.and.fixed (Filter.constants fs)
  | .or fs => Connective.or.fixed (Filter.constants fs)
  | _ => none

def Filter.constants : List (Filter ν) → List (Option Bool)
  | [] => []
  | f :: rest => f.constant? :: Filter.constants rest

end

mutual

/-- Whether a metric looks up a number that is computed at the depth at which the metric stands. -/
def Metric.needsOwnDepth : Metric ν → Bool
  | .distinct .. => true
  | .percentile .. => true
  | .fieldMin .. => true
  | .fieldMax .. => true
  | .sumAcross .. => true
  | .bootstrap _ _ _ _ _ outputs => !outputs.isEmpty
  | .parent _ => false
  | .ifThenElse c y n => c.needsOwnDepth || y.needsOwnDepth || n.needsOwnDepth
  | .add ms => Metric.someNeedOwnDepth ms
  | .least ms => Metric.someNeedOwnDepth ms
  | .greatest ms => Metric.someNeedOwnDepth ms
  | .calculate _ l r => l.needsOwnDepth || r.needsOwnDepth
  | .function _ m => m.needsOwnDepth
  | .lag _ m => m.needsOwnDepth
  | .iterateLag _ m => m.needsOwnDepth
  | .window _ m => m.needsOwnDepth
  | .running _ m => m.needsOwnDepth
  | .qualified _ m => m.needsOwnDepth
  | .named m _ => m.needsOwnDepth
  | .average m => m.needsOwnDepth
  | .docStats _ => false
  | .docStatsIn .. => false
  | .lookup _ => false
  | .multiLookup _ => false
  | .reference _ => false
  | .constant _ => false

def Metric.someNeedOwnDepth : List (Metric ν) → Bool
  | [] => false
  | m :: rest => m.needsOwnDepth || Metric.someNeedOwnDepth rest

/-- An operand that makes a combination constant leaves nothing to be looked up. -/
def Filter.needsOwnDepth : Filter ν → Bool
  | .compare _ l r => l.needsOwnDepth || r.needsOwnDepth
  | .and fs => !(Filter.constants fs).contains (some false) && Filter.someNeedOwnDepth fs
  | .or fs => !(Filter.constants fs).contains (some true) && Filter.someNeedOwnDepth fs
  | .not f => f.needsOwnDepth
  | _ => false

def Filter.someNeedOwnDepth : List (Filter ν) → Bool
  | [] => false
  | f :: rest => f.needsOwnDepth || Filter.someNeedOwnDepth rest

end

def Metric.needsOwnDepthOption (m : Option (Metric ν)) : Bool := m.any (·.needsOwnDepth)

def Filter.needsOwnDepthOption (f : Option (Filter ν)) : Bool := f.any (·.needsOwnDepth)

def Grouping.needsOwnDepth : Grouping ν → Bool
  | .terms _ x _ m _ => Filter.needsOwnDepthOption x || Metric.needsOwnDepthOption m
  | _ => false

mutual

/-- Whether no count of distinct terms in a metric has a filter that looks up a number of its own
depth. The order of a sum across all terms plays no part. -/
def Metric.timely : Metric ν → Bool
  | .distinct _ x _ => Filter.timelyOption x && !Filter.needsOwnDepthOption x
  | .percentile .. => true
  | .fieldMin _ m x => Metric.timelyOption m && Filter.timelyOption x
  | .fieldMax _ m x => Metric.timelyOption m && Filter.timelyOption x
  | .sumAcross (.terms _ x none _ _) m => m.timely && Filter.timelyOption x
  | .sumAcross g m => g.timely && m.timely
  | .bootstrap _ x _ m _ _ => m.timely && Filter.timelyOption x
  | .parent m => m.timely
  | .ifThenElse c y n => c.timely && y.timely && n.timely
  | .add ms => Metric.allTimely ms
  | .least ms => Metric.allTimely ms
  | .greatest ms => Metric.allTimely ms
  | .calculate _ l r => l.timely && r.timely
  | .function _ m => m.timely
  | .lag _ m => m.timely
  | .iterateLag _ m => m.timely
  | .window _ m => m.timely
  | .running _ m => m.timely
  | .qualified _ m => m.timely
  | .named m _ => m.timely
  | .average m => m.timely
  | .docStats _ => true
  | .docStatsIn .. => true
  | .lookup _ => true
  | .multiLookup _ => true
  | .reference _ => true
  | .constant _ => true

def Metric.allTimely : List (Metric ν) → Bool
  | [] => true
  | m :: rest => m.timely && Metric.allTimely rest

def Metric.timelyOption : Option (Metric ν) → Bool
  | none => true
  | some m => m.timely

def Filter.timely : Filter ν → Bool
  | .compare _ l r => l.timely && r.timely
  | .and fs => Filter.allTimely fs
  | .or fs => Filter.allTimely fs
  | .not f => f.timely
  | _ => true

def Filter.allTimely : List (Filter ν) → Bool
  | [] => true
  | f :: rest => f.timely && Filter.allTimely rest

def Filter.timelyOption : Option (Filter ν) → Bool
  | none => true
  | some f => f.timely

def Grouping.timely : Grouping ν → Bool
  | .terms _ x _ m _ => Filter.timelyOption x && Metric.timelyOption m
  | _ => true

end

end Aggregate

/-- Whether a stage needs nothing that is computed behind it. If its filter needs a walk over terms,
the filter is put behind the stage and only the order of the terms is read at the stage; otherwise
nothing of the stage may need the depth that it leads to, not even the filter of its groups. -/
def Stage.timely (s : Stage ν) : Bool :=
  if s.filter?.any Filter.needsTerms then
    match s.grouping with
    | .terms _ x _ m _ =>
      Filter.timelyOption x && Metric.timelyOption m && !Metric.needsOwnDepthOption m
    | _ => Filter.timelyOption s.having
  else
    s.grouping.timely && Filter.timelyOption s.having && !s.grouping.needsOwnDepth &&
      !Filter.needsOwnDepthOption s.having

/-- Whether everything that the expressions of a plan look up can be computed before. -/
def Plan.timely (p : Plan ν) : Bool := p.stages.all Stage.timely && p.selects.all Metric.timely

end Groupwise
