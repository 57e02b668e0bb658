import Groupwise.Aggregate.Revision
import Groupwise.Command
import Groupwise.Doc.Truth

/-!
# Regroupings

A regrouping is a grouping made ready for the engine: document metrics are given for each dataset,
and a predicate has become a pair of buckets of its truth metric.
-/
namespace Groupwise

open Aggregate (Metric Grouping)

inductive Regrouping (ν : Type) where
  | terms (field : FieldSet) (filter : Option (Aggregate.Filter ν)) (limit : Option Nat)
      (metric : Option (Metric ν)) (withDefault : Bool)
  | termsIn (field : FieldSet) (intTerms : List Int64) (stringTerms : List String)
      (isIntField withDefault : Bool)
  | metric (metrics : Dictionary Doc.Metric) (min max interval : Int64) (scope : Names)
      (excludeGutters withDefault fromPredicate : Bool)
  | time (periodMillis : Int64) (field : Option FieldSet) (format : Option String)
      (relative : Bool)
  | timeBuckets (count : Nat) (field : Option FieldSet) (format : Option String)
  | dayOfWeek
  | month (field : Option FieldSet) (format : Option String)
  | sessionNames
  | quantiles (field : FieldSet) (count : Nat)
  | random (field : FieldSet) (parts : Nat) (salt : String)
  | randomMetric (metrics : Dictionary Doc.Metric) (scope : Names) (parts : Nat) (salt : String)

variable {ν : Type}

/-- The regrouping that a grouping stands for in the datasets of a scope. Only a predicate can
fail, when it has no form as a metric in some dataset. -/
def Aggregate.Grouping.regrouping (scope : Names) : Grouping ν → CompileM (Regrouping ν)
  | .buckets m min max interval excludeGutters withDefault =>
    .ok (.metric (scope.map ((·, m))) min max interval scope excludeGutters withDefault false)
  | .time period field format relative => .ok (.time period field format relative)
  | .timeBuckets count field format => .ok (.timeBuckets count field format)
  | .month field format => .ok (.month field format)
  | .termsIn field ints strings withDefault =>
    .ok (.termsIn field ints strings strings.isEmpty withDefault)
  | .terms field filter limit m withDefault => .ok (.terms field filter limit m withDefault)
  | .dayOfWeek => .ok .dayOfWeek
  | .sessionName => .ok .sessionNames
  | .quantiles field count => .ok (.quantiles field count)
  | .predicate filter => do
    let metrics ← Dictionary.collect scope filter.truth
    .ok (.metric metrics 0 2 1 scope true false true)
  | .random field _ parts salt => .ok (.random field parts salt)
  | .randomMetric m parts salt => .ok (.randomMetric (scope.map ((·, m))) scope parts salt)

namespace Regrouping

/-- The name of the group of all documents outside the explicit groups. -/
def defaultName : String := "DEFAULT"

def defaultGroup (withDefault : Bool) : Option String :=
  if withDefault then some defaultName else none

/-- A walk over terms, with an order if there is anything to order or to limit. -/
def walk (filter : Option (Aggregate.Filter ν)) (limit : Option Nat) (metric : Option (Metric ν)) :
    TermWalk ν where
  filter := filter
  top := if limit.isSome || metric.isSome then some ⟨limit, metric⟩ else none

/-- The program of each dataset's metric. -/
def programs (metrics : Dictionary Doc.Metric) : CompileM (Dictionary (List String)) :=
  metrics.mapM fun e => do pure (e.1, ← e.2.pushes e.1)

def command : Regrouping ν → CompileM (Command ν)
  | .terms field filter limit m withDefault =>
    .ok (.explodeTerms field (walk filter limit m) (defaultGroup withDefault))
  | .termsIn field ints strings isIntField withDefault =>
    .ok (.explodeGroups field (if isIntField then some ints else none)
      (if isIntField then none else some strings) (defaultGroup withDefault))
  | .metric metrics min max interval _ excludeGutters withDefault fromPredicate => do
    .ok (.regroupByMetric (← programs metrics) min max interval excludeGutters withDefault
      fromPredicate)
  | .time period field format relative => .ok (.regroupByTime period field format relative)
  | .timeBuckets count field format => .ok (.explodeTimeBuckets count field format)
  | .dayOfWeek => .ok .explodeDayOfWeek
  | .month field format => .ok (.explodeMonth field format)
  | .sessionNames => .ok .explodeSessionNames
  | .quantiles field count => .ok (.explodeQuantiles field count)
  | .random field parts salt => .ok (.explodeRandom field parts salt)
  | .randomMetric metrics _ parts salt => do
    .ok (.regroupByRandomMetric (← programs metrics) parts salt)

/-- The terms of an explicit list as a filter. -/
def termsAsFilter? : Regrouping ν → Option (Aggregate.Filter ν)
  | .termsIn _ ints strings isIntField _ =>
    some (Aggregate.Filter.any (if isIntField then ints.map fun n => .termIs (.ofInt n)
      else strings.map fun s => .termIs (.string s)))
  | _ => none

/-- Visit the filter and the metric of a regrouping by terms. -/
def traverse {M : Type → Type} [Monad M] (visit : Metric ν → M (Metric ν)) :
    Regrouping ν → M (Regrouping ν)
  | .terms field filter limit m withDefault => do
    let filter ← Aggregate.traverseOption (Aggregate.Filter.traverse visit) filter
    let m ← Aggregate.traverseOption visit m
    pure (.terms field filter limit m withDefault)
  | r => pure r

def timeParts (field : Option FieldSet) (format : Option String) : List (String × Outline) :=
  [("time_field", .option FieldSet.outline field), ("time_format", .option .text format)]

def outline [Numeric ν] : Regrouping ν → Outline
  | .terms field filter limit m withDefault =>
    .record "ExplodeAndRegroup" [("field", field.outline),
      ("filter", .option Aggregate.Filter.outline filter), ("limit", .option .nat limit),
      ("metric", .option Metric.outline m), ("with_default", .bool withDefault)]
  | .termsIn field ints strings isIntField withDefault =>
    .record "ExplodeFieldIn" [("field", field.outline), ("int_terms", .list (ints.map .int64)),
      ("string_terms", .list (strings.map .text)), ("is_int_field", .bool isIntField),
      ("with_default", .bool withDefault)]
  | .metric metrics min max interval scope excludeGutters withDefault fromPredicate =>
    .record "ExplodeMetric" [
      ("per_dataset_metric", .dictionary Doc.Metric.outline metrics), ("min", .int64 min),
      ("max", .int64 max), ("interval", .int64 interval), ("scope", scope.outline),
      ("exclude_gutters", .bool excludeGutters), ("with_default", .bool withDefault),
      ("from_predicate", .bool fromPredicate)]
  | .time period field format relative =>
    .record "ExplodeTimePeriod" (("period_millis", .int64 period) :: timeParts field format ++
      [("is_relative", .bool relative)])
  | .timeBuckets count field format =>
    .record "ExplodeTimeBuckets" (("num_buckets", .nat count) :: timeParts field format)
  | .dayOfWeek => .atom "ExplodeDayOfWeek"
  | .month field format => .record "ExplodeMonthOfYear" (timeParts field format)
  | .sessionNames => .atom "ExplodeSessionNames"
  | .quantiles field count =>
    .record "ExplodePerDocPercentile" [("field", field.outline), ("num_buckets", .nat count)]
  | .random field parts salt =>
    .record "ExplodeRandom" [("field", field.outline), ("k", .nat parts), ("salt", .text salt)]
  | .randomMetric metrics scope parts salt =>
    .record "ExplodeRandomMetric" [
      ("per_dataset_metric", .dictionary Doc.Metric.outline metrics), ("scope", scope.outline),
      ("k", .nat parts), ("salt", .text salt)]

end Regrouping

end Groupwise
