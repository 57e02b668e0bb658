import Groupwise.Action
import Groupwise.Aggregate.Validation

/-!
# Commands

A compiled query is a list of commands for the grouping engine. A command may change the number of
groups and their keys, so the order of the commands matters. A measurement computes numbers for
the groups as they are; its result is the answer of a query or is kept under a name.
-/
namespace Groupwise

open Aggregate (Metric)

/-- Keep the terms that come first by a metric. -/
structure TopTerms (ν : Type) where
  limit : Option Nat
  metric : Option (Metric ν)

/-- How the terms of a field are walked. -/
structure TermWalk (ν : Type) where
  /-- The number of rows that the whole query may give. -/
  rowLimit : Option Nat := none
  top : Option (TopTerms ν) := none
  filter : Option (Aggregate.Filter ν) := none
  intTerms : Option (List Int64) := none
  stringTerms : Option Names := none

/-- A computation of numbers for each group. -/
inductive Measurement (ν : Type) where
  | stats (metrics : List (Metric ν)) (formats : List (Option String)) (withKeys : Bool)
  | distinct (field : FieldSet) (filter : Option (Aggregate.Filter ν)) (window : Nat)
  | percentiles (field : FieldSet) (levels : List Float)
  /-- The term of the field with the greatest metric. -/
  | extreme (field : FieldSet) (metric : Metric ν) (filter : Option (Aggregate.Filter ν))
  | sumAcross (field : FieldSet) (metric : Metric ν) (filter : Option (Aggregate.Filter ν))
  | bootstrap (field : FieldSet) (filter : Option (Aggregate.Filter ν)) (seed : String)
      (metric : Metric ν) (count : Nat) (outputs : List String)

inductive Command (ν : Type) where
  | filterDocuments (actions : List Action)
  | filterGroups (filter : Aggregate.Filter ν)
  | explodeTerms (field : FieldSet) (walk : TermWalk ν) (defaultName : Option String)
  /-- Split every group by a fixed list of terms. -/
  | explodeGroups (field : FieldSet) (intTerms : Option (List Int64))
      (stringTerms : Option (List String)) (defaultName : Option String)
  | regroupByMetric (programs : Dictionary (List String)) (min max interval : Int64)
      (excludeGutters withDefault fromPredicate : Bool)
  | regroupByTime (periodMillis : Int64) (field : Option FieldSet) (format : Option String)
      (relative : Bool)
  | explodeTimeBuckets (count : Nat) (field : Option FieldSet) (format : Option String)
  | explodeDayOfWeek
  | explodeMonth (field : Option FieldSet) (format : Option String)
  | explodeSessionNames
  | explodeQuantiles (field : FieldSet) (count : Nat)
  | explodeRandom (field : FieldSet) (parts : Nat) (salt : String)
  | regroupByRandomMetric (programs : Dictionary (List String)) (parts : Nat) (salt : String)
  /-- Walk over terms and give their numbers without making groups of them. -/
  | iterate (field : FieldSet) (walk : TermWalk ν) (metrics : List (Metric ν))
      (formats : List (Option String))
  | measure (measurement : Measurement ν)
  /-- Merge the groups into their parents, adding up what was measured. -/
  | regroupIntoParent
  /-- Keep a measurement under a name. -/
  | keep (measurement : Measurement ν) (name : String)
  | keepAll (measurements : List (Measurement ν × String))

variable {ν : Type} [Numeric ν]

/-! ## Documents of commands -/

def Aggregate.Metric.toJson (m : Metric ν) : Json := .string m.display

def Aggregate.Filter.toJson (f : Aggregate.Filter ν) : Json := .string f.display

def TopTerms.toJson (t : TopTerms ν) : Json :=
  .object [("limit", .option .nat t.limit), ("metric", .option Metric.toJson t.metric)]

def TermWalk.toJson (w : TermWalk ν) : Json :=
  .object (Json.optionalMember "limit" .nat w.rowLimit ++
    Json.optionalMember "topK" TopTerms.toJson w.top ++
    Json.optionalMember "filter" Aggregate.Filter.toJson w.filter ++
    Json.optionalMember "intTermSubset" (.list .int64) w.intTerms ++
    Json.optionalMember "stringTermSubset" .strings w.stringTerms)

def formatsToJson (formats : List (Option String)) : Json := .list (.option .string) formats

def Measurement.name : Measurement ν → String
  | .stats .. => "getGroupStats"
  | .distinct .. => "getGroupDistincts"
  | .percentiles .. => "getGroupPercentiles"
  | .extreme .. => "computeFieldExtremeValue"
  | .sumAcross .. => "sumAcross"
  | .bootstrap .. => "computeBootstrap"

/-- The members of a measurement after its name. -/
def Measurement.members : Measurement ν → List (String × Json)
  | .stats metrics formats withKeys =>
    [("metrics", .list Metric.toJson metrics), ("formatStrings", formatsToJson formats),
      ("returnGroupKeys", .bool withKeys)]
  | .distinct field filter window =>
    [("field", field.toJson), ("filter", .option Aggregate.Filter.toJson filter),
      ("windowSize", .nat window)]
  | .percentiles field levels =>
    [("field", field.toJson), ("percentiles", .list .float levels)]
  | .extreme field metric filter =>
    [("field", field.toJson), ("metric", metric.toJson),
      ("filter", .option Aggregate.Filter.toJson filter)]
  | .sumAcross field metric filter =>
    [("field", field.toJson), ("metric", metric.toJson),
      ("filter", .option Aggregate.Filter.toJson filter)]
  | .bootstrap field filter seed metric count outputs =>
    [("field", field.toJson), ("filter", .option Aggregate.Filter.toJson filter),
      ("seed", .string seed),
      ("metric", metric.toJson), ("numBootstraps", .nat count), ("varargs", .strings outputs)]

def commandDocument (name : String) (members : List (String × Json)) : Json :=
  .object (("command", .string name) :: members)

def Measurement.toJson (m : Measurement ν) : Json := commandDocument m.name m.members

namespace Command

def name : Command ν → String
  | .filterDocuments _ => "applyFilterActions"
  | .filterGroups _ => "applyGroupFilter"
  | .explodeTerms .. => "iterateAndExplode"
  | .explodeGroups .. => "explodeGroups"
  | .regroupByMetric .. => "metricRegroup"
  | .regroupByTime .. => "timeRegroup"
  | .explodeTimeBuckets .. => "explodeTimeBuckets"
  | .explodeDayOfWeek => "explodeDayOfWeek"
  | .explodeMonth .. => "explodeMonthOfYear"
  | .explodeSessionNames => "explodeSessionNames"
  | .explodeQuantiles .. => "explodePerDocPercentile"
  | .explodeRandom .. => "explodeRandom"
  | .regroupByRandomMetric .. => "randomMetricRegroup"
  | .iterate .. => "simpleIterate"
  | .measure m => m.name
  | .regroupIntoParent => "regroupIntoParent"
  | .keep .. => "computeAndCreateGroupStatsLookup"
  | .keepAll _ => "computeAndCreateGroupStatsLookups"

def keptDocument (measurement : Measurement ν) (name : String) : List (String × Json) :=
  [("computation", measurement.toJson), ("name", .string name)]

def timeMembers (field : Option FieldSet) (format : Option String) : List (String × Json) :=
  [("timeField", .option FieldSet.toJson field), ("timeFormat", .option .string format)]

/-- The members of a command after its name. -/
def members : Command ν → List (String × Json)
  | .filterDocuments actions => [("actions", .list Action.toJson actions)]
  | .filterGroups filter => [("filter", filter.toJson)]
  | .explodeTerms field walk defaultName =>
    [("field", field.toJson), ("opts", walk.toJson),
      ("defaultName", .option .string defaultName)]
  | .explodeGroups field intTerms stringTerms defaultName =>
    ("field", field.toJson) ::
      (Json.optionalMember "intTerms" (.list .int64) intTerms ++
        Json.optionalMember "stringTerms" .strings stringTerms ++
        [("defaultGroupTerm", .option .string defaultName)])
  | .regroupByMetric programs min max interval excludeGutters withDefault fromPredicate =>
    [("perDatasetPushes", .dictionary .strings programs), ("min", .int64 min),
      ("max", .int64 max), ("interval", .int64 interval),
      ("excludeGutters", .bool excludeGutters), ("withDefault", .bool withDefault),
      ("fromPredicate", .bool fromPredicate)]
  | .regroupByTime period field format relative =>
    ("periodMillis", .int64 period) :: timeMembers field format ++
      [("isRelative", .bool relative)]
  | .explodeTimeBuckets count field format =>
    ("numBuckets", .nat count) :: timeMembers field format
  | .explodeMonth field format => timeMembers field format
  | .explodeQuantiles field count =>
    [("field", field.toJson), ("numBuckets", .nat count)]
  | .explodeRandom field parts salt =>
    [("field", field.toJson), ("k", .nat parts), ("salt", .string salt)]
  | .regroupByRandomMetric programs parts salt =>
    [("perDatasetPushes", .dictionary .strings programs), ("k", .nat parts),
      ("salt", .string salt)]
  | .iterate field walk metrics formats =>
    [("field", field.toJson), ("opts", walk.toJson),
      ("selecting", .list Metric.toJson metrics), ("formatStrings", formatsToJson formats)]
  | .measure m => m.members
  | .regroupIntoParent => [("mergeType", .string "SUM_ALL")]
  | .keep measurement name => keptDocument measurement name
  | .keepAll measurements =>
    [("computations", .list (fun e => .object (keptDocument e.1 e.2)) measurements)]
  | .explodeDayOfWeek => []
  | .explodeSessionNames => []

def toJson (c : Command ν) : Json := commandDocument c.name c.members

end Command

/-! ## Validation of commands -/

/-- Check a field in each dataset in which it has a name. -/
def FieldSet.checkEach (check : String → String → String → Findings → Findings)
    (context : String) (field : FieldSet) (found : Findings) : Findings :=
  field.names.foldl (fun found e => check e.1 e.2 context found) found

def checkOption {α : Type} (check : α → Findings → CompileM Findings) :
    Option α → Findings → CompileM Findings
  | none, found => .ok found
  | some a, found => check a found

def checkEachMetric (schema : Schema) (scope : Names) (metrics : List (Metric ν))
    (found : Findings) : CompileM Findings :=
  metrics.foldlM (fun found m => m.check schema scope found) found

def TermWalk.check (schema : Schema) (datasets : Names) (w : TermWalk ν) (found : Findings) :
    CompileM Findings := do
  let found ← checkOption (Aggregate.Filter.check schema datasets) w.filter found
  checkOption (Metric.check schema datasets) (w.top.bind (·.metric)) found

def checkPercentile (found : Findings) (p : Float) : Findings :=
  if 0.0 ≤ p && p ≤ 100.0 then found
  else found.error ("Percentile must be between 0 and 100, got " ++ Decimal.Layout.plain.write p)

/-- Check a measurement that walks over the terms of a field in the field's datasets. -/
def checkWalk (schema : Schema) (context : String) (field : FieldSet) (metric : Metric ν)
    (filter : Option (Aggregate.Filter ν)) (found : Findings) : CompileM Findings := do
  let found := field.checkEach schema.checkField context found
  let found ← metric.check schema field.datasets found
  checkOption (Aggregate.Filter.check schema field.datasets) filter found

def Measurement.check (schema : Schema) (scope : Names) (m : Measurement ν) (found : Findings) :
    CompileM Findings :=
  match m with
  | .stats metrics _ _ => checkEachMetric schema scope metrics found
  | .distinct field filter _ =>
    checkOption (Aggregate.Filter.check schema field.datasets) filter
      (field.checkEach schema.checkField m.name found)
  | .percentiles field levels =>
    .ok (field.checkEach schema.checkIntField m.name (levels.foldl checkPercentile found))
  | .extreme field metric filter => checkWalk schema m.name field metric filter found
  | .sumAcross field metric filter => checkWalk schema m.name field metric filter found
  | .bootstrap field filter _ metric _ _ => checkWalk schema m.name field metric filter found

namespace Command

def checkTimeField (schema : Schema) (context : String) (field : Option FieldSet)
    (found : Findings) : CompileM Findings :=
  checkOption (fun f found => .ok (f.checkEach schema.checkField context found)) field found

/-- The bounds of buckets must be in order and their width positive. -/
def checkBuckets (min max interval : Int64) (found : Findings) : Findings :=
  let found :=
    if 0 < interval then found
    else found.error ("Bucket interval must be positive, got " ++ toString interval.toInt)
  if min < max then found
  else found.error ("Bucket min must be less than max, got [" ++ toString min.toInt ++ ", " ++
    toString max.toInt ++ ")")

/-- Check every field and every expression of a command against the datasets of a scope. -/
def check (schema : Schema) (scope : Names) (c : Command ν) (found : Findings) :
    CompileM Findings :=
  match c with
  | .filterDocuments actions => actions.foldlM (fun found a => a.check schema found) found
  | .filterGroups filter => filter.check schema scope found
  | .explodeTerms field walk _ =>
    walk.check schema field.datasets (field.checkEach schema.checkField c.name found)
  | .iterate field walk metrics _ => do
    let found ← walk.check schema field.datasets (field.checkEach schema.checkField c.name found)
    checkEachMetric schema scope metrics found
  | .explodeGroups field .. => .ok (field.checkEach schema.checkField c.name found)
  | .explodeRandom field .. => .ok (field.checkEach schema.checkField c.name found)
  | .explodeQuantiles field count =>
    .ok (field.checkEach schema.checkIntField c.name
      (if count == 0 then found.error "Quantiles must have at least one bucket" else found))
  | .regroupByMetric _ min max interval .. => .ok (checkBuckets min max interval found)
  | .regroupByTime _ field .. => checkTimeField schema c.name field found
  | .explodeTimeBuckets _ field _ => checkTimeField schema c.name field found
  | .explodeMonth field _ => checkTimeField schema c.name field found
  | .measure m => m.check schema scope found
  | .keep m _ => m.check schema scope found
  | .keepAll ms => ms.foldlM (fun found e => e.1.check schema scope found) found
  | .regroupByRandomMetric _ parts _ =>
    .ok (if parts == 0 then found.error "Random group by needs at least one bucket" else found)
  | .explodeDayOfWeek => .ok found
  | .explodeSessionNames => .ok found
  | .regroupIntoParent => .ok found

end Command

end Groupwise
