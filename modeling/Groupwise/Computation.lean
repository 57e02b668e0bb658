import Groupwise.Aggregate.Equality
import Groupwise.Regrouping

/-!
# Computations ahead of their use

Some metrics cannot be computed from sums over the documents of a group. They are computed by
commands of their own, kept under a name, and looked up where they are used.
-/
namespace Groupwise

open Aggregate (Metric Grouping)

inductive Computation (ν : Type) where
  | distinct (field : FieldSet) (filter : Option (Aggregate.Filter ν)) (window : Option Nat)
  | percentile (field : FieldSet) (percentile : Float)
  /-- The sum of a document metric, for groups above those in which it is used. -/
  | rawStats (metric : Doc.Metric)
  | sumAcross (field : FieldSet) (metric : Metric ν) (filter : Option (Aggregate.Filter ν))
  | sumAcrossGrouping (grouping : Grouping ν) (metric : Metric ν)
  /-- The term of the field with the greatest metric. -/
  | extreme (field : FieldSet) (metric : Metric ν) (filter : Option (Aggregate.Filter ν))
  | bootstrap (field : FieldSet) (filter : Option (Aggregate.Filter ν)) (seed : String)
      (metric : Metric ν) (count : Nat) (outputs : List String)

namespace Computation

variable {ν : Type}

/-- The commands of a computation: the measurement, and what regroups before and after it. -/
structure Recipe (ν : Type) where
  before : List (Command ν) := []
  measurement : Measurement ν
  after : List (Command ν) := []

def Recipe.regroups (r : Recipe ν) : Bool := !r.before.isEmpty || !r.after.isEmpty

/-- The terms of a field can only be walked in exactly the datasets of the computation. -/
def checkDatasets (scope : Names) (field : FieldSet) : CompileM Unit :=
  if field.datasets == scope then .ok ()
  else .error (.internal ("Precomputed field scope " ++ field.datasets.outline.compact ++
    " does not match computation scope " ++ scope.outline.compact))

def recipe [Numeric ν] (scope : Names) : Computation ν → CompileM (Recipe ν)
  | .distinct field filter window =>
    .ok { measurement := .distinct field filter (window.getD 1) }
  | .percentile field level => .ok { measurement := .percentiles field [level] }
  | .rawStats m => .ok { measurement := .stats [Metric.sum (scope.map (.docStatsIn · m))] [none] false }
  | .sumAcross field m filter => do
    checkDatasets scope field
    .ok { measurement := .sumAcross field m filter }
  | .sumAcrossGrouping grouping m => do
    let regroup ← (← grouping.regrouping scope).command
    .ok { before := [regroup], measurement := .stats [m] [none] false, after := [.regroupIntoParent] }
  | .extreme field m filter => do
    checkDatasets scope field
    .ok { measurement := .extreme field m filter }
  | .bootstrap field filter seed m count outputs =>
    .ok { measurement := .bootstrap field filter seed m count outputs }

/-- The names under which the results are looked up when the computation is kept under a name. -/
def outputs (name : String) : Computation ν → List String
  | .bootstrap _ _ _ _ _ outputs => outputs.map fun output => name ++ "." ++ output
  | _ => [name]

def result (name : String) : Computation ν → Metric ν
  | .bootstrap field filter seed m count outputs =>
    .multiLookup ((Computation.bootstrap field filter seed m count outputs).outputs name)
  | _ => .lookup name

def lookedUp : Computation ν → List String
  | .distinct _ filter _ => Aggregate.Filter.collectOption Metric.lookedUp filter
  | .percentile .. => []
  | .rawStats _ => []
  | .sumAcross _ m filter =>
    m.collect Metric.lookedUp ++ Aggregate.Filter.collectOption Metric.lookedUp filter
  | .sumAcrossGrouping grouping m =>
    grouping.collect Metric.lookedUp ++ m.collect Metric.lookedUp
  | .extreme _ m filter =>
    m.collect Metric.lookedUp ++ Aggregate.Filter.collectOption Metric.lookedUp filter
  | .bootstrap _ filter _ m _ _ =>
    Aggregate.Filter.collectOption Metric.lookedUp filter ++ m.collect Metric.lookedUp

/-- Visit the metrics of a computation, those that filters compare included. -/
def traverse {M : Type → Type} [Monad M] (visit : Metric ν → M (Metric ν)) :
    Computation ν → M (Computation ν)
  | .distinct field filter window => do
    let filter ← Aggregate.traverseOption (Aggregate.Filter.traverse visit) filter
    pure (.distinct field filter window)
  | .sumAcross field m filter => do
    let m ← visit m
    pure (.sumAcross field m (← Aggregate.traverseOption (Aggregate.Filter.traverse visit) filter))
  | .sumAcrossGrouping grouping m => do
    let grouping ← grouping.traverse visit
    pure (.sumAcrossGrouping grouping (← visit m))
  | .extreme field m filter => do
    let m ← visit m
    pure (.extreme field m (← Aggregate.traverseOption (Aggregate.Filter.traverse visit) filter))
  | .bootstrap field filter seed m count outputs => do
    let filter ← Aggregate.traverseOption (Aggregate.Filter.traverse visit) filter
    pure (.bootstrap field filter seed (← visit m) count outputs)
  | c => pure c

variable [Numeric ν]

def beq : Computation ν → Computation ν → Bool
  | .distinct f x w, .distinct g y v => f == g && Aggregate.Filter.beqOption x y && w == v
  | .percentile f p, .percentile g q => f == g && p == q
  | .rawStats m, .rawStats n => m == n
  | .sumAcross f m x, .sumAcross g n y => f == g && m == n && Aggregate.Filter.beqOption x y
  | .sumAcrossGrouping g m, .sumAcrossGrouping h n => g == h && m == n
  | .extreme f m x, .extreme g n y => f == g && m == n && Aggregate.Filter.beqOption x y
  | .bootstrap f x s m k o, .bootstrap g y t n l p =>
    f == g && Aggregate.Filter.beqOption x y && s == t && m == n && k == l && o == p
  | _, _ => false

instance : BEq (Computation ν) := ⟨beq⟩

def outline : Computation ν → Outline
  | .distinct field filter window =>
    .record "Distinct" [("field", field.outline),
      ("filter", .option Aggregate.Filter.outline filter),
      ("window", .option .nat window)]
  | .percentile field level =>
    .record "Percentile" [("field", field.outline), ("percentile", .float level)]
  | .rawStats m => .tuple "RawStats" [m.outline]
  | .sumAcross field m filter =>
    .record "SumAcross" [("field", field.outline), ("metric", m.outline),
      ("filter", .option Aggregate.Filter.outline filter)]
  | .sumAcrossGrouping grouping m =>
    .record "SumAcrossGroupBy" [("group_by", grouping.outline), ("metric", m.outline)]
  | .extreme field m filter =>
    .record "FieldExtremeValue" [("field", field.outline), ("metric", m.outline),
      ("filter", .option Aggregate.Filter.outline filter)]
  | .bootstrap field filter seed m count outputs =>
    .record "Bootstrap" [("field", field.outline),
      ("filter", .option Aggregate.Filter.outline filter),
      ("seed", .text seed), ("metric", m.outline), ("num_bootstraps", .nat count),
      ("varargs", .list (outputs.map .text))]

end Computation

end Groupwise
