import Groupwise.Doc.Expression
import Groupwise.Numeric

/-!
# Expressions over groups

A group metric gives one number for each group, a group filter keeps or drops whole groups, and a
grouping splits every group into child groups. The three refer to each other: a metric may sum
across a grouping, and a grouping may order its terms by a metric.
-/
namespace Groupwise.Aggregate

mutual

/-- A number for each group. -/
inductive Metric (ν : Type) where
  | add (terms : List (Metric ν))
  | calculate (op : Calculation) (left right : Metric ν)
  | function (f : Function) (metric : Metric ν)
  /-- A document metric summed over the group in every dataset of the scope. -/
  | docStats (metric : Doc.Metric)
  /-- A document metric summed over the group in one dataset. -/
  | docStatsIn (dataset : String) (metric : Doc.Metric)
  | parent (metric : Metric ν)
  /-- The value of an earlier group under the same parent. -/
  | lag (distance : Nat) (metric : Metric ν)
  | iterateLag (distance : Nat) (metric : Metric ν)
  | window (size : Nat) (metric : Metric ν)
  | running (offset : Int64) (metric : Metric ν)
  | distinct (field : FieldSet) (filter : Option (Filter ν)) (window : Option Nat)
  | percentile (field : FieldSet) (percentile : Float)
  /-- The term with the least metric, by default the average of the field. -/
  | fieldMin (field : FieldSet) (metric : Option (Metric ν)) (filter : Option (Filter ν))
  | fieldMax (field : FieldSet) (metric : Option (Metric ν)) (filter : Option (Filter ν))
  | sumAcross (grouping : Grouping ν) (metric : Metric ν)
  | lookup (name : String)
  | multiLookup (names : List String)
  | ifThenElse (condition : Filter ν) (yes no : Metric ν)
  | least (metrics : List (Metric ν))
  | greatest (metrics : List (Metric ν))
  | qualified (datasets : Names) (metric : Metric ν)
  | named (metric : Metric ν) (name : String)
  | reference (name : String)
  | bootstrap (field : FieldSet) (filter : Option (Filter ν)) (seed : String)
      (metric : Metric ν) (count : Nat) (outputs : List String)
  | constant (value : ν)
  | average (metric : Metric ν)

/-- A truth value for each group. -/
inductive Filter (ν : Type) where
  | termIs (term : Term)
  | termRegex (pattern : String)
  | compare (op : Comparison) (left right : Metric ν)
  | and (filters : List (Filter ν))
  | or (filters : List (Filter ν))
  | not (filter : Filter ν)
  | regex (field : FieldSet) (pattern : String)
  | always
  | never
  | isDefaultGroup

/-- A stage that splits every group. -/
inductive Grouping (ν : Type) where
  | buckets (metric : Doc.Metric) (min max interval : Int64) (excludeGutters withDefault : Bool)
  | time (periodMillis : Int64) (field : Option FieldSet) (format : Option String)
      (relative : Bool)
  | timeBuckets (count : Nat) (field : Option FieldSet) (format : Option String)
  | month (field : Option FieldSet) (format : Option String)
  /-- An explicit list of terms, of integers when there are no strings. -/
  | termsIn (field : FieldSet) (intTerms : List Int64) (stringTerms : List String)
      (withDefault : Bool)
  /-- One group for each term, perhaps only for those that pass a filter and come first. -/
  | terms (field : FieldSet) (filter : Option (Filter ν)) (limit : Option Nat)
      (metric : Option (Metric ν)) (withDefault : Bool)
  | dayOfWeek
  | sessionName
  | quantiles (field : FieldSet) (count : Nat)
  | predicate (filter : Doc.Filter)
  | random (field : FieldSet) (isIntField : Bool) (parts : Nat) (salt : String)
  | randomMetric (metric : Doc.Metric) (parts : Nat) (salt : String)

end

variable {ν : Type}

instance : Inhabited (Metric ν) := ⟨.multiLookup []⟩

instance : Inhabited (Filter ν) := ⟨.always⟩

instance : Inhabited (Grouping ν) := ⟨.dayOfWeek⟩

namespace Metric

mutual

/-- The operands of a sum with all nested sums opened up. -/
def summands : Metric ν → List (Metric ν)
  | .add terms => summandsOfAll terms
  | m => [m]

def summandsOfAll : List (Metric ν) → List (Metric ν)
  | [] => []
  | m :: rest => summands m ++ summandsOfAll rest

end

def constant? : Metric ν → Option ν
  | .constant v => some v
  | _ => none

theorem constant?_eq_some_iff {m : Metric ν} {v : ν} : m.constant? = some v ↔ m = .constant v := by
  unfold constant?
  split
  · rw [Option.some.injEq, constant.injEq]
  · rename_i other
    exact ⟨nofun, fun same => (other v same).elim⟩

/-- A sum in which nested sums are merged and constants are added up, the last one first, behind
the other terms. -/
def sum [Numeric ν] (metrics : List (Metric ν)) : Metric ν :=
  let terms := summandsOfAll metrics
  let constants := terms.filterMap constant?
  let total := constants.foldr (fun v total => Numeric.add total v) Numeric.zero
  let others := terms.filter (·.constant?.isNone)
  let keep := !constants.isEmpty && (!Numeric.isZero total || others.isEmpty)
  match others ++ (if keep then [.constant total] else []) with
  | [] => .constant Numeric.zero
  | [m] => m
  | all => .add all

def divide (left right : Metric ν) : Metric ν := .calculate .divide left right

end Metric

namespace Filter

/-- The operands of a conjunction with nested ones opened up, unless one of the given filters never
holds. -/
def conjuncts? : List (Filter ν) → Option (List (Filter ν))
  | [] => some []
  | .and inner :: rest => (conjuncts? rest).map (inner ++ ·)
  | .always :: rest => conjuncts? rest
  | .never :: _ => none
  | f :: rest => (conjuncts? rest).map (f :: ·)

def disjuncts? : List (Filter ν) → Option (List (Filter ν))
  | [] => some []
  | .or inner :: rest => (disjuncts? rest).map (inner ++ ·)
  | .never :: rest => disjuncts? rest
  | .always :: _ => none
  | f :: rest => (disjuncts? rest).map (f :: ·)

def all (filters : List (Filter ν)) : Filter ν :=
  match conjuncts? filters with
  | none => .never
  | some [] => .always
  | some [f] => f
  | some fs => .and fs

def any (filters : List (Filter ν)) : Filter ν :=
  match disjuncts? filters with
  | none => .always
  | some [] => .never
  | some [f] => f
  | some fs => .or fs

end Filter

namespace Grouping

/-- A grouping by terms. Terms that are limited in number but not ordered are ordered by count. -/
def topTerms (field : FieldSet) (filter : Option (Filter ν)) (limit : Option Nat)
    (metric : Option (Metric ν)) (withDefault : Bool) : Grouping ν :=
  let metric := match limit, metric with
    | some _, none => some (Metric.docStats .count)
    | _, metric => metric
  .terms field filter limit metric withDefault

/-- Whether every document of a group lands in some child group. -/
def isTotal : Grouping ν → Bool
  | .buckets _ _ _ _ excludeGutters withDefault => withDefault || !excludeGutters
  | .termsIn _ _ _ withDefault => withDefault
  | .terms _ filter limit _ withDefault => withDefault || (filter.isNone && limit.isNone)
  | _ => true

/-- The grouping with a group for all documents that it would drop. -/
def makeTotal (g : Grouping ν) : Grouping ν :=
  if g.isTotal then g
  else match g with
    | .buckets m min max interval _ _ => .buckets m min max interval true true
    | .termsIn f ints strings _ => .termsIn f ints strings true
    | .terms f filter limit metric _ => .terms f filter limit metric true
    | g => g

theorem isTotal_makeTotal (g : Grouping ν) : g.makeTotal.isTotal = true := by
  unfold makeTotal
  split
  · assumption
  · cases g <;> simp_all [isTotal]

end Grouping

end Groupwise.Aggregate
