import Groupwise.Plan
import Groupwise.Proofs.Aggregate.Nodes
import Groupwise.Proofs.Doc.Constructors
import Groupwise.Proofs.Query.Literals

/-!
# The scales of a plan

What is said of each scale of a resolved expression, with its function and the metric that it
scales. The merging constructors bring in no scales and change none.
-/
namespace Groupwise

open Query (Scaling)

/-! ## Scales in resolved expressions -/

section

variable (Q : Scaling → Doc.Metric → Int → Prop)

namespace Doc

mutual

/-- A property of each scale in a metric, of its function and of the metric that is scaled. -/
def Metric.EachScale : Metric → Prop
  | .log m scale => Q .log m scale ∧ Metric.EachScale m
  | .exponentiate m scale => Q .exp m scale ∧ Metric.EachScale m
  | .negate m | .abs m | .signum m | .qualified _ m | .sampleMetric m .. | .randomMetric m .. =>
    Metric.EachScale m
  | .add ms | .least ms | .greatest ms => Metric.EachScaleOfAll ms
  | .arithmetic _ left right | .compare _ left right =>
    Metric.EachScale left ∧ Metric.EachScale right
  | .ifThenElse condition yes no =>
    Filter.EachScale condition ∧ Metric.EachScale yes ∧ Metric.EachScale no
  | .perDataset ms => Metric.EachScaleOfEntries ms
  | .field _ | .constant _ | .count | .docId | .regex .. | .extract .. | .hasInt .. | .hasString ..
  | .hasIntField _ | .hasStringField _ | .fieldEqual .. | .floatScale .. | .stringLength _
  | .intTermCount _ | .stringTermCount _ | .lucene .. | .sample .. | .random .. => True

def Metric.EachScaleOfAll : List Metric → Prop
  | [] => True
  | m :: rest => Metric.EachScale m ∧ Metric.EachScaleOfAll rest

def Metric.EachScaleOfEntries : List (String × Metric) → Prop
  | [] => True
  | (_, m) :: rest => Metric.EachScale m ∧ Metric.EachScaleOfEntries rest

def Filter.EachScale : Filter → Prop
  | .compare _ left right => Metric.EachScale left ∧ Metric.EachScale right
  | .and fs | .or fs => Filter.EachScaleOfAll fs
  | .not f | .qualified _ f => Filter.EachScale f
  | .sampleMetric m .. => Metric.EachScale m
  | .fieldIs .. | .fieldIsnt .. | .between .. | .regex .. | .notRegex .. | .fieldEqual ..
  | .lucene .. | .sample .. | .stringIn .. | .intIn .. | .inQuery .. | .always | .never => True

def Filter.EachScaleOfAll : List Filter → Prop
  | [] => True
  | f :: rest => Filter.EachScale f ∧ Filter.EachScaleOfAll rest

end

end Doc

namespace Aggregate

variable {ν : Type}

mutual

/-- A property of each scale in a group metric. -/
def Metric.EachScale : Metric ν → Prop
  | .docStats m | .docStatsIn _ m => m.EachScale Q
  | .add ms | .least ms | .greatest ms => Metric.EachScaleOfAll ms
  | .calculate _ left right => Metric.EachScale left ∧ Metric.EachScale right
  | .function _ m | .parent m | .lag _ m | .iterateLag _ m | .window _ m | .running _ m
  | .qualified _ m | .named m _ | .average m => Metric.EachScale m
  | .distinct _ filter _ => Filter.EachScaleOfOption filter
  | .fieldMin _ m filter | .fieldMax _ m filter =>
    Metric.EachScaleOfOption m ∧ Filter.EachScaleOfOption filter
  | .sumAcross g m => Grouping.EachScale g ∧ Metric.EachScale m
  | .ifThenElse condition yes no =>
    Filter.EachScale condition ∧ Metric.EachScale yes ∧ Metric.EachScale no
  | .bootstrap _ filter _ m _ _ => Filter.EachScaleOfOption filter ∧ Metric.EachScale m
  | .percentile .. | .lookup _ | .multiLookup _ | .reference _ | .constant _ => True

def Metric.EachScaleOfAll : List (Metric ν) → Prop
  | [] => True
  | m :: rest => Metric.EachScale m ∧ Metric.EachScaleOfAll rest

def Metric.EachScaleOfOption : Option (Metric ν) → Prop
  | none => True
  | some m => Metric.EachScale m

def Filter.EachScale : Filter ν → Prop
  | .compare _ left right => Metric.EachScale left ∧ Metric.EachScale right
  | .and fs | .or fs => Filter.EachScaleOfAll fs
  | .not f => Filter.EachScale f
  | .termIs _ | .termRegex _ | .regex .. | .always | .never | .isDefaultGroup => True

def Filter.EachScaleOfAll : List (Filter ν) → Prop
  | [] => True
  | f :: rest => Filter.EachScale f ∧ Filter.EachScaleOfAll rest

def Filter.EachScaleOfOption : Option (Filter ν) → Prop
  | none => True
  | some f => Filter.EachScale f

def Grouping.EachScale : Grouping ν → Prop
  | .buckets m .. | .randomMetric m .. => m.EachScale Q
  | .terms _ filter _ m _ => Filter.EachScaleOfOption filter ∧ Metric.EachScaleOfOption m
  | .predicate f => f.EachScale Q
  | .time .. | .timeBuckets .. | .month .. | .termsIn .. | .dayOfWeek | .sessionName
  | .quantiles .. | .random .. => True

end

end Aggregate

/-- A property of each scale in the expressions of a plan. -/
structure Plan.EachScale {ν : Type} (p : Plan ν) : Prop where
  filter : ∀ f ∈ p.filter, f.EachScale Q
  stages : ∀ s ∈ p.stages,
    s.grouping.EachScale Q ∧ Aggregate.Filter.EachScaleOfOption Q s.having
  selects : ∀ m ∈ p.selects, m.EachScale Q

end

section

variable {Q : Scaling → Doc.Metric → Int → Prop}

namespace Doc

theorem Metric.eachScaleOfAll_iff {ms : List Metric} :
    Metric.EachScaleOfAll Q ms ↔ ∀ m ∈ ms, m.EachScale Q := by
  induction ms with
  | nil => simp [Metric.EachScaleOfAll]
  | cons m rest ih => rw [Metric.EachScaleOfAll, List.forall_mem_cons, ih]

theorem Metric.eachScaleOfEntries_iff {ms : List (String × Metric)} :
    Metric.EachScaleOfEntries Q ms ↔ ∀ e ∈ ms, e.2.EachScale Q := by
  induction ms with
  | nil => simp [Metric.EachScaleOfEntries]
  | cons e rest ih => rw [Metric.EachScaleOfEntries, List.forall_mem_cons, ih]

theorem Filter.eachScaleOfAll_iff {fs : List Filter} :
    Filter.EachScaleOfAll Q fs ↔ ∀ f ∈ fs, f.EachScale Q := by
  induction fs with
  | nil => simp [Filter.EachScaleOfAll]
  | cons f rest ih => rw [Filter.EachScaleOfAll, List.forall_mem_cons, ih]

theorem Metric.eachScale_sum {ms : List Metric} (h : ∀ m ∈ ms, m.EachScale Q) :
    (sum ms).EachScale Q :=
  property_sum (P := Metric.EachScale Q) (fun _ => trivial)
    (fun _ => Metric.eachScaleOfAll_iff.mp) (fun _ _ => Metric.eachScaleOfAll_iff.mpr) h

theorem Metric.eachScale_make {kind : Extreme} {ms : List Metric} :
    (kind.make ms).EachScale Q ↔ ∀ m ∈ ms, m.EachScale Q := by
  cases kind <;> exact Metric.eachScaleOfAll_iff

theorem Metric.eachScale_extreme {kind : Extreme} {ms : List Metric}
    (h : ∀ m ∈ ms, m.EachScale Q) : (extreme kind ms).EachScale Q :=
  property_extreme (P := Metric.EachScale Q) (fun _ => trivial)
    (fun _ => Metric.eachScale_make.mp) (fun _ _ => Metric.eachScale_make.mpr) h

theorem Filter.eachScale_all {fs : List Filter} (h : ∀ f ∈ fs, f.EachScale Q) :
    (all fs).EachScale Q :=
  property_all (P := Filter.EachScale Q) trivial trivial
    (fun _ => Filter.eachScaleOfAll_iff.mp) (fun _ => Filter.eachScaleOfAll_iff.mpr) h

theorem Filter.eachScale_any {fs : List Filter} (h : ∀ f ∈ fs, f.EachScale Q) :
    (any fs).EachScale Q :=
  property_any (P := Filter.EachScale Q) trivial trivial
    (fun _ => Filter.eachScaleOfAll_iff.mp) (fun _ => Filter.eachScaleOfAll_iff.mpr) h

end Doc

namespace Aggregate

variable {ν : Type}

theorem Metric.eachScaleOfAll_iff {ms : List (Metric ν)} :
    Metric.EachScaleOfAll Q ms ↔ ∀ m ∈ ms, m.EachScale Q := by
  induction ms with
  | nil => simp [Metric.EachScaleOfAll]
  | cons m rest ih => rw [Metric.EachScaleOfAll, List.forall_mem_cons, ih]

theorem Filter.eachScaleOfAll_iff {fs : List (Filter ν)} :
    Filter.EachScaleOfAll Q fs ↔ ∀ f ∈ fs, f.EachScale Q := by
  induction fs with
  | nil => simp [Filter.EachScaleOfAll]
  | cons f rest ih => rw [Filter.EachScaleOfAll, List.forall_mem_cons, ih]

theorem Metric.eachScale_sum [Numeric ν] {ms : List (Metric ν)} (h : ∀ m ∈ ms, m.EachScale Q) :
    (sum ms).EachScale Q :=
  property_sum (P := Metric.EachScale Q) (fun _ => trivial)
    (fun _ => Metric.eachScaleOfAll_iff.mp) (fun _ => Metric.eachScaleOfAll_iff.mpr) h

theorem Filter.eachScale_merge {c : Connective} {fs : List (Filter ν)}
    (h : ∀ f ∈ fs, f.EachScale Q) : (c.merge fs).EachScale Q := by
  refine c.property_merge (P := Filter.EachScale Q) ?_ ?_ (fun _ inner => ?_)
    (fun _ operands => ?_) h
  · cases c <;> trivial
  · cases c <;> trivial
  · cases c <;> exact Filter.eachScaleOfAll_iff.mp inner
  · cases c <;> exact Filter.eachScaleOfAll_iff.mpr operands

end Aggregate

end

end Groupwise
