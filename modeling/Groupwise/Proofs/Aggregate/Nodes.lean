import Groupwise.Aggregate.Validation
import Groupwise.Evaluation.Lowering
import Groupwise.Proofs.Aggregate.Combination
import Groupwise.Proofs.Doc.Faults

/-!
# The metrics inside an expression

What is found in an expression is found in its metrics, and building sums and combinations of
filters brings in no metrics but sums and constants. A metric is settled if nothing in it has to be
extracted and nothing in it defines or refers to a name. Validation and lowering of a settled metric
are never at fault.
-/
namespace Groupwise.Aggregate

variable {ν α : Type}

/-- The metrics in a metric, innermost first and the metric itself last. -/
abbrev Metric.nodes (m : Metric ν) : List (Metric ν) := m.collect fun n => [n]

abbrev Metric.nodesOfAll (ms : List (Metric ν)) : List (Metric ν) :=
  Metric.collectAll (fun n => [n]) ms

abbrev Metric.nodesOption (m : Option (Metric ν)) : List (Metric ν) :=
  Metric.collectOption (fun n => [n]) m

abbrev Filter.nodes (f : Filter ν) : List (Metric ν) := f.collect fun n => [n]

abbrev Filter.nodesOfAll (fs : List (Filter ν)) : List (Metric ν) :=
  Filter.collectAll (fun n => [n]) fs

abbrev Filter.nodesOption (f : Option (Filter ν)) : List (Metric ν) :=
  Filter.collectOption (fun n => [n]) f

abbrev Grouping.nodes (g : Grouping ν) : List (Metric ν) := g.collect fun n => [n]

mutual

/-- A function finds in a metric what it finds in each metric inside. -/
theorem Metric.collect_eq_flatMap_nodes (find : Metric ν → List α) (m : Metric ν) :
    m.collect find = m.nodes.flatMap find := by
  match m with
  | .add ms | .least ms | .greatest ms =>
    simp [Metric.collect, Metric.collectAll_eq_flatMap_nodes find ms]
  | .calculate _ a b =>
    simp [Metric.collect, Metric.collect_eq_flatMap_nodes find a,
      Metric.collect_eq_flatMap_nodes find b]
  | .function _ m | .parent m | .lag _ m | .iterateLag _ m | .window _ m | .running _ m
  | .qualified _ m | .named m _ | .average m =>
    simp [Metric.collect, Metric.collect_eq_flatMap_nodes find m]
  | .distinct _ x _ => simp [Metric.collect, Filter.collectOption_eq_flatMap_nodes find x]
  | .fieldMin _ m x | .fieldMax _ m x =>
    simp [Metric.collect, Metric.collectOption_eq_flatMap_nodes find m,
      Filter.collectOption_eq_flatMap_nodes find x]
  | .sumAcross g m =>
    simp [Metric.collect, Grouping.collect_eq_flatMap_nodes find g,
      Metric.collect_eq_flatMap_nodes find m]
  | .ifThenElse c y n =>
    simp [Metric.collect, Filter.collect_eq_flatMap_nodes find c,
      Metric.collect_eq_flatMap_nodes find y, Metric.collect_eq_flatMap_nodes find n]
  | .bootstrap _ x _ m _ _ =>
    simp [Metric.collect, Filter.collectOption_eq_flatMap_nodes find x,
      Metric.collect_eq_flatMap_nodes find m]
  | .docStats _ | .docStatsIn .. | .percentile .. | .lookup _ | .multiLookup _ | .reference _
  | .constant _ => simp [Metric.collect]

theorem Metric.collectAll_eq_flatMap_nodes (find : Metric ν → List α) (ms : List (Metric ν)) :
    Metric.collectAll find ms = (Metric.nodesOfAll ms).flatMap find := by
  match ms with
  | [] => rfl
  | m :: rest =>
    simp [Metric.collectAll, Metric.collect_eq_flatMap_nodes find m,
      Metric.collectAll_eq_flatMap_nodes find rest]

theorem Metric.collectOption_eq_flatMap_nodes (find : Metric ν → List α)
    (m : Option (Metric ν)) :
    Metric.collectOption find m = (Metric.nodesOption m).flatMap find := by
  match m with
  | none => rfl
  | some m => exact Metric.collect_eq_flatMap_nodes find m

theorem Filter.collect_eq_flatMap_nodes (find : Metric ν → List α) (f : Filter ν) :
    f.collect find = f.nodes.flatMap find := by
  match f with
  | .compare _ a b =>
    simp [Filter.collect, Metric.collect_eq_flatMap_nodes find a,
      Metric.collect_eq_flatMap_nodes find b]
  | .and fs | .or fs => exact Filter.collectAll_eq_flatMap_nodes find fs
  | .not f => exact Filter.collect_eq_flatMap_nodes find f
  | .termIs _ | .termRegex _ | .regex .. | .always | .never | .isDefaultGroup => rfl

theorem Filter.collectAll_eq_flatMap_nodes (find : Metric ν → List α) (fs : List (Filter ν)) :
    Filter.collectAll find fs = (Filter.nodesOfAll fs).flatMap find := by
  match fs with
  | [] => rfl
  | f :: rest =>
    simp [Filter.collectAll, Filter.collect_eq_flatMap_nodes find f,
      Filter.collectAll_eq_flatMap_nodes find rest]

theorem Filter.collectOption_eq_flatMap_nodes (find : Metric ν → List α)
    (f : Option (Filter ν)) :
    Filter.collectOption find f = (Filter.nodesOption f).flatMap find := by
  match f with
  | none => rfl
  | some f => exact Filter.collect_eq_flatMap_nodes find f

theorem Grouping.collect_eq_flatMap_nodes (find : Metric ν → List α) (g : Grouping ν) :
    g.collect find = g.nodes.flatMap find := by
  match g with
  | .terms _ x _ m _ =>
    simp [Grouping.collect, Filter.collectOption_eq_flatMap_nodes find x,
      Metric.collectOption_eq_flatMap_nodes find m]
  | .buckets .. | .time .. | .timeBuckets .. | .month .. | .termsIn .. | .dayOfWeek | .sessionName
  | .quantiles .. | .predicate _ | .random .. | .randomMetric .. => rfl

end

/-- A search for metrics of some kind finds nothing exactly if no metric inside is of the kind. -/
theorem Metric.collect_marked_eq_nil {kind : Metric ν → Bool} {m : Metric ν} :
    m.collect (Metric.marked kind) = [] ↔ ∀ n ∈ m.nodes, kind n = false := by
  simp only [Metric.collect_eq_flatMap_nodes (Metric.marked kind), List.flatMap_eq_nil_iff,
    Metric.marked_eq_nil]

theorem Shallow.marked {kind : Metric ν → Bool} (hull : ∀ m, kind m.hull = kind m)
    (sum : kind (.add []) = false) (constant : ∀ v, kind (.constant v) = false) :
    Shallow (Metric.marked kind) where
  hull m := by rw [Metric.marked, Metric.marked, hull]
  sum := Metric.marked_eq_nil.mpr sum
  constant v := Metric.marked_eq_nil.mpr (constant v)

/-! ## Nodes of nodes -/

/-- Some metrics go together with all metrics inside them. -/
def Closed (nodes : List (Metric ν)) : Prop := ∀ m ∈ nodes, m.nodes ⊆ nodes

theorem closed_nil : Closed ([] : List (Metric ν)) := nofun

theorem Closed.append {ms ns : List (Metric ν)} (first : Closed ms) (second : Closed ns) :
    Closed (ms ++ ns) := fun m hm => (List.mem_append.mp hm).elim
  (fun hm => List.subset_append_of_subset_left ns (first m hm))
  (fun hm => List.subset_append_of_subset_right ms (second m hm))

theorem Closed.node {ms : List (Metric ν)} {m : Metric ν} (below : Closed ms)
    (inside : m.nodes = ms ++ [m]) : Closed m.nodes := by
  rw [inside]
  intro n hn
  rcases List.mem_append.mp hn with hn | hn
  · exact List.subset_append_of_subset_left _ (below n hn)
  · rw [List.mem_singleton.mp hn, inside]
    exact List.Subset.refl _

mutual

/-- What is in a metric inside a metric is in the metric. -/
theorem Metric.closed_nodes (m : Metric ν) : Closed m.nodes := by
  match m with
  | .add ms | .least ms | .greatest ms => exact (Metric.closed_nodesOfAll ms).node rfl
  | .calculate _ a b => exact (a.closed_nodes.append b.closed_nodes).node rfl
  | .function _ m | .parent m | .lag _ m | .iterateLag _ m | .window _ m | .running _ m
  | .qualified _ m | .named m _ | .average m => exact m.closed_nodes.node rfl
  | .distinct _ x _ => exact (Filter.closed_nodesOption x).node rfl
  | .fieldMin _ m x | .fieldMax _ m x =>
    exact ((Metric.closed_nodesOption m).append (Filter.closed_nodesOption x)).node rfl
  | .sumAcross g m => exact (g.closed_nodes.append m.closed_nodes).node rfl
  | .ifThenElse c y n =>
    exact ((c.closed_nodes.append y.closed_nodes).append n.closed_nodes).node rfl
  | .bootstrap _ x _ m _ _ =>
    exact ((Filter.closed_nodesOption x).append m.closed_nodes).node rfl
  | .docStats _ | .docStatsIn .. | .percentile .. | .lookup _ | .multiLookup _ | .reference _
  | .constant _ => exact closed_nil.node rfl

theorem Metric.closed_nodesOfAll (ms : List (Metric ν)) : Closed (Metric.nodesOfAll ms) := by
  match ms with
  | [] => exact closed_nil
  | m :: rest => exact m.closed_nodes.append (Metric.closed_nodesOfAll rest)

theorem Metric.closed_nodesOption (m : Option (Metric ν)) : Closed (Metric.nodesOption m) := by
  match m with
  | none => exact closed_nil
  | some m => exact m.closed_nodes

theorem Filter.closed_nodes (f : Filter ν) : Closed f.nodes := by
  match f with
  | .compare _ a b => exact a.closed_nodes.append b.closed_nodes
  | .and fs | .or fs => exact Filter.closed_nodesOfAll fs
  | .not f => exact f.closed_nodes
  | .termIs _ | .termRegex _ | .regex .. | .always | .never | .isDefaultGroup => exact closed_nil

theorem Filter.closed_nodesOfAll (fs : List (Filter ν)) : Closed (Filter.nodesOfAll fs) := by
  match fs with
  | [] => exact closed_nil
  | f :: rest => exact f.closed_nodes.append (Filter.closed_nodesOfAll rest)

theorem Filter.closed_nodesOption (f : Option (Filter ν)) : Closed (Filter.nodesOption f) := by
  match f with
  | none => exact closed_nil
  | some f => exact f.closed_nodes

theorem Grouping.closed_nodes (g : Grouping ν) : Closed g.nodes := by
  match g with
  | .terms _ x _ m _ => exact (Filter.closed_nodesOption x).append (Metric.closed_nodesOption m)
  | .buckets .. | .time .. | .timeBuckets .. | .month .. | .termsIn .. | .dayOfWeek | .sessionName
  | .quantiles .. | .predicate _ | .random .. | .randomMetric .. => exact closed_nil

end

/-! ## Sums -/

namespace Metric

mutual

theorem property_summands {P : Metric ν → Prop} (terms : ∀ ms, P (.add ms) → ∀ m ∈ ms, P m)
    (m : Metric ν) (h : P m) : ∀ n ∈ summands m, P n := by
  match m with
  | .add ms => exact property_summandsOfAll terms ms (terms ms h)
  | .calculate .. | .function .. | .docStats _ | .docStatsIn .. | .parent _ | .lag ..
  | .iterateLag .. | .window .. | .running .. | .distinct .. | .percentile .. | .fieldMin ..
  | .fieldMax .. | .sumAcross .. | .lookup _ | .multiLookup _ | .ifThenElse .. | .least _
  | .greatest _ | .qualified .. | .named .. | .reference _ | .bootstrap .. | .constant _
  | .average _ => exact List.forall_mem_singleton.mpr h

theorem property_summandsOfAll {P : Metric ν → Prop} (terms : ∀ ms, P (.add ms) → ∀ m ∈ ms, P m)
    (ms : List (Metric ν)) (h : ∀ m ∈ ms, P m) : ∀ n ∈ summandsOfAll ms, P n := by
  match ms with
  | [] => exact h
  | m :: rest =>
    rw [List.forall_mem_cons] at h
    exact List.forall_mem_append.mpr
      ⟨property_summands terms m h.1, property_summandsOfAll terms rest h.2⟩

end

/-- A property of all constants that passes from sums to their terms and back is one of a merged sum
if it is one of what is added. -/
theorem property_sum [Numeric ν] {P : Metric ν → Prop} (constants : ∀ v, P (.constant v))
    (terms : ∀ ms, P (.add ms) → ∀ m ∈ ms, P m) (add : ∀ ms, (∀ m ∈ ms, P m) → P (.add ms))
    {ms : List (Metric ν)} (h : ∀ m ∈ ms, P m) : P (Metric.sum ms) := by
  have opened := property_summandsOfAll terms ms h
  unfold Metric.sum
  extract_lets summed values total others keep
  have kept : ∀ m ∈ others ++ if keep then [Metric.constant total] else [], P m := by
    rw [List.forall_mem_append]
    refine ⟨fun m hm => opened m (List.mem_of_mem_filter hm), ?_⟩
    cases keep <;> simp [constants]
  split
  · exact constants _
  · rename_i m single
    exact kept m (single ▸ List.mem_singleton_self m)
  · exact add _ kept

/-- Whatever holds of the metrics in some terms, of sums and of constants, holds of the metrics in
the sum of the terms. -/
theorem forall_nodes_sum [Numeric ν] {P : Metric ν → Prop} (sums : ∀ ts, P (.add ts))
    (constants : ∀ v, P (.constant v)) {ms : List (Metric ν)} (h : ∀ n ∈ nodesOfAll ms, P n) :
    ∀ n ∈ (Metric.sum ms).nodes, P n := by
  have ofAll (ms : List (Metric ν)) :
      (∀ n ∈ nodesOfAll ms, P n) ↔ ∀ m ∈ ms, ∀ n ∈ m.nodes, P n := by
    rw [nodesOfAll, collectAll_eq_flatMap, List.forall_mem_flatMap]
  refine property_sum (P := fun m => ∀ n ∈ m.nodes, P n) (fun v => ?_) (fun ms inner => ?_)
    (fun ms inner => ?_) ((ofAll ms).mp h)
  · simpa [Metric.collect] using constants v
  · simp only [Metric.collect, List.forall_mem_append] at inner
    exact (ofAll ms).mp inner.1
  · simp only [Metric.collect, List.forall_mem_append, List.forall_mem_singleton]
    exact ⟨(ofAll ms).mpr inner, sums ms⟩

end Metric

/-! ## Settled metrics -/

/-- Whether extraction has to put something else in the place of the metric. -/
def Metric.mustBeExtracted : Metric ν → Bool
  | .docStats _ => true
  | .parent _ => true
  | .distinct .. => true
  | .percentile .. => true
  | .fieldMin .. => true
  | .fieldMax .. => true
  | .sumAcross .. => true
  | .qualified .. => true
  | .bootstrap .. => true
  | .average _ => true
  | _ => false

/-- Whether the metric defines a name or refers to one. -/
def Metric.isNamed : Metric ν → Bool
  | .named .. => true
  | .reference _ => true
  | _ => false

theorem Metric.shallow_isNamed : Shallow (Metric.marked (@Metric.isNamed ν)) :=
  .marked (fun m => by cases m <;> rfl) rfl fun _ => rfl

/-- Whether the metric looks up what was computed before. -/
def Metric.isLookup : Metric ν → Bool
  | .lookup _ => true
  | .multiLookup _ => true
  | _ => false

/-- Some metrics neither have to be extracted nor have to do with names. -/
def Settled (nodes : List (Metric ν)) : Prop :=
  ∀ n ∈ nodes, n.mustBeExtracted = false ∧ n.isNamed = false

@[simp] theorem settled_nil : Settled ([] : List (Metric ν)) := nofun

@[simp] theorem settled_append {ms ns : List (Metric ν)} :
    Settled (ms ++ ns) ↔ Settled ms ∧ Settled ns :=
  List.forall_mem_append

@[simp] theorem settled_singleton {m : Metric ν} :
    Settled [m] ↔ m.mustBeExtracted = false ∧ m.isNamed = false :=
  List.forall_mem_singleton

/-- Whether the metric has to be extracted or has to do with names. -/
def Metric.isUnsettled (m : Metric ν) : Bool := m.mustBeExtracted || m.isNamed

theorem Metric.shallow_isUnsettled : Shallow (Metric.marked (@Metric.isUnsettled ν)) :=
  .marked (fun m => by cases m <;> rfl) rfl fun _ => rfl

theorem Metric.settled_iff {m : Metric ν} :
    Settled m.nodes ↔ m.collect (Metric.marked Metric.isUnsettled) = [] := by
  rw [Metric.collect_marked_eq_nil]
  simp only [Metric.isUnsettled, Bool.or_eq_false_iff, Settled]

theorem Lookups.faultless_get (known : Lookups ν) (name : String) : Faultless (known.get name) := by
  unfold Lookups.get
  split
  · exact .ok _
  · rintro _ ⟨⟩

theorem faultless_lowerPattern (pattern : String) :
    Faultless (lowerPattern pattern : CompileM (Evaluation.Filter ν)) := by
  unfold lowerPattern
  split
  · exact .ok _
  · rintro _ ⟨⟩

section Faults

variable [Numeric ν] {schema : Schema} {scope : Names} {known : Lookups ν} {keys : GroupKeys}

mutual

/-- Checking a settled metric is never at fault. -/
theorem Metric.faultless_check (m : Metric ν) (found : Findings) (settled : Settled m.nodes) :
    Faultless (m.check schema scope found) := by
  match m with
  | .add ms | .least ms | .greatest ms =>
    simp only [Metric.nodes, Metric.collect, settled_append] at settled
    exact Metric.faultless_checkAll ms found settled.1
  | .calculate _ a b =>
    simp only [Metric.nodes, Metric.collect, settled_append] at settled
    rw [Metric.check]
    exact (Metric.faultless_check a found settled.1.1).bind fun found =>
      Metric.faultless_check b found settled.1.2
  | .function _ m | .running _ m =>
    simp only [Metric.nodes, Metric.collect, settled_append] at settled
    exact Metric.faultless_check m found settled.1
  | .lag _ m | .iterateLag _ m | .window _ m =>
    simp only [Metric.nodes, Metric.collect, settled_append] at settled
    exact Metric.faultless_check m _ settled.1
  | .ifThenElse c y n =>
    simp only [Metric.nodes, Metric.collect, settled_append] at settled
    rw [Metric.check]
    exact (Filter.faultless_check c found settled.1.1.1).bind fun found =>
      (Metric.faultless_check y found settled.1.1.2).bind fun found =>
        Metric.faultless_check n found settled.1.2
  | .docStatsIn .. | .lookup _ | .multiLookup _ | .constant _ => exact .ok _
  | .docStats _ | .parent _ | .distinct .. | .percentile .. | .fieldMin .. | .fieldMax ..
  | .sumAcross .. | .qualified .. | .bootstrap .. | .average _ | .named .. | .reference _ =>
    simp [Metric.nodes, Metric.collect, Metric.mustBeExtracted, Metric.isNamed] at settled

theorem Metric.faultless_checkAll (ms : List (Metric ν)) (found : Findings)
    (settled : Settled (Metric.nodesOfAll ms)) :
    Faultless (Metric.checkAll schema scope ms found) := by
  match ms with
  | [] => exact .ok _
  | m :: rest =>
    simp only [Metric.nodesOfAll, Metric.collectAll, settled_append] at settled
    rw [Metric.checkAll]
    exact (Metric.faultless_check m found settled.1).bind fun found =>
      Metric.faultless_checkAll rest found settled.2

theorem Filter.faultless_check (f : Filter ν) (found : Findings) (settled : Settled f.nodes) :
    Faultless (f.check schema scope found) := by
  match f with
  | .compare _ a b =>
    simp only [Filter.nodes, Filter.collect, settled_append] at settled
    exact (Metric.faultless_check a _ settled.1).bind fun found =>
      Metric.faultless_check b found settled.2
  | .and fs | .or fs => exact Filter.faultless_checkAll fs found settled
  | .not f => exact Filter.faultless_check f found settled
  | .regex field _ =>
    exact .foldlM (fun _ d _ => (field.faultless_nameIn d).bind fun _ => .pure _) _
  | .termIs _ | .termRegex _ | .always | .never | .isDefaultGroup => exact .ok _

theorem Filter.faultless_checkAll (fs : List (Filter ν)) (found : Findings)
    (settled : Settled (Filter.nodesOfAll fs)) :
    Faultless (Filter.checkAll schema scope fs found) := by
  match fs with
  | [] => exact .ok _
  | f :: rest =>
    simp only [Filter.nodesOfAll, Filter.collectAll, settled_append] at settled
    rw [Filter.checkAll]
    exact (Filter.faultless_check f found settled.1).bind fun found =>
      Filter.faultless_checkAll rest found settled.2

end

mutual

/-- Lowering a settled metric is never at fault. -/
theorem Metric.faultless_lower (m : Metric ν) (settled : Settled m.nodes) :
    Faultless (m.lower known keys) := by
  match m with
  | .add ms | .least ms | .greatest ms =>
    simp only [Metric.nodes, Metric.collect, settled_append] at settled
    rw [Metric.lower]
    exact (Metric.faultless_lowerAll ms settled.1).bind fun _ => .pure _
  | .calculate _ a b =>
    simp only [Metric.nodes, Metric.collect, settled_append] at settled
    rw [Metric.lower]
    exact (Metric.faultless_lower a settled.1.1).bind fun _ =>
      (Metric.faultless_lower b settled.1.2).bind fun _ => .pure _
  | .function f m =>
    simp only [Metric.nodes, Metric.collect, settled_append] at settled
    have inner := Metric.faultless_lower m settled.1
    cases f <;> exact inner.bind fun _ => .pure _
  | .lag _ m | .iterateLag _ m | .window _ m | .running _ m =>
    simp only [Metric.nodes, Metric.collect, settled_append] at settled
    rw [Metric.lower]
    exact (Metric.faultless_lower m settled.1).bind fun _ => .pure _
  | .ifThenElse c y n =>
    simp only [Metric.nodes, Metric.collect, settled_append] at settled
    rw [Metric.lower]
    exact (Filter.faultless_lower c settled.1.1.1).bind fun _ =>
      (Metric.faultless_lower y settled.1.1.2).bind fun _ =>
        (Metric.faultless_lower n settled.1.2).bind fun _ => .pure _
  | .docStatsIn dataset d =>
    rw [Metric.lower]
    exact d.faultless_pushes.bind fun _ => .pure _
  | .lookup name =>
    rw [Metric.lower]
    exact (Lookups.faultless_get known name).bind fun _ => .pure _
  | .multiLookup names =>
    rw [Metric.lower]
    exact (Faultless.mapM fun name _ => Lookups.faultless_get known name).bind fun _ => .pure _
  | .constant _ => exact .ok _
  | .docStats _ | .parent _ | .distinct .. | .percentile .. | .fieldMin .. | .fieldMax ..
  | .sumAcross .. | .qualified .. | .bootstrap .. | .average _ | .named .. | .reference _ =>
    simp [Metric.nodes, Metric.collect, Metric.mustBeExtracted, Metric.isNamed] at settled

theorem Metric.faultless_lowerAll (ms : List (Metric ν))
    (settled : Settled (Metric.nodesOfAll ms)) : Faultless (Metric.lowerAll known keys ms) := by
  match ms with
  | [] => exact .ok _
  | m :: rest =>
    simp only [Metric.nodesOfAll, Metric.collectAll, settled_append] at settled
    rw [Metric.lowerAll]
    exact (Metric.faultless_lower m settled.1).bind fun _ =>
      (Metric.faultless_lowerAll rest settled.2).bind fun _ => .pure _

theorem Filter.faultless_lower (f : Filter ν) (settled : Settled f.nodes) :
    Faultless (f.lower known keys) := by
  match f with
  | .compare _ a b =>
    simp only [Filter.nodes, Filter.collect, settled_append] at settled
    rw [Filter.lower]
    exact (Metric.faultless_lower a settled.1).bind fun _ =>
      (Metric.faultless_lower b settled.2).bind fun _ => .pure _
  | .and fs | .or fs =>
    rw [Filter.lower]
    exact (Filter.faultless_lowerAll fs settled).bind fun _ => .pure _
  | .not f =>
    rw [Filter.lower]
    exact (Filter.faultless_lower f settled).bind fun _ => .pure _
  | .termRegex pattern | .regex _ pattern => exact faultless_lowerPattern pattern
  | .termIs _ | .always | .never | .isDefaultGroup => exact .ok _

theorem Filter.faultless_lowerAll (fs : List (Filter ν))
    (settled : Settled (Filter.nodesOfAll fs)) : Faultless (Filter.lowerAll known keys fs) := by
  match fs with
  | [] => exact .ok _
  | f :: rest =>
    simp only [Filter.nodesOfAll, Filter.collectAll, settled_append] at settled
    rw [Filter.lowerAll]
    exact (Filter.faultless_lower f settled.1).bind fun _ =>
      (Filter.faultless_lowerAll rest settled.2).bind fun _ => .pure _

end

end Faults

end Groupwise.Aggregate
