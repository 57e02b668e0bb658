import Groupwise.Aggregate.Revision
import Mathlib.Data.List.Basic

/-!
# Searches through expressions

A search finds in an expression what it finds in the metrics inside. Most searches look at a metric
without its parts, such as for the name that it looks up or for the kind of metric that it is. If
they find nothing in sums and in constants either, then they find the same in a merged sum as in its
terms.
-/
namespace Groupwise.Aggregate

variable {ν α : Type}

/-- A metric with the parts replaced by some that say nothing. -/
def Metric.hull : Metric ν → Metric ν
  | .add _ => .add []
  | .calculate op _ _ => .calculate op default default
  | .function f _ => .function f default
  | .docStats _ => .docStats .count
  | .docStatsIn dataset _ => .docStatsIn dataset .count
  | .parent _ => .parent default
  | .lag n _ => .lag n default
  | .iterateLag n _ => .iterateLag n default
  | .window n _ => .window n default
  | .running n _ => .running n default
  | .distinct field _ w => .distinct field none w
  | .percentile field p => .percentile field p
  | .fieldMin field _ _ => .fieldMin field none none
  | .fieldMax field _ _ => .fieldMax field none none
  | .sumAcross _ _ => .sumAcross default default
  | .lookup name => .lookup name
  | .multiLookup names => .multiLookup names
  | .ifThenElse _ _ _ => .ifThenElse default default default
  | .least _ => .least []
  | .greatest _ => .greatest []
  | .qualified datasets _ => .qualified datasets default
  | .named _ name => .named default name
  | .reference name => .reference name
  | .bootstrap field _ seed _ count outputs => .bootstrap field none seed default count outputs
  | .constant v => .constant v
  | .average _ => .average default

/-- A search finds nothing in sums and constants themselves. -/
structure SkipsSums (find : Metric ν → List α) : Prop where
  add : ∀ ms, find (.add ms) = []
  constant : ∀ v, find (.constant v) = []

/-- What a search finds in a metric does not depend on the parts, and it finds nothing in sums and
constants. -/
structure Shallow (find : Metric ν → List α) : Prop where
  hull : ∀ m, find m.hull = find m
  sum : find (.add []) = []
  constant : ∀ v, find (.constant v) = []

/-- The search for metrics of some kind. -/
def Metric.marked (kind : Metric ν → Bool) (m : Metric ν) : List Unit := if kind m then [()] else []

theorem Metric.marked_eq_nil {kind : Metric ν → Bool} {m : Metric ν} :
    m.marked kind = [] ↔ kind m = false := by
  cases h : kind m <;> simp [marked, h]

theorem append_subset_append {as bs cs ds : List α} (h : as ⊆ cs) (k : bs ⊆ ds) :
    as ++ bs ⊆ cs ++ ds :=
  List.append_subset.mpr ⟨List.subset_append_of_subset_left ds h,
    List.subset_append_of_subset_right cs k⟩

theorem Metric.collectAll_eq_flatMap (find : Metric ν → List α) (ms : List (Metric ν)) :
    Metric.collectAll find ms = ms.flatMap (·.collect find) := by
  induction ms with
  | nil => rfl
  | cons m rest ih => rw [Metric.collectAll, ih, List.flatMap_cons]

theorem Filter.collectAll_eq_flatMap (find : Metric ν → List α) (fs : List (Filter ν)) :
    Filter.collectAll find fs = fs.flatMap (·.collect find) := by
  induction fs with
  | nil => rfl
  | cons f rest ih => rw [Filter.collectAll, ih, List.flatMap_cons]

/-! ## Sums -/

namespace SkipsSums

variable {find : Metric ν → List α}

mutual

theorem collectAll_summands (skips : SkipsSums find) (m : Metric ν) :
    Metric.collectAll find (Metric.summands m) = m.collect find := by
  match m with
  | .add ms =>
    rw [Metric.summands, collectAll_summandsOfAll skips ms, Metric.collect, skips.add,
      List.append_nil]
  | .calculate .. | .function .. | .docStats _ | .docStatsIn .. | .parent _ | .lag ..
  | .iterateLag .. | .window .. | .running .. | .distinct .. | .percentile .. | .fieldMin ..
  | .fieldMax .. | .sumAcross .. | .lookup _ | .multiLookup _ | .ifThenElse .. | .least _
  | .greatest _ | .qualified .. | .named .. | .reference _ | .bootstrap .. | .constant _
  | .average _ =>
    simp [Metric.summands, Metric.collectAll]

theorem collectAll_summandsOfAll (skips : SkipsSums find) (ms : List (Metric ν)) :
    Metric.collectAll find (Metric.summandsOfAll ms) = Metric.collectAll find ms := by
  match ms with
  | [] => rfl
  | m :: rest =>
    have first := collectAll_summands skips m
    have others := collectAll_summandsOfAll skips rest
    simp only [Metric.collectAll_eq_flatMap] at first others ⊢
    simp [Metric.summandsOfAll, first, others]

end

theorem collect_of_constant (skips : SkipsSums find) {m : Metric ν}
    (h : m.constant?.isNone = false) : m.collect find = [] := by
  obtain ⟨v, hv⟩ := Option.isSome_iff_exists.mp (Option.isNone_eq_false_iff.mp h)
  obtain rfl := Metric.constant?_eq_some_iff.mp hv
  exact skips.constant v

/-- A search finds in a sum what it finds in the terms. -/
theorem mem_collect_sum [Numeric ν] (skips : SkipsSums find) {ms : List (Metric ν)} {a : α} :
    a ∈ (Metric.sum ms).collect find ↔ a ∈ Metric.collectAll find ms := by
  rw [← skips.collectAll_summandsOfAll ms]
  have kept : a ∈ Metric.collectAll find
        ((Metric.summandsOfAll ms).filter (·.constant?.isNone)) ↔
      a ∈ Metric.collectAll find (Metric.summandsOfAll ms) := by
    simp only [Metric.collectAll_eq_flatMap, List.mem_flatMap, List.mem_filter]
    constructor
    · rintro ⟨m, ⟨hm, -⟩, ha⟩
      exact ⟨m, hm, ha⟩
    · rintro ⟨m, hm, ha⟩
      by_cases hc : m.constant?.isNone
      · exact ⟨m, ⟨hm, hc⟩, ha⟩
      · exact absurd ha (by simp [skips.collect_of_constant (eq_false_of_ne_true hc)])
  rw [← kept]
  unfold Metric.sum
  extract_lets terms constants total others keep
  have constant : a ∈ Metric.collectAll find
        (others ++ if keep then [Metric.constant total] else []) ↔
      a ∈ Metric.collectAll find others := by
    cases keep <;>
      simp [Metric.collectAll_eq_flatMap, Metric.collect, skips.constant]
  rw [← constant]
  split
  · simp_all [Metric.collect, Metric.collectAll, skips.constant]
  · simp_all [Metric.collectAll]
  · simp_all [Metric.collect, skips.add]

end SkipsSums

namespace Shallow

variable {find : Metric ν → List α}

theorem eq_of_hull (shallow : Shallow find) {m n : Metric ν} (same : m.hull = n.hull) :
    find m = find n := by
  rw [← shallow.hull m, same, shallow.hull n]

theorem skipsSums (shallow : Shallow find) : SkipsSums find where
  add ms := (shallow.eq_of_hull (m := .add ms) (n := .add []) rfl).trans shallow.sum
  constant := shallow.constant

theorem mem_collect_sum [Numeric ν] (shallow : Shallow find) {ms : List (Metric ν)} {a : α} :
    a ∈ (Metric.sum ms).collect find ↔ a ∈ Metric.collectAll find ms :=
  shallow.skipsSums.mem_collect_sum

end Shallow

end Groupwise.Aggregate
