import Groupwise.Doc.Simplify
import Mathlib.Algebra.GroupWithZero.Nat
import Mathlib.Logic.Relation

/-!
# Nodes of document expressions

Metrics and filters stand in one another, in lists and under the names of datasets. As nodes of one
kind they have parts of one kind, so that what passes from the parts to the whole is shown once.
-/
namespace Groupwise.Doc

/-! ## Nodes and their parts -/

/-- A metric or a filter. -/
inductive Node where
  | metric (m : Metric)
  | filter (f : Filter)

namespace Node

/-- What stands immediately below a node. -/
def parts : Node → List Node
  | .metric (.log m _) => [.metric m]
  | .metric (.exponentiate m _) => [.metric m]
  | .metric (.negate m) => [.metric m]
  | .metric (.abs m) => [.metric m]
  | .metric (.signum m) => [.metric m]
  | .metric (.add ms) => ms.map .metric
  | .metric (.least ms) => ms.map .metric
  | .metric (.greatest ms) => ms.map .metric
  | .metric (.arithmetic _ l r) => [.metric l, .metric r]
  | .metric (.compare _ l r) => [.metric l, .metric r]
  | .metric (.ifThenElse c y n) => [.filter c, .metric y, .metric n]
  | .metric (.qualified _ m) => [.metric m]
  | .metric (.perDataset ms) => ms.map (.metric ·.2)
  | .metric (.sampleMetric m _ _ _) => [.metric m]
  | .metric (.randomMetric m _ _) => [.metric m]
  | .metric _ => []
  | .filter (.compare _ l r) => [.metric l, .metric r]
  | .filter (.and fs) => fs.map .filter
  | .filter (.or fs) => fs.map .filter
  | .filter (.not f) => [.filter f]
  | .filter (.qualified _ f) => [.filter f]
  | .filter (.sampleMetric m _ _ _) => [.metric m]
  | .filter _ => []

/-- A node stands anywhere in another one, or is the same. -/
def Within (part whole : Node) : Prop :=
  Relation.ReflTransGen (fun part whole => part ∈ whole.parts) part whole

theorem sizeOf_lt_of_mem_parts {part whole : Node} (h : part ∈ whole.parts) :
    sizeOf part < sizeOf whole := by
  cases whole with
  | metric m =>
    cases m with
    | add ms | least ms | greatest ms =>
      obtain ⟨m, hm, rfl⟩ := List.mem_map.mp h
      have := List.sizeOf_lt_of_mem hm
      simp
      omega
    | perDataset ms =>
      obtain ⟨⟨d, m⟩, hm, rfl⟩ := List.mem_map.mp h
      have := List.sizeOf_lt_of_mem hm
      simp at this ⊢
      omega
    | log | exponentiate | negate | abs | signum | qualified | sampleMetric | randomMetric =>
      obtain rfl := List.mem_singleton.mp h
      simp
      try omega
    | arithmetic | compare =>
      simp only [parts, List.mem_cons, List.not_mem_nil, or_false] at h
      rcases h with rfl | rfl <;> simp <;> omega
    | ifThenElse =>
      simp only [parts, List.mem_cons, List.not_mem_nil, or_false] at h
      rcases h with rfl | rfl | rfl <;> simp <;> omega
    | _ => exact absurd h List.not_mem_nil
  | filter f =>
    cases f with
    | and fs | or fs =>
      obtain ⟨f, hf, rfl⟩ := List.mem_map.mp h
      have := List.sizeOf_lt_of_mem hf
      simp
      omega
    | not | qualified | sampleMetric =>
      obtain rfl := List.mem_singleton.mp h
      simp
      try omega
    | compare =>
      simp only [parts, List.mem_cons, List.not_mem_nil, or_false] at h
      rcases h with rfl | rfl <;> simp <;> omega
    | _ => exact absurd h List.not_mem_nil

/-- What passes from the parts of every node to the node holds of all nodes. -/
theorem induction {P : Node → Prop} (step : ∀ n, (∀ part ∈ n.parts, P part) → P n) (n : Node) :
    P n :=
  step n fun part _ => induction step part
termination_by sizeOf n
decreasing_by exact sizeOf_lt_of_mem_parts ‹_›

/-- Every node of an expression has a property. -/
def Throughout (P : Node → Prop) (whole : Node) : Prop := ∀ part, Within part whole → P part

theorem throughout_iff {P : Node → Prop} {n : Node} :
    n.Throughout P ↔ P n ∧ ∀ part ∈ n.parts, part.Throughout P := by
  refine ⟨fun h => ⟨h n .refl, fun part below inner within => h inner (within.tail below)⟩,
    fun ⟨here, parts⟩ inner within => ?_⟩
  rcases within.cases_tail with rfl | ⟨part, within, below⟩
  · exact here
  · exact parts part below inner within

/-- The sum of a count over a node and all that stands in it. -/
def total (own : Node → Nat) (n : Node) : Nat :=
  own n + (n.parts.attach.map fun part => total own part.1).sum
termination_by sizeOf n
decreasing_by exact sizeOf_lt_of_mem_parts part.2

theorem total_eq (own : Node → Nat) (n : Node) :
    n.total own = own n + (n.parts.map (total own)).sum := by
  rw [total]
  simp

end Node

/-! ## Simplification of nodes with many parts -/

namespace Metric

theorem reviseAll_eq_map {g : Metric → Metric} {i : Filter → Filter} (ms : List Metric) :
    reviseAll g i ms = ms.map (·.revise g i) := by
  induction ms with
  | nil => rfl
  | cons m rest ih => rw [reviseAll, ih, List.map_cons]

theorem reviseEntries_eq_map {g : Metric → Metric} {i : Filter → Filter}
    (ms : List (String × Metric)) :
    reviseEntries g i ms = ms.map fun e => (e.1, e.2.revise g i) := by
  induction ms with
  | nil => rfl
  | cons e rest ih => rw [reviseEntries, ih, List.map_cons]

theorem simplify_add (ms : List Metric) :
    (Metric.add ms).simplify = (sum (ms.map simplify)).fold :=
  congrArg (fun terms => (sum terms).fold) (reviseAll_eq_map ms)

theorem simplify_least (ms : List Metric) :
    (Metric.least ms).simplify = (extreme .min (ms.map simplify)).fold :=
  congrArg (fun terms => (extreme .min terms).fold) (reviseAll_eq_map ms)

theorem simplify_greatest (ms : List Metric) :
    (Metric.greatest ms).simplify = (extreme .max (ms.map simplify)).fold :=
  congrArg (fun terms => (extreme .max terms).fold) (reviseAll_eq_map ms)

theorem simplify_perDataset (ms : List (String × Metric)) :
    (Metric.perDataset ms).simplify = .perDataset (ms.map fun e => (e.1, e.2.simplify)) :=
  congrArg Metric.perDataset (reviseEntries_eq_map ms)

end Metric

namespace Filter

theorem reviseAll_eq_map {g : Metric → Metric} {i : Filter → Filter} (fs : List Filter) :
    reviseAll g i fs = fs.map (·.revise g i) := by
  induction fs with
  | nil => rfl
  | cons f rest ih => rw [reviseAll, ih, List.map_cons]

theorem simplify_and (fs : List Filter) :
    (Filter.and fs).simplify = (Filter.all (fs.map simplify)).fold :=
  congrArg (fun operands => (Filter.all operands).fold) (reviseAll_eq_map fs)

theorem simplify_or (fs : List Filter) :
    (Filter.or fs).simplify = (Filter.any (fs.map simplify)).fold :=
  congrArg (fun operands => (Filter.any operands).fold) (reviseAll_eq_map fs)

end Filter

end Groupwise.Doc
