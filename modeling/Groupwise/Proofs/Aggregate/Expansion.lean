import Groupwise.Plan.Substitution
import Groupwise.Proofs.Aggregate.Nodes
import Groupwise.Proofs.Outcome

/-!
# Expanding references

Replacing the references of an expression succeeds exactly if what stands for each of them can be
found. The walk that replaces them is the general one over metrics, with the references and the
definitions as the only cases of its own.
-/
namespace Groupwise.Aggregate

variable {ν : Type} {refer : String → CompileM (Metric ν)}

/-- What stands for each reference among some metrics can be found. -/
def Resolves (refer : String → CompileM (Metric ν)) (nodes : List (Metric ν)) : Prop :=
  ∀ name, Metric.reference name ∈ nodes → Succeeds (refer name)

namespace Resolves

variable {ms ns : List (Metric ν)} {m : Metric ν}

theorem nil : Resolves refer [] := nofun

theorem append : Resolves refer (ms ++ ns) ↔ Resolves refer ms ∧ Resolves refer ns := by
  simp only [Resolves, List.mem_append, or_imp, forall_and]

theorem flatMap {α : Type} {f : α → List (Metric ν)} {as : List α} :
    Resolves refer (as.flatMap f) ↔ ∀ a ∈ as, Resolves refer (f a) := by
  simp only [Resolves, List.mem_flatMap]
  exact ⟨fun all a ha name here => all name ⟨a, ha, here⟩,
    fun all name ⟨a, ha, here⟩ => all a ha name here⟩

theorem reference {name : String} : Resolves refer [.reference name] ↔ Succeeds (refer name) := by
  simp [Resolves]

/-- A metric that is no reference needs nothing to stand for it. -/
theorem node (other : ∀ name, m ≠ .reference name) :
    Resolves refer (ms ++ [m]) ↔ Resolves refer ms := by
  simp [Resolves, fun name => (other name).symm]

end Resolves

variable [Numeric ν]

mutual

/-- The references of a metric can be replaced exactly if there is something for each. -/
theorem Metric.succeeds_expand (m : Metric ν) :
    Succeeds (m.expand refer) ↔ Resolves refer m.nodes := by
  match m with
  | .reference name => exact Resolves.reference.symm
  | .named m name => exact (Metric.succeeds_expand m).trans (Resolves.node (by nofun)).symm
  | .add ms | .least ms | .greatest ms =>
    refine Succeeds.bind_pure_iff.trans (.trans ?_ (Resolves.node (by nofun)).symm)
    exact Metric.succeeds_expandAll ms
  | .calculate _ l r =>
    refine (Succeeds.bind_iff fun _ => Succeeds.bind_pure_iff).trans ?_
    rw [Metric.succeeds_expand l, Metric.succeeds_expand r, ← Resolves.append]
    exact (Resolves.node (by nofun)).symm
  | .function _ m | .parent m | .lag _ m | .iterateLag _ m | .window _ m | .running _ m
  | .qualified _ m | .average m =>
    refine Succeeds.bind_pure_iff.trans (.trans ?_ (Resolves.node (by nofun)).symm)
    exact Metric.succeeds_expand m
  | .distinct _ x _ =>
    refine Succeeds.bind_pure_iff.trans (.trans ?_ (Resolves.node (by nofun)).symm)
    exact Filter.succeeds_expandOption x
  | .fieldMin _ m x | .fieldMax _ m x =>
    refine (Succeeds.bind_iff fun _ => Succeeds.bind_pure_iff).trans ?_
    rw [Metric.succeeds_expandOption m, Filter.succeeds_expandOption x, ← Resolves.append]
    exact (Resolves.node (by nofun)).symm
  | .sumAcross g m =>
    refine (Succeeds.bind_iff fun _ => Succeeds.bind_pure_iff).trans ?_
    rw [Grouping.succeeds_expand g, Metric.succeeds_expand m, ← Resolves.append]
    exact (Resolves.node (by nofun)).symm
  | .ifThenElse c y n =>
    refine (Succeeds.bind_iff fun _ => Succeeds.bind_iff fun _ => Succeeds.bind_pure_iff).trans ?_
    rw [Filter.succeeds_expand c, Metric.succeeds_expand y, Metric.succeeds_expand n, ← and_assoc,
      ← Resolves.append, ← Resolves.append]
    exact (Resolves.node (by nofun)).symm
  | .bootstrap _ x _ m _ _ =>
    refine (Succeeds.bind_iff fun _ => Succeeds.bind_pure_iff).trans ?_
    rw [Filter.succeeds_expandOption x, Metric.succeeds_expand m, ← Resolves.append]
    exact (Resolves.node (by nofun)).symm
  | .docStats _ | .docStatsIn .. | .percentile .. | .lookup _ | .multiLookup _ | .constant _ =>
    exact iff_of_true ⟨_, rfl⟩ (by simp [Metric.nodes, Metric.collect, Resolves])

theorem Metric.succeeds_expandAll (ms : List (Metric ν)) :
    Succeeds (Metric.expandAll refer ms) ↔ Resolves refer (Metric.nodesOfAll ms) := by
  match ms with
  | [] => exact iff_of_true ⟨_, rfl⟩ .nil
  | m :: rest =>
    refine (Succeeds.bind_iff fun _ => Succeeds.bind_pure_iff).trans ?_
    rw [Metric.succeeds_expand m, Metric.succeeds_expandAll rest, ← Resolves.append]
    rfl

theorem Metric.succeeds_expandOption (m : Option (Metric ν)) :
    Succeeds (Metric.expandOption refer m) ↔ Resolves refer (Metric.nodesOption m) := by
  match m with
  | none => exact iff_of_true ⟨_, rfl⟩ .nil
  | some m => exact Succeeds.bind_pure_iff.trans (Metric.succeeds_expand m)

theorem Filter.succeeds_expand (f : Filter ν) :
    Succeeds (f.expand refer) ↔ Resolves refer f.nodes := by
  match f with
  | .compare _ l r =>
    refine (Succeeds.bind_iff fun _ => Succeeds.bind_pure_iff).trans ?_
    rw [Metric.succeeds_expand l, Metric.succeeds_expand r, ← Resolves.append]
    rfl
  | .and fs | .or fs => exact Succeeds.bind_pure_iff.trans (Filter.succeeds_expandAll fs)
  | .not f => exact Succeeds.bind_pure_iff.trans (Filter.succeeds_expand f)
  | .termIs _ | .termRegex _ | .regex .. | .always | .never | .isDefaultGroup =>
    exact iff_of_true ⟨_, rfl⟩ .nil

theorem Filter.succeeds_expandAll (fs : List (Filter ν)) :
    Succeeds (Filter.expandAll refer fs) ↔ Resolves refer (Filter.nodesOfAll fs) := by
  match fs with
  | [] => exact iff_of_true ⟨_, rfl⟩ .nil
  | f :: rest =>
    refine (Succeeds.bind_iff fun _ => Succeeds.bind_pure_iff).trans ?_
    rw [Filter.succeeds_expand f, Filter.succeeds_expandAll rest, ← Resolves.append]
    rfl

theorem Filter.succeeds_expandOption (f : Option (Filter ν)) :
    Succeeds (Filter.expandOption refer f) ↔ Resolves refer (Filter.nodesOption f) := by
  match f with
  | none => exact iff_of_true ⟨_, rfl⟩ .nil
  | some f => exact Succeeds.bind_pure_iff.trans (Filter.succeeds_expand f)

theorem Grouping.succeeds_expand (g : Grouping ν) :
    Succeeds (g.expand refer) ↔ Resolves refer g.nodes := by
  match g with
  | .terms _ x _ m _ =>
    refine (Succeeds.bind_iff fun _ => Succeeds.bind_pure_iff).trans ?_
    rw [Filter.succeeds_expandOption x, Metric.succeeds_expandOption m, ← Resolves.append]
    rfl
  | .buckets .. | .time .. | .timeBuckets .. | .month .. | .termsIn .. | .dayOfWeek | .sessionName
  | .quantiles .. | .predicate _ | .random .. | .randomMetric .. =>
    exact iff_of_true ⟨_, rfl⟩ .nil

end

/-! ## Expansion as a traversal -/

mutual

theorem Filter.traverse_expand (f : Filter ν) :
    f.traverse (Metric.expand refer) = f.expand refer := by
  match f with
  | .compare .. => rfl
  | .and fs | .or fs => rw [Filter.traverse, Filter.expand, Filter.traverseAll_expand fs]
  | .not f => rw [Filter.traverse, Filter.expand, Filter.traverse_expand f]
  | .termIs _ | .termRegex _ | .regex .. | .always | .never | .isDefaultGroup => rfl

theorem Filter.traverseAll_expand (fs : List (Filter ν)) :
    Filter.traverseAll (Metric.expand refer) fs = Filter.expandAll refer fs := by
  match fs with
  | [] => rfl
  | f :: rest =>
    rw [Filter.traverseAll, Filter.expandAll, Filter.traverse_expand f,
      Filter.traverseAll_expand rest]

end

theorem Filter.traverseOption_expand (f : Option (Filter ν)) :
    traverseOption (Filter.traverse (Metric.expand refer)) f = Filter.expandOption refer f := by
  cases f with
  | none => rfl
  | some f => rw [traverseOption, Filter.expandOption, Filter.traverse_expand]

theorem Metric.traverseOption_expand (m : Option (Metric ν)) :
    traverseOption (Metric.expand refer) m = Metric.expandOption refer m := by
  cases m <;> rfl

theorem Grouping.traverse_expand (g : Grouping ν) :
    g.traverse (Metric.expand refer) = g.expand refer := by
  cases g with
  | terms f x limit m withDefault =>
    rw [Grouping.traverse, Grouping.expand, Filter.traverseOption_expand,
      Metric.traverseOption_expand]
  | _ => rfl

end Groupwise.Aggregate
