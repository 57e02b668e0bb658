import Groupwise.Plan.Schedule
import Groupwise.Proofs.Aggregate.Passes
import Groupwise.Proofs.Names

/-!
# What is found in prepared plans

Before computations are taken out of a plan, its references are replaced, its expressions are
simplified and the filters of top terms are moved. A search that found nothing in the plan finds
nothing in the prepared one: a plan that looks nothing up still looks nothing up, and no names are
left in any. Replacing the references is never at fault.
-/
namespace Groupwise

open Aggregate

variable {ν α : Type} {find found : Metric ν → List α}

/-- What a search finds in a stage. -/
def Stage.collect (find : Metric ν → List α) (s : Stage ν) : List α :=
  s.grouping.collect find ++ Filter.collectOption find s.having

/-- What a search finds in a plan. -/
def Plan.collect (find : Metric ν → List α) (p : Plan ν) : List α :=
  p.stages.flatMap (Stage.collect find) ++ Metric.collectAll find p.selects

/-- The names that a stage looks up. -/
def Stage.lookups (s : Stage ν) : List String :=
  s.grouping.lookups ++ Filter.lookupsOption s.having

/-- The names that a plan looks up. -/
def Plan.lookups (p : Plan ν) : List String :=
  p.stages.flatMap Stage.lookups ++ Metric.lookupsOfAll p.selects

theorem Plan.collect_eq_nil_iff {p : Plan ν} : p.collect find = [] ↔
    (∀ s ∈ p.stages, s.collect find = []) ∧ ∀ m ∈ p.selects, m.collect find = [] := by
  simp [Plan.collect, Metric.collectAll_eq_flatMap, List.flatMap_eq_nil_iff]

/-! ## References -/

namespace Definitions

variable {definitions entered : Definitions ν} {ms : List (Metric ν)}

theorem collect_enter (bare : ∀ e ∈ definitions, e.2.collect find = [])
    (bareAll : ∀ m ∈ ms, m.collect find = []) (h : definitions.enter ms = .ok entered) :
    ∀ e ∈ entered, e.2.collect find = [] := by
  fun_induction Definitions.enter definitions ms with
  | case1 =>
    obtain rfl := Except.ok.inj h
    exact bare
  | case2 => exact absurd h nofun
  | case3 definitions m name rest free ih =>
    rw [List.forall_mem_cons] at bareAll
    refine ih (fun e he => ?_) bareAll.2 h
    rcases Dictionary.mem_insert he with rfl | he
    · exact (List.append_eq_nil_iff.mp bareAll.1).1
    · exact bare e he
  | case4 definitions m rest _ ih => exact ih bare (List.forall_mem_cons.mp bareAll).2 h

variable [Numeric ν]

/-- In the metric that a name stands for is nothing found if nothing is in the definitions. -/
theorem collect_refer (shallow : Shallow find) (covers : Covers found find)
    (bare : ∀ e ∈ definitions, e.2.collect found = []) (fuel : Nat) (names : List String)
    (name : String) (m : Metric ν) (h : definitions.refer fuel names name = .ok m) :
    m.collect find = [] := by
  induction fuel generalizing names name m with
  | zero => exact absurd h nofun
  | succ fuel ih =>
    rw [refer] at h
    split at h
    · exact absurd h nofun
    · rename_i d known
      split at h
      · exact absurd h nofun
      · have fewer := Metric.collect_expand shallow covers (ih (names ++ [name])) d m h
        rw [bare _ (Dictionary.mem_of_find? known)] at fewer
        exact List.subset_nil.mp fewer

theorem collect_substitute (shallow : Shallow find) (covers : Covers found find)
    (bare : ∀ e ∈ definitions, e.2.collect found = []) (m n : Metric ν)
    (h : definitions.substitute m = .ok n) : n.collect find ⊆ m.collect found :=
  Metric.collect_expand shallow covers (collect_refer shallow covers bare _ _) m n h

end Definitions

/-! ## Traversals -/

section Traversal

variable {visit : Metric ν → CompileM (Metric ν)}

mutual

/-- Visits after which no more is found in a metric keep a filter so too. -/
theorem Aggregate.Filter.collect_traverse
    (less : ∀ m n, visit m = .ok n → n.collect find ⊆ m.collect found) (f g : Filter ν)
    (h : f.traverse visit = .ok g) : g.collect find ⊆ f.collect found := by
  match f with
  | .compare _ a b =>
    simp only [Filter.traverse, bind_eq_ok, pure_eq_ok] at h
    obtain ⟨k, hk, n, hn, rfl⟩ := h
    exact append_subset_append (less a k hk) (less b n hn)
  | .and fs =>
    simp only [Filter.traverse, bind_eq_ok, pure_eq_ok] at h
    obtain ⟨gs, hgs, rfl⟩ := h
    exact List.Subset.trans (Connective.collect_merge_subset _ .and _)
      (Aggregate.Filter.collect_traverseAll less fs gs hgs)
  | .or fs =>
    simp only [Filter.traverse, bind_eq_ok, pure_eq_ok] at h
    obtain ⟨gs, hgs, rfl⟩ := h
    exact List.Subset.trans (Connective.collect_merge_subset _ .or _)
      (Aggregate.Filter.collect_traverseAll less fs gs hgs)
  | .not f =>
    simp only [Filter.traverse, bind_eq_ok, pure_eq_ok] at h
    obtain ⟨g, hg, rfl⟩ := h
    exact Aggregate.Filter.collect_traverse less f g hg
  | .termIs _ | .termRegex _ | .regex .. | .always | .never | .isDefaultGroup =>
    obtain rfl := pure_eq_ok.mp h
    exact List.Subset.refl _
termination_by structural f

theorem Aggregate.Filter.collect_traverseAll
    (less : ∀ m n, visit m = .ok n → n.collect find ⊆ m.collect found) (fs gs : List (Filter ν))
    (h : Filter.traverseAll visit fs = .ok gs) :
    Filter.collectAll find gs ⊆ Filter.collectAll found fs := by
  match fs with
  | [] =>
    obtain rfl := pure_eq_ok.mp h
    exact List.Subset.refl _
  | f :: rest =>
    simp only [Filter.traverseAll, bind_eq_ok, pure_eq_ok] at h
    obtain ⟨g, hg, others, hothers, rfl⟩ := h
    exact append_subset_append (Aggregate.Filter.collect_traverse less f g hg)
      (Aggregate.Filter.collect_traverseAll less rest others hothers)
termination_by structural fs

end

theorem Aggregate.Filter.collect_traverseOption
    (less : ∀ m n, visit m = .ok n → n.collect find ⊆ m.collect found) {x y : Option (Filter ν)}
    (h : traverseOption (Filter.traverse visit) x = .ok y) :
    Filter.collectOption find y ⊆ Filter.collectOption found x := by
  cases x with
  | none =>
    obtain rfl := pure_eq_ok.mp h
    exact List.Subset.refl _
  | some f =>
    simp only [traverseOption, bind_eq_ok, pure_eq_ok] at h
    obtain ⟨g, hg, rfl⟩ := h
    exact Filter.collect_traverse less f g hg

theorem Aggregate.Grouping.collect_traverse
    (less : ∀ m n, visit m = .ok n → n.collect find ⊆ m.collect found) {g k : Grouping ν}
    (h : g.traverse visit = .ok k) : k.collect find ⊆ g.collect found := by
  cases g with
  | terms f x limit m d =>
    simp only [Grouping.traverse, bind_eq_ok, pure_eq_ok] at h
    obtain ⟨y, hy, n, hn, rfl⟩ := h
    refine append_subset_append (Filter.collect_traverseOption less hy) ?_
    cases m with
    | none =>
      obtain rfl := pure_eq_ok.mp hn
      exact List.Subset.refl _
    | some m =>
      simp only [traverseOption, bind_eq_ok, pure_eq_ok] at hn
      obtain ⟨n, hn, rfl⟩ := hn
      exact less m n hn
  | _ =>
    obtain rfl := pure_eq_ok.mp h
    exact List.Subset.refl _

theorem Stage.collect_traverse
    (less : ∀ m n, visit m = .ok n → n.collect find ⊆ m.collect found) {s t : Stage ν}
    (h : s.traverse visit = .ok t) : t.collect find ⊆ s.collect found := by
  simp only [Stage.traverse, bind_eq_ok, pure_eq_ok] at h
  obtain ⟨grouping, hgrouping, having, hhaving, rfl⟩ := h
  exact append_subset_append (Grouping.collect_traverse less hgrouping)
    (Filter.collect_traverseOption less hhaving)

end Traversal

namespace Plan

variable [Numeric ν] {p q : Plan ν}

theorem collect_substitute (shallow : Shallow find) (covers : Covers found find)
    (bare : p.collect found = []) (h : p.substitute = .ok q) : q.collect find = [] := by
  rw [collect_eq_nil_iff] at bare ⊢
  simp only [substitute, Plan.traverse, bind_eq_ok, pure_eq_ok] at h
  obtain ⟨definitions, entered, stages, hstages, selects, hselects, rfl⟩ := h
  have bareDefinitions := Definitions.collect_enter (List.forall_mem_nil _) bare.2 entered
  have less := Definitions.collect_substitute shallow covers bareDefinitions
  constructor
  · intro t ht
    obtain ⟨s, hs, traversed⟩ := mapM_eq_ok_mem hstages ht
    exact List.subset_nil.mp (bare.1 s hs ▸ Stage.collect_traverse less traversed)
  · intro n hn
    obtain ⟨m, hm, visited⟩ := mapM_eq_ok_mem hselects hn
    exact List.subset_nil.mp (bare.2 m hm ▸ less m n visited)

theorem collect_simplify (shallow : Shallow find) (bare : p.collect find = []) :
    p.simplify.collect find = [] := by
  rw [collect_eq_nil_iff] at bare ⊢
  have less := simplification_findsNoMore shallow
  constructor
  · intro t ht
    obtain ⟨s, hs, rfl⟩ := List.mem_map.mp ht
    refine List.subset_nil.mp (bare.1 s hs ▸ append_subset_append ?_ ?_)
    · exact Grouping.collect_revise shallow less s.grouping
    · exact Filter.collect_reviseOption shallow less s.having
  · intro n hn
    obtain ⟨m, hm, rfl⟩ := List.mem_map.mp hn
    exact List.subset_nil.mp (bare.2 m hm ▸ Metric.collect_revise shallow less m)

omit [Numeric ν] in
theorem collect_filterTopTerms (bare : p.collect find = []) :
    p.filterTopTerms.collect find = [] := by
  rw [collect_eq_nil_iff] at bare ⊢
  refine ⟨fun t ht => ?_, bare.2⟩
  obtain ⟨s, hs, rfl⟩ := List.mem_map.mp ht
  have bareStage := bare.1 s hs
  unfold Stage.filterTopTerms
  split
  · rename_i hg hh
    simp_all [Stage.collect, Grouping.collect, Filter.collectOption]
  · exact bareStage

/-- A prepared plan lacks whatever the plan lacked. -/
theorem collect_prepared (shallow : Shallow find) (covers : Covers found find)
    (bare : p.collect found = []) (h : p.substitute = .ok q) :
    q.simplify.filterTopTerms.collect find = [] :=
  collect_filterTopTerms (collect_simplify shallow (collect_substitute shallow covers bare h))

theorem lookups_prepared (bare : p.lookups = []) (h : p.substitute = .ok q) :
    q.simplify.filterTopTerms.lookups = [] :=
  collect_prepared Metric.shallow_lookedUp (fun _ _ => List.Subset.refl _) bare h

end Plan

/-! ## Faults -/

section Faults

variable {visit : Metric ν → CompileM (Metric ν)}

mutual

theorem Aggregate.Filter.faultless_traverse (visited : ∀ m, Faultless (visit m)) (f : Filter ν) :
    Faultless (f.traverse visit) := by
  match f with
  | .compare _ l r => exact (visited l).bind fun _ => (visited r).bind fun _ => .pure _
  | .and fs | .or fs => exact (Aggregate.Filter.faultless_traverseAll visited fs).bind fun _ => .pure _
  | .not f => exact (Aggregate.Filter.faultless_traverse visited f).bind fun _ => .pure _
  | .termIs _ | .termRegex _ | .regex .. | .always | .never | .isDefaultGroup => exact .pure _

theorem Aggregate.Filter.faultless_traverseAll (visited : ∀ m, Faultless (visit m)) (fs : List (Filter ν)) :
    Faultless (Filter.traverseAll visit fs) := by
  match fs with
  | [] => exact .pure _
  | f :: rest =>
    exact (Aggregate.Filter.faultless_traverse visited f).bind fun _ =>
      (Aggregate.Filter.faultless_traverseAll visited rest).bind fun _ => .pure _

end

theorem faultless_traverseOption {β : Type} {visit : β → CompileM β}
    (visited : ∀ b, Faultless (visit b)) (b : Option β) :
    Faultless (traverseOption visit b) := by
  cases b with
  | none => exact .pure _
  | some b => exact (visited b).bind fun _ => .pure _

theorem Stage.faultless_traverse {visit : Metric ν → CompileM (Metric ν)}
    (visited : ∀ m, Faultless (visit m)) (s : Stage ν) : Faultless (s.traverse visit) := by
  have filters := faultless_traverseOption (Filter.faultless_traverse visited)
  refine Faultless.bind ?_ fun _ => (filters s.having).bind fun _ => .pure _
  cases s.grouping with
  | terms _ x _ m =>
    exact (filters x).bind fun _ => (faultless_traverseOption visited m).bind fun _ => .pure _
  | _ => exact .pure _

theorem Definitions.faultless_enter (definitions : Definitions ν) (ms : List (Metric ν)) :
    Faultless (definitions.enter ms) := by
  fun_induction Definitions.enter definitions ms with
  | case1 => exact .ok _
  | case2 => rintro _ ⟨⟩
  | case3 _ _ _ _ _ ih => exact ih
  | case4 _ _ _ _ ih => exact ih

variable [Numeric ν] {refer : String → CompileM (Metric ν)}

namespace Aggregate

mutual

/-- Replacing references is not at fault unless finding what they stand for is. -/
theorem Metric.faultless_expand (known : ∀ name, Faultless (refer name)) (m : Metric ν) :
    Faultless (m.expand refer) := by
  match m with
  | .reference name => exact known name
  | .named m _ => exact Metric.faultless_expand known m
  | .add ms | .least ms | .greatest ms =>
    exact (Metric.faultless_expandAll known ms).bind fun _ => .pure _
  | .calculate _ l r =>
    exact (Metric.faultless_expand known l).bind fun _ =>
      (Metric.faultless_expand known r).bind fun _ => .pure _
  | .function _ m | .parent m | .lag _ m | .iterateLag _ m | .window _ m | .running _ m
  | .qualified _ m | .average m =>
    exact (Metric.faultless_expand known m).bind fun _ => .pure _
  | .distinct _ x _ => exact (Filter.faultless_expandOption known x).bind fun _ => .pure _
  | .fieldMin _ m x | .fieldMax _ m x =>
    exact (Metric.faultless_expandOption known m).bind fun _ =>
      (Filter.faultless_expandOption known x).bind fun _ => .pure _
  | .sumAcross g m =>
    exact (Grouping.faultless_expand known g).bind fun _ =>
      (Metric.faultless_expand known m).bind fun _ => .pure _
  | .ifThenElse c y n =>
    exact (Filter.faultless_expand known c).bind fun _ =>
      (Metric.faultless_expand known y).bind fun _ =>
        (Metric.faultless_expand known n).bind fun _ => .pure _
  | .bootstrap _ x _ m _ _ =>
    exact (Filter.faultless_expandOption known x).bind fun _ =>
      (Metric.faultless_expand known m).bind fun _ => .pure _
  | .docStats _ | .docStatsIn .. | .percentile .. | .lookup _ | .multiLookup _ | .constant _ =>
    exact .ok _

theorem Metric.faultless_expandAll (known : ∀ name, Faultless (refer name))
    (ms : List (Metric ν)) : Faultless (Metric.expandAll refer ms) := by
  match ms with
  | [] => exact .ok _
  | m :: rest =>
    exact (Metric.faultless_expand known m).bind fun _ =>
      (Metric.faultless_expandAll known rest).bind fun _ => .pure _

theorem Metric.faultless_expandOption (known : ∀ name, Faultless (refer name))
    (m : Option (Metric ν)) : Faultless (Metric.expandOption refer m) := by
  match m with
  | none => exact .ok _
  | some m => exact (Metric.faultless_expand known m).bind fun _ => .pure _

theorem Filter.faultless_expand (known : ∀ name, Faultless (refer name)) (f : Filter ν) :
    Faultless (f.expand refer) := by
  match f with
  | .compare _ l r =>
    exact (Metric.faultless_expand known l).bind fun _ =>
      (Metric.faultless_expand known r).bind fun _ => .pure _
  | .and fs | .or fs => exact (Filter.faultless_expandAll known fs).bind fun _ => .pure _
  | .not f => exact (Filter.faultless_expand known f).bind fun _ => .pure _
  | .termIs _ | .termRegex _ | .regex .. | .always | .never | .isDefaultGroup => exact .ok _

theorem Filter.faultless_expandAll (known : ∀ name, Faultless (refer name))
    (fs : List (Filter ν)) : Faultless (Filter.expandAll refer fs) := by
  match fs with
  | [] => exact .ok _
  | f :: rest =>
    exact (Filter.faultless_expand known f).bind fun _ =>
      (Filter.faultless_expandAll known rest).bind fun _ => .pure _

theorem Filter.faultless_expandOption (known : ∀ name, Faultless (refer name))
    (f : Option (Filter ν)) : Faultless (Filter.expandOption refer f) := by
  match f with
  | none => exact .ok _
  | some f => exact (Filter.faultless_expand known f).bind fun _ => .pure _

theorem Grouping.faultless_expand (known : ∀ name, Faultless (refer name)) (g : Grouping ν) :
    Faultless (g.expand refer) := by
  match g with
  | .terms _ x _ m _ =>
    exact (Filter.faultless_expandOption known x).bind fun _ =>
      (Metric.faultless_expandOption known m).bind fun _ => .pure _
  | .buckets .. | .time .. | .timeBuckets .. | .month .. | .termsIn .. | .dayOfWeek
  | .sessionName | .quantiles .. | .predicate _ | .random .. | .randomMetric .. => exact .ok _

end

end Aggregate

theorem Definitions.faultless_refer (definitions : Definitions ν) (fuel : Nat) (names : List String)
    (name : String) : Faultless (definitions.refer fuel names name) := by
  induction fuel generalizing names name with
  | zero => rintro _ ⟨⟩
  | succ fuel ih =>
    rw [refer]
    split
    · rintro _ ⟨⟩
    · split
      · rintro _ ⟨⟩
      · exact Metric.faultless_expand (ih _) _

/-- Replacing the references of a plan is never at fault. -/
theorem Plan.faultless_substitute (p : Plan ν) : Faultless p.substitute := by
  refine (Definitions.faultless_enter [] p.selects).bind fun definitions => ?_
  have visited := Metric.faultless_expand (definitions.faultless_refer (definitions.length + 1) [])
  exact (Faultless.mapM fun s _ => s.faultless_traverse visited).bind fun _ =>
    (Faultless.mapM fun m _ => visited m).bind fun _ => .pure _

end Faults

end Groupwise
