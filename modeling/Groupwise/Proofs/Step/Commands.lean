import Groupwise.Proofs.Command
import Groupwise.Proofs.Plan.Completeness
import Groupwise.Proofs.Plan.Fitness

/-!
# Commands of steps

The commands of a step can be written exactly if what it computes can be carried out, and when the
expressions of the step are settled, then so are those of the commands. Merging steps changes
nothing about either.
-/
namespace Groupwise

open Aggregate

variable {ν : Type}

/-- The metrics in the expressions of a regrouping. -/
def Regrouping.nodes : Regrouping ν → List (Metric ν)
  | .terms _ x _ m _ => Filter.nodesOption x ++ Metric.nodesOption m
  | _ => []

/-- The metrics in the expressions of a walk over terms. -/
def TermStats.nodes (t : TermStats ν) : List (Metric ν) :=
  Filter.nodesOption t.filter ++ Metric.nodesOption t.metric ++ Metric.nodesOfAll t.stats

namespace Step

/-- The metrics in the expressions of a step. -/
def nodes : Step ν → List (Metric ν)
  | .compute _ c _ => c.nodes
  | .computeAll _ cs => cs.flatMap (·.1.nodes)
  | .regroup r => r.nodes
  | .iterate t => t.nodes
  | .stats ms _ => Metric.nodesOfAll ms
  | .filterGroups f => f.nodes

/-- What a step computes ahead, with the scopes. -/
def computations : Step ν → List (Names × Computation ν)
  | .compute scope c _ => [(scope, c)]
  | .computeAll scope cs => cs.map fun e => (scope, e.1)
  | _ => []

/-! ## Merging -/

theorem nodes_toStep (b : Batch ν) : b.toStep.nodes = b.members.flatMap (·.1.nodes) := by
  unfold Batch.toStep
  split
  · simp_all [nodes]
  · rfl

theorem computations_toStep (b : Batch ν) :
    b.toStep.computations = b.members.map fun e => (b.scope, e.1) := by
  unfold Batch.toStep
  split
  · simp_all [computations]
  · rfl

/-- Merging neither adds nor drops what hangs on single computations. -/
theorem flatMap_mergeInto {α : Type} {f : Step ν → List α}
    {g : Names → Computation ν → String → List α}
    (compute : ∀ scope c name, f (.compute scope c name) = g scope c name)
    (batch : ∀ b : Batch ν, f b.toStep = b.members.flatMap fun e => g b.scope e.1 e.2)
    (opened : Option (Batch ν)) (steps : List (Step ν)) :
    (mergeInto opened steps).flatMap f =
      (opened.map Batch.toStep).toList.flatMap f ++ steps.flatMap f := by
  fun_induction mergeInto opened steps with
  | case1 => rw [List.flatMap_nil, List.append_nil]
  | case2 scope c name rest ih =>
    rw [ih]
    simp [batch, compute]
  | case3 scope c name rest b admitted ih =>
    simp only [Batch.admits, Bool.and_eq_true, beq_iff_eq] at admitted
    rw [ih]
    simp [batch, compute, admitted.1]
  | case4 scope c name rest b refused ih =>
    rw [List.flatMap_cons, ih]
    simp [batch, compute]
  | case5 opened step rest other ih =>
    rw [List.flatMap_append, List.flatMap_cons, ih]
    simp

theorem nodes_mergeComputations (steps : List (Step ν)) :
    (mergeComputations steps).flatMap nodes = steps.flatMap nodes :=
  flatMap_mergeInto (g := fun _ c _ => c.nodes) (fun _ _ _ => rfl) nodes_toStep none steps

theorem computations_mergeComputations (steps : List (Step ν)) :
    (mergeComputations steps).flatMap computations = steps.flatMap computations :=
  flatMap_mergeInto (g := fun scope c _ => [(scope, c)]) (fun _ _ _ => rfl)
    (fun b => by rw [computations_toStep, List.map_eq_flatMap]) none steps

variable [Numeric ν]

theorem settled_alongTerms {m : Metric ν} (settled : Settled m.nodes) :
    Settled (alongTerms m).nodes := by
  rw [Metric.settled_iff] at settled ⊢
  refine List.subset_nil.mp (settled ▸ Metric.collect_revise Metric.shallow_isUnsettled
    ⟨fun m => ?_, fun _ => List.Subset.refl _, fun _ => List.Subset.refl _⟩ m)
  cases m <;> exact List.Subset.refl _

omit [Numeric ν] in
theorem settled_walkOf {rowLimit : Option Nat} {stats : List (Metric ν)}
    {formats : List (Option String)} {r : Regrouping ν} {walk : TermStats ν}
    (h : walkOf? rowLimit stats formats r = some walk) (regrouped : Settled r.nodes)
    (measured : Settled (Metric.nodesOfAll stats)) : Settled walk.nodes := by
  unfold walkOf? at h
  split at h
  · obtain rfl := Option.some.inj h
    exact settled_append.mpr ⟨regrouped, measured⟩
  · obtain rfl := Option.some.inj h
    exact measured
  · simp at h

theorem settled_iterateLast (rowLimit : Option Nat) (steps : List (Step ν))
    (settled : Settled (steps.flatMap nodes)) :
    Settled ((iterateLast rowLimit steps).flatMap nodes) := by
  fun_induction iterateLast rowLimit steps with
  | case1 => exact settled
  | case2 field filter limit metric =>
    simpa [nodes, TermStats.nodes, Regrouping.nodes, Metric.collectAll] using settled
  | case3 r metrics formats walk found =>
    rw [Option.ite_none_right_eq_some] at found
    simp only [List.flatMap_cons, List.flatMap_nil, List.append_nil, nodes, settled_append]
      at settled ⊢
    refine settled_walkOf found.2 settled.1 fun n hn => ?_
    rw [Metric.nodesOfAll, Metric.collectAll_eq_flatMap, List.flatMap_map] at hn
    obtain ⟨m, hm, hn⟩ := List.mem_flatMap.mp hn
    refine settled_alongTerms (fun k hk => settled.2 k ?_) n hn
    rw [Metric.nodesOfAll, Metric.collectAll_eq_flatMap]
    exact List.mem_flatMap.mpr ⟨m, hm, hk⟩
  | case4 => exact settled
  | case5 step rest _ _ ih =>
    rw [List.flatMap_cons, settled_append] at settled ⊢
    exact ⟨settled.1, ih settled.2⟩

theorem computations_iterateLast (rowLimit : Option Nat) (steps : List (Step ν)) :
    (iterateLast rowLimit steps).flatMap computations = steps.flatMap computations := by
  fun_induction iterateLast rowLimit steps with
  | case5 step rest _ _ ih => rw [List.flatMap_cons, List.flatMap_cons, ih]
  | _ => rfl

theorem settled_merge (rowLimit : Option Nat) {steps : List (Step ν)}
    (settled : Settled (steps.flatMap nodes)) :
    Settled ((merge rowLimit steps).flatMap nodes) := by
  rw [merge, nodes_mergeComputations]
  exact settled_iterateLast rowLimit steps settled

theorem computations_merge (rowLimit : Option Nat) (steps : List (Step ν)) :
    (merge rowLimit steps).flatMap computations = steps.flatMap computations := by
  rw [merge, computations_mergeComputations, computations_iterateLast]

end Step

/-! ## Regroupings -/

theorem Aggregate.Grouping.nodes_regrouping {g : Grouping ν} {scope : Names} {r : Regrouping ν}
    (h : g.regrouping scope = .ok r) : r.nodes = g.nodes := by
  cases g <;> simp only [Grouping.regrouping, bind_eq_ok] at h
  case predicate =>
    obtain ⟨_, _, h⟩ := h
    obtain rfl := Except.ok.inj h
    rfl
  all_goals
    obtain rfl := Except.ok.inj h
    rfl

theorem Aggregate.Grouping.faultless_regrouping (g : Grouping ν) {scope : Names} :
    Faultless (g.regrouping scope) := by
  cases g with
  | predicate f =>
    exact (Faultless.collect (fun _ => f.faultless_truth) scope).bind fun _ => .ok _
  | _ => exact .ok _

namespace Regrouping

variable {r : Regrouping ν} {c : Command ν}

theorem faultless_programs (metrics : Dictionary Doc.Metric) : Faultless (programs metrics) :=
  .mapM fun e _ => e.2.faultless_pushes.bind fun _ => .pure _

theorem faultless_command (r : Regrouping ν) : Faultless r.command := by
  cases r with
  | metric metrics | randomMetric metrics =>
    exact (faultless_programs metrics).bind fun _ => .ok _
  | _ => exact .ok _

theorem nodes_walk (filter : Option (Aggregate.Filter ν)) (limit : Option Nat)
    (m : Option (Metric ν)) :
    (walk filter limit m).nodes = Filter.nodesOption filter ++ Metric.nodesOption m := by
  cases limit <;> cases m <;> rfl

theorem nodes_command (h : r.command = .ok c) : c.nodes = r.nodes := by
  cases r with
  | terms _ x limit m =>
    obtain rfl := Except.ok.inj h
    exact nodes_walk x limit m
  | metric | randomMetric =>
    simp only [command, bind_eq_ok] at h
    obtain ⟨_, _, h⟩ := h
    obtain rfl := Except.ok.inj h
    rfl
  | _ =>
    obtain rfl := Except.ok.inj h
    rfl

end Regrouping

theorem TermStats.nodes_command (t : TermStats ν) : t.command.nodes = t.nodes :=
  congrArg (· ++ Metric.nodesOfAll t.stats) (Regrouping.nodes_walk t.filter t.limit t.metric)

/-! ## Recipes -/

variable [Numeric ν] {scope : Names}

namespace Computation

variable {c : Computation ν} {r : Recipe ν}

/-- The metrics in the commands of a recipe. -/
def Recipe.nodes (r : Recipe ν) : List (Metric ν) :=
  r.before.flatMap Command.nodes ++ r.measurement.nodes ++ r.after.flatMap Command.nodes

omit [Numeric ν] in
theorem faultless_checkDatasets {field : FieldSet} (same : field.datasets = scope) :
    Faultless (checkDatasets scope field) := by
  rw [checkDatasets, if_pos (beq_iff_eq.mpr same)]
  exact .ok _

omit [Numeric ν] in
theorem eq_of_checkDatasets {field : FieldSet} {u : Unit}
    (h : checkDatasets scope field = .ok u) : field.datasets = scope := by
  unfold checkDatasets at h
  split at h
  · exact beq_iff_eq.mp ‹_›
  · exact absurd h nofun

theorem faultless_recipe (apt : c.Apt scope) : Faultless (c.recipe scope) := by
  cases c with
  | sumAcross | extreme => exact (faultless_checkDatasets (apt _ rfl)).bind fun _ => .ok _
  | sumAcrossGrouping g =>
    exact g.faultless_regrouping.bind fun r => r.faultless_command.bind fun _ => .ok _
  | distinct | percentile | rawStats | bootstrap => exact .ok _

theorem apt_of_recipe (h : c.recipe scope = .ok r) : c.Apt scope := by
  cases c with
  | sumAcross | extreme =>
    simp only [recipe, bind_eq_ok] at h
    obtain ⟨_, checked, _⟩ := h
    rintro _ ⟨⟩
    exact eq_of_checkDatasets checked
  | sumAcrossGrouping | distinct | percentile | rawStats | bootstrap => rintro _ ⟨⟩

/-- What is measured and regrouped for a computation are its own metrics, or sums over
documents. -/
theorem settled_recipe (settled : Settled c.nodes) (h : c.recipe scope = .ok r) :
    Settled r.nodes := by
  cases c with
  | rawStats m =>
    obtain rfl := Except.ok.inj h
    simpa [Recipe.nodes, Measurement.nodes, Metric.collectAll] using
      settled_sum_docStatsIn scope fun _ => m
  | sumAcross | extreme =>
    simp only [recipe, bind_eq_ok] at h
    obtain ⟨_, _, h⟩ := h
    obtain rfl := Except.ok.inj h
    simpa [Recipe.nodes, Measurement.nodes, nodes] using settled
  | sumAcrossGrouping g m =>
    simp only [recipe, bind_eq_ok] at h
    obtain ⟨k, hk, command, hcommand, h⟩ := h
    obtain rfl := Except.ok.inj h
    rw [nodes, settled_append, ← Grouping.nodes_regrouping hk,
      ← Regrouping.nodes_command hcommand] at settled
    refine settled_append.mpr ⟨settled_append.mpr ⟨?_, ?_⟩, settled_nil⟩
    · simpa using settled.1
    · simpa [Measurement.nodes, Metric.collectAll] using settled.2
  | percentile =>
    obtain rfl := Except.ok.inj h
    exact settled
  | distinct | bootstrap =>
    obtain rfl := Except.ok.inj h
    simpa [Recipe.nodes, Measurement.nodes, nodes, and_comm] using settled

end Computation

/-! ## Commands of steps -/

namespace Step

variable {step : Step ν} {commands : List (Command ν)}

theorem faultless_commands (apt : ∀ x ∈ step.computations, x.2.Apt x.1) :
    Faultless step.commands := by
  cases step with
  | compute scope c name =>
    exact (Computation.faultless_recipe (apt _ (List.mem_singleton_self _))).bind fun _ => .pure _
  | computeAll scope cs =>
    refine Faultless.bind (Faultless.mapM fun e he => ?_) fun rs => ?_
    · exact (Computation.faultless_recipe (apt (scope, e.1) (List.mem_map_of_mem he))).bind
        fun _ => .pure _
    · split <;> exact .pure _
  | regroup r => exact r.faultless_command.bind fun _ => .pure _
  | iterate | stats | filterGroups => exact .ok _

theorem apt_of_commands (h : step.commands = .ok commands) :
    ∀ x ∈ step.computations, x.2.Apt x.1 := by
  cases step with
  | compute scope c name =>
    simp only [Step.commands, bind_eq_ok] at h
    obtain ⟨r, hr, _⟩ := h
    exact List.forall_mem_singleton.mpr (Computation.apt_of_recipe hr)
  | computeAll scope cs =>
    simp only [Step.commands, bind_eq_ok] at h
    obtain ⟨rs, hrs, _⟩ := h
    intro x hx
    obtain ⟨e, he, rfl⟩ := List.mem_map.mp hx
    obtain ⟨_, made⟩ := mapM_eq_ok_of_mem hrs he
    simp only [bind_eq_ok] at made
    obtain ⟨r, hr, _⟩ := made
    exact Computation.apt_of_recipe hr
  | regroup | iterate | stats | filterGroups => exact fun _ hx => absurd hx List.not_mem_nil

omit [Numeric ν] in
theorem nodes_keepCommands (r : Computation.Recipe ν) (name : String) :
    (keepCommands r name).flatMap Command.nodes = r.nodes := by
  simp [keepCommands, Computation.Recipe.nodes, Command.nodes]

theorem settled_commands (settled : Settled step.nodes) (h : step.commands = .ok commands) :
    Settled (commands.flatMap Command.nodes) := by
  cases step with
  | compute scope c name =>
    simp only [Step.commands, bind_eq_ok, pure_eq_ok] at h
    obtain ⟨r, hr, rfl⟩ := h
    rw [nodes_keepCommands]
    exact Computation.settled_recipe settled hr
  | computeAll scope cs =>
    simp only [Step.commands, bind_eq_ok] at h
    obtain ⟨rs, hrs, h⟩ := h
    have made : ∀ e ∈ rs, Settled e.1.nodes := by
      intro e he
      obtain ⟨x, hx, made⟩ := mapM_eq_ok_mem hrs he
      simp only [bind_eq_ok, pure_eq_ok] at made
      obtain ⟨r, hr, rfl⟩ := made
      exact Computation.settled_recipe
        (fun n hn => settled n (List.mem_flatMap.mpr ⟨x, hx, hn⟩)) hr
    split at h
    · obtain rfl := pure_eq_ok.mp h
      rw [List.flatMap_assoc]
      simp only [nodes_keepCommands]
      exact List.forall_mem_flatMap.mpr made
    · obtain rfl := pure_eq_ok.mp h
      rw [List.flatMap_singleton, Command.nodes, List.flatMap_map]
      refine List.forall_mem_flatMap.mpr fun e he n hn => made e he n ?_
      exact List.mem_append_left _ (List.mem_append_right _ hn)
  | regroup r =>
    simp only [Step.commands, bind_eq_ok, pure_eq_ok] at h
    obtain ⟨c, hc, rfl⟩ := h
    rw [List.flatMap_singleton, Regrouping.nodes_command hc]
    exact settled
  | iterate t =>
    obtain rfl := Except.ok.inj h
    rw [List.flatMap_singleton, TermStats.nodes_command]
    exact settled
  | stats | filterGroups =>
    obtain rfl := Except.ok.inj h
    rw [List.flatMap_singleton]
    exact settled

end Step

end Groupwise
