import Groupwise.Proofs.Doc.Conditions
import Groupwise.Proofs.Step.Commands

/-!
# Programs that measure documents

The programs in the commands of a step are those of the document metrics by which the groupings of
the step measure documents. Nothing else becomes a program on the way from steps to commands, and
merging steps adds none.
-/
namespace Groupwise

open Aggregate

open Doc (WrittenFrom)

variable {ν : Type}

/-- The programs of a command under the names of the datasets. -/
def Command.programs : Command ν → Dictionary (List String)
  | .filterDocuments actions => actions.flatMap Action.programs
  | .regroupByMetric programs .. => programs
  | .regroupByRandomMetric programs .. => programs
  | _ => []

/-! ## Regroupings -/

/-- The metrics by which a grouping measures the documents of a dataset. A predicate measures them
by its truth. -/
def Aggregate.Grouping.measured (dataset : String) : Grouping ν → List Doc.Metric
  | .buckets m .. => [m]
  | .predicate f => (f.truth dataset).toOption.toList
  | .randomMetric m .. => [m]
  | _ => []

namespace Regrouping

/-- The metrics by which a regrouping measures documents, under the names of their datasets. -/
def metrics : Regrouping ν → Dictionary Doc.Metric
  | .metric metrics .. => metrics
  | .randomMetric metrics .. => metrics
  | _ => []

/-- The metrics by which a regrouping measures the documents of a dataset. -/
def measured (dataset : String) (r : Regrouping ν) : List Doc.Metric :=
  (r.metrics.filter (·.1 == dataset)).map (·.2)

theorem mem_measured {r : Regrouping ν} {dataset : String} {m : Doc.Metric} :
    m ∈ r.measured dataset ↔ (dataset, m) ∈ r.metrics := by
  simp [measured]

theorem exists_metric_of_programs {metrics : Dictionary Doc.Metric}
    {programs : Dictionary (List String)} (h : Regrouping.programs metrics = .ok programs) :
    ∀ e ∈ programs, ∃ m, (e.1, m) ∈ metrics ∧ m.pushes e.1 = .ok e.2 := by
  intro e he
  obtain ⟨⟨dataset, m⟩, hm, made⟩ := mapM_eq_ok_mem h he
  simp only [bind_eq_ok, pure_eq_ok] at made
  obtain ⟨program, pushes, rfl⟩ := made
  exact ⟨m, hm, pushes⟩

theorem writtenFrom_command {r : Regrouping ν} {c : Command ν} (h : r.command = .ok c) :
    WrittenFrom r.measured c.programs := by
  cases r with
  | metric | randomMetric =>
    simp only [command, bind_eq_ok] at h
    obtain ⟨programs, made, h⟩ := h
    obtain rfl := Except.ok.inj h
    intro e he
    obtain ⟨m, hm, pushes⟩ := exists_metric_of_programs made e he
    exact ⟨m, mem_measured.mpr hm, pushes⟩
  | _ =>
    obtain rfl := Except.ok.inj h
    exact fun _ he => absurd he List.not_mem_nil

end Regrouping

/-- A regrouping measures documents by nothing but what its grouping does. -/
theorem Aggregate.Grouping.measured_regrouping {g : Grouping ν} {scope : Names} {r : Regrouping ν}
    (h : g.regrouping scope = .ok r) (dataset : String) :
    r.measured dataset ⊆ g.measured dataset := by
  intro n hn
  rw [Regrouping.mem_measured] at hn
  cases g <;> simp only [Grouping.regrouping, bind_eq_ok] at h
  case buckets | randomMetric =>
    obtain rfl := Except.ok.inj h
    obtain ⟨_, -, same⟩ := List.mem_map.mp hn
    obtain ⟨-, rfl⟩ := Prod.mk.inj same
    exact List.mem_singleton_self _
  case predicate f =>
    obtain ⟨metrics, made, h⟩ := h
    obtain rfl := Except.ok.inj h
    obtain ⟨-, truth⟩ := Dictionary.mem_of_collect made hn
    simp only [measured, truth]
    exact List.mem_singleton_self _
  all_goals
    obtain rfl := Except.ok.inj h
    exact absurd hn List.not_mem_nil

/-! ## Recipes -/

/-- The grouping by which a computation regroups. -/
def Computation.grouping? : Computation ν → Option (Grouping ν)
  | .sumAcrossGrouping g _ => some g
  | _ => none

/-- The metrics by which the documents of a dataset are measured for a computation. -/
def Computation.measured (dataset : String) (c : Computation ν) : List Doc.Metric :=
  c.grouping?.toList.flatMap (·.measured dataset)

theorem Step.programs_keepCommands (r : Computation.Recipe ν) (name : String) :
    (keepCommands r name).flatMap Command.programs =
      r.before.flatMap Command.programs ++ r.after.flatMap Command.programs := by
  simp [keepCommands, Command.programs]

theorem Computation.writtenFrom_recipe [Numeric ν] {c : Computation ν} {scope : Names}
    {r : Recipe ν} (h : c.recipe scope = .ok r) (name : String) :
    WrittenFrom c.measured ((Step.keepCommands r name).flatMap Command.programs) := by
  rw [Step.programs_keepCommands]
  cases c with
  | sumAcrossGrouping g m =>
    simp only [recipe, bind_eq_ok] at h
    obtain ⟨k, hk, command, hcommand, h⟩ := h
    obtain rfl := Except.ok.inj h
    change WrittenFrom _ ([command].flatMap Command.programs ++ [])
    rw [List.append_nil, List.flatMap_singleton]
    refine (Regrouping.writtenFrom_command hcommand).mono fun dataset => ?_
    simpa [measured, grouping?] using Grouping.measured_regrouping hk dataset
  | sumAcross | extreme =>
    simp only [recipe, bind_eq_ok] at h
    obtain ⟨_, _, h⟩ := h
    obtain rfl := Except.ok.inj h
    exact fun _ he => absurd he List.not_mem_nil
  | distinct | percentile | rawStats | bootstrap =>
    obtain rfl := Except.ok.inj h
    exact fun _ he => absurd he List.not_mem_nil

/-! ## Steps -/

namespace Step

/-- The metrics by which a step measures the documents of a dataset. -/
def measured (dataset : String) : Step ν → List Doc.Metric
  | .compute _ c _ => c.measured dataset
  | .computeAll _ cs => cs.flatMap (·.1.measured dataset)
  | .regroup r => r.measured dataset
  | _ => []

theorem measured_toStep (dataset : String) (b : Batch ν) :
    b.toStep.measured dataset = b.members.flatMap (·.1.measured dataset) := by
  unfold Batch.toStep
  split
  · simp_all [measured]
  · rfl

variable [Numeric ν]

/-- A walk in place of the last regrouping measures no documents. -/
theorem measured_iterateLast (dataset : String) (rowLimit : Option Nat) (steps : List (Step ν)) :
    (iterateLast rowLimit steps).flatMap (measured dataset) ⊆
      steps.flatMap (measured dataset) := by
  fun_induction iterateLast rowLimit steps with
  | case1 | case4 => exact List.Subset.refl _
  | case2 | case3 => exact List.nil_subset _
  | case5 step rest _ _ ih =>
    rw [List.flatMap_cons, List.flatMap_cons]
    exact List.append_subset.mpr
      ⟨List.subset_append_left _ _, List.Subset.trans ih (List.subset_append_right _ _)⟩

theorem measured_merge (dataset : String) (rowLimit : Option Nat) (steps : List (Step ν)) :
    (merge rowLimit steps).flatMap (measured dataset) ⊆ steps.flatMap (measured dataset) := by
  rw [merge, mergeComputations, flatMap_mergeInto (g := fun _ c _ => c.measured dataset)
    (fun _ _ _ => rfl) (measured_toStep dataset)]
  exact measured_iterateLast dataset rowLimit steps

/-- The programs in the commands of a step are those of the metrics by which it measures. -/
theorem writtenFrom_commands {step : Step ν} {commands : List (Command ν)}
    (h : step.commands = .ok commands) :
    WrittenFrom step.measured (commands.flatMap Command.programs) := by
  cases step with
  | compute scope c name =>
    simp only [Step.commands, bind_eq_ok, pure_eq_ok] at h
    obtain ⟨r, hr, rfl⟩ := h
    exact Computation.writtenFrom_recipe hr name
  | computeAll scope cs =>
    simp only [Step.commands, bind_eq_ok] at h
    obtain ⟨rs, hrs, h⟩ := h
    split at h
    · obtain rfl := pure_eq_ok.mp h
      rw [List.flatMap_assoc]
      intro e he
      obtain ⟨x, hx, he⟩ := List.mem_flatMap.mp he
      obtain ⟨c, hc, made⟩ := mapM_eq_ok_mem hrs hx
      simp only [bind_eq_ok, pure_eq_ok] at made
      obtain ⟨r, hr, rfl⟩ := made
      obtain ⟨m, hm, program⟩ := Computation.writtenFrom_recipe hr c.2 e he
      exact ⟨m, List.mem_flatMap.mpr ⟨c, hc, hm⟩, program⟩
    · obtain rfl := pure_eq_ok.mp h
      exact fun _ he => absurd he List.not_mem_nil
  | regroup r =>
    simp only [Step.commands, bind_eq_ok, pure_eq_ok] at h
    obtain ⟨c, hc, rfl⟩ := h
    rw [List.flatMap_singleton]
    exact Regrouping.writtenFrom_command hc
  | iterate | stats | filterGroups =>
    obtain rfl := Except.ok.inj h
    exact fun _ he => absurd he List.not_mem_nil

end Step

end Groupwise
