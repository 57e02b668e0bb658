import Groupwise.Proofs.Aggregate.Passes
import Groupwise.Step.Merging
import Mathlib.Data.Set.Basic

/-!
# Steps that read what was computed

A list of steps is ready when every name that a step looks up was computed by a step before it. The
merging of steps neither makes a list ready nor spoils it.
-/
namespace Groupwise

open Aggregate

variable {ν : Type}

/-- The names that a regrouping looks up. -/
def Regrouping.lookups : Regrouping ν → List String
  | .terms _ x _ m _ => Filter.lookupsOption x ++ Metric.lookupsOption m
  | _ => []

/-- The names that a walk over terms looks up. -/
def TermStats.lookups (t : TermStats ν) : List String :=
  Filter.lookupsOption t.filter ++ Metric.lookupsOption t.metric ++ Metric.lookupsOfAll t.stats

namespace Step

/-- The names that a step looks up. -/
def lookups : Step ν → List String
  | .compute _ c _ => c.lookedUp
  | .computeAll _ cs => cs.flatMap (·.1.lookedUp)
  | .regroup r => r.lookups
  | .iterate t => t.lookups
  | .stats ms _ => Metric.lookupsOfAll ms
  | .filterGroups f => f.lookups

/-- The names under which a step keeps results. -/
def outputs : Step ν → List String
  | .compute _ c name => c.outputs name
  | .computeAll _ cs => cs.flatMap fun e => e.1.outputs e.2
  | _ => []

@[simp] theorem lookups_compute (scope : Names) (c : Computation ν) (name : String) :
    (compute scope c name).lookups = c.lookedUp := rfl

@[simp] theorem outputs_compute (scope : Names) (c : Computation ν) (name : String) :
    (compute scope c name).outputs = c.outputs name := rfl

@[simp] theorem outputs_regroup (r : Regrouping ν) : (regroup r).outputs = [] := rfl

@[simp] theorem outputs_filterGroups (f : Aggregate.Filter ν) : (filterGroups f).outputs = [] := rfl

/-- Every name that a step looks up is computed by a step before it. -/
def ComputedBeforeRead (steps : List (Step ν)) : Prop :=
  ∀ before step after, steps = before ++ step :: after →
    ∀ name ∈ step.lookups, ∃ earlier ∈ before, name ∈ earlier.outputs

/-- The names that some steps compute. -/
def computed (steps : List (Step ν)) : Set String :=
  {name | ∃ step ∈ steps, name ∈ step.outputs}

/-- Every name that a step looks up is known at the start or computed by a step before it. -/
def Ready (known : Set String) : List (Step ν) → Prop
  | [] => True
  | step :: rest =>
    (∀ name ∈ step.lookups, name ∈ known) ∧ Ready (known ∪ {name | name ∈ step.outputs}) rest

variable {known : Set String} {step : Step ν} {steps others : List (Step ν)}

@[simp] theorem computed_nil : computed ([] : List (Step ν)) = ∅ := by
  simp [computed]

@[simp] theorem computed_cons :
    computed (step :: steps) = {name | name ∈ step.outputs} ∪ computed steps := by
  ext name
  simp [computed]

@[simp] theorem computed_append :
    computed (steps ++ others) = computed steps ∪ computed others := by
  ext name
  simp [computed, or_and_right, exists_or]

theorem ready_append : Ready known (steps ++ others) ↔
    Ready known steps ∧ Ready (known ∪ computed steps) others := by
  induction steps generalizing known with
  | nil => simp [Ready]
  | cons step rest ih =>
    rw [List.cons_append, Ready, Ready, ih, computed_cons, Set.union_assoc, and_assoc]

theorem ready_iff : Ready known steps ↔ ∀ before step after, steps = before ++ step :: after →
    ∀ name ∈ step.lookups, name ∈ known ∪ computed before := by
  constructor
  · rintro h before step after rfl
    exact (ready_append.mp h).2.1
  · intro h
    induction steps generalizing known with
    | nil => trivial
    | cons step rest ih =>
      refine ⟨fun name hn => by simpa using h [] step rest rfl name hn, ih ?_⟩
      intro before next after hrest name hn
      have found := h (step :: before) next after (by rw [hrest]; rfl) name hn
      rwa [computed_cons, ← Set.union_assoc] at found

theorem computedBeforeRead_iff_ready : ComputedBeforeRead steps ↔ Ready ∅ steps := by
  rw [ready_iff]
  simp [ComputedBeforeRead, computed]

/-! ## Merging computations -/

namespace Batch

theorem lookups_toStep (b : Batch ν) : b.toStep.lookups = b.members.flatMap (·.1.lookedUp) := by
  unfold toStep
  split
  · simp_all [lookups]
  · rfl

theorem outputs_toStep (b : Batch ν) :
    b.toStep.outputs = b.members.flatMap fun e => e.1.outputs e.2 := by
  unfold toStep
  split
  · simp_all [outputs]
  · rfl

/-- What joins a batch looks up none of its results. -/
theorem disjoint_of_admits {b : Batch ν} {scope : Names} {c : Computation ν}
    (h : b.admits scope c = true) {name : String} (hn : name ∈ c.lookedUp) :
    name ∉ b.toStep.outputs := by
  simp only [admits, Bool.and_eq_true, Bool.not_eq_true', List.any_eq_false] at h
  rw [outputs_toStep]
  simp only [List.mem_flatMap, not_exists, not_and]
  intro e he found
  have := h.2 e he
  simp_all

end Batch

/-- Joining a batch is as good as coming right behind it. -/
theorem ready_admitted {b : Batch ν} {scope : Names} {c : Computation ν} {name : String}
    (h : b.admits scope c = true) :
    Ready known (Batch.toStep ⟨b.scope, b.members ++ [(c, name)]⟩ :: steps) ↔
      Ready known (b.toStep :: .compute scope c name :: steps) := by
  have apart : (∀ n ∈ c.lookedUp, n ∈ known ∪ {n | n ∈ b.toStep.outputs}) ↔
      ∀ n ∈ c.lookedUp, n ∈ known := by
    refine forall₂_congr fun n hn => ?_
    simp [Batch.disjoint_of_admits h hn]
  have outputs : {n | n ∈ (Batch.toStep ⟨b.scope, b.members ++ [(c, name)]⟩).outputs} =
      {n | n ∈ b.toStep.outputs} ∪ {n | n ∈ c.outputs name} := by
    ext n
    simp [Batch.outputs_toStep]
  have lookups : (∀ n ∈ (Batch.toStep ⟨b.scope, b.members ++ [(c, name)]⟩).lookups, n ∈ known) ↔
      (∀ n ∈ b.toStep.lookups, n ∈ known) ∧ ∀ n ∈ c.lookedUp, n ∈ known := by
    simp [Batch.lookups_toStep, or_imp, forall_and]
  rw [Ready, Ready, Ready, outputs, lookups, lookups_compute, apart, outputs_compute,
    Set.union_assoc, and_assoc]

/-- An open batch counts like a step in front. -/
theorem ready_mergeInto (batch : Option (Batch ν)) (steps : List (Step ν)) :
    Ready known (mergeInto batch steps) ↔
      Ready known ((batch.map Batch.toStep).toList ++ steps) := by
  fun_induction mergeInto batch steps generalizing known with
  | case1 batch => rw [List.append_nil]
  | case2 scope c name rest ih =>
    rw [ih]
    rfl
  | case3 scope c name rest b admitted ih =>
    rw [ih]
    exact ready_admitted admitted
  | case4 scope c name rest b refused ih =>
    rw [Ready, ih]
    rfl
  | case5 batch step rest other ih =>
    rw [ready_append, ready_append, Ready, Ready, ih]
    rfl

theorem ready_mergeComputations : Ready known (mergeComputations steps) ↔ Ready known steps :=
  ready_mergeInto none steps

/-! ## The last walk -/

theorem lookups_alongTerms [Numeric ν] (m : Metric ν) :
    (alongTerms m).lookups ⊆ m.lookups := by
  refine Metric.collect_revise Metric.shallow_lookedUp ⟨fun m => ?_, fun _ => List.Subset.refl _,
    fun _ => List.Subset.refl _⟩ m
  cases m <;> exact List.Subset.refl _

theorem lookups_walkOf {rowLimit : Option Nat} {stats : List (Metric ν)}
    {formats : List (Option String)} {r : Regrouping ν} {walk : TermStats ν}
    (h : walkOf? rowLimit stats formats r = some walk) :
    walk.lookups = r.lookups ++ Metric.lookupsOfAll stats := by
  unfold walkOf? at h
  split at h
  · obtain rfl := Option.some.inj h
    rfl
  · obtain rfl := Option.some.inj h
    rfl
  · simp at h

variable [Numeric ν]

theorem iterateLast_cons {rowLimit : Option Nat} (h : 2 ≤ steps.length) :
    iterateLast rowLimit (step :: steps) = step :: iterateLast rowLimit steps := by
  match steps, h with
  | a :: b :: rest, _ =>
    rw [iterateLast]
    · simp
    · simp

/-- The walk in place of the last regrouping is ready if the regrouping is. -/
theorem ready_iterateLast_regroup {rowLimit : Option Nat} {ms : List (Metric ν)}
    {formats : List (Option String)} {r : Regrouping ν}
    (found : ∀ name ∈ Metric.lookupsOfAll ms, name ∈ known) :
    Ready known (iterateLast rowLimit [.regroup r, .stats ms formats]) ↔
      Ready known [.regroup r] := by
  rw [iterateLast]
  split
  · rename_i walk hwalk
    rw [Option.ite_none_right_eq_some] at hwalk
    have along : ∀ name ∈ Metric.lookupsOfAll (ms.map alongTerms), name ∈ known := by
      intro name hn
      rw [Metric.lookupsOfAll, Metric.collectAll_eq_flatMap] at hn
      obtain ⟨_, mapped, hn⟩ := List.mem_flatMap.mp hn
      obtain ⟨m, hm, rfl⟩ := List.mem_map.mp mapped
      refine found name ?_
      rw [Metric.lookupsOfAll, Metric.collectAll_eq_flatMap]
      exact List.mem_flatMap.mpr ⟨m, hm, lookups_alongTerms m hn⟩
    simp only [Ready, lookups, lookups_walkOf hwalk.2, List.mem_append, or_imp, forall_and,
      and_iff_left along]
  · simp only [Ready, lookups, outputs_regroup]
    simpa using fun _ => found

theorem ready_iterateLast {rowLimit : Option Nat} {ms : List (Metric ν)}
    {formats : List (Option String)}
    (found : ∀ name ∈ Metric.lookupsOfAll ms, name ∈ known ∪ computed steps) :
    Ready known (iterateLast rowLimit (steps ++ [.stats ms formats])) ↔ Ready known steps := by
  induction steps generalizing known with
  | nil => simpa [iterateLast, Ready, Step.lookups] using found
  | cons step rest ih =>
    rw [computed_cons, ← Set.union_assoc] at found
    rcases rest with _ | ⟨next, rest⟩
    · by_cases regroups : ∃ r, step = .regroup r
      · obtain ⟨r, rfl⟩ := regroups
        exact ready_iterateLast_regroup (by simpa using found)
      · have kept : iterateLast rowLimit [step, .stats ms formats] =
            step :: iterateLast rowLimit [.stats ms formats] := by
          cases step <;> first | rfl | exact absurd ⟨_, rfl⟩ regroups
        rw [List.cons_append, List.nil_append, kept, Ready, Ready]
        exact and_congr_right fun _ => ih found
    · rw [List.cons_append, iterateLast_cons (by simp), Ready, Ready, ih found]

/-- Merging neither makes steps ready nor spoils them, when the selected numbers look up only what
is computed at all. -/
theorem ready_merge {rowLimit : Option Nat} {ms : List (Metric ν)} {formats : List (Option String)}
    (found : ∀ name ∈ Metric.lookupsOfAll ms, name ∈ known ∪ computed steps) :
    Ready known (merge rowLimit (steps ++ [.stats ms formats])) ↔ Ready known steps := by
  rw [merge, ready_mergeComputations, ready_iterateLast found]

end Step

end Groupwise
