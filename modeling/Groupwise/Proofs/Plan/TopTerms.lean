import Groupwise.Proofs.Plan.Fitness
import Groupwise.Proofs.Step.Commands

/-!
# Filters of top terms in the schedule

The filter of the groups behind a limited grouping by terms is meant to choose the terms before the
limit does. It moves into the grouping for that, but extraction moves it out again when it needs a
walk over terms. Such a filter then comes behind the step that has already applied the limit.
-/
namespace Groupwise

open Aggregate

variable {ν : Type}

/-! ## How steps split groups -/

/-- What a step that splits groups does about terms, and the filters of the new groups behind it. -/
structure Split (ν : Type) where
  /-- The field whose terms the new groups are of, if they are of terms. -/
  field : Option FieldSet
  /-- The terms among which the first ones are taken. -/
  filter : Option (Aggregate.Filter ν)
  limit : Option Nat
  behind : List (Aggregate.Filter ν)

def Regrouping.split (behind : List (Aggregate.Filter ν)) : Regrouping ν → Split ν
  | .terms field filter limit _ _ => ⟨some field, filter, limit, behind⟩
  | .termsIn field .. => ⟨some field, none, none, behind⟩
  | _ => ⟨none, none, none, behind⟩

def TermStats.split (behind : List (Aggregate.Filter ν)) (t : TermStats ν) : Split ν :=
  ⟨some t.field, t.filter, t.limit, behind⟩

namespace Step

/-- The filters of groups in front of the first split of some steps, and the splits in order. -/
def scan : List (Step ν) → List (Aggregate.Filter ν) × List (Split ν)
  | [] => ([], [])
  | .regroup r :: rest => ([], r.split (scan rest).1 :: (scan rest).2)
  | .iterate t :: rest => ([], t.split (scan rest).1 :: (scan rest).2)
  | .filterGroups f :: rest => (f :: (scan rest).1, (scan rest).2)
  | .compute .. :: rest | .computeAll .. :: rest | .stats .. :: rest => scan rest

/-- The splits of some steps. -/
def splits (steps : List (Step ν)) : List (Split ν) := (scan steps).2

variable {step : Step ν} {rest others : List (Step ν)}

theorem scan_cons_congr (h : scan rest = scan others) :
    scan (step :: rest) = scan (step :: others) := by
  cases step <;> simp only [scan, h]

@[simp] theorem scan_toStep (b : Batch ν) : scan (b.toStep :: rest) = scan rest := by
  unfold Batch.toStep
  split <;> rfl

@[simp] theorem scan_computedAt (tasks : List (Task ν)) (phase : Phase) (depth : Nat) :
    scan (computedAt tasks phase depth ++ rest) = scan rest := by
  unfold computedAt
  induction tasks.filter fun t => t.phase == phase && t.depth == depth with
  | nil => rfl
  | cons _ _ ih => exact ih

theorem scan_mergeInto (batch : Option (Batch ν)) (steps : List (Step ν)) :
    scan (mergeInto batch steps) = scan steps := by
  fun_induction mergeInto batch steps with
  | case1 batch => cases batch <;> simp
  | case2 _ _ _ _ ih | case3 _ _ _ _ _ _ ih => exact ih
  | case4 _ _ _ _ _ _ ih => rwa [scan_toStep]
  | case5 batch _ _ _ ih => cases batch <;> simpa using scan_cons_congr ih

/-- A walk in place of the last regrouping visits the same terms. -/
theorem scan_walkOf {rowLimit : Option Nat} {metrics : List (Metric ν)}
    {formats : List (Option String)} {r : Regrouping ν} {walk : TermStats ν}
    (h : walkOf? rowLimit metrics formats r = some walk) :
    scan (.iterate walk :: rest) = scan (.regroup r :: rest) := by
  unfold walkOf? at h
  split at h
  · obtain rfl := Option.some.inj h
    rfl
  · obtain rfl := Option.some.inj h
    rfl
  · exact absurd h nofun

variable [Numeric ν]

theorem scan_iterateLast (rowLimit : Option Nat) (steps : List (Step ν)) :
    scan (iterateLast rowLimit steps) = scan steps := by
  fun_induction iterateLast rowLimit steps with
  | case1 | case2 | case4 => rfl
  | case3 r metrics formats walk hwalk =>
    rw [Option.ite_none_right_eq_some] at hwalk
    exact scan_walkOf hwalk.2
  | case5 _ _ _ _ ih => exact scan_cons_congr ih

/-- Merging changes nothing about how steps split groups. -/
theorem splits_merge (rowLimit : Option Nat) (steps : List (Step ν)) :
    splits (merge rowLimit steps) = splits steps := by
  rw [splits, merge, mergeComputations, scan_mergeInto, scan_iterateLast, splits]

end Step

/-! ## Schedules -/

/-- The splits of a schedule are those of its stages, if it has a level for each of them. -/
theorem scan_levels (tasks : List (Task ν)) (depth : Nat) {count : Nat}
    {stages : List (Regrouping ν × Option (Aggregate.Filter ν))} (enough : stages.length ≤ count)
    {rest : List (Step ν)} (last : Step.scan rest = ([], [])) :
    Step.scan (levels tasks depth count stages ++ rest) =
      ([], stages.map fun s => s.1.split s.2.toList) := by
  induction count generalizing depth stages with
  | zero =>
    obtain rfl := List.length_eq_zero_iff.mp (Nat.le_zero.mp enough)
    exact last
  | succ count ih =>
    rcases stages with _ | ⟨⟨r, having⟩, stages⟩
    · have deeper := @ih (depth + 1) [] (Nat.zero_le _)
      simpa [levels] using deeper
    · have deeper := ih (depth + 1) (Nat.le_of_succ_le_succ enough)
      cases having <;> simp [levels, Step.scan, deeper]

/-- The split of a stage by terms that is left of an extracted plan. -/
theorem Extracted.splits_getElem? {e : Extracted ν} {steps : List (Step ν)}
    (h : e.steps = .ok steps) {i : Nat} {f : FieldSet} {filter having : Option (Aggregate.Filter ν)}
    {limit : Option Nat} {m : Option (Metric ν)} {d : Bool} {label : Option String}
    (stage : e.plan.stages[i]? = some ⟨.terms f filter limit m d, having, label⟩) :
    (Step.splits steps)[i]? = some ⟨some f, filter, limit, having.toList⟩ := by
  simp only [Extracted.steps, bind_eq_ok, pure_eq_ok] at h
  obtain ⟨stages, hstages, rfl⟩ := h
  obtain ⟨_, here, made⟩ := mapM_eq_ok_getElem? hstages stage
  simp only [Grouping.regrouping, bind_eq_ok, pure_eq_ok] at made
  obtain ⟨_, ⟨⟩, rfl⟩ := made
  rw [Step.splits, scan_levels _ _ (le_levels_count e.tasks stages.length).1 rfl,
    List.getElem?_map, here]
  rfl

/-! ## Plans -/

section Plans

variable [Numeric ν]

theorem Stage.extractAll_getElem? {scope : Names} {depth i : Nat} {stages us : List (Stage ν)}
    {before after : List (Task ν)} {s : Stage ν} (stage : stages[i]? = some s)
    (h : (Stage.extractAll scope depth stages).run before = .ok (us, after)) :
    ∃ u noted noted', us[i]? = some u ∧
      (s.extract scope (depth + i)).run noted = .ok (u, noted') := by
  induction stages generalizing depth i us before with
  | nil => exact absurd stage (by simp)
  | cons first rest ih =>
    simp only [Stage.extractAll, run_bind_eq_ok, run_pure_eq_ok] at h
    obtain ⟨u, between, hu, others, _, hothers, rfl, rfl⟩ := h
    cases i with
    | zero =>
      obtain rfl := Option.some.inj stage
      exact ⟨u, before, between, rfl, hu⟩
    | succ i =>
      rw [← Nat.add_assoc, Nat.add_right_comm]
      simpa using ih (by simpa using stage) hothers

namespace Plan

/-- The filter of groups of a plan as extraction meets it: its references are replaced, and it is
simplified. -/
def prepare (p : Plan ν) (f : Aggregate.Filter ν) : CompileM (Aggregate.Filter ν) := do
  let definitions ← Definitions.enter [] p.selects
  pure ((← f.traverse definitions.substitute).revise simplification)

variable {p q : Plan ν} {i : Nat} {f : FieldSet} {limit : Nat} {m : Option (Metric ν)} {d : Bool}
  {having : Aggregate.Filter ν} {label : Option String}

/-- The filter behind a limited grouping by terms moves into the grouping. -/
theorem stages_prepared (hq : p.substitute = .ok q)
    (stage : p.stages[i]? = some ⟨.terms f none (some limit) m d, some having, label⟩) :
    ∃ prepared order, p.prepare having = .ok prepared ∧
      q.simplify.filterTopTerms.stages[i]? =
        some ⟨.terms f (some prepared) (some limit) order d, none, label⟩ := by
  simp only [substitute, traverse, bind_eq_ok, pure_eq_ok] at hq
  obtain ⟨definitions, hdefinitions, stages, hstages, selects, _, rfl⟩ := hq
  obtain ⟨s, here, made⟩ := mapM_eq_ok_getElem? hstages stage
  simp only [Stage.traverse, Grouping.traverse, traverseOption, bind_eq_ok, pure_eq_ok] at made
  obtain ⟨_, ⟨_, rfl, order, _, rfl⟩, _, ⟨expanded, hexpanded, rfl⟩, rfl⟩ := made
  refine ⟨expanded.revise simplification, Metric.reviseOption simplification order, ?_, ?_⟩
  · simp only [prepare, bind_eq_ok, pure_eq_ok]
    exact ⟨definitions, hdefinitions, expanded, hexpanded, rfl⟩
  · simp [filterTopTerms, simplify, revise, here, Stage.revise, Grouping.revise, simplification,
      Filter.reviseOption, Stage.filterTopTerms]

/-- Extraction takes the stages first. -/
theorem run_stages_of_extract {e : Extracted ν} (h : p.extract = .ok e) :
    ∃ between, (Stage.extractAll p.scope 1 p.stages).run [] = .ok (e.plan.stages, between) := by
  have run := run_of_extract h
  simp only [Plan.extractM, run_bind_eq_ok, run_pure_eq_ok] at run
  obtain ⟨stages, between, hstages, _, _, _, same, _⟩ := run
  rw [← same]
  exact ⟨between, hstages⟩

theorem scope_substitute (hq : p.substitute = .ok q) : q.scope = p.scope := by
  simp only [substitute, traverse, bind_eq_ok, pure_eq_ok] at hq
  obtain ⟨_, _, _, _, _, _, rfl⟩ := hq
  rfl

end Plan

/-- Extraction leaves the filter of top terms in the grouping exactly if it needs no walk over
terms. -/
theorem Stage.extract_topTerms {scope : Names} {depth limit : Nat} {f : FieldSet}
    {filter : Aggregate.Filter ν} {m : Option (Metric ν)} {d : Bool} {label : Option String}
    {before after : List (Task ν)} {u : Stage ν}
    (h : (Stage.extract scope depth ⟨.terms f (some filter) (some limit) m d, none, label⟩).run
      before = .ok (u, after)) :
    ∃ extracted order noted,
      (filter.extract ⟨depth, depth, depth, scope, if filter.needsTerms then .post else .pre⟩).run
        before = .ok (extracted, noted) ∧
      u = if filter.needsTerms then
          ⟨.terms f none (some limit) order d, some extracted, label⟩
        else ⟨.terms f (some extracted) (some limit) order d, none, label⟩ := by
  unfold Stage.extract at h
  by_cases needs : filter.needsTerms = true
  · simp only [Stage.filter?, Option.any_some, needs, if_true, Stage.extractBehind, run_bind_eq_ok,
      run_pure_eq_ok] at h ⊢
    obtain ⟨extracted, noted, hextracted, order, _, _, rfl, rfl⟩ := h
    exact ⟨extracted, order, noted, hextracted, rfl⟩
  · simp only [Stage.filter?, Option.any_some, needs, if_false, Stage.extractBefore,
      Grouping.extract, Filter.extractOption, run_bind_eq_ok, run_pure_eq_ok, Bool.false_eq_true]
      at h ⊢
    obtain ⟨_, _, ⟨_, noted, ⟨extracted, _, hextracted, rfl, rfl⟩, order, _, _, rfl, rfl⟩,
      _, _, ⟨rfl, rfl⟩, rfl, rfl⟩ := h
    exact ⟨extracted, order, _, hextracted, rfl⟩

namespace Plan

variable {p : Plan ν} {i : Nat} {f : FieldSet} {limit : Nat} {m : Option (Metric ν)} {d : Bool}
  {having : Aggregate.Filter ν} {label : Option String}

/-- The step of a limited grouping by terms with a filter of its groups takes the first terms among
those that pass the filter exactly if the filter needs no walk over terms. Otherwise the step takes
the first of all terms, and the filter comes behind it. -/
theorem split_of_topTerms {program : Program ν} (h : p.program = .ok program)
    (stage : p.stages[i]? = some ⟨.terms f none (some limit) m d, some having, label⟩) :
    ∃ prepared extracted before after, p.prepare having = .ok prepared ∧
      (prepared.extract ⟨i + 1, i + 1, i + 1, p.scope,
        if prepared.needsTerms then .post else .pre⟩).run before = .ok (extracted, after) ∧
      (Step.splits program.steps)[i]? = some
        (if prepared.needsTerms then ⟨some f, none, some limit, [extracted]⟩
        else ⟨some f, some extracted, some limit, []⟩) := by
  simp only [Plan.program, bind_eq_ok, pure_eq_ok] at h
  obtain ⟨q, hq, e, he, _, _, steps, hsteps, rfl⟩ := h
  obtain ⟨prepared, order, hprepared, moved⟩ := stages_prepared hq stage
  obtain ⟨_, hstages⟩ := run_stages_of_extract he
  obtain ⟨u, before, _, here, run⟩ := Stage.extractAll_getElem? moved hstages
  obtain ⟨extracted, order, after, hextracted, rfl⟩ := Stage.extract_topTerms run
  refine ⟨prepared, extracted, before, after, hprepared, ?_, ?_⟩
  · rw [← scope_substitute hq, ← hextracted, Nat.add_comm 1 i]
    rfl
  · rw [Step.splits_merge]
    split at here <;> rename_i needs <;>
      simpa [needs] using Extracted.splits_getElem? hsteps here

/-- The first five countries among those with many documents are visited by the last walk. -/
theorem split_of_topTerms_many :
    let country := FieldSet.single "ads" "country"
    let count : Metric Float := .docStats .count
    let p : Plan Float :=
      { sources := [{ dataset := "ads" }]
        stages := [⟨.terms country none (some 5) none false, some (.compare .gt count (.constant 9)),
          none⟩]
        selects := [count]
        formats := [none] }
    ∃ program walk extracted, p.program = .ok program ∧ program.steps = [.iterate walk] ∧
      (Step.splits program.steps)[0]? = some ⟨some country, some extracted, some 5, []⟩ := by
  intro country count p
  obtain ⟨_, extracted, _, _, prepared, _, split⟩ := split_of_topTerms (p := p) (i := 0) rfl rfl
  cases prepared
  exact ⟨_, _, extracted, rfl, rfl, split⟩

/-- The first five countries are taken among all of them, and those with a single query are dropped
behind that. -/
theorem having_distinct_behind_limit :
    let country := FieldSet.single "ads" "country"
    let queries : Metric Float := .distinct (.single "ads" "q") none none
    let p : Plan Float :=
      { sources := [{ dataset := "ads" }]
        stages := [⟨.terms country none (some 5) none false,
          some (.compare .gt queries (.constant 1)), none⟩]
        selects := [.docStats .count]
        formats := [none] }
    ∃ program, p.program = .ok program ∧
      Step.splits program.steps =
        [⟨some country, none, some 5, [.compare .gt (.lookup "v0") (.constant 1)]⟩] :=
  ⟨_, rfl, rfl⟩

end Plan

end Plans

end Groupwise
