import Groupwise.Proofs.Doc.QualifiedRouting
import Groupwise.Proofs.Doc.Validation

/-!
# Programs that test documents

The programs in the actions of a filter are those of the comparisons and of the sampled metrics
inside it, each in the datasets that it concerns. They are programs of valid metrics if the filter
is valid there.
-/
namespace Groupwise

/-- The programs of an action under the names of the datasets. -/
def Action.programs : Action → Dictionary (List String)
  | .metric _ programs _ => programs
  | .sampleMetric _ programs _ _ _ => programs
  | _ => []

/-- Joining queries leaves the actions with programs as they are. -/
theorem Action.programs_mergeQueries (actions : List Action) :
    (mergeQueries actions).flatMap programs = actions.flatMap programs := by
  have into (pending : Action) (rest : List Action) :
      (mergeInto pending rest).flatMap programs = (pending :: rest).flatMap programs := by
    fun_induction mergeInto pending rest with
    | case1 => rfl
    | case2 pending next rest joined merged ih =>
      rw [ih]
      unfold merge? at merged
      split at merged
      · split at merged
        · obtain rfl := Option.some.inj merged
          rfl
        · exact absurd merged nofun
      · exact absurd merged nofun
    | case3 pending next rest apart ih =>
      rw [List.flatMap_cons, ih]
      rfl
  cases actions with
  | nil => rfl
  | cons first rest => exact into first rest

namespace Doc

/-- The metric by which a filter without filters inside tests documents, if it does so by one. -/
def Filter.tested? : Filter → Option Metric
  | .compare op l r => some (.compare op l r)
  | .fieldEqual l r => some (.fieldEqual l r)
  | .sampleMetric m _ _ _ => some m
  | _ => none

/-- The metrics by which a filter tests the documents of a dataset. -/
def Filter.tested (dataset : String) (f : Filter) : List Metric :=
  (f.leaves dataset).filterMap Filter.tested?

variable {schema : Schema} {dataset : String}

theorem Filter.valid_of_mem_tested {f : Filter} {m : Metric} (valid : f.Valid schema dataset)
    (hm : m ∈ f.tested dataset) : m.Valid schema dataset := by
  obtain ⟨g, hg, tests⟩ := List.mem_filterMap.mp hm
  have valid := (Filter.valid_of_mem_leaves f valid g hg).2
  cases g <;> simp only [tested?, reduceCtorEq, Option.some.injEq] at tests
  · exact tests ▸ valid
  · obtain ⟨left, hleft, right, hright, comparable⟩ := valid
    exact tests ▸ ⟨⟨left, hleft, comparable.1⟩, right, hright, comparable.2.1⟩
  · exact tests ▸ valid.2

/-- Every program is that of one of the metrics for its dataset. -/
def WrittenFrom (metrics : String → List Metric) (programs : Dictionary (List String)) : Prop :=
  ∀ e ∈ programs, ∃ m ∈ metrics e.1, m.pushes e.1 = .ok e.2

theorem WrittenFrom.mono {metrics more : String → List Metric} {programs : Dictionary (List String)}
    (written : WrittenFrom metrics programs) (subset : ∀ d, metrics d ⊆ more d) :
    WrittenFrom more programs := by
  intro e he
  obtain ⟨m, hm, program⟩ := written e he
  exact ⟨m, subset _ hm, program⟩

/-- The programs of some actions are programs of tested metrics in datasets of a scope. -/
def Writes (scope : Names) (tested : String → List Metric) (actions : List Action) : Prop :=
  ∀ a ∈ actions, ∀ e ∈ a.programs, e.1 ∈ scope ∧ ∃ m ∈ tested e.1, m.pushes e.1 = .ok e.2

namespace Writes

variable {scope inner : Names} {tested others : String → List Metric} {actions more : List Action}

theorem nil : Writes scope tested [] := nofun

theorem append (first : Writes scope tested actions) (second : Writes scope tested more) :
    Writes scope tested (actions ++ more) :=
  List.forall_mem_append.mpr ⟨first, second⟩

/-- Actions that test nothing by a metric. -/
theorem of_programs_eq_nil (none : ∀ a ∈ actions, a.programs = []) :
    Writes scope tested actions := by
  intro a ha e he
  rw [none a ha] at he
  exact absurd he List.not_mem_nil

theorem mono (writes : Writes inner others actions) (narrow : ∀ d ∈ inner, d ∈ scope)
    (more : ∀ d ∈ inner, others d ⊆ tested d) : Writes scope tested actions := by
  intro a ha e he
  obtain ⟨here, m, hm, program⟩ := writes a ha e he
  exact ⟨narrow _ here, m, more _ here hm, program⟩

end Writes

namespace Filter

variable {scope : Names} {r : Route}

theorem programs_metricAction {f : Filter} {m : Metric} {a : Action}
    (truth : ∀ d, f.truth d = .ok m) (h : f.metricAction scope r = .ok a) :
    ∀ e ∈ a.programs, e.1 ∈ scope ∧ m.pushes e.1 = .ok e.2 := by
  simp only [metricAction, bind_eq_ok, pure_eq_ok] at h
  obtain ⟨programs, made, rfl⟩ := h
  intro e he
  obtain ⟨here, program⟩ := Dictionary.mem_of_collect made he
  simp only [Filter.pushes, truth] at program
  exact ⟨here, program⟩

theorem programs_leafAction {f : Filter} {a : Action} (h : f.leafAction scope r = .ok a) :
    ∀ e ∈ a.programs, e.1 ∈ scope ∧ ∃ m, f.tested? = some m ∧ m.pushes e.1 = .ok e.2 := by
  cases f with
  | compare op left right =>
    simp only [leafAction, bind_eq_ok] at h
    obtain ⟨datasets, narrowed, h⟩ := h
    intro e he
    obtain ⟨here, program⟩ := programs_metricAction (fun _ => rfl) h e he
    exact ⟨subset_comparisonScope narrowed here, _, rfl, program⟩
  | fieldEqual =>
    intro e he
    obtain ⟨here, program⟩ := programs_metricAction (fun _ => rfl) h e he
    exact ⟨here, _, rfl, program⟩
  | sampleMetric m =>
    simp only [leafAction, bind_eq_ok, pure_eq_ok] at h
    obtain ⟨programs, made, rfl⟩ := h
    intro e he
    obtain ⟨here, program⟩ := Dictionary.mem_of_collect made he
    exact ⟨here, m, rfl, program⟩
  | fieldIs | between =>
    simp only [leafAction, bind_eq_ok, pure_eq_ok] at h
    obtain ⟨_, _, _, _, rfl⟩ := h
    exact fun _ he => absurd he List.not_mem_nil
  | lucene | regex | sample | stringIn | intIn =>
    simp only [leafAction, bind_eq_ok, pure_eq_ok] at h
    obtain ⟨_, _, rfl⟩ := h
    exact fun _ he => absurd he List.not_mem_nil
  | _ =>
    obtain rfl := Except.ok.inj h
    exact fun _ he => absurd he List.not_mem_nil

theorem writes_leafAction {f : Filter} {a : Action} (leaf : ∀ d, f.leaves d = [f])
    (h : f.leafAction scope r = .ok a) : Writes scope f.tested [a] := by
  intro a' ha e he
  obtain rfl := List.mem_singleton.mp ha
  obtain ⟨here, m, tests, program⟩ := programs_leafAction h e he
  refine ⟨here, m, List.mem_filterMap.mpr ⟨f, ?_, tests⟩, program⟩
  rw [leaf]
  exact List.mem_singleton_self f

/-- The metrics by which several filters test the documents of a dataset. -/
def testedInAll (fs : List Filter) (dataset : String) : List Metric := fs.flatMap (·.tested dataset)

theorem tested_node {f : Filter} {fs : List Filter}
    (leaves : ∀ d, f.leaves d = Filter.leavesOfAll d fs) : f.tested = testedInAll fs := by
  funext d
  rw [tested, leaves, leavesOfAll_eq_flatMap, List.filterMap_flatMap]
  rfl

mutual

/-- The programs in the actions of a filter are those of the metrics by which it tests. -/
theorem writes_actions (scope : Names) (r : Route) (f : Filter) (pool : GroupPool)
    {actions : List Action} {pool' : GroupPool}
    (h : f.actions scope r pool = .ok (actions, pool')) : Writes scope f.tested actions := by
  match f with
  | .not f => exact writes_actions scope _ f pool h
  | .qualified datasets f =>
    rw [Filter.actions] at h
    split at h
    · rename_i inside
      refine (writes_actions datasets r f pool h).mono
        (fun d hd => List.contains_iff_mem.mp (List.all_eq_true.mp inside d hd)) fun d hd => ?_
      rw [tested, tested, leaves, if_pos (List.contains_iff_mem.mpr hd)]
      exact List.Subset.refl _
    · exact absurd h nofun
  | .and fs | .or fs =>
    rw [tested_node fun _ => rfl]
    rw [Filter.actions] at h
    split at h
    · obtain ⟨rfl, -⟩ := Prod.mk.inj (Except.ok.inj h)
      exact .of_programs_eq_nil (List.forall_mem_singleton.mpr rfl)
    · split at h
      · exact writes_actionsUpTo scope _ r fs pool h
      · dsimp only at h
        split at h
        · exact absurd h nofun
        · rename_i inner _ made
          obtain ⟨rfl, -⟩ := Prod.mk.inj (Except.ok.inj h)
          exact (writes_actionsOfAll scope _ fs _ made).append
            (.of_programs_eq_nil (by simp [Action.programs]))
  | .fieldIsnt .. | .notRegex .. =>
    simp only [Filter.actions, bind_eq_ok, pure_eq_ok, Prod.mk.injEq] at h
    obtain ⟨a, made, rfl, -⟩ := h
    exact (writes_leafAction (fun _ => rfl) made).mono (fun _ => id) fun _ _ => nofun
  | .fieldIs .. | .between .. | .compare .. | .regex .. | .fieldEqual .. | .lucene .. | .sample ..
  | .sampleMetric .. | .stringIn .. | .intIn .. | .inQuery .. | .always | .never =>
    simp only [Filter.actions, bind_eq_ok, pure_eq_ok, Prod.mk.injEq] at h
    obtain ⟨a, made, rfl, -⟩ := h
    exact writes_leafAction (fun _ => rfl) made

theorem writes_actionsOfAll (scope : Names) (r : Route) (fs : List Filter) (pool : GroupPool)
    {actions : List Action} {pool' : GroupPool}
    (h : Filter.actionsOfAll scope r fs pool = .ok (actions, pool')) :
    Writes scope (testedInAll fs) actions := by
  match fs with
  | [] =>
    obtain ⟨rfl, -⟩ := Prod.mk.inj (Except.ok.inj h)
    exact .nil
  | f :: rest =>
    rw [Filter.actionsOfAll] at h
    split at h
    · exact absurd h nofun
    · rename_i first _ made
      split at h
      · exact absurd h nofun
      · rename_i more _ others
        obtain ⟨rfl, -⟩ := Prod.mk.inj (Except.ok.inj h)
        exact ((writes_actions scope r f pool made).mono (fun _ => id)
            fun _ _ => List.subset_append_left _ _).append
          ((writes_actionsOfAll scope r rest _ others).mono (fun _ => id)
            fun _ _ => List.subset_append_right _ _)

theorem writes_actionsUpTo (scope : Names) (r last : Route) (fs : List Filter) (pool : GroupPool)
    {actions : List Action} {pool' : GroupPool}
    (h : Filter.actionsUpTo scope r last fs pool = .ok (actions, pool')) :
    Writes scope (testedInAll fs) actions := by
  match fs with
  | [] =>
    obtain ⟨rfl, -⟩ := Prod.mk.inj (Except.ok.inj h)
    exact .nil
  | f :: rest =>
    rw [Filter.actionsUpTo] at h
    split at h
    · exact (writes_actions scope last f pool h).mono (fun _ => id)
        fun _ _ => List.subset_append_left _ _
    · split at h
      · exact absurd h nofun
      · rename_i first _ made
        split at h
        · exact absurd h nofun
        · rename_i more _ others
          obtain ⟨rfl, -⟩ := Prod.mk.inj (Except.ok.inj h)
          exact ((writes_actions scope r f pool made).mono (fun _ => id)
              fun _ _ => List.subset_append_left _ _).append
            ((writes_actionsUpTo scope r last rest _ others).mono (fun _ => id)
              fun _ _ => List.subset_append_right _ _)

end

end Filter

end Doc

end Groupwise
