import Groupwise.Proofs.Aggregate.Nodes
import Groupwise.Proofs.Plan.Timeliness

/-!
# Extraction leaves nothing behind

Extraction from a plan without names leaves no metric that it should have replaced, neither in the
plan nor in the expressions of the tasks that it notes. Each task is named for its place among the
tasks and looks up results of tasks at earlier places, so that every name that is looked up belongs
to the task at one place.
-/
namespace Groupwise

open Aggregate

variable {ν : Type}

/-- The metrics in the expressions of a computation. -/
def Computation.nodes : Computation ν → List (Metric ν)
  | .distinct _ filter _ => Filter.nodesOption filter
  | .percentile .. => []
  | .rawStats _ => []
  | .sumAcross _ m filter => m.nodes ++ Filter.nodesOption filter
  | .sumAcrossGrouping grouping m => grouping.nodes ++ m.nodes
  | .extreme _ m filter => m.nodes ++ Filter.nodesOption filter
  | .bootstrap _ filter _ m _ _ => Filter.nodesOption filter ++ m.nodes

theorem Computation.lookedUp_eq_flatMap_nodes (c : Computation ν) :
    c.lookedUp = c.nodes.flatMap Metric.lookedUp := by
  cases c <;> simp [lookedUp, nodes, Metric.collect_eq_flatMap_nodes Metric.lookedUp,
    Filter.collectOption_eq_flatMap_nodes Metric.lookedUp,
    Grouping.collect_eq_flatMap_nodes Metric.lookedUp]

/-- The metrics in the expressions of a stage. -/
def Stage.nodes (s : Stage ν) : List (Metric ν) := s.grouping.nodes ++ Filter.nodesOption s.having

/-- The metrics in the expressions of a plan. -/
def Plan.nodes (p : Plan ν) : List (Metric ν) :=
  p.stages.flatMap Stage.nodes ++ Metric.nodesOfAll p.selects

/-- The metrics in the expressions of an extracted plan and of its tasks. -/
def Extracted.nodes (e : Extracted ν) : List (Metric ν) :=
  e.plan.nodes ++ e.tasks.flatMap (·.computation.nodes)

theorem Stage.collect_eq_flatMap_nodes {α : Type} (find : Metric ν → List α) (s : Stage ν) :
    s.collect find = s.nodes.flatMap find := by
  rw [Stage.collect, Stage.nodes, List.flatMap_append, ← Grouping.collect_eq_flatMap_nodes,
    ← Filter.collectOption_eq_flatMap_nodes]

theorem Plan.collect_eq_flatMap_nodes {α : Type} (find : Metric ν → List α) (p : Plan ν) :
    p.collect find = p.nodes.flatMap find := by
  rw [Plan.collect, Plan.nodes, List.flatMap_append, ← Metric.collectAll_eq_flatMap_nodes,
    List.flatMap_assoc]
  simp only [← Stage.collect_eq_flatMap_nodes]

theorem Plan.lookups_eq_flatMap_nodes (p : Plan ν) :
    p.lookups = p.nodes.flatMap Metric.lookedUp :=
  p.collect_eq_flatMap_nodes Metric.lookedUp

theorem Computation.closed_nodes (c : Computation ν) : Closed c.nodes := by
  cases c with
  | distinct _ filter _ => exact Filter.closed_nodesOption filter
  | percentile | rawStats => exact closed_nil
  | sumAcross _ m filter | extreme _ m filter =>
    exact m.closed_nodes.append (Filter.closed_nodesOption filter)
  | sumAcrossGrouping grouping m => exact grouping.closed_nodes.append m.closed_nodes
  | bootstrap _ filter _ m _ _ => exact (Filter.closed_nodesOption filter).append m.closed_nodes

theorem Closed.flatMap {α : Type} {f : α → List (Metric ν)} (closed : ∀ a, Closed (f a))
    (as : List α) : Closed (as.flatMap f) := by
  induction as with
  | nil => exact closed_nil
  | cons a rest ih => exact (closed a).append ih

theorem Extracted.closed_nodes (e : Extracted ν) : Closed e.nodes :=
  ((Closed.flatMap (fun s : Stage ν =>
      s.grouping.closed_nodes.append (Filter.closed_nodesOption s.having)) _).append
    (Metric.closed_nodesOfAll _)).append
    (Closed.flatMap (fun t : Task ν => t.computation.closed_nodes) _)

/-! ## Expressions -/

/-- Some metrics have nothing to do with names. -/
def Nameless (nodes : List (Metric ν)) : Prop := ∀ n ∈ nodes, n.isNamed = false

@[simp] theorem nameless_append {ms ns : List (Metric ν)} :
    Nameless (ms ++ ns) ↔ Nameless ms ∧ Nameless ns :=
  List.forall_mem_append

@[simp] theorem nameless_singleton {m : Metric ν} : Nameless [m] ↔ m.isNamed = false :=
  List.forall_mem_singleton

theorem Plan.nameless_iff_collect {p : Plan ν} :
    Nameless p.nodes ↔ p.collect (Metric.marked Metric.isNamed) = [] := by
  simp only [Nameless, Plan.collect_eq_flatMap_nodes, List.flatMap_eq_nil_iff,
    Metric.marked_eq_nil]

/-- No names are left when the references of a plan are replaced. -/
theorem Plan.nameless_substitute [Numeric ν] {p q : Plan ν} (h : p.substitute = .ok q) :
    Nameless q.nodes := by
  have covers : Covers (fun _ => []) (Metric.marked (@Metric.isNamed ν)) :=
    fun m plain => Metric.marked_eq_nil.mpr plain ▸ List.Subset.refl _
  have nothing : p.collect (fun _ => ([] : List Unit)) = [] := by
    simp [Plan.collect_eq_flatMap_nodes]
  exact nameless_iff_collect.mpr (collect_substitute Metric.shallow_isNamed covers nothing h)

/-- No names are left in a prepared plan. -/
theorem Plan.nameless_prepared [Numeric ν] {p q : Plan ν} (h : p.substitute = .ok q) :
    Nameless q.simplify.filterTopTerms.nodes := by
  have bare := nameless_iff_collect.mp (nameless_substitute h)
  exact nameless_iff_collect.mpr
    (collect_filterTopTerms (collect_simplify Metric.shallow_isNamed bare))

/-- What a run of extraction leaves: settled metrics, and tasks with settled metrics. -/
structure Leaves (nodes : List (Metric ν)) (after : List (Task ν)) : Prop where
  settled : Settled nodes
  tasks : ∀ t ∈ after, Settled t.computation.nodes

section Extraction

variable [Numeric ν] {before after : List (Task ν)} {p : Place} {c : Computation ν}
  {m r : Metric ν}

theorem leaves_schedule (h : (schedule p c).run before = .ok (r, after))
    (computed : Leaves c.nodes before) : Leaves r.nodes after := by
  have result (name : String) : Settled (c.result name).nodes := by
    cases c <;> simp [Computation.result, Metric.collect, Metric.mustBeExtracted, Metric.isNamed]
  obtain ⟨t, -, rfl, ⟨-, -, rfl⟩ | ⟨rfl, -, rfl⟩⟩ := run_schedule_cases h
  · exact ⟨result _, computed.tasks⟩
  · refine ⟨result _, List.forall_mem_append.mpr ⟨computed.tasks, ?_⟩⟩
    exact List.forall_mem_singleton.mpr computed.settled

theorem settled_sum {ms : List (Metric ν)} (h : Settled (Metric.nodesOfAll ms)) :
    Settled (Metric.sum ms).nodes :=
  Metric.forall_nodes_sum (fun _ => ⟨rfl, rfl⟩) (fun _ => ⟨rfl, rfl⟩) h

theorem settled_sum_docStatsIn (datasets : List String) (d : String → Doc.Metric) :
    Settled (Metric.sum (datasets.map fun s => .docStatsIn s (d s)) : Metric ν).nodes := by
  refine settled_sum fun n hn => ?_
  simp only [Metric.nodesOfAll, Metric.collectAll_eq_flatMap, List.flatMap_map, List.mem_flatMap,
    Metric.collect, List.mem_singleton] at hn
  obtain ⟨s, -, rfl⟩ := hn
  exact ⟨rfl, rfl⟩

theorem leaves_averaged (settled : Leaves m.nodes before)
    (h : (averaged m).run before = .ok (r, after)) : Leaves r.nodes after := by
  obtain ⟨rfl, datasets, -, rfl⟩ := run_averaged_eq_ok h
  refine ⟨?_, settled.tasks⟩
  simp only [Metric.divide, Metric.nodes, Metric.collect, settled_append, settled_singleton]
  exact ⟨⟨settled.settled, settled_sum_docStatsIn _ _⟩, rfl, rfl⟩

omit [Numeric ν] in
theorem Leaves.append {ms ns : List (Metric ν)} (first : Settled ms) (second : Leaves ns after) :
    Leaves (ms ++ ns) after :=
  ⟨settled_append.mpr ⟨first, second.settled⟩, second.tasks⟩

omit [Numeric ν] in
/-- A node that may stay is left with what is left below it. -/
theorem Leaves.node {ms : List (Metric ν)} (below : Leaves ms after)
    (stays : m.mustBeExtracted = false ∧ m.isNamed = false) : Leaves (ms ++ [m]) after :=
  ⟨settled_append.mpr ⟨below.settled, settled_singleton.mpr stays⟩, below.tasks⟩

omit [Numeric ν] in
theorem Leaves.merge {fs : List (Aggregate.Filter ν)} (c : Connective)
    (operands : Leaves (Filter.nodesOfAll fs) after) : Leaves (c.merge fs).nodes after :=
  ⟨fun n hn => operands.settled n (Connective.collect_merge_subset _ c fs hn), operands.tasks⟩

/-- A sum across a grouping is computed for the total grouping. -/
theorem settled_sumAcrossGrouping {g : Grouping ν} {total : Bool} (grouping : Settled g.nodes)
    (summed : Settled m.nodes) :
    Settled (Computation.sumAcrossGrouping g.makeTotal (outsideDefault total m)).nodes := by
  refine settled_append.mpr ⟨?_, ?_⟩
  · have same : g.makeTotal.nodes = g.nodes := by
      unfold Grouping.makeTotal
      split
      · rfl
      · cases g <;> rfl
    rwa [same]
  · cases total with
    | true => exact summed
    | false =>
      rw [outsideDefault, if_neg Bool.false_ne_true]
      simp only [Metric.nodes, Metric.collect, Filter.collect, settled_append, settled_nil,
        settled_singleton]
      exact ⟨⟨⟨trivial, rfl, rfl⟩, summed⟩, rfl, rfl⟩

namespace Aggregate

omit [Numeric ν] in
theorem Metric.settled_of_isKept (kept : m.isKept = true) (nameless : Nameless m.nodes) :
    Settled m.nodes := by
  cases m <;> first
    | exact settled_singleton.mpr ⟨rfl, nameless_singleton.mp nameless⟩
    | cases kept

omit [Numeric ν] in
theorem Filter.nodes_of_isKept {f : Filter ν} (kept : f.isKept = true) : f.nodes = [] := by
  cases f <;> first | rfl | cases kept

omit [Numeric ν] in
theorem Grouping.nodes_of_kept {g : Grouping ν} (kept : ∀ f x limit o d, g ≠ .terms f x limit o d) :
    g.nodes = [] := by
  cases g with
  | terms f x limit o d => exact (kept f x limit o d rfl).elim
  | _ => rfl

omit [Numeric ν] in
theorem Metric.Alike.stays {n : Metric ν} {ms ns : List (Metric ν)} (h : m.Alike ms n ns)
    (nameless : m.isNamed = false) : n.mustBeExtracted = false ∧ n.isNamed = false := by
  cases h <;> first | exact ⟨rfl, rfl⟩ | cases nameless

mutual

/-- Extraction from an expression without names leaves only settled metrics. -/
theorem Metric.Extracts.leaves {m r : Metric ν} {p : Place} {before after : List (Task ν)}
    (h : m.Extracts p before r after) (nameless : Nameless m.nodes)
    (tasks : ∀ t ∈ before, Settled t.computation.nodes) : Leaves r.nodes after := by
  match h with
  | .kept kept => exact ⟨Metric.settled_of_isKept kept nameless, tasks⟩
  | .parent inner | .qualified inner =>
    simp only [Metric.nodes, Metric.collect, nameless_append] at nameless
    exact inner.leaves nameless.1 tasks
  | .stats _ summed =>
    simp only [Metric.stats, bind_eq_ok, pure_eq_ok] at summed
    obtain ⟨datasets, _, rfl⟩ := summed
    exact ⟨settled_sum_docStatsIn datasets _, tasks⟩
  | .rawStats _ run => exact leaves_schedule run ⟨settled_nil, tasks⟩
  | .distinct filter run =>
    simp only [Metric.nodes, Metric.collect, nameless_append] at nameless
    exact leaves_schedule run (filter.leaves nameless.1 tasks)
  | .computed prepared run => exact leaves_schedule run (prepared.leaves nameless tasks)
  | .average inner run =>
    simp only [Metric.nodes, Metric.collect, nameless_append] at nameless
    exact leaves_averaged (inner.leaves nameless.1 tasks) run
  | .add terms =>
    simp only [Metric.nodes, Metric.collect, nameless_append] at nameless
    have left := terms.leaves nameless.1 tasks
    exact ⟨settled_sum left.settled, left.tasks⟩
  | .around alike parts =>
    rw [Metric.nodes, (alike.collect _).1, nameless_append, nameless_singleton] at nameless
    rw [Metric.nodes, (alike.collect _).2]
    exact (parts.leaves nameless.1 tasks).node (alike.stays nameless.2)
  | .ifThenElse condition yes no =>
    simp only [Metric.nodes, Metric.collect, nameless_append] at nameless
    have decided := condition.leaves nameless.1.1.1 tasks
    have first := Leaves.append decided.settled (yes.leaves nameless.1.1.2 decided.tasks)
    exact (Leaves.append first.settled (no.leaves nameless.1.2 first.tasks)).node ⟨rfl, rfl⟩

theorem Metric.Prepares.leaves {m : Metric ν} {c : Computation ν} {p : Place}
    {before after : List (Task ν)} (h : m.Prepares p before c after) (nameless : Nameless m.nodes)
    (tasks : ∀ t ∈ before, Settled t.computation.nodes) : Leaves c.nodes after := by
  match h with
  | .percentile => exact ⟨settled_nil, tasks⟩
  | .sumAcross summed filter =>
    simp only [Metric.nodes, Metric.collect, Grouping.collect, nameless_append] at nameless
    have first := summed.leaves nameless.1.2 tasks
    exact .append first.settled (filter.leaves nameless.1.1.1 first.tasks)
  | .sumAcrossTerms filter order summed =>
    simp only [Metric.nodes, Metric.collect, Grouping.collect, nameless_append] at nameless
    have first := filter.leaves nameless.1.1.1 tasks
    have grouping := Leaves.append first.settled (order.leaves nameless.1.1.2 first.tasks)
    have inner := summed.leaves nameless.1.2 grouping.tasks
    exact ⟨settled_sumAcrossGrouping grouping.settled inner.settled, inner.tasks⟩
  | .sumAcrossGrouping kept summed =>
    simp only [Metric.nodes, Metric.collect, nameless_append] at nameless
    have inner := summed.leaves nameless.1.2 tasks
    refine ⟨settled_sumAcrossGrouping ?_ inner.settled, inner.tasks⟩
    rw [Grouping.nodes_of_kept kept]
    exact settled_nil
  | .fieldMin order filter =>
    simp only [Metric.nodes, Metric.collect, nameless_append] at nameless
    have first := order.leaves nameless.1.1 tasks
    exact .append (first.node ⟨rfl, rfl⟩).settled (filter.leaves nameless.1.2 first.tasks)
  | .fieldMax order filter =>
    simp only [Metric.nodes, Metric.collect, nameless_append] at nameless
    have first := order.leaves nameless.1.1 tasks
    exact .append first.settled (filter.leaves nameless.1.2 first.tasks)
  | .bootstrap measured filter =>
    simp only [Metric.nodes, Metric.collect, nameless_append] at nameless
    have first := measured.leaves nameless.1.2 tasks
    have second := filter.leaves nameless.1.1 first.tasks
    exact ⟨settled_append.mpr ⟨second.settled, first.settled⟩, second.tasks⟩

theorem Metric.ExtractsAll.leaves {ms ns : List (Metric ν)} {p : Place}
    {before after : List (Task ν)} (h : Metric.ExtractsAll ms p before ns after)
    (nameless : Nameless (Metric.nodesOfAll ms))
    (tasks : ∀ t ∈ before, Settled t.computation.nodes) : Leaves (Metric.nodesOfAll ns) after := by
  match h with
  | .nil => exact ⟨settled_nil, tasks⟩
  | .cons first more =>
    simp only [Metric.nodesOfAll, Metric.collectAll, nameless_append] at nameless
    have left := first.leaves nameless.1 tasks
    exact .append left.settled (more.leaves nameless.2 left.tasks)

theorem Metric.ExtractsOption.leaves {m n : Option (Metric ν)} {p : Place}
    {before after : List (Task ν)} (h : Metric.ExtractsOption m p before n after)
    (nameless : Nameless (Metric.nodesOption m))
    (tasks : ∀ t ∈ before, Settled t.computation.nodes) : Leaves (Metric.nodesOption n) after := by
  match h with
  | .none => exact ⟨settled_nil, tasks⟩
  | .some inner => exact inner.leaves nameless tasks

theorem Metric.ExtractsOr.leaves {f : FieldSet} {m : Option (Metric ν)} {n : Metric ν} {p : Place}
    {before after : List (Task ν)} (h : Metric.ExtractsOr f m p before n after)
    (nameless : Nameless (Metric.nodesOption m))
    (tasks : ∀ t ∈ before, Settled t.computation.nodes) : Leaves n.nodes after := by
  match h with
  | .average run => exact leaves_averaged ⟨settled_sum_docStatsIn _ _, tasks⟩ run
  | .given inner => exact inner.leaves nameless tasks

theorem Filter.Extracts.leaves {f g : Filter ν} {p : Place} {before after : List (Task ν)}
    (h : f.Extracts p before g after) (nameless : Nameless f.nodes)
    (tasks : ∀ t ∈ before, Settled t.computation.nodes) : Leaves g.nodes after := by
  match h with
  | .kept kept =>
    rw [Filter.nodes_of_isKept kept]
    exact ⟨settled_nil, tasks⟩
  | .compare left right =>
    simp only [Filter.nodes, Filter.collect, nameless_append] at nameless
    have first := left.leaves nameless.1 tasks
    exact .append first.settled (right.leaves nameless.2 first.tasks)
  | .and operands => exact .merge .and (operands.leaves nameless tasks)
  | .or operands => exact .merge .or (operands.leaves nameless tasks)
  | .not inner => exact inner.leaves nameless tasks

theorem Filter.ExtractsAll.leaves {fs gs : List (Filter ν)} {p : Place}
    {before after : List (Task ν)} (h : Filter.ExtractsAll fs p before gs after)
    (nameless : Nameless (Filter.nodesOfAll fs))
    (tasks : ∀ t ∈ before, Settled t.computation.nodes) : Leaves (Filter.nodesOfAll gs) after := by
  match h with
  | .nil => exact ⟨settled_nil, tasks⟩
  | .cons first more =>
    simp only [Filter.nodesOfAll, Filter.collectAll, nameless_append] at nameless
    have left := first.leaves nameless.1 tasks
    exact .append left.settled (more.leaves nameless.2 left.tasks)

theorem Filter.ExtractsOption.leaves {x y : Option (Filter ν)} {p : Place}
    {before after : List (Task ν)} (h : Filter.ExtractsOption x p before y after)
    (nameless : Nameless (Filter.nodesOption x))
    (tasks : ∀ t ∈ before, Settled t.computation.nodes) : Leaves (Filter.nodesOption y) after := by
  match h with
  | .none => exact ⟨settled_nil, tasks⟩
  | .some inner => exact inner.leaves nameless tasks

end

theorem Grouping.Extracts.leaves {g k : Grouping ν} (h : g.Extracts p before k after)
    (nameless : Nameless g.nodes) (tasks : ∀ t ∈ before, Settled t.computation.nodes) :
    Leaves k.nodes after := by
  cases h with
  | kept kept =>
    rw [Grouping.nodes_of_kept kept]
    exact ⟨settled_nil, tasks⟩
  | terms filter order =>
    simp only [Grouping.nodes, Grouping.collect, nameless_append] at nameless
    have first := filter.leaves nameless.1 tasks
    exact .append first.settled (order.leaves nameless.2 first.tasks)

end Aggregate

/-! ## Stages -/

/-- The filter of a grouping by terms may come to stand behind its order, in the place of the filter
of the groups. -/
theorem Stage.Extracts.leaves {s u : Stage ν} (h : s.Extracts p before u after)
    (nameless : Nameless s.nodes) (tasks : ∀ t ∈ before, Settled t.computation.nodes) :
    Leaves u.nodes after := by
  rw [Stage.nodes, nameless_append] at nameless
  cases h with
  | front _ grouping having =>
    have first := grouping.leaves nameless.1 tasks
    exact .append first.settled (having.leaves nameless.2 first.tasks)
  | behind _ kept having =>
    have left := having.leaves nameless.2 tasks
    exact ⟨settled_append.mpr ⟨Grouping.nodes_of_kept kept ▸ settled_nil, left.settled⟩, left.tasks⟩
  | behindTerms _ filter order =>
    simp only [Grouping.nodes, Grouping.collect, nameless_append] at nameless
    have first := filter.leaves nameless.1.1 tasks
    have second := order.leaves nameless.1.2 first.tasks
    exact ⟨settled_append.mpr ⟨second.settled, first.settled⟩, second.tasks⟩

theorem Stage.ExtractsAll.leaves {scope : Names} {depth : Nat} {stages us : List (Stage ν)}
    (h : Stage.ExtractsAll scope depth stages before us after)
    (nameless : Nameless (stages.flatMap Stage.nodes))
    (tasks : ∀ t ∈ before, Settled t.computation.nodes) : Leaves (us.flatMap Stage.nodes) after := by
  induction stages generalizing depth before us with
  | nil =>
    cases h
    exact ⟨settled_nil, tasks⟩
  | cons s rest ih =>
    rw [List.flatMap_cons, nameless_append] at nameless
    cases h with
    | cons first more =>
      have stage := first.leaves nameless.1 tasks
      exact .append stage.settled (ih more nameless.2 stage.tasks)

end Extraction

/-! ## Order -/

namespace Scheduled

variable {tasks : List (Task ν)} {t : Task ν} {i : Nat} {name : String}

/-- The task at a place is named for the place and reads results of tasks at earlier places. -/
theorem of_getElem? (scheduled : Scheduled tasks) (h : tasks[i]? = some t) :
    t.name = "v" ++ toString i ∧ ∀ name ∈ t.computation.lookedUp,
      ∃ j < i, ∃ u, tasks[j]? = some u ∧ name ∈ u.outputs := by
  induction scheduled with
  | nil => simp at h
  | @snoc before last _ named closed ih =>
    have earlier {j : Nat} (hj : j < before.length) : (before ++ [last])[j]? = before[j]? :=
      List.getElem?_append_left hj
    rcases Nat.lt_trichotomy i before.length with hi | rfl | hi
    · rw [earlier hi] at h
      refine ⟨(ih h).1, fun name hn => ?_⟩
      obtain ⟨j, hj, u, hu, found⟩ := (ih h).2 name hn
      exact ⟨j, hj, u, (earlier (hj.trans hi)).trans hu, found⟩
    · obtain rfl : last = t := by simpa using h
      refine ⟨named, fun name hn => ?_⟩
      obtain ⟨u, hu, found⟩ := closed name hn
      obtain ⟨j, hj, hget⟩ := List.getElem_of_mem hu
      exact ⟨j, hj, u, (earlier hj).trans (List.getElem?_eq_some_iff.mpr ⟨hj, hget⟩), found⟩
    · obtain ⟨hle, -⟩ := List.getElem?_eq_some_iff.mp h
      rw [List.length_append, List.length_singleton] at hle
      omega

/-- What is a result at all is a result of the task at one place. -/
theorem existsUnique_place (scheduled : Scheduled tasks) (known : ∃ t ∈ tasks, name ∈ t.outputs) :
    ∃! i : Nat, ∃ t, tasks[i]? = some t ∧ name ∈ t.outputs := by
  obtain ⟨t, ht, found⟩ := known
  obtain ⟨i, hi, rfl⟩ := List.getElem_of_mem ht
  have here := List.getElem?_eq_getElem hi
  refine ⟨i, ⟨_, here, found⟩, ?_⟩
  rintro j ⟨u, hu, foundU⟩
  rw [Task.outputs, (scheduled.of_getElem? here).1] at found
  rw [Task.outputs, (scheduled.of_getElem? hu).1] at foundU
  exact eq_of_mem_outputs foundU found

theorem nodup_names (scheduled : Scheduled tasks) : (tasks.map Task.name).Nodup := by
  induction scheduled with
  | nil => exact List.nodup_nil
  | @snoc before last rest named _ ih =>
    rw [List.map_append, List.map_singleton, List.nodup_append]
    refine ⟨ih, List.nodup_singleton _, fun name hn other ho same => ?_⟩
    obtain ⟨t, ht, rfl⟩ := List.mem_map.mp hn
    obtain ⟨k, hk, eq⟩ := rest.name_eq ht
    rw [List.mem_singleton.mp ho, named, eq] at same
    have digits : Nat.toDigits 10 k = Nat.toDigits 10 before.length := by
      simpa using congrArg String.toList same
    exact absurd (Decimal.toDigits_inj digits) (Nat.ne_of_lt hk)

end Scheduled

/-! ## Plans -/

namespace Plan

variable [Numeric ν] {p : Plan ν} {e : Extracted ν}

/-- All that extraction leaves of a plan without names is settled. -/
theorem settled_extract (nameless : Nameless p.nodes) (h : p.extract = .ok e) :
    Settled e.nodes := by
  rw [Plan.nodes, nameless_append] at nameless
  obtain ⟨between, stages, selects⟩ := extracts_extract h
  have first := stages.leaves nameless.1 (List.forall_mem_nil _)
  have second := selects.leaves nameless.2 first.tasks
  refine settled_append.mpr ⟨settled_append.mpr ⟨first.settled, second.settled⟩, fun n hn => ?_⟩
  obtain ⟨t, ht, hn⟩ := List.mem_flatMap.mp hn
  exact second.tasks t ht n hn

/-- What is left of a plan that looks nothing up looks up results of its tasks only. -/
theorem known_extract (bare : p.lookups = []) (h : p.extract = .ok e) :
    ∀ name ∈ e.plan.lookups, ∃ t ∈ e.tasks, name ∈ t.outputs := by
  rw [Plan.lookups, List.append_eq_nil_iff, List.flatMap_eq_nil_iff] at bare
  obtain ⟨between, stages, selects⟩ := extracts_extract h
  have first := stages.noted bare.1 .nil
  have second := selects.noted bare.2 first.scheduled
  intro name hn
  rcases List.mem_append.mp hn with hn | hn
  · obtain ⟨s, hs, hn⟩ := List.mem_flatMap.mp hn
    obtain ⟨t, ht, found⟩ := first.known s.reads (List.mem_map_of_mem hs) name hn
    exact ⟨t, second.grown.subset ht, found⟩
  · exact second.known hn

/-- Extraction is complete, closed and acyclic: every metric that is left, in the plan or in a task,
can be checked and lowered without fault; the tasks have different names, and every name that is
looked up is a result of the task at exactly one place; and a task looks up results of tasks at
earlier places only. -/
theorem extract_complete (plain : ∀ m ∈ p.nodes, m.isNamed = false ∧ m.isLookup = false)
    (h : p.extract = .ok e) :
    (∀ m ∈ e.nodes, m.mustBeExtracted = false ∧
      (∀ schema scope found, Faultless (m.check schema scope found)) ∧
      ∀ known keys, Faultless (m.lower known keys)) ∧
    ((e.tasks.map Task.name).Nodup ∧ ∀ m ∈ e.nodes, ∀ name ∈ m.lookedUp,
      ∃! i : Nat, ∃ t, e.tasks[i]? = some t ∧ name ∈ t.outputs) ∧
    ∀ (i : Nat) t, e.tasks[i]? = some t → ∀ m ∈ t.computation.nodes, ∀ name ∈ m.lookedUp,
      ∃ j < i, ∃ u, e.tasks[j]? = some u ∧ name ∈ u.outputs := by
  have settled := settled_extract (fun m hm => (plain m hm).1) h
  have bare : p.lookups = [] := by
    rw [lookups_eq_flatMap_nodes, List.flatMap_eq_nil_iff]
    intro m hm
    have free := (plain m hm).2
    cases m <;> first | rfl | exact absurd free (by simp [Metric.isLookup])
  have scheduled := (timely_extract bare h).1
  -- Every metric in a task contributes its look-ups to those of the computation.
  have reads {t : Task ν} (ht : t ∈ e.tasks) {m : Metric ν} (hm : m ∈ t.computation.nodes)
      {name : String} (hn : name ∈ m.lookedUp) : name ∈ t.computation.lookedUp := by
    rw [Computation.lookedUp_eq_flatMap_nodes]
    exact List.mem_flatMap.mpr ⟨m, hm, hn⟩
  refine ⟨fun m hm => ?_, ⟨scheduled.nodup_names, fun m hm name hn => ?_⟩,
    fun i t ht m hm name hn => ?_⟩
  · have inside : Settled m.nodes := fun n hn => settled n (e.closed_nodes m hm hn)
    exact ⟨(settled m hm).1, fun _ _ _ => m.faultless_check _ inside,
      fun _ _ => m.faultless_lower inside⟩
  · refine scheduled.existsUnique_place ?_
    rcases List.mem_append.mp hm with hm | hm
    · refine known_extract bare h name ?_
      rw [lookups_eq_flatMap_nodes]
      exact List.mem_flatMap.mpr ⟨m, hm, hn⟩
    · obtain ⟨t, ht, hm⟩ := List.mem_flatMap.mp hm
      exact scheduled.closed ht (reads ht hm hn)
  · exact (scheduled.of_getElem? ht).2 name (reads (List.mem_of_getElem? ht) hm hn)

/-- The country with the least average among those with several queries gives the order of the
terms, and that of the parent group is selected: five computations, of which two read others. -/
theorem extract_complete_extremes :
    let several : Aggregate.Filter Float :=
      .compare .gt (.distinct (.single "ads" "q") none none) (.constant 1)
    let least : Metric Float :=
      .fieldMin (.single "ads" "country") (some (.average (.docStats .count))) (some several)
    let p : Plan Float :=
      { sources := [{ dataset := "ads" }]
        stages := [⟨.terms (.single "ads" "q") none (some 3) (some least) false, none, none⟩]
        selects := [.parent least]
        formats := [none] }
    (∀ m ∈ p.nodes, m.isNamed = false ∧ m.isLookup = false) ∧
    ∃ e, p.extract = .ok e ∧ e.nodes.flatMap Metric.lookedUp = ["v1", "v4", "v0", "v2", "v3"] ∧
      (e.tasks.map Task.name).Nodup ∧
      (∀ m ∈ e.nodes, m.mustBeExtracted = false ∧ ∀ known keys, Faultless (m.lower known keys)) ∧
      ∃ t, e.tasks[4]? = some t ∧ ∀ m ∈ t.computation.nodes, ∀ name ∈ m.lookedUp,
        ∃ j < 4, ∃ u, e.tasks[j]? = some u ∧ name ∈ u.outputs := by
  intro several least p
  have plain : ∀ m ∈ p.nodes, m.isNamed = false ∧ m.isLookup = false := by decide
  have extracted : ∃ e, p.extract = .ok e ∧
      e.nodes.flatMap Metric.lookedUp = ["v1", "v4", "v0", "v2", "v3"] ∧
      e.tasks.length = 5 := by
    simp only [p, least, several]
    exact ⟨_, rfl, rfl, rfl⟩
  obtain ⟨e, he, looked, five⟩ := extracted
  have ht := List.getElem?_eq_getElem (l := e.tasks) (i := 4) (by omega)
  obtain ⟨complete, ⟨named, -⟩, ordered⟩ := extract_complete plain he
  exact ⟨plain, e, he, looked, named, fun m hm => ⟨(complete m hm).1, (complete m hm).2.2⟩, _, ht,
    ordered 4 _ ht⟩

end Plan

end Groupwise
