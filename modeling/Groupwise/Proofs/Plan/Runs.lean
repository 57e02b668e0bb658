import Groupwise.Plan.Extraction
import Groupwise.Proofs.Aggregate.Combination
import Groupwise.Proofs.Outcome

/-!
# Runs of extraction

A run of extraction at a place starts from some tasks. If it succeeds, it leaves an expression and
ends with those tasks and more. Most metrics are left around what is extracted from their parts. A
metric that has to be computed ahead is replaced by the results of a computation, which takes up
what is extracted from its parts.
-/
namespace Groupwise

open Aggregate (Metric Grouping Connective)

variable {ν : Type}

/-! ## Runs that note tasks -/

section Run

variable {α β : Type} {before after : List (Task ν)}

theorem run_bind_eq_ok {x : ExtractM ν α} {k : α → ExtractM ν β} {b : β} :
    (x >>= k).run before = .ok (b, after) ↔
      ∃ a between, x.run before = .ok (a, between) ∧ (k a).run between = .ok (b, after) := by
  rw [StateT.run_bind, bind_eq_ok, Prod.exists]

theorem run_pure_eq_ok {a b : α} :
    (pure a : ExtractM ν α).run before = .ok (b, after) ↔ a = b ∧ before = after := by
  rw [StateT.run_pure, pure_eq_ok, Prod.mk.injEq]

theorem run_lift_eq_ok {x : CompileM α} {a : α} :
    (liftM x : ExtractM ν α).run before = .ok (a, after) ↔ x = .ok a ∧ before = after := by
  cases x with
  | error e =>
    simp [liftM, monadLift, MonadLift.monadLift, StateT.lift, StateT.run, bind, Except.bind]
  | ok b =>
    simp [liftM, monadLift, MonadLift.monadLift, StateT.lift, StateT.run, bind, Except.bind, pure,
      Except.pure]

theorem run_get_eq_ok {tasks : List (Task ν)} :
    (get : ExtractM ν _).run before = .ok (tasks, after) ↔ before = tasks ∧ before = after := by
  rw [StateT.run_get, pure_eq_ok, Prod.mk.injEq]

theorem run_set_eq_ok {tasks : List (Task ν)} {u : PUnit} :
    (set tasks : ExtractM ν PUnit).run before = .ok (u, after) ↔ tasks = after := by
  rw [StateT.run_set, pure_eq_ok, Prod.mk.injEq]
  simp

theorem run_throw_ne_ok {e : CompileError} {a : α} :
    (throw e : ExtractM ν α).run before ≠ .ok (a, after) := nofun

end Run

/-! ## Expressions -/

namespace Aggregate

/-- Whether extraction leaves a metric as it is. -/
def Metric.isKept : Metric ν → Bool
  | .docStatsIn .. => true
  | .lookup _ => true
  | .multiLookup _ => true
  | .reference _ => true
  | .constant _ => true
  | _ => false

/-- Two metrics stand in the same way around their parts, so that extraction from the parts of one may
leave the other. -/
inductive Metric.Alike : Metric ν → List (Metric ν) → Metric ν → List (Metric ν) → Prop
  | calculate (op : Calculation) (l r k n : Metric ν) :
    Alike (.calculate op l r) [l, r] (.calculate op k n) [k, n]
  | function (f : Function) (m n : Metric ν) : Alike (.function f m) [m] (.function f n) [n]
  | lag (k : Nat) (m n : Metric ν) : Alike (.lag k m) [m] (.lag k n) [n]
  | iterateLag (k : Nat) (m n : Metric ν) : Alike (.iterateLag k m) [m] (.iterateLag k n) [n]
  | window (k : Nat) (m n : Metric ν) : Alike (.window k m) [m] (.window k n) [n]
  | running (k : Int64) (m n : Metric ν) : Alike (.running k m) [m] (.running k n) [n]
  | named (name : String) (m n : Metric ν) : Alike (.named m name) [m] (.named n name) [n]
  | least (ms ns : List (Metric ν)) : Alike (.least ms) ms (.least ns) ns
  | greatest (ms ns : List (Metric ν)) : Alike (.greatest ms) ms (.greatest ns) ns

theorem Metric.Alike.collect {m n : Metric ν} {ms ns : List (Metric ν)} (h : m.Alike ms n ns)
    {α : Type} (find : Metric ν → List α) :
    m.collect find = Metric.collectAll find ms ++ find m ∧
      n.collect find = Metric.collectAll find ns ++ find n := by
  cases h <;> simp [Metric.collect, Metric.collectAll]

/-- Whether extraction leaves a filter as it is. -/
def Filter.isKept : Filter ν → Bool
  | .compare .. => false
  | .and _ => false
  | .or _ => false
  | .not _ => false
  | _ => true

section

variable [Numeric ν]

mutual

/-- What a run at a place makes of a metric: it comes from some tasks to a metric that is left and
to more tasks. -/
inductive Metric.Extracts : Metric ν → Place → List (Task ν) → Metric ν → List (Task ν) → Prop
  | kept {m p tasks} : Metric.isKept m = true → Metric.Extracts m p tasks m tasks
  | parent {m r} {p : Place} {before after} :
    Metric.Extracts m { p with depth := p.depth - 1 } before r after →
    Metric.Extracts (.parent m) p before r after
  | qualified {datasets m r} {p : Place} {before after} :
    Metric.Extracts m { p with scope := datasets } before r after →
    Metric.Extracts (.qualified datasets m) p before r after
  | stats {d r} {p : Place} {tasks} :
    p.startDepth = p.depth → Metric.stats p.scope d = .ok r →
    Metric.Extracts (.docStats d) p tasks r tasks
  | rawStats {d r} {p : Place} {before after} :
    p.startDepth ≠ p.depth → (schedule p (.rawStats d)).run before = .ok (r, after) →
    Metric.Extracts (.docStats d) p before r after
  | distinct {f x y w r} {p : Place} {before between after} :
    Filter.ExtractsOption x { p with depth := p.depth + 1, startDepth := p.depth + 1 } before y
      between →
    (schedule p (.distinct f y w)).run between = .ok (r, after) →
    Metric.Extracts (.distinct f x w) p before r after
  | computed {m c r p before between after} :
    Metric.Prepares m p before c between → (schedule p c).run between = .ok (r, after) →
    Metric.Extracts m p before r after
  | average {m n r p before between after} :
    Metric.Extracts m p before n between → (averaged n).run between = .ok (r, after) →
    Metric.Extracts (.average m) p before r after
  | add {ms ns p before after} :
    Metric.ExtractsAll ms p before ns after →
    Metric.Extracts (.add ms) p before (Metric.sum ns) after
  | around {m ms n ns p before after} :
    Metric.Alike m ms n ns → Metric.ExtractsAll ms p before ns after →
    Metric.Extracts m p before n after
  | ifThenElse {c d y z n o p before decided between after} :
    Filter.Extracts c p before d decided → Metric.Extracts y p decided z between →
    Metric.Extracts n p between o after →
    Metric.Extracts (.ifThenElse c y n) p before (.ifThenElse d z o) after

/-- The computation that a metric is replaced by takes up what is extracted from its parts. -/
inductive Metric.Prepares :
    Metric ν → Place → List (Task ν) → Computation ν → List (Task ν) → Prop
  | percentile {f level p tasks} :
    Metric.Prepares (.percentile f level) p tasks (.percentile f level) tasks
  | sumAcross {f x y o d m n p before between after} :
    Metric.Extracts m p before n between → Filter.ExtractsOption x p between y after →
    Metric.Prepares (.sumAcross (.terms f x none o d) m) p before (.sumAcross f n y) after
  | sumAcrossTerms {f x y limit o k d m n p before between between' after} :
    Filter.ExtractsOption x p before y between → Metric.ExtractsOption o p between k between' →
    Metric.Extracts m p between' n after →
    Metric.Prepares (.sumAcross (.terms f x (some limit) o d) m) p before
      (.sumAcrossGrouping (Grouping.makeTotal (.terms f y (some limit) k d))
        (outsideDefault (Grouping.isTotal (.terms f x (some limit) o d)) n)) after
  | sumAcrossGrouping {g m n p before after} :
    (∀ f x limit o d, g ≠ .terms f x limit o d) → Metric.Extracts m p before n after →
    Metric.Prepares (.sumAcross g m) p before
      (.sumAcrossGrouping g.makeTotal (outsideDefault g.isTotal n)) after
  | fieldMin {f m n x y p before between after} :
    Metric.ExtractsOr f m p before n between → Filter.ExtractsOption x p between y after →
    Metric.Prepares (.fieldMin f m x) p before (.extreme f (.function .negate n) y) after
  | fieldMax {f m n x y p before between after} :
    Metric.ExtractsOr f m p before n between → Filter.ExtractsOption x p between y after →
    Metric.Prepares (.fieldMax f m x) p before (.extreme f n y) after
  | bootstrap {f x y seed m n count outputs p before between after} :
    Metric.Extracts m p before n between → Filter.ExtractsOption x p between y after →
    Metric.Prepares (.bootstrap f x seed m count outputs) p before
      (.bootstrap f y seed n count outputs) after

inductive Metric.ExtractsAll :
    List (Metric ν) → Place → List (Task ν) → List (Metric ν) → List (Task ν) → Prop
  | nil {p tasks} : Metric.ExtractsAll [] p tasks [] tasks
  | cons {m n ms ns p before between after} :
    Metric.Extracts m p before n between → Metric.ExtractsAll ms p between ns after →
    Metric.ExtractsAll (m :: ms) p before (n :: ns) after

inductive Metric.ExtractsOption :
    Option (Metric ν) → Place → List (Task ν) → Option (Metric ν) → List (Task ν) → Prop
  | none {p tasks} : Metric.ExtractsOption none p tasks none tasks
  | some {m n p before after} :
    Metric.Extracts m p before n after → Metric.ExtractsOption (some m) p before (some n) after

/-- The order of the terms of a field, by default that by the average of the field. -/
inductive Metric.ExtractsOr :
    FieldSet → Option (Metric ν) → Place → List (Task ν) → Metric ν → List (Task ν) → Prop
  | average {f r p before after} :
    (averageOfField f).run before = .ok (r, after) → Metric.ExtractsOr f none p before r after
  | given {f m n p before after} :
    Metric.Extracts m p before n after → Metric.ExtractsOr f (some m) p before n after

inductive Filter.Extracts : Filter ν → Place → List (Task ν) → Filter ν → List (Task ν) → Prop
  | kept {f p tasks} : Filter.isKept f = true → Filter.Extracts f p tasks f tasks
  | compare {op a b k n p before between after} :
    Metric.Extracts a p before k between → Metric.Extracts b p between n after →
    Filter.Extracts (.compare op a b) p before (.compare op k n) after
  | and {fs gs p before after} :
    Filter.ExtractsAll fs p before gs after →
    Filter.Extracts (.and fs) p before (Filter.all gs) after
  | or {fs gs p before after} :
    Filter.ExtractsAll fs p before gs after →
    Filter.Extracts (.or fs) p before (Filter.any gs) after
  | not {f g p before after} :
    Filter.Extracts f p before g after → Filter.Extracts (.not f) p before (.not g) after

inductive Filter.ExtractsAll :
    List (Filter ν) → Place → List (Task ν) → List (Filter ν) → List (Task ν) → Prop
  | nil {p tasks} : Filter.ExtractsAll [] p tasks [] tasks
  | cons {f g fs gs p before between after} :
    Filter.Extracts f p before g between → Filter.ExtractsAll fs p between gs after →
    Filter.ExtractsAll (f :: fs) p before (g :: gs) after

inductive Filter.ExtractsOption :
    Option (Filter ν) → Place → List (Task ν) → Option (Filter ν) → List (Task ν) → Prop
  | none {p tasks} : Filter.ExtractsOption none p tasks none tasks
  | some {f g p before after} :
    Filter.Extracts f p before g after → Filter.ExtractsOption (some f) p before (some g) after

end

inductive Grouping.Extracts :
    Grouping ν → Place → List (Task ν) → Grouping ν → List (Task ν) → Prop
  | kept {g p tasks} :
    (∀ f x limit o d, g ≠ .terms f x limit o d) → Grouping.Extracts g p tasks g tasks
  | terms {f x y limit o k d p before between after} :
    Filter.ExtractsOption x p before y between → Metric.ExtractsOption o p between k after →
    Grouping.Extracts (.terms f x limit o d) p before (.terms f y limit k d) after

end

end Aggregate

/-! ## Stages -/

section

variable [Numeric ν]

/-- What a run at a place makes of a stage. A filter that needs a walk over terms stands behind the
stage, as the filter of the groups. -/
inductive Stage.Extracts (p : Place) :
    Stage ν → List (Task ν) → Stage ν → List (Task ν) → Prop
  | front {s : Stage ν} {g x before between after} :
    ¬ s.filter?.any Aggregate.Filter.needsTerms = true →
    Grouping.Extracts s.grouping p before g between →
    Aggregate.Filter.ExtractsOption s.having p between x after →
    Stage.Extracts p s before { s with grouping := g, having := x } after
  | behind {s : Stage ν} {x before after} :
    s.filter?.any Aggregate.Filter.needsTerms = true →
    (∀ f filter limit o d, s.grouping ≠ .terms f filter limit o d) →
    Aggregate.Filter.ExtractsOption s.having { p with phase := .post } before x after →
    Stage.Extracts p s before { s with having := x } after
  | behindTerms {f filter y limit o k d having label before between after} :
    Aggregate.Filter.needsTerms filter = true →
    Aggregate.Filter.Extracts filter { p with phase := .post } before y between →
    Metric.ExtractsOption o { p with phase := .post } between k after →
    Stage.Extracts p ⟨.terms f (some filter) limit o d, having, label⟩ before
      ⟨.terms f none limit k d, some y, label⟩ after

/-- Where the stage stands that leads to groups of the given depth. -/
def Place.ofStage (scope : Names) (depth : Nat) : Place where
  depth := depth
  startDepth := depth
  maxDepth := depth
  scope := scope
  phase := .pre

/-- Where the selected metrics stand behind so many stages. -/
def Place.ofSelects (scope : Names) (stages : Nat) : Place where
  depth := stages
  startDepth := stages
  maxDepth := stages + 1
  scope := scope
  phase := .pre

inductive Stage.ExtractsAll (scope : Names) :
    Nat → List (Stage ν) → List (Task ν) → List (Stage ν) → List (Task ν) → Prop
  | nil {depth tasks} : Stage.ExtractsAll scope depth [] tasks [] tasks
  | cons {depth s u stages us before between after} :
    Stage.Extracts (.ofStage scope depth) s before u between →
    Stage.ExtractsAll scope (depth + 1) stages between us after →
    Stage.ExtractsAll scope depth (s :: stages) before (u :: us) after

/-- A run takes the stages of a plan first, and the selected metrics behind all of them. -/
def Plan.Extracts (p : Plan ν) (before : List (Task ν)) (q : Plan ν) (after : List (Task ν)) :
    Prop :=
  ∃ between, Stage.ExtractsAll p.scope 1 p.stages before q.stages between ∧
    Metric.ExtractsAll p.selects (.ofSelects p.scope p.stages.length) between q.selects after

end

/-! ## Tasks behind tasks -/

section Growth

variable [Numeric ν] {p : Place} {before after : List (Task ν)}

/-- The results are those of a task for the place: one that does the same computation already, or
else a new one behind the others. -/
theorem run_schedule_cases {c : Computation ν} {r : Metric ν}
    (h : (schedule p c).run before = .ok (r, after)) :
    ∃ t : Task ν, (t.phase = p.phase ∧ t.scope = p.scope ∧ p.scheduleDepth c = .ok t.depth) ∧
      r = c.result t.name ∧
      (t ∈ before ∧ (t.computation == c) = true ∧ after = before ∨
        t.computation = c ∧ t.name = "v" ++ toString before.length ∧ after = before ++ [t]) := by
  simp only [schedule, run_bind_eq_ok, run_lift_eq_ok, run_get_eq_ok] at h
  obtain ⟨depth, _, ⟨hdepth, rfl⟩, tasks, _, ⟨rfl, rfl⟩, h⟩ := h
  split at h
  · rename_i t found
    obtain ⟨rfl, rfl⟩ := run_pure_eq_ok.mp h
    have does := List.find?_some found
    simp only [Task.does, Bool.and_eq_true, beq_iff_eq] at does
    obtain ⟨⟨⟨phase, rfl⟩, scope⟩, same⟩ := does
    exact ⟨t, ⟨phase, scope, hdepth⟩, rfl, .inl ⟨List.mem_of_find?_eq_some found, same, rfl⟩⟩
  · simp only [run_bind_eq_ok, run_set_eq_ok, run_pure_eq_ok] at h
    obtain ⟨_, _, rfl, rfl, rfl⟩ := h
    exact ⟨_, ⟨rfl, rfl, hdepth⟩, rfl, .inr ⟨rfl, rfl, rfl⟩⟩

theorem grown_schedule {c : Computation ν} {r : Metric ν}
    (h : (schedule p c).run before = .ok (r, after)) : before <+: after := by
  obtain ⟨t, -, -, ⟨-, -, rfl⟩ | ⟨-, -, rfl⟩⟩ := run_schedule_cases h
  · exact List.prefix_refl _
  · exact List.prefix_append _ _

/-- An average is left as a quotient with the number of documents in at least one dataset. -/
theorem run_averaged_eq_ok {m r : Metric ν} (h : (averaged m).run before = .ok (r, after)) :
    before = after ∧ ∃ datasets, datasets ≠ [] ∧
      r = m.divide (Metric.sum (datasets.map fun d => .docStatsIn d (.qualified d .count))) := by
  simp only [averaged, run_bind_eq_ok, run_get_eq_ok] at h
  obtain ⟨_, _, ⟨rfl, rfl⟩, h⟩ := h
  split at h
  · exact absurd h run_throw_ne_ok
  · rename_i some
    obtain ⟨rfl, rfl⟩ := run_pure_eq_ok.mp h
    exact ⟨rfl, _, some, rfl⟩

theorem grown_averaged {m r : Metric ν} (h : (averaged m).run before = .ok (r, after)) :
    before <+: after := by
  rw [(run_averaged_eq_ok h).1]

namespace Aggregate

mutual

theorem Metric.Extracts.grown {m r : Metric ν} {p : Place} {before after : List (Task ν)}
    (h : m.Extracts p before r after) : before <+: after := by
  match h with
  | .kept _ | .stats _ _ => exact List.prefix_refl _
  | .parent inner | .qualified inner => exact inner.grown
  | .rawStats _ run => exact grown_schedule run
  | .distinct filter run => exact filter.grown.trans (grown_schedule run)
  | .computed prepared run => exact prepared.grown.trans (grown_schedule run)
  | .average inner run => exact inner.grown.trans (grown_averaged run)
  | .add parts | .around _ parts => exact parts.grown
  | .ifThenElse condition yes no => exact (condition.grown.trans yes.grown).trans no.grown

theorem Metric.Prepares.grown {m : Metric ν} {c : Computation ν} {p : Place}
    {before after : List (Task ν)} (h : m.Prepares p before c after) : before <+: after := by
  match h with
  | .percentile => exact List.prefix_refl _
  | .sumAcross summed filter | .bootstrap summed filter => exact summed.grown.trans filter.grown
  | .sumAcrossTerms filter order summed =>
    exact (filter.grown.trans order.grown).trans summed.grown
  | .sumAcrossGrouping _ summed => exact summed.grown
  | .fieldMin order filter | .fieldMax order filter => exact order.grown.trans filter.grown

theorem Metric.ExtractsAll.grown {ms ns : List (Metric ν)} {p : Place}
    {before after : List (Task ν)} (h : Metric.ExtractsAll ms p before ns after) :
    before <+: after := by
  match h with
  | .nil => exact List.prefix_refl _
  | .cons first more => exact first.grown.trans more.grown

theorem Metric.ExtractsOption.grown {m n : Option (Metric ν)} {p : Place}
    {before after : List (Task ν)} (h : Metric.ExtractsOption m p before n after) :
    before <+: after := by
  match h with
  | .none => exact List.prefix_refl _
  | .some inner => exact inner.grown

theorem Metric.ExtractsOr.grown {f : FieldSet} {m : Option (Metric ν)} {n : Metric ν} {p : Place}
    {before after : List (Task ν)} (h : Metric.ExtractsOr f m p before n after) :
    before <+: after := by
  match h with
  | .average run => exact grown_averaged run
  | .given inner => exact inner.grown

theorem Filter.Extracts.grown {f g : Filter ν} {p : Place} {before after : List (Task ν)}
    (h : f.Extracts p before g after) : before <+: after := by
  match h with
  | .kept _ => exact List.prefix_refl _
  | .compare left right => exact left.grown.trans right.grown
  | .and operands | .or operands => exact operands.grown
  | .not inner => exact inner.grown

theorem Filter.ExtractsAll.grown {fs gs : List (Filter ν)} {p : Place}
    {before after : List (Task ν)} (h : Filter.ExtractsAll fs p before gs after) :
    before <+: after := by
  match h with
  | .nil => exact List.prefix_refl _
  | .cons first more => exact first.grown.trans more.grown

theorem Filter.ExtractsOption.grown {x y : Option (Filter ν)} {p : Place}
    {before after : List (Task ν)} (h : Filter.ExtractsOption x p before y after) :
    before <+: after := by
  match h with
  | .none => exact List.prefix_refl _
  | .some inner => exact inner.grown

end

end Aggregate

end Growth

end Groupwise
