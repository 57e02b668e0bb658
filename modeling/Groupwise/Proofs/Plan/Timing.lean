import Groupwise.Plan.Schedule
import Groupwise.Proofs.Decimal.Numeral
import Groupwise.Proofs.Step.Readiness
import Mathlib.Data.List.TakeWhile

/-!
# The moments of a schedule

The steps of a schedule come at four moments of each depth: the computations in front of the stage,
the stage, the computations behind it, and the filter of its groups. A schedule is ready exactly if
nothing in it looks up a name that is computed at a later moment.
-/
namespace Groupwise

open Aggregate

variable {ν : Type}

/-! ## Tasks in the order in which they are noted -/

/-- Every task has the name of its place in the list and looks up only results of tasks before. -/
inductive Scheduled : List (Task ν) → Prop
  | nil : Scheduled []
  | snoc {tasks : List (Task ν)} {t : Task ν} : Scheduled tasks →
      t.name = "v" ++ toString tasks.length →
      (∀ name ∈ t.computation.lookedUp, ∃ u ∈ tasks, name ∈ u.outputs) → Scheduled (tasks ++ [t])

/-- The digits behind the first letter of an output are the number of its task. -/
theorem digits_of_mem_outputs {c : Computation ν} {k : Nat} {name : String}
    (h : name ∈ c.outputs ("v" ++ toString k)) :
    name.toList.tail.takeWhile Char.isDigit = Nat.toDigits 10 k := by
  have digits : ∀ d ∈ Nat.toDigits 10 k, d.isDigit = true := fun d hd =>
    Nat.isDigit_of_mem_toDigits (by decide) (by decide) hd
  cases c with
  | bootstrap f x s m n outputs =>
    obtain ⟨output, _, rfl⟩ := List.mem_map.mp h
    simp [List.takeWhile_append_of_pos digits]
  | _ =>
    rw [List.mem_singleton.mp h]
    simpa [List.takeWhile_eq_self_iff] using digits

theorem eq_of_mem_outputs {c d : Computation ν} {k l : Nat} {name : String}
    (hc : name ∈ c.outputs ("v" ++ toString k)) (hd : name ∈ d.outputs ("v" ++ toString l)) :
    k = l := by
  refine Decimal.toDigits_inj ?_
  rw [← digits_of_mem_outputs hc, digits_of_mem_outputs hd]

namespace Scheduled

variable {tasks later : List (Task ν)} {t u : Task ν} {name : String}

theorem name_eq (scheduled : Scheduled tasks) (ht : t ∈ tasks) :
    ∃ k < tasks.length, t.name = "v" ++ toString k := by
  induction scheduled with
  | nil => exact absurd ht List.not_mem_nil
  | snoc _ named _ ih =>
    rw [List.length_append, List.length_singleton]
    rcases List.mem_append.mp ht with ht | ht
    · obtain ⟨k, hk, eq⟩ := ih ht
      exact ⟨k, by omega, eq⟩
    · rw [List.mem_singleton.mp ht]
      exact ⟨_, by omega, named⟩

/-- The number of the next task is greater than those of all tasks before. -/
theorem not_mem_outputs_of_next (scheduled : Scheduled tasks) (ht : t ∈ tasks)
    (next : u.name = "v" ++ toString tasks.length) (inT : name ∈ t.outputs) :
    name ∉ u.outputs := by
  intro inU
  obtain ⟨k, hk, eq⟩ := scheduled.name_eq ht
  rw [Task.outputs, eq] at inT
  rw [Task.outputs, next] at inU
  exact absurd (eq_of_mem_outputs inT inU) (by omega)

/-- A name is an output of one task at most. -/
theorem unique (scheduled : Scheduled tasks) (ht : t ∈ tasks) (hu : u ∈ tasks)
    (inT : name ∈ t.outputs) (inU : name ∈ u.outputs) : t = u := by
  induction scheduled with
  | nil => exact absurd ht List.not_mem_nil
  | snoc rest named _ ih =>
    rcases List.mem_append.mp ht with ht | ht <;> rcases List.mem_append.mp hu with hu | hu
    · exact ih ht hu
    · rw [List.mem_singleton.mp hu] at inU
      exact absurd inU (rest.not_mem_outputs_of_next ht named inT)
    · rw [List.mem_singleton.mp ht] at inT
      exact absurd inT (rest.not_mem_outputs_of_next hu named inU)
    · rw [List.mem_singleton.mp ht, List.mem_singleton.mp hu]

theorem closed (scheduled : Scheduled tasks) (ht : t ∈ tasks)
    (hn : name ∈ t.computation.lookedUp) : ∃ u ∈ tasks, name ∈ u.outputs := by
  induction scheduled with
  | nil => exact absurd ht List.not_mem_nil
  | snoc _ _ closed ih =>
    rcases List.mem_append.mp ht with ht | ht
    · obtain ⟨u, hu, found⟩ := ih ht
      exact ⟨u, List.mem_append_left _ hu, found⟩
    · rw [List.mem_singleton.mp ht] at hn
      obtain ⟨u, hu, found⟩ := closed name hn
      exact ⟨u, List.mem_append_left _ hu, found⟩

end Scheduled

/-! ## Moments -/

/-- The moment of the computations of a phase and depth. The stage of the depth comes one moment
after those in front of it, and the filter of its groups one moment after those behind it. -/
def Phase.moment : Phase → Int → Int
  | .pre, depth => 4 * depth
  | .post, depth => 4 * depth + 2

def Task.moment (t : Task ν) : Int := t.phase.moment t.depth

/-- The names that tasks compute before a moment. -/
def computedBefore (tasks : List (Task ν)) (moment : Int) : Set String :=
  {name | ∃ t ∈ tasks, t.moment < moment ∧ name ∈ t.outputs}

/-- Nothing that the task looks up is computed at a later moment. -/
def Task.Timely (tasks : List (Task ν)) (t : Task ν) : Prop :=
  ∀ name ∈ t.computation.lookedUp, name ∈ computedBefore tasks (t.moment + 1)

variable {tasks later : List (Task ν)} {t : Task ν} {moment : Int} {name : String} {phase : Phase}
  {depth : Nat}

theorem Task.moment_eq_iff : t.moment = phase.moment depth ↔ t.phase = phase ∧ t.depth = depth := by
  cases hp : t.phase <;> cases phase <;> simp [Task.moment, Phase.moment, hp] <;> omega

theorem computedBefore_mono {other : Int} (h : moment ≤ other) :
    computedBefore tasks moment ⊆ computedBefore tasks other := by
  rintro name ⟨t, ht, early, found⟩
  exact ⟨t, ht, by omega, found⟩

/-- What tasks compute early does not change when others are noted after them. -/
theorem mem_computedBefore_of_prefix (scheduled : Scheduled later) (grown : tasks <+: later)
    (known : ∃ t ∈ tasks, name ∈ t.outputs) :
    name ∈ computedBefore later moment ↔ name ∈ computedBefore tasks moment := by
  constructor
  · rintro ⟨u, hu, early, found⟩
    obtain ⟨t, ht, mine⟩ := known
    obtain rfl := scheduled.unique (grown.subset ht) hu mine found
    exact ⟨t, ht, early, found⟩
  · rintro ⟨t, ht, early, found⟩
    exact ⟨t, grown.subset ht, early, found⟩

theorem computed_computedAt : Step.computed (computedAt tasks phase depth) =
    {name | ∃ t ∈ tasks, t.moment = phase.moment depth ∧ name ∈ t.outputs} := by
  ext name
  simp [Step.computed, computedAt, Task.moment_eq_iff, Task.outputs, and_assoc]

/-- At a moment of computations the names become known that they compute. -/
theorem computedBefore_union_computedAt (tasks : List (Task ν)) (phase : Phase) (depth : Nat) :
    computedBefore tasks (phase.moment depth) ∪ Step.computed (computedAt tasks phase depth) =
      computedBefore tasks (phase.moment depth + 1) := by
  rw [computed_computedAt]
  ext name
  constructor
  · rintro (⟨t, ht, early, found⟩ | ⟨t, ht, now, found⟩)
    · exact ⟨t, ht, by omega, found⟩
    · exact ⟨t, ht, by omega, found⟩
  · rintro ⟨t, ht, early, found⟩
    rcases eq_or_ne t.moment (phase.moment depth) with now | other
    · exact .inr ⟨t, ht, now, found⟩
    · exact .inl ⟨t, ht, by omega, found⟩

theorem computedAt_snoc_of_eq (now : t.moment = phase.moment depth) :
    computedAt (tasks ++ [t]) phase depth =
      computedAt tasks phase depth ++ [.compute t.scope t.computation t.name] := by
  obtain ⟨rfl, rfl⟩ := Task.moment_eq_iff.mp now
  simp [computedAt, List.filter_append]

theorem computedAt_snoc_of_ne (other : t.moment ≠ phase.moment depth) :
    computedAt (tasks ++ [t]) phase depth = computedAt tasks phase depth := by
  have skipped : (t.phase == phase && t.depth == depth) = false := by
    rw [Ne, Task.moment_eq_iff] at other
    simpa using fun h => mt (And.intro h) other
  simp [computedAt, List.filter_append, skipped]

/-- The computations of one moment are ready exactly if each of them is timely: what they look up of
their own moment stands before them. -/
theorem ready_computedAt (phase : Phase) (depth : Nat) (scheduled : Scheduled tasks)
    (all : Scheduled later) (grown : tasks <+: later) :
    Step.Ready (computedBefore later (phase.moment depth)) (computedAt tasks phase depth) ↔
      ∀ t ∈ tasks, t.moment = phase.moment depth → t.Timely later := by
  induction scheduled with
  | nil => simp [computedAt, Step.Ready]
  | @snoc tasks t _ _ closed ih =>
    have before : tasks <+: later := (List.prefix_append _ _).trans grown
    rw [List.forall_mem_append, List.forall_mem_singleton, ← ih before]
    by_cases now : t.moment = phase.moment depth
    · rw [computedAt_snoc_of_eq now, Step.ready_append, computed_computedAt]
      refine and_congr_right fun _ => ?_
      rw [Step.Ready, Step.Ready, and_true, Step.lookups_compute, forall_prop_of_true now,
        Task.Timely, now]
      refine forall₂_congr fun name hn => ?_
      obtain ⟨u, hu, found⟩ := closed name hn
      constructor
      · rintro (⟨v, hv, early, found⟩ | ⟨v, hv, same, found⟩)
        · exact ⟨v, hv, by omega, found⟩
        · exact ⟨v, before.subset hv, by omega, found⟩
      · rintro ⟨v, hv, early, foundV⟩
        obtain rfl := all.unique (before.subset hu) hv found foundV
        rcases eq_or_ne u.moment (phase.moment depth) with same | other
        · exact .inr ⟨u, hu, same, found⟩
        · exact .inl ⟨u, hv, by omega, found⟩
    · rw [computedAt_snoc_of_ne now]
      simp [now]

/-! ## Levels -/

/-- The names that a stage and the filter of its groups look up. -/
structure StageReads where
  stage : List String
  having : List String

def Stage.reads (s : Stage ν) : StageReads := ⟨s.grouping.lookups, Filter.lookupsOption s.having⟩

/-- What a stage and the filter of its groups look up is computed before their moments. -/
def StageReads.Timely (tasks : List (Task ν)) (depth : Nat) (r : StageReads) : Prop :=
  (∀ name ∈ r.stage, name ∈ computedBefore tasks (4 * depth + 1)) ∧
    ∀ name ∈ r.having, name ∈ computedBefore tasks (4 * depth + 3)

/-- The same for all stages from a depth on. -/
def StagesTimely (tasks : List (Task ν)) : Nat → List StageReads → Prop
  | _, [] => True
  | depth, r :: rest => r.Timely tasks depth ∧ StagesTimely tasks (depth + 1) rest

theorem Task.even_moment (t : Task ν) : t.moment % 2 = 0 := by
  cases hp : t.phase <;> simp only [Task.moment, Phase.moment, hp] <;> omega

/-- Nothing is computed at the moments of the stages and of the filters of their groups. -/
theorem computedBefore_succ (odd : moment % 2 = 1) :
    computedBefore tasks (moment + 1) = computedBefore tasks moment := by
  refine Set.Subset.antisymm ?_ (computedBefore_mono (by omega))
  rintro name ⟨t, ht, early, found⟩
  have even := t.even_moment
  exact ⟨t, ht, by omega, found⟩

/-- One level of a schedule is ready exactly if its tasks are timely and its other steps are ready
at their moments. -/
theorem ready_level (depth : Nat) {stage having : List (Step ν)} (rest : List (Step ν))
    (scheduled : Scheduled tasks) (noStage : Step.computed stage = ∅)
    (noHaving : Step.computed having = ∅) :
    Step.Ready (computedBefore tasks (4 * depth)) (computedAt tasks .pre depth ++ stage ++
      computedAt tasks .post depth ++ having ++ rest) ↔
      (∀ t ∈ tasks, t.depth = depth → t.Timely tasks) ∧
      Step.Ready (computedBefore tasks (4 * depth + 1)) stage ∧
      Step.Ready (computedBefore tasks (4 * depth + 3)) having ∧
      Step.Ready (computedBefore tasks (4 * ↑(depth + 1))) rest := by
  have pre := ready_computedAt .pre depth scheduled scheduled (List.prefix_refl _)
  have post := ready_computedAt .post depth scheduled scheduled (List.prefix_refl _)
  have atStage : computedBefore tasks (4 * depth) ∪ Step.computed (computedAt tasks .pre depth) =
      computedBefore tasks (4 * depth + 1) :=
    computedBefore_union_computedAt tasks .pre depth
  have atPost : computedBefore tasks (4 * depth) ∪
      Step.computed (computedAt tasks .pre depth ++ stage) =
        computedBefore tasks (4 * depth + 2) := by
    rw [Step.computed_append, noStage, Set.union_empty, atStage]
    exact (computedBefore_succ (by omega)).symm
  have atHaving : computedBefore tasks (4 * depth) ∪
      Step.computed (computedAt tasks .pre depth ++ stage ++ computedAt tasks .post depth) =
        computedBefore tasks (4 * depth + 3) := by
    rw [Step.computed_append, ← Set.union_assoc, atPost]
    exact computedBefore_union_computedAt tasks .post depth
  have atNext : computedBefore tasks (4 * depth) ∪ Step.computed (computedAt tasks .pre depth ++
      stage ++ computedAt tasks .post depth ++ having) =
        computedBefore tasks (4 * ↑(depth + 1)) := by
    have moment : (4 * ↑(depth + 1) : Int) = 4 * depth + 3 + 1 := by omega
    rw [Step.computed_append, noHaving, Set.union_empty, atHaving, moment]
    exact (computedBefore_succ (by omega)).symm
  have ofDepth : (∀ t ∈ tasks, t.depth = depth → t.Timely tasks) ↔
      (∀ t ∈ tasks, t.moment = 4 * depth → t.Timely tasks) ∧
      ∀ t ∈ tasks, t.moment = 4 * depth + 2 → t.Timely tasks := by
    constructor
    · intro h
      exact ⟨fun t ht (now : t.moment = Phase.pre.moment depth) =>
          h t ht (Task.moment_eq_iff.mp now).2,
        fun t ht (now : t.moment = Phase.post.moment depth) =>
          h t ht (Task.moment_eq_iff.mp now).2⟩
    · rintro ⟨front, behind⟩ t ht rfl
      cases hp : t.phase with
      | pre => exact front t ht (Task.moment_eq_iff.mpr ⟨hp, rfl⟩)
      | post => exact behind t ht (Task.moment_eq_iff.mpr ⟨hp, rfl⟩)
  rw [Step.ready_append, Step.ready_append, Step.ready_append, Step.ready_append, atStage, atPost,
    atHaving, atNext, ofDepth]
  simp only [Phase.moment] at pre post
  rw [pre, post]
  simp only [and_assoc]
  exact and_congr_right fun _ => and_left_comm

/-- A schedule is ready exactly if its tasks and its stages are timely. -/
theorem ready_levels (depth : Nat) {count : Nat}
    {stages : List (Regrouping ν × Option (Aggregate.Filter ν))} (scheduled : Scheduled tasks)
    (enough : stages.length ≤ count) :
    Step.Ready (computedBefore tasks (4 * depth)) (levels tasks depth count stages) ↔
      (∀ t ∈ tasks, depth ≤ t.depth → t.depth < depth + count → t.Timely tasks) ∧
      StagesTimely tasks depth
        (stages.map fun s => ⟨s.1.lookups, Filter.lookupsOption s.2⟩) := by
  induction count generalizing depth stages with
  | zero =>
    obtain rfl := List.length_eq_zero_iff.mp (Nat.le_zero.mp enough)
    simp only [levels, Step.Ready, List.map_nil, StagesTimely, and_true, true_iff]
    intro t _ low high
    omega
  | succ count ih =>
    have split : (∀ t ∈ tasks, depth ≤ t.depth → t.depth < depth + (count + 1) →
        t.Timely tasks) ↔ (∀ t ∈ tasks, t.depth = depth → t.Timely tasks) ∧
        ∀ t ∈ tasks, depth + 1 ≤ t.depth → t.depth < depth + 1 + count → t.Timely tasks := by
      constructor
      · intro h
        exact ⟨fun t ht now => h t ht (by omega) (by omega),
          fun t ht low high => h t ht (by omega) (by omega)⟩
      · rintro ⟨here, deeper⟩ t ht low high
        rcases Nat.eq_or_lt_of_le low with now | low
        · exact here t ht now.symm
        · exact deeper t ht low (by omega)
    rw [split]
    cases stages with
    | nil =>
      have level := ready_level depth (levels tasks (depth + 1) count []) scheduled
        Step.computed_nil Step.computed_nil
      rw [List.append_nil, List.append_nil, ih (depth + 1) (Nat.zero_le _)] at level
      rw [levels, level]
      simp [Step.Ready, StagesTimely]
    | cons stage stages =>
      obtain ⟨regrouping, having⟩ := stage
      have noStage : Step.computed [Step.regroup regrouping] = ∅ := by simp
      have noHaving : Step.computed ((having.map Step.filterGroups).toList) = ∅ := by
        cases having <;> simp
      have level := ready_level depth (levels tasks (depth + 1) count stages) scheduled noStage
        noHaving
      rw [ih (depth + 1) (Nat.le_of_succ_le_succ enough)] at level
      rw [levels, level, List.map_cons, StagesTimely, StageReads.Timely]
      have stage : Step.Ready (computedBefore tasks (4 * depth + 1)) [Step.regroup regrouping] ↔
          ∀ name ∈ regrouping.lookups, name ∈ computedBefore tasks (4 * depth + 1) := by
        simp [Step.Ready, Step.lookups]
      have filter : Step.Ready (computedBefore tasks (4 * depth + 3))
          (having.map Step.filterGroups).toList ↔
            ∀ name ∈ Filter.lookupsOption having, name ∈ computedBefore tasks (4 * depth + 3) := by
        cases having <;> simp [Step.Ready, Step.lookups, Filter.collectOption]
      rw [stage, filter]
      simp only [and_assoc]
      exact and_congr_right fun _ => (and_congr_right fun _ => and_left_comm).trans and_left_comm

/-- A level for every task and every stage is enough. -/
theorem le_levels_count (tasks : List (Task ν)) (stages : Nat) :
    stages ≤ tasks.foldl (fun n t => max n (t.depth + 1)) stages ∧
      ∀ t ∈ tasks, t.depth < tasks.foldl (fun n t => max n (t.depth + 1)) stages := by
  induction tasks generalizing stages with
  | nil => simp
  | cons t rest ih =>
    obtain ⟨least, each⟩ := ih (max stages (t.depth + 1))
    rw [List.foldl_cons, List.forall_mem_cons]
    exact ⟨by omega, by omega, each⟩

theorem mem_computed_computedAt (ht : t ∈ tasks) (hn : name ∈ t.outputs) :
    name ∈ Step.computed (computedAt tasks t.phase t.depth) := by
  rw [computed_computedAt]
  exact ⟨t, ht, rfl, hn⟩

/-- A schedule computes the results of all tasks of its depths. -/
theorem mem_computed_levels {count : Nat}
    {stages : List (Regrouping ν × Option (Aggregate.Filter ν))} (ht : t ∈ tasks)
    (hn : name ∈ t.outputs) (low : depth ≤ t.depth) (high : t.depth < depth + count) :
    name ∈ Step.computed (levels tasks depth count stages) := by
  induction count generalizing depth stages with
  | zero => omega
  | succ count ih =>
    have found := mem_computed_computedAt ht hn
    rcases Nat.eq_or_lt_of_le low with rfl | low
    · rcases stages with _ | ⟨⟨regrouping, having⟩, stages⟩ <;>
        cases hp : t.phase <;> rw [hp] at found <;> simp [levels, found]
    · have deeper := fun s => @ih (depth + 1) s low (by omega)
      rcases stages with _ | ⟨⟨regrouping, having⟩, stages⟩ <;> simp [levels, deeper]

/-- Nothing is computed before the first moment. -/
theorem computedBefore_zero : computedBefore tasks 0 = ∅ := by
  refine Set.eq_empty_of_forall_notMem ?_
  rintro name ⟨t, _, early, _⟩
  cases hp : t.phase <;> simp only [Task.moment, Phase.moment, hp] at early <;> omega

theorem Aggregate.Grouping.lookups_regrouping {g : Grouping ν} {scope : Names} {r : Regrouping ν}
    (h : g.regrouping scope = .ok r) : r.lookups = g.lookups := by
  cases g <;> simp only [Grouping.regrouping, bind_eq_ok] at h
  case predicate =>
    obtain ⟨_, _, h⟩ := h
    obtain rfl := Except.ok.inj h
    rfl
  all_goals
    obtain rfl := Except.ok.inj h
    rfl

theorem reads_regroupings {scope : Names} {stages : List (Stage ν)}
    {regroupings : List (Regrouping ν × Option (Aggregate.Filter ν))}
    (h : stages.mapM (fun s => do pure (← s.grouping.regrouping scope, s.having)) =
      (.ok regroupings : CompileM _)) :
    (regroupings.map fun s => ⟨s.1.lookups, Filter.lookupsOption s.2⟩) =
      stages.map Stage.reads := by
  induction stages generalizing regroupings with
  | nil =>
    obtain rfl := pure_eq_ok.mp h
    rfl
  | cons s rest ih =>
    simp only [List.mapM_cons, bind_eq_ok, pure_eq_ok] at h
    obtain ⟨_, ⟨r, hr, rfl⟩, others, hothers, rfl⟩ := h
    rw [List.map_cons, List.map_cons, ih hothers, Grouping.lookups_regrouping hr, Stage.reads]

/-- The steps of a plan are ready exactly if the tasks and the stages are timely, as long as the
selected numbers look up results of tasks. -/
theorem Extracted.computedBeforeRead_iff [Numeric ν] {e : Extracted ν} {steps : List (Step ν)}
    (scheduled : Scheduled e.tasks)
    (found : ∀ name ∈ Metric.lookupsOfAll e.plan.selects, ∃ t ∈ e.tasks, name ∈ t.outputs)
    (h : e.steps = .ok steps) (rowLimit : Option Nat) :
    Step.ComputedBeforeRead (Step.merge rowLimit steps) ↔
      (∀ t ∈ e.tasks, t.Timely e.tasks) ∧
        StagesTimely e.tasks 0 (e.plan.stages.map Stage.reads) := by
  simp only [Extracted.steps, bind_eq_ok, pure_eq_ok] at h
  obtain ⟨stages, hstages, rfl⟩ := h
  obtain ⟨enough, within⟩ := le_levels_count e.tasks stages.length
  rw [Step.computedBeforeRead_iff_ready, Step.ready_merge, ← reads_regroupings hstages]
  · have ready := ready_levels 0 scheduled enough
    have start : computedBefore e.tasks (4 * (0 : Nat)) = ∅ := computedBefore_zero
    rw [start] at ready
    rw [ready]
    refine and_congr_left fun _ => forall₂_congr fun t ht => ?_
    simp [within t ht]
  · intro name hn
    obtain ⟨t, ht, mine⟩ := found name hn
    refine .inr (mem_computed_levels ht mine (Nat.zero_le _) ?_)
    simpa using within t ht

end Groupwise
