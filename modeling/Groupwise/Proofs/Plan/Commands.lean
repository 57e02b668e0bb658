import Groupwise.Compilation
import Groupwise.Proofs.Step.Programs

/-!
# Commands of plans

The steps of an extracted plan compute what its tasks compute. The programs in its commands are
those of the metrics by which its filter tests documents and by which its groupings measure them,
also the groupings that sums are taken across.
-/
namespace Groupwise

open Aggregate

variable {ν : Type}

/-! ## Levels -/

section Levels

variable {tasks : List (Task ν)} {t : Task ν} {phase : Phase} {depth count : Nat}
  {stages : List (Regrouping ν × Option (Aggregate.Filter ν))}

theorem computations_computedAt : (computedAt tasks phase depth).flatMap Step.computations =
    (tasks.filter fun t => t.phase == phase && t.depth == depth).map
      fun t => (t.scope, t.computation) := by
  rw [computedAt, List.flatMap_map, List.map_eq_flatMap]
  rfl

theorem mem_computations_computedAt (ht : t ∈ tasks) : (t.scope, t.computation) ∈
    (computedAt tasks t.phase t.depth).flatMap Step.computations := by
  rw [computations_computedAt]
  exact List.mem_map_of_mem (List.mem_filter.mpr ⟨ht, by simp⟩)

/-- A schedule does the computations of all tasks of its depths. -/
theorem mem_computations_levels (ht : t ∈ tasks) (low : depth ≤ t.depth)
    (high : t.depth < depth + count) : (t.scope, t.computation) ∈
      (levels tasks depth count stages).flatMap Step.computations := by
  induction count generalizing depth stages with
  | zero => omega
  | succ count ih =>
    have here := mem_computations_computedAt ht
    rcases Nat.eq_or_lt_of_le low with rfl | low
    · rcases stages with _ | ⟨⟨regrouping, having⟩, stages⟩ <;>
        cases hp : t.phase <;> rw [hp] at here <;> simp [levels, here]
    · have deeper := fun stages => @ih (depth + 1) stages low (by omega)
      rcases stages with _ | ⟨⟨regrouping, having⟩, stages⟩ <;> simp [levels, deeper]

/-- The steps of a schedule do its tasks, or they come from its stages. -/
theorem task_or_stage_of_mem_levels {step : Step ν} (h : step ∈ levels tasks depth count stages) :
    (∃ t ∈ tasks, step = .compute t.scope t.computation t.name) ∨
      ∃ s ∈ stages, step = .regroup s.1 ∨ ∃ f, s.2 = some f ∧ step = .filterGroups f := by
  have task {depth phase} (h : step ∈ computedAt tasks phase depth) :
      ∃ t ∈ tasks, step = .compute t.scope t.computation t.name := by
    obtain ⟨t, ht, rfl⟩ := List.mem_map.mp h
    exact ⟨t, (List.mem_filter.mp ht).1, rfl⟩
  induction count generalizing depth stages with
  | zero => exact absurd h List.not_mem_nil
  | succ count ih =>
    rcases stages with _ | ⟨⟨regrouping, having⟩, stages⟩
    · simp only [levels, List.mem_append] at h
      rcases h with (h | h) | h
      · exact .inl (task h)
      · exact .inl (task h)
      · exact ih h
    · simp only [levels, List.mem_append, List.mem_singleton] at h
      rcases h with (((h | rfl) | h) | h) | h
      · exact .inl (task h)
      · exact .inr ⟨_, List.mem_cons_self .., .inl rfl⟩
      · exact .inl (task h)
      · obtain ⟨f, rfl, rfl⟩ := Option.map_eq_some_iff.mp (Option.mem_toList.mp h)
        exact .inr ⟨_, List.mem_cons_self .., .inr ⟨f, rfl, rfl⟩⟩
      · rcases ih h with known | ⟨s, hs, known⟩
        · exact .inl known
        · exact .inr ⟨s, List.mem_cons_of_mem _ hs, known⟩

theorem exists_task_of_mem_levels {x : Names × Computation ν}
    (hx : x ∈ (levels tasks depth count stages).flatMap Step.computations) :
    ∃ t ∈ tasks, x = (t.scope, t.computation) := by
  obtain ⟨step, hstep, hx⟩ := List.mem_flatMap.mp hx
  rcases task_or_stage_of_mem_levels hstep with ⟨t, ht, rfl⟩ | ⟨_, _, rfl | ⟨_, _, rfl⟩⟩
  · exact ⟨t, ht, List.mem_singleton.mp hx⟩
  · exact absurd hx List.not_mem_nil
  · exact absurd hx List.not_mem_nil

theorem settled_levels (computed : ∀ t ∈ tasks, Settled t.computation.nodes)
    (grouped : ∀ s ∈ stages, Settled s.1.nodes ∧ Settled (Filter.nodesOption s.2)) :
    Settled ((levels tasks depth count stages).flatMap Step.nodes) := by
  refine List.forall_mem_flatMap.mpr fun step hstep => ?_
  rcases task_or_stage_of_mem_levels hstep with ⟨t, ht, rfl⟩ | ⟨s, hs, rfl | ⟨f, having, rfl⟩⟩
  · exact computed t ht
  · exact (grouped s hs).1
  · have filter := (grouped s hs).2
    rw [having] at filter
    exact filter

end Levels

namespace Extracted

variable {e : Extracted ν} {steps : List (Step ν)}

/-- The steps of an extracted plan compute what its tasks compute. -/
theorem apt_steps_iff (h : e.steps = .ok steps) :
    (∀ x ∈ steps.flatMap Step.computations, x.2.Apt x.1) ↔ Apt e.tasks := by
  simp only [Extracted.steps, bind_eq_ok, pure_eq_ok] at h
  obtain ⟨stages, hstages, rfl⟩ := h
  rw [List.flatMap_append]
  constructor
  · intro apt t ht
    have high := (le_levels_count e.tasks stages.length).2 t ht
    exact apt (t.scope, t.computation)
      (List.mem_append_left _ (mem_computations_levels ht (Nat.zero_le _) (by omega)))
  · intro apt x hx
    rcases List.mem_append.mp hx with hx | hx
    · obtain ⟨t, ht, rfl⟩ := exists_task_of_mem_levels hx
      exact apt t ht
    · simp [Step.computations] at hx

theorem settled_steps (settled : Settled e.nodes) (h : e.steps = .ok steps) :
    Settled (steps.flatMap Step.nodes) := by
  simp only [Extracted.steps, bind_eq_ok, pure_eq_ok] at h
  obtain ⟨stages, hstages, rfl⟩ := h
  simp only [Extracted.nodes, Plan.nodes, settled_append] at settled
  rw [List.flatMap_append, settled_append]
  refine ⟨settled_levels (fun t ht n hn => ?_) fun s hs => ?_, ?_⟩
  · exact settled.2 n (List.mem_flatMap.mpr ⟨t, ht, hn⟩)
  · obtain ⟨stage, hstage, made⟩ := mapM_eq_ok_mem hstages hs
    simp only [bind_eq_ok, pure_eq_ok] at made
    obtain ⟨r, hr, rfl⟩ := made
    rw [Grouping.nodes_regrouping hr, ← settled_append]
    exact fun n hn => settled.1.1 n (List.mem_flatMap.mpr ⟨stage, hstage, hn⟩)
  · simpa [Step.nodes] using settled.1.2

theorem faultless_steps (e : Extracted ν) : Faultless e.steps := by
  refine (Faultless.mapM fun s _ => ?_).bind fun _ => .pure _
  exact s.grouping.faultless_regrouping.bind fun _ => .pure _

end Extracted

/-! ## Programs -/

section Programs

variable [Numeric ν] {p q : Plan ν} {program : Program ν} {commands : List (Command ν)}

theorem Doc.Filter.faultless_documentActions (scope : Names) (f : Option Doc.Filter) :
    Faultless (documentActions scope f) := by
  unfold documentActions
  split
  · exact .ok _
  · exact .ok _
  · exact (Doc.Filter.faultless_actions _ _ _ _).bind fun _ => .pure _

namespace Plan

/-- Writing the program of a plan is not at fault if the prepared plan fits. -/
theorem faultless_program
    (fits : ∀ q, p.substitute = .ok q → q.simplify.filterTopTerms.fits = true) :
    Faultless p.program :=
  p.faultless_substitute.bind_ok fun q hq => (faultless_extract (fits q hq)).bind fun e =>
    (Doc.Filter.faultless_documentActions _ _).bind fun _ =>
      e.faultless_steps.bind fun _ => .pure _

/-- What is left of the expressions of a plan in its program is settled, and the program computes
what can be carried out exactly if the prepared plan fits. -/
theorem program_spec (h : p.program = .ok program) :
    ∃ q, p.substitute = .ok q ∧ Settled (program.steps.flatMap Step.nodes) ∧
      ((∀ x ∈ program.steps.flatMap Step.computations, x.2.Apt x.1) ↔
        q.simplify.filterTopTerms.fits = true) := by
  simp only [Plan.program, bind_eq_ok, pure_eq_ok] at h
  obtain ⟨q, hq, e, he, filter, _, steps, hsteps, rfl⟩ := h
  refine ⟨q, hq, Step.settled_merge _ ?_, ?_⟩
  · exact Extracted.settled_steps (settled_extract (nameless_prepared hq) he) hsteps
  · rw [Step.computations_merge, Extracted.apt_steps_iff hsteps, apt_extract he]

end Plan

namespace Program

theorem faultless_commands
    (apt : ∀ x ∈ program.steps.flatMap Step.computations, x.2.Apt x.1) :
    Faultless program.commands := by
  refine (Faultless.mapM fun step hstep => Step.faultless_commands fun x hx => ?_).bind
    fun _ => .pure _
  exact apt x (List.mem_flatMap.mpr ⟨step, hstep, hx⟩)

theorem apt_of_commands (h : program.commands = .ok commands) :
    ∀ x ∈ program.steps.flatMap Step.computations, x.2.Apt x.1 := by
  simp only [Program.commands, bind_eq_ok] at h
  obtain ⟨each, heach, _⟩ := h
  intro x hx
  obtain ⟨step, hstep, hx⟩ := List.mem_flatMap.mp hx
  obtain ⟨_, made⟩ := mapM_eq_ok_of_mem heach hstep
  exact Step.apt_of_commands made x hx

theorem settled_commands (settled : Settled (program.steps.flatMap Step.nodes))
    (h : program.commands = .ok commands) : ∀ c ∈ commands, Settled c.nodes := by
  simp only [Program.commands, bind_eq_ok, pure_eq_ok] at h
  obtain ⟨each, heach, rfl⟩ := h
  intro c hc
  rcases List.mem_append.mp hc with hc | hc
  · obtain ⟨actions, -, rfl⟩ := Option.map_eq_some_iff.mp (Option.mem_toList.mp hc)
    exact settled_nil
  · obtain ⟨made, hmade, hc⟩ := List.mem_flatten.mp hc
    obtain ⟨step, hstep, made⟩ := mapM_eq_ok_mem heach hmade
    have inside : Settled step.nodes :=
      fun n hn => settled n (List.mem_flatMap.mpr ⟨step, hstep, hn⟩)
    exact fun n hn => Step.settled_commands inside made n (List.mem_flatMap.mpr ⟨c, hc, hn⟩)

end Program

end Programs

/-! ## Programs that measure documents -/

section Measured

open Doc (WrittenFrom)

variable {e : Extracted ν}

namespace Extracted

/-- The groupings of the stages and those that sums are taken across. -/
def groupings (e : Extracted ν) : List (Grouping ν) :=
  e.plan.stages.map (·.grouping) ++ e.tasks.flatMap (·.computation.grouping?.toList)

/-- The metrics by which an extracted plan tests and measures the documents of a dataset. -/
def measured (dataset : String) (e : Extracted ν) : List Doc.Metric :=
  e.plan.filter.toList.flatMap (·.tested dataset) ++ e.groupings.flatMap (·.measured dataset)

theorem measured_steps {steps : List (Step ν)} (h : e.steps = .ok steps) (dataset : String) :
    steps.flatMap (Step.measured dataset) ⊆ e.groupings.flatMap (·.measured dataset) := by
  simp only [Extracted.steps, bind_eq_ok, pure_eq_ok] at h
  obtain ⟨stages, hstages, rfl⟩ := h
  intro m hm
  obtain ⟨step, hstep, hm⟩ := List.mem_flatMap.mp hm
  rcases List.mem_append.mp hstep with hstep | hstep
  · rcases task_or_stage_of_mem_levels hstep with ⟨t, ht, rfl⟩ | ⟨s, hs, rfl | ⟨f, -, rfl⟩⟩
    · obtain ⟨g, hg, hm⟩ := List.mem_flatMap.mp hm
      exact List.mem_flatMap.mpr
        ⟨g, List.mem_append_right _ (List.mem_flatMap.mpr ⟨t, ht, hg⟩), hm⟩
    · obtain ⟨stage, hstage, made⟩ := mapM_eq_ok_mem hstages hs
      simp only [bind_eq_ok, pure_eq_ok] at made
      obtain ⟨r, hr, rfl⟩ := made
      exact List.mem_flatMap.mpr ⟨stage.grouping,
        List.mem_append_left _ (List.mem_map_of_mem hstage), Grouping.measured_regrouping hr _ hm⟩
    · exact absurd hm List.not_mem_nil
  · obtain rfl := List.mem_singleton.mp hstep
    exact absurd hm List.not_mem_nil

end Extracted

theorem Doc.Filter.writtenFrom_documentActions {scope : Names} {f : Option Doc.Filter}
    {actions : List Action} (h : documentActions scope f = .ok (some actions)) :
    WrittenFrom (fun dataset => f.toList.flatMap (·.tested dataset))
      (actions.flatMap Action.programs) := by
  unfold documentActions at h
  split at h
  · exact absurd h nofun
  · exact absurd h nofun
  · rename_i f _
    simp only [bind_eq_ok, pure_eq_ok, Option.some.injEq] at h
    obtain ⟨⟨inner, _⟩, made, rfl⟩ := h
    rw [Action.programs_mergeQueries]
    intro e he
    obtain ⟨a, ha, he⟩ := List.mem_flatMap.mp he
    obtain ⟨-, m, hm, program⟩ := Doc.Filter.writes_actions _ _ f _ made a ha e he
    exact ⟨m, by simpa using hm, program⟩

/-- The programs of a plan are those of the metrics by which it tests and measures documents. -/
theorem Plan.writtenFrom_program [Numeric ν] {p q : Plan ν} {program : Program ν}
    {commands : List (Command ν)} (hq : p.substitute = .ok q)
    (he : q.simplify.filterTopTerms.extract = .ok e) (hprogram : p.program = .ok program)
    (hcommands : program.commands = .ok commands) :
    WrittenFrom e.measured (commands.flatMap Command.programs) := by
  simp only [Plan.program, bind_eq_ok, pure_eq_ok] at hprogram
  obtain ⟨_, hq', e', he', filter, hfilter, steps, hsteps, rfl⟩ := hprogram
  obtain rfl := Except.ok.inj (hq.symm.trans hq')
  obtain rfl := Except.ok.inj (he.symm.trans he')
  simp only [Program.commands, bind_eq_ok, pure_eq_ok] at hcommands
  obtain ⟨each, heach, rfl⟩ := hcommands
  intro x hx
  obtain ⟨c, hc, hx⟩ := List.mem_flatMap.mp hx
  rcases List.mem_append.mp hc with hc | hc
  · obtain ⟨actions, rfl, rfl⟩ := Option.map_eq_some_iff.mp (Option.mem_toList.mp hc)
    obtain ⟨m, hm, written⟩ := Doc.Filter.writtenFrom_documentActions hfilter x hx
    exact ⟨m, List.mem_append_left _ hm, written⟩
  · obtain ⟨made, hmade, hc⟩ := List.mem_flatten.mp hc
    obtain ⟨step, hstep, made⟩ := mapM_eq_ok_mem heach hmade
    obtain ⟨m, hm, written⟩ :=
      Step.writtenFrom_commands made x (List.mem_flatMap.mpr ⟨c, hc, hx⟩)
    refine ⟨m, List.mem_append_right _ (Extracted.measured_steps hsteps _ ?_), written⟩
    exact Step.measured_merge _ _ _ (List.mem_flatMap.mpr ⟨step, hstep, hm⟩)

end Measured

end Groupwise
