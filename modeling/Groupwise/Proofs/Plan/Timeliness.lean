import Groupwise.Proofs.Plan.Extraction
import Groupwise.Proofs.Plan.Fitness
import Groupwise.Proofs.Plan.Preparation

/-!
# Plans whose look-ups are computed before they are read

Every look-up in the program of a plan is computed by an earlier step exactly if the plan is timely,
once its references are replaced, its expressions are simplified and the filters of its top terms
are moved. A plan that is not timely may well have a program: the filter of a stage, the order of
its terms or the filter of a count of distinct terms then reads a number before it is computed.
-/
namespace Groupwise

open Aggregate

variable {ν : Type}

/-! ## Stages -/

/-- What extraction from some stages from a depth on did: the stages that are left look up only
results of tasks, and they and the tasks are timely exactly if the tasks were and `timely` holds. -/
structure StagesNoted (depth : Nat) (before after : List (Task ν)) (reads : List StageReads)
    (timely : Prop) : Prop where
  grown : before <+: after
  scheduled : Scheduled after
  known : ∀ r ∈ reads, ∀ name ∈ r.stage ++ r.having, ∃ t ∈ after, name ∈ t.outputs
  timely : (∀ t ∈ after, t.Timely after) ∧ StagesTimely after depth reads ↔
    (∀ t ∈ before, t.Timely before) ∧ timely

section Stages

variable {depth : Nat} {before between after : List (Task ν)} {r : StageReads}
  {reads : List StageReads} {timely timely' : Prop}

/-- What a stage reads is computed at the same moments when other tasks are noted after it. -/
theorem StageReads.timely_iff_of_prefix (scheduled : Scheduled after) (grown : before <+: after)
    (known : ∀ name ∈ r.stage ++ r.having, ∃ t ∈ before, name ∈ t.outputs) :
    r.Timely after depth ↔ r.Timely before depth := by
  refine and_congr (forall₂_congr fun name hn => ?_) (forall₂_congr fun name hn => ?_)
  · exact mem_computedBefore_of_prefix scheduled grown (known name (List.mem_append_left _ hn))
  · exact mem_computedBefore_of_prefix scheduled grown (known name (List.mem_append_right _ hn))

theorem stagesTimely_iff_of_prefix (scheduled : Scheduled after) (grown : before <+: after)
    (known : ∀ r ∈ reads, ∀ name ∈ r.stage ++ r.having, ∃ t ∈ before, name ∈ t.outputs) :
    StagesTimely after depth reads ↔ StagesTimely before depth reads := by
  induction reads generalizing depth with
  | nil => exact Iff.rfl
  | cons r rest ih =>
    rw [List.forall_mem_cons] at known
    exact and_congr (StageReads.timely_iff_of_prefix scheduled grown known.1) (ih known.2)

theorem StagesNoted.refl (scheduled : Scheduled before) :
    StagesNoted depth before before [] True where
  grown := List.prefix_refl _
  scheduled := scheduled
  known := List.forall_mem_nil _
  timely := Iff.rfl

theorem StagesNoted.congr (noted : StagesNoted depth before after reads timely)
    (same : timely' ↔ timely) : StagesNoted depth before after reads timely' :=
  ⟨noted.grown, noted.scheduled, noted.known, by rw [same, noted.timely]⟩

theorem StagesNoted.cons (first : StagesNoted depth before between [r] timely)
    (rest : StagesNoted (depth + 1) between after reads timely') :
    StagesNoted depth before after (r :: reads) (timely ∧ timely') := by
  have mine := first.known r (List.mem_singleton_self r)
  refine ⟨first.grown.trans rest.grown, rest.scheduled, ?_, ?_⟩
  · refine List.forall_mem_cons.mpr ⟨fun name hn => ?_, rest.known⟩
    obtain ⟨t, ht, found⟩ := mine name hn
    exact ⟨t, rest.grown.subset ht, found⟩
  · have stage := first.timely
    have others := rest.timely
    have same : r.Timely after depth ↔ r.Timely between depth :=
      StageReads.timely_iff_of_prefix rest.scheduled rest.grown mine
    simp only [StagesTimely, and_true] at stage ⊢
    rw [same]
    tauto

/-- What was extracted first is computed at the same moments after the rest was extracted. -/
theorem Noted.ready_later {p q : Place} {names others : List String} {own own' : Prop}
    {moment : Int} (first : Noted p before between names own timely)
    (second : Noted q between after others own' timely') :
    (∀ name ∈ names, name ∈ computedBefore after moment) ↔
      ∀ name ∈ names, name ∈ computedBefore between moment :=
  forall₂_congr fun _ hn =>
    mem_computedBefore_of_prefix second.scheduled second.grown (first.known hn)

/-- One stage whose expressions were extracted together. -/
theorem StagesNoted.of_noted {p : Place} {names : List String} {own ready : Prop}
    (noted : Noted p before after names own timely)
    (named : ∀ name ∈ r.stage ++ r.having, name ∈ names) (reads : r.Timely after depth ↔ ready) :
    StagesNoted depth before after [r] (timely ∧ ready) where
  grown := noted.grown
  scheduled := noted.scheduled
  known := List.forall_mem_singleton.mpr fun name hn => noted.known (named name hn)
  timely := by rw [StagesTimely, StagesTimely, and_true, reads, noted.timely, and_assoc]

variable [Numeric ν]

theorem Aggregate.Grouping.Extracts.noted {g k : Grouping ν} {p : Place}
    (h : g.Extracts p before k after) (bare : g.lookups = []) (scheduled : Scheduled before) :
    Noted p before after k.lookups (g.needsOwnDepth = true) (g.timely = true) := by
  cases h with
  | kept kept =>
    cases g with
    | terms f x limit m d => exact (kept f x limit m d rfl).elim
    | _ =>
      exact (Noted.refl scheduled).congr (fun _ => Iff.rfl) (by simp [Grouping.needsOwnDepth])
        (by simp [Grouping.timely])
  | terms filter order =>
    simp only [Grouping.lookups, Grouping.collect, List.append_eq_nil_iff] at bare
    have first := filter.noted bare.1 scheduled
    exact (first.append (order.noted bare.2 first.scheduled)).congr (fun _ => Iff.rfl)
      (by simp [Grouping.needsOwnDepth]) (by simp [Grouping.timely])

theorem Place.moment_ofStage (scope : Names) (depth : Nat) :
    (Place.ofStage scope depth).moment = 4 * depth := by
  simp [Place.ofStage, Place.moment, Phase.moment]

theorem Place.moment_behind (p : Place) :
    Place.moment { p with phase := .post } = 4 * p.depth - 2 := by
  simp only [Place.moment, Phase.moment]
  omega

/-- Computations in front of the next stage are too late for the stage and for the filter of its
groups. Computations behind the stage are too late for the order of its terms, but not for the
filter of its groups. -/
theorem Stage.Extracts.noted {scope : Names} {s u : Stage ν}
    (h : s.Extracts (.ofStage scope (depth + 1)) before u after) (bare : s.lookups = [])
    (scheduled : Scheduled before) :
    StagesNoted depth before after [u.reads] (s.timely = true) := by
  have front := Place.moment_ofStage scope (depth + 1)
  have behind : _ = 4 * ((depth + 1 : Nat) : Int) - 2 :=
    Place.moment_behind (.ofStage scope (depth + 1))
  simp only [Stage.lookups, List.append_eq_nil_iff] at bare
  cases h with
  | @front _ g x _ between _ free grouping having =>
    rw [Stage.timely, if_neg free]
    have first := grouping.noted bare.1 scheduled
    have second := having.noted bare.2 first.scheduled
    -- The stage is read at `4 * depth + 1` and the filter of its groups at `4 * depth + 3`.
    have ready : (Stage.reads ⟨g, x, s.label⟩).Timely after depth ↔
        ¬ s.grouping.needsOwnDepth = true ∧ ¬ Filter.needsOwnDepthOption s.having = true :=
      and_congr ((first.ready_later second).trans
        (first.ready_iff (4 * depth + 1) rfl (by omega) (by omega)))
        (second.ready_iff (4 * depth + 3) rfl (by omega) (by omega))
    exact (StagesNoted.of_noted (first.append second) (fun _ hn => hn) ready).congr
      (by simp [and_assoc])
  | @behind _ x _ _ needed kept having =>
    obtain ⟨g, own, label⟩ := s
    have filter := having.noted bare.2 scheduled
    have ready : StageReads.Timely after depth ⟨[], Filter.lookupsOption x⟩ ↔ True :=
      iff_true_intro ⟨List.forall_mem_nil _, filter.ready_of_lt (by omega)⟩
    have noted : StagesNoted depth before after [⟨[], Filter.lookupsOption x⟩] _ :=
      .of_noted filter (fun _ hn => hn) ready
    rw [Stage.timely, if_pos needed]
    cases g with
    | terms f x limit m d => exact (kept f x limit m d rfl).elim
    | _ => exact noted.congr (by simp)
  | @behindTerms f x y limit m k d having label _ between _ needed filter order =>
    simp only [Grouping.lookups, Grouping.collect, List.append_eq_nil_iff] at bare
    have first := filter.noted bare.1.1 scheduled
    have second := order.noted bare.1.2 first.scheduled
    have ready : (Stage.reads ⟨.terms f none limit k d, some y, label⟩).Timely after depth ↔
        ¬ Metric.needsOwnDepthOption m = true :=
      (and_iff_left ((first.ready_later second).mpr (first.ready_of_lt (by omega)))).trans
        (second.ready_iff (4 * depth + 1) rfl (by omega) (by omega))
    rw [Stage.timely, if_pos (by simpa [Stage.filter?] using needed)]
    refine (StagesNoted.of_noted (first.append second) (fun _ hn => ?_) ready).congr
      (by simp [Filter.timelyOption])
    exact List.mem_append.mpr (List.mem_append.mp hn).symm

theorem Stage.ExtractsAll.noted {scope : Names} {stages us : List (Stage ν)}
    (h : Stage.ExtractsAll scope (depth + 1) stages before us after)
    (bare : ∀ s ∈ stages, s.lookups = []) (scheduled : Scheduled before) :
    StagesNoted depth before after (us.map Stage.reads) (stages.all Stage.timely = true) := by
  induction stages generalizing depth before us with
  | nil =>
    cases h
    exact (StagesNoted.refl scheduled).congr (by simp)
  | cons s rest ih =>
    rw [List.forall_mem_cons] at bare
    cases h with
    | cons first more =>
      have stage := first.noted bare.1 scheduled
      exact (stage.cons (ih more bare.2 stage.scheduled)).congr (by simp)

end Stages

/-! ## Plans -/

namespace Plan

variable [Numeric ν]

omit [Numeric ν] in
theorem allTimely_eq_all (ms : List (Metric ν)) : Metric.allTimely ms = ms.all Metric.timely := by
  induction ms with
  | nil => rfl
  | cons m rest ih => rw [Metric.allTimely, ih, List.all_cons]

/-- The tasks and stages that are extracted from a plan are timely exactly if the plan is. -/
theorem timely_extract {p : Plan ν} {e : Extracted ν} (bare : p.lookups = [])
    (h : p.extract = .ok e) : Scheduled e.tasks ∧
      (∀ name ∈ Metric.lookupsOfAll e.plan.selects, ∃ t ∈ e.tasks, name ∈ t.outputs) ∧
      ((∀ t ∈ e.tasks, t.Timely e.tasks) ∧ StagesTimely e.tasks 0 (e.plan.stages.map Stage.reads) ↔
        p.timely = true) := by
  rw [Plan.lookups, List.append_eq_nil_iff, List.flatMap_eq_nil_iff] at bare
  obtain ⟨between, stages, selects⟩ := extracts_extract h
  have first := stages.noted bare.1 .nil
  have second := selects.noted bare.2 first.scheduled
  refine ⟨second.scheduled, fun name hn => second.known hn, ?_⟩
  have stagesTimely := first.timely
  rw [second.timely, stagesTimely_iff_of_prefix second.scheduled second.grown first.known,
    and_right_comm, stagesTimely, allTimely_eq_all, Plan.timely, Bool.and_eq_true]
  simp

/-- Every look-up in the program of a plan is computed by an earlier step exactly if the plan is
timely when its computations are extracted. -/
theorem computedBeforeRead_iff_timely {p : Plan ν} {program : Program ν} (bare : p.lookups = [])
    (h : p.program = .ok program) :
    ∃ q, p.substitute = .ok q ∧
      (Step.ComputedBeforeRead program.steps ↔ q.simplify.filterTopTerms.timely = true) := by
  simp only [Plan.program, bind_eq_ok, pure_eq_ok] at h
  obtain ⟨q, hq, e, he, filter, _, steps, hsteps, rfl⟩ := h
  have bareExtracted := lookups_prepared bare hq
  obtain ⟨scheduled, known, timely⟩ := timely_extract bareExtracted he
  exact ⟨q, hq, (Extracted.computedBeforeRead_iff scheduled known hsteps _).trans timely⟩

/-- The countries with many queries, and for each its part of the queries of all countries. -/
theorem computedBeforeRead_iff_timely_parent :
    let queries : Metric Float := .distinct (.single "ads" "q") none none
    let many : Aggregate.Filter Float := .compare .gt queries (.constant 9)
    let p : Plan Float :=
      { sources := [{ dataset := "ads" }]
        stages := [{ grouping := .terms (.single "ads" "country") (some many) none none false }]
        selects := [.calculate .divide queries (.parent queries)]
        formats := [none] }
    p.lookups = [] ∧ ∃ program, p.program = .ok program ∧
      program.steps.flatMap Step.lookups = ["v0", "v1", "v2"] ∧
      Step.ComputedBeforeRead program.steps := by
  intro queries many p
  refine ⟨rfl, _, rfl, by decide, ?_⟩
  obtain ⟨q, substituted, timely⟩ := computedBeforeRead_iff_timely (p := p) rfl rfl
  cases substituted
  exact timely.mpr rfl

/-- The count of distinct queries is computed behind the filter of the countries, which looks it
up. -/
theorem having_distinct_reads_before_computed :
    let queries : Metric Float := .distinct (.single "ads" "q") none none
    let several : Aggregate.Filter Float := .compare .gt queries (.constant 1)
    let p : Plan Float :=
      { sources := [{ dataset := "ads" }]
        stages := [⟨.terms (.single "ads" "country") none none none false, some several, none⟩]
        selects := [.docStats .count]
        formats := [none] }
    p.lookups = [] ∧ ∃ program, p.program = .ok program ∧
      ¬ Step.ComputedBeforeRead program.steps := by
  intro queries several p
  refine ⟨rfl, _, rfl, ?_⟩
  intro h
  obtain ⟨_, earlier, _⟩ := h [_] _ _ rfl "v0" (by decide)
  rw [List.mem_singleton] at earlier
  subst earlier
  contradiction

end Plan

end Groupwise
