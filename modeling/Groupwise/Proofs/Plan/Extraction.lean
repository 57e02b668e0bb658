import Groupwise.Proofs.Plan.Demand
import Groupwise.Proofs.Plan.Runs
import Groupwise.Proofs.Plan.Timing

/-!
# What extraction notes

Extraction at a place only adds tasks behind those that are there. What it leaves of an expression
looks up results of tasks whose depth is that of the place or less, and it looks up one of the very
depth of the place exactly if the expression demands it.
-/
namespace Groupwise

open Aggregate

variable {ν : Type}

/-! ## Notes -/

/-- The moment of the computations that are noted for a place. -/
def Place.moment (p : Place) : Int :=
  match p.phase with
  | .pre => p.phase.moment p.depth
  | .post => p.phase.moment (p.depth - 1)

/-- A name is a result of a task of the given moment. -/
def ComputedAt (tasks : List (Task ν)) (moment : Int) (name : String) : Prop :=
  ∃ t ∈ tasks, t.moment = moment ∧ name ∈ t.outputs

/-- What a run of extraction at a place did, from some tasks to others: it left an expression that
looks up the given names. The expression looks up a result of the moment of the place exactly if
`own` holds, where this can be told from the expression, and the run noted timely tasks exactly if
`timely` holds. -/
structure Noted (p : Place) (before after : List (Task ν)) (names : List String)
    (own timely : Prop) : Prop where
  grown : before <+: after
  scheduled : Scheduled after
  computed : ∀ name ∈ names, ∃ k : Nat, ComputedAt after (p.moment - 4 * k) name
  own : p.startDepth = p.depth → ((∃ name ∈ names, ComputedAt after p.moment name) ↔ own)
  timely : (∀ t ∈ after, t.Timely after) ↔ (∀ t ∈ before, t.Timely before) ∧ timely

section Notes

variable {tasks before between after : List (Task ν)} {p : Place} {names others : List String}
  {own timely own' timely' : Prop} {moment : Int} {name : String}

theorem ComputedAt.mono (h : ComputedAt tasks moment name) (grown : tasks <+: after) :
    ComputedAt after moment name := by
  obtain ⟨t, ht, now, found⟩ := h
  exact ⟨t, grown.subset ht, now, found⟩

theorem ComputedAt.unique {other : Int} (scheduled : Scheduled tasks)
    (h : ComputedAt tasks moment name) (k : ComputedAt tasks other name) : moment = other := by
  obtain ⟨t, ht, rfl, found⟩ := h
  obtain ⟨u, hu, rfl, foundU⟩ := k
  rw [scheduled.unique ht hu found foundU]

theorem ComputedAt.mem_computedBefore_iff {limit : Int} (scheduled : Scheduled tasks)
    (h : ComputedAt tasks moment name) : name ∈ computedBefore tasks limit ↔ moment < limit := by
  constructor
  · rintro ⟨t, ht, early, found⟩
    rwa [h.unique scheduled ⟨t, ht, rfl, found⟩]
  · intro early
    obtain ⟨t, ht, rfl, found⟩ := h
    exact ⟨t, ht, early, found⟩

namespace Noted

theorem known (noted : Noted p before after names own timely) (hn : name ∈ names) :
    ∃ t ∈ after, name ∈ t.outputs := by
  obtain ⟨_, t, ht, _, found⟩ := noted.computed name hn
  exact ⟨t, ht, found⟩

/-- Nothing is noted for an expression that is left as it is. -/
theorem refl (scheduled : Scheduled tasks) : Noted p tasks tasks [] False True where
  grown := List.prefix_refl _
  scheduled := scheduled
  computed := nofun
  own _ := by simp
  timely := by simp

theorem congr (noted : Noted p before after names own timely)
    (same : ∀ name, name ∈ others ↔ name ∈ names) (sameOwn : own' ↔ own)
    (sameTimely : timely' ↔ timely) : Noted p before after others own' timely' where
  grown := noted.grown
  scheduled := noted.scheduled
  computed name hn := noted.computed name ((same name).mp hn)
  own at_ := by
    rw [sameOwn, ← noted.own at_]
    simp only [same]
  timely := by rw [sameTimely, noted.timely]

/-- A name of the first run is looked up at the same moment after the second. -/
theorem computedAt_iff (noted : Noted p before after names own timely) (grown : after <+: tasks)
    (scheduled : Scheduled tasks) (hn : name ∈ names) :
    ComputedAt tasks moment name ↔ ComputedAt after moment name := by
  obtain ⟨k, mine⟩ := noted.computed name hn
  constructor
  · intro h
    rwa [h.unique scheduled (mine.mono grown)]
  · intro h
    exact h.mono grown

/-- Two runs one after the other, whose expressions are parts of one expression. -/
theorem append (first : Noted p before between names own timely)
    (second : Noted p between after others own' timely') :
    Noted p before after (names ++ others) (own ∨ own') (timely ∧ timely') where
  grown := first.grown.trans second.grown
  scheduled := second.scheduled
  computed name hn := by
    rcases List.mem_append.mp hn with hn | hn
    · obtain ⟨k, mine⟩ := first.computed name hn
      exact ⟨k, mine.mono second.grown⟩
    · exact second.computed name hn
  own at_ := by
    rw [← first.own at_, ← second.own at_]
    simp only [List.mem_append, or_and_right, exists_or]
    refine or_congr_left (exists_congr fun name => and_congr_right fun hn => ?_)
    exact first.computedAt_iff second.grown second.scheduled hn
  timely := by rw [second.timely, first.timely, and_assoc]

/-- Two runs one after the other, of which the second takes the first one's expression into a
task. -/
theorem trans {q : Place} (first : Noted q before between names own timely)
    (second : Noted p between after others own' timely') :
    Noted p before after others own' (timely ∧ timely') where
  grown := first.grown.trans second.grown
  scheduled := second.scheduled
  computed := second.computed
  own := second.own
  timely := by rw [second.timely, first.timely, and_assoc]

/-- What is extracted for the parent group is not of the depth of the group itself. -/
theorem of_parent (noted : Noted { p with depth := p.depth - 1 } before after names own timely) :
    Noted p before after names False timely := by
  have parent : Place.moment { p with depth := p.depth - 1 } = p.moment - 4 := by
    cases hp : p.phase <;> simp only [Place.moment, Phase.moment, hp] <;> omega
  refine ⟨noted.grown, noted.scheduled, fun name hn => ?_, fun _ => ?_, noted.timely⟩
  · obtain ⟨k, mine⟩ := noted.computed name hn
    refine ⟨k + 1, ?_⟩
    rwa [parent, show p.moment - 4 - 4 * k = p.moment - 4 * ↑(k + 1) by omega] at mine
  · rw [iff_false]
    rintro ⟨name, hn, now⟩
    obtain ⟨k, mine⟩ := noted.computed name hn
    have same := mine.unique noted.scheduled now
    omega

/-- The scope of a place plays no part. -/
theorem of_scope {scope : Names} (noted : Noted { p with scope } before after names own timely) :
    Noted p before after names own timely :=
  ⟨noted.grown, noted.scheduled, noted.computed, noted.own, noted.timely⟩

/-- Below the depth at which the whole expression stands, nothing is said about its own depth. -/
theorem of_ne (noted : Noted p before after names own timely) (below : p.startDepth ≠ p.depth) :
    Noted p before after names own' timely :=
  ⟨noted.grown, noted.scheduled, noted.computed, fun at_ => absurd at_ below, noted.timely⟩

/-- An expression of which nothing is left looks up nothing. -/
theorem forget (noted : Noted p before after names own timely) :
    Noted p before after [] False timely :=
  ⟨noted.grown, noted.scheduled, nofun, fun _ => by simp, noted.timely⟩

/-- A combination of filters looks up what its operands look up, unless one absorbs the others. -/
theorem merge {c : Connective} {fs : List (Aggregate.Filter ν)}
    (noted : Noted p before after (Filter.lookupsOfAll fs) own timely) :
    Noted p before after (c.merge fs).lookups (c.absorbing ∉ fs ∧ own) timely := by
  by_cases h : c.absorbing ∈ fs
  · exact noted.forget.congr (by simp [Connective.mem_collect_merge, h]) (by simp [h]) Iff.rfl
  · exact noted.congr (by simp [Connective.mem_collect_merge, h]) (by simp [h]) Iff.rfl

/-- Everything is computed before a moment behind the place. -/
theorem ready_of_lt (noted : Noted p before after names own timely) (behind : p.moment < moment) :
    ∀ name ∈ names, name ∈ computedBefore after moment := by
  intro name hn
  obtain ⟨k, mine⟩ := noted.computed name hn
  exact (mine.mem_computedBefore_iff noted.scheduled).mpr (by omega)

/-- Everything is computed before a moment in front of the place exactly if nothing of the moment of
the place is looked up. -/
theorem ready_iff (moment : Int) (noted : Noted p before after names own timely)
    (at_ : p.startDepth = p.depth) (late : moment ≤ p.moment) (early : p.moment - 4 < moment) :
    (∀ name ∈ names, name ∈ computedBefore after moment) ↔ ¬ own := by
  rw [← noted.own at_]
  simp only [not_exists, not_and]
  refine forall₂_congr fun name hn => ?_
  obtain ⟨k, mine⟩ := noted.computed name hn
  rw [mine.mem_computedBefore_iff noted.scheduled]
  constructor
  · intro before now
    have same := mine.unique noted.scheduled now
    omega
  · intro never
    rcases Nat.eq_zero_or_pos k with rfl | pos
    · exact absurd (by simpa using mine) never
    · omega

end Noted

end Notes

/-! ## Scheduling -/

section Scheduling

variable [Numeric ν] {before after : List (Task ν)} {p : Place} {c : Computation ν} {m : Metric ν}

omit [Numeric ν] in
theorem Computation.lookups_result (c : Computation ν) (name : String) :
    (c.result name).lookups = c.outputs name := by
  cases c <;> simp [Computation.result, Computation.outputs, Metric.collect, Metric.lookedUp]

theorem Place.moment_of_scheduleDepth {depth : Nat} (h : p.scheduleDepth c = .ok depth) :
    p.moment = p.phase.moment depth := by
  unfold Place.scheduleDepth at h
  unfold Place.moment
  cases hp : p.phase <;> simp only [hp] at h ⊢ <;> split_ifs at h with low high <;>
    obtain rfl := Except.ok.inj h <;> rw [Int.toNat_of_nonneg (not_lt.mp low)]

omit [Numeric ν] in
/-- What a task looks up is computed at the same moments when other tasks are noted after it. -/
theorem Task.timely_iff_of_prefix {t : Task ν} (scheduled : Scheduled after)
    (grown : before <+: after)
    (closed : ∀ name ∈ t.computation.lookedUp, ∃ u ∈ before, name ∈ u.outputs) :
    t.Timely after ↔ t.Timely before :=
  forall₂_congr fun name hn => mem_computedBefore_of_prefix scheduled grown (closed name hn)

omit [Numeric ν] in
theorem Computation.outputs_eq_nil_iff (c : Computation ν) (name other : String) :
    c.outputs name = [] ↔ c.outputs other = [] := by
  cases c <;> simp [Computation.outputs]

omit [Numeric ν] in
/-- A run that looks up the results of one task of the moment of the place. -/
theorem Noted.of_task {t : Task ν} {timely : Prop} (grown : before <+: after)
    (scheduled : Scheduled after) (ht : t ∈ after) (now : t.moment = p.moment)
    (all : (∀ t ∈ after, t.Timely after) ↔ (∀ t ∈ before, t.Timely before) ∧ timely) :
    Noted p before after t.outputs (t.outputs ≠ []) timely where
  grown := grown
  scheduled := scheduled
  computed name hn := ⟨0, t, ht, by omega, hn⟩
  own _ := by
    constructor
    · rintro ⟨name, hn, _⟩
      exact List.ne_nil_of_mem hn
    · intro some
      obtain ⟨name, hn⟩ := List.exists_mem_of_ne_nil _ some
      exact ⟨name, hn, t, ht, now, hn⟩
  timely := all

omit [Numeric ν] in
theorem Noted.of_new {t : Task ν} (scheduled : Scheduled before)
    (named : t.name = "v" ++ toString before.length)
    (closed : ∀ name ∈ t.computation.lookedUp, ∃ u ∈ before, name ∈ u.outputs)
    (now : t.moment = p.moment) :
    Noted p before (before ++ [t]) t.outputs (t.outputs ≠ []) (t.Timely before) := by
  have all := scheduled.snoc named closed
  have grown := List.prefix_append before [t]
  refine .of_task grown all (List.mem_append_right _ (List.mem_singleton_self t)) now ?_
  rw [List.forall_mem_append, List.forall_mem_singleton, Task.timely_iff_of_prefix all grown closed]
  refine and_congr_left fun _ => forall₂_congr fun u hu => ?_
  exact Task.timely_iff_of_prefix all grown fun name => scheduled.closed hu

/-- Scheduling looks up the results of a task of the moment of the place, and the task is timely
exactly if what the computation looks up is. -/
theorem noted_schedule (scheduled : Scheduled before)
    (closed : ∀ name ∈ c.lookedUp, ∃ t ∈ before, name ∈ t.outputs)
    (h : (schedule p c).run before = .ok (m, after)) :
    Noted p before after m.lookups (c.outputs "" ≠ [])
      (∀ name ∈ c.lookedUp, name ∈ computedBefore before (p.moment + 1)) := by
  obtain ⟨t, ⟨phase, -, depth⟩, rfl, found⟩ := run_schedule_cases h
  have now : t.moment = p.moment := by
    rw [Task.moment, phase, Place.moment_of_scheduleDepth depth]
  rw [Ne, c.outputs_eq_nil_iff "" t.name, Computation.lookups_result]
  obtain ⟨ht, same, rfl⟩ | ⟨rfl, named, rfl⟩ := found
  · rw [← Computation.outputs_of_beq same]
    refine .of_task (List.prefix_refl _) scheduled ht now ?_
    refine (and_iff_left_of_imp fun all => ?_).symm
    have timely := all t ht
    rwa [Task.Timely, Computation.lookedUp_of_beq same, now] at timely
  · rw [← now]
    exact .of_new scheduled named closed now

/-- A computation of what was extracted at the same place is always timely. -/
theorem Noted.compute {between : List (Task ν)} {names : List String} {own timely : Prop}
    (noted : Noted p before between names own timely)
    (same : ∀ name, name ∈ c.lookedUp ↔ name ∈ names)
    (h : (schedule p c).run between = .ok (m, after)) :
    Noted p before after m.lookups (c.outputs "" ≠ []) timely := by
  have found := noted_schedule noted.scheduled
    (fun name hn => noted.known ((same name).mp hn)) h
  have ready : ∀ name ∈ c.lookedUp, name ∈ computedBefore between (p.moment + 1) :=
    fun name hn => noted.ready_of_lt (by omega) name ((same name).mp hn)
  refine (noted.trans found).congr (fun _ => Iff.rfl) Iff.rfl ?_
  exact (and_iff_left ready).symm

/-- A sum of document metrics over datasets looks up nothing. -/
theorem Aggregate.Metric.lookups_sum_docStatsIn (datasets : List String) (d : String → Doc.Metric) :
    (Metric.sum (datasets.map fun s => .docStatsIn s (d s)) : Metric ν).lookups = [] := by
  refine List.eq_nil_iff_forall_not_mem.mpr fun name hn => ?_
  have found := Metric.mem_lookups_sum.mp hn
  simp [Metric.lookupsOfAll, Metric.collectAll_eq_flatMap, Metric.collect, Metric.lookedUp] at found

theorem lookups_averaged {r : Metric ν} (h : (averaged m).run before = .ok (r, after)) :
    r.lookups = m.lookups := by
  obtain ⟨-, datasets, -, rfl⟩ := run_averaged_eq_ok h
  have count := Metric.lookups_sum_docStatsIn (ν := ν) datasets fun d => .qualified d .count
  simp only [Metric.lookups] at count
  simp [Metric.divide, Metric.collect, Metric.lookedUp, count]

omit [Numeric ν] in
theorem Aggregate.Grouping.lookups_makeTotal (g : Grouping ν) :
    g.makeTotal.lookups = g.lookups := by
  unfold Grouping.makeTotal
  split
  · rfl
  · cases g <;> rfl

theorem lookups_outsideDefault (total : Bool) (m : Metric ν) :
    (outsideDefault total m).lookups = m.lookups := by
  cases total <;> simp [outsideDefault, Metric.collect, Filter.collect, Metric.lookedUp]

/-- The parts of a sum across a grouping are those of its grouping and its metric. -/
theorem mem_lookedUp_sumAcrossGrouping {g : Grouping ν} {total : Bool} {n : Metric ν}
    {name : String} :
    name ∈ (Computation.sumAcrossGrouping g.makeTotal (outsideDefault total n)).lookedUp ↔
      name ∈ g.lookups ++ n.lookups := by
  rw [← g.lookups_makeTotal, ← lookups_outsideDefault total n]
  rfl

end Scheduling

/-! ## Filters -/

section Filters

variable [Numeric ν]

mutual

/-- Extraction leaves a filter merged, and constant exactly if it was. -/
theorem Aggregate.Filter.Extracts.fixed? {f g : Filter ν} {p : Place} {before after : List (Task ν)}
    (h : f.Extracts p before g after) : g.Merged ∧ g.fixed? = f.constant? := by
  match h with
  | .kept kept => cases f <;> first | exact ⟨trivial, rfl⟩ | cases kept
  | .compare _ _ | .not _ => exact ⟨trivial, rfl⟩
  | .and operands =>
    obtain ⟨merged, fixed⟩ := operands.fixed?
    have constant := Connective.fixed?_merge (c := .and) merged
    rw [fixed] at constant
    exact ⟨Connective.merged_merge (c := .and) merged, constant⟩
  | .or operands =>
    obtain ⟨merged, fixed⟩ := operands.fixed?
    have constant := Connective.fixed?_merge (c := .or) merged
    rw [fixed] at constant
    exact ⟨Connective.merged_merge (c := .or) merged, constant⟩

theorem Aggregate.Filter.ExtractsAll.fixed? {fs gs : List (Filter ν)} {p : Place}
    {before after : List (Task ν)} (h : Filter.ExtractsAll fs p before gs after) :
    (∀ g ∈ gs, g.Merged) ∧ gs.map Filter.fixed? = Filter.constants fs := by
  match h with
  | .nil => exact ⟨nofun, rfl⟩
  | .cons first more =>
    obtain ⟨merged, fixed⟩ := first.fixed?
    obtain ⟨allMerged, allFixed⟩ := more.fixed?
    refine ⟨List.forall_mem_cons.mpr ⟨merged, allMerged⟩, ?_⟩
    rw [List.map_cons, fixed, allFixed, Filter.constants]

end

omit [Numeric ν] in
/-- A combination looks up what its operands look up, unless a constant operand absorbs them. -/
theorem Noted.combined {p : Place} {before after : List (Task ν)}
    {fs gs : List (Aggregate.Filter ν)} {own : Bool} {timely : Prop} (c : Connective)
    (noted : Noted p before after (Filter.lookupsOfAll gs) (own = true) timely)
    (constants : gs.map Filter.fixed? = Filter.constants fs) :
    Noted p before after (c.merge gs).lookups
      ((!(Filter.constants fs).contains (some (!c.unit)) && own) = true) timely := by
  refine noted.merge.congr (fun _ => Iff.rfl) ?_ Iff.rfl
  rw [← constants, Bool.and_eq_true, ← Connective.absorbing_mem]
  simp

end Filters

/-! ## Expressions -/

section Expressions

variable [Numeric ν]

namespace Aggregate

omit [Numeric ν] in
theorem Metric.undemanding_of_isKept {m : Metric ν} (kept : m.isKept = true) :
    m.needsOwnDepth = false ∧ m.timely = true := by
  cases m <;> first | exact ⟨rfl, rfl⟩ | cases kept

omit [Numeric ν] in
theorem Filter.undemanding_of_isKept {f : Filter ν} (kept : f.isKept = true) :
    f.lookups = [] ∧ f.needsOwnDepth = false ∧ f.timely = true := by
  cases f <;> first | exact ⟨rfl, rfl, rfl⟩ | cases kept

omit [Numeric ν] in
theorem Metric.Alike.lookups {m n : Metric ν} {ms ns : List (Metric ν)} (h : m.Alike ms n ns) :
    m.lookups = Metric.lookupsOfAll ms ∧ n.lookups = Metric.lookupsOfAll ns := by
  have nothing : m.lookedUp = [] ∧ n.lookedUp = [] := by
    cases h <;> exact ⟨rfl, rfl⟩
  rw [Metric.lookups, Metric.lookups, (h.collect _).1, (h.collect _).2, nothing.1, nothing.2,
    List.append_nil, List.append_nil]
  exact ⟨rfl, rfl⟩

omit [Numeric ν] in
theorem Metric.Alike.demand {m n : Metric ν} {ms ns : List (Metric ν)} (h : m.Alike ms n ns) :
    m.needsOwnDepth = Metric.someNeedOwnDepth ms ∧ m.timely = Metric.allTimely ms := by
  cases h <;>
    simp [Metric.needsOwnDepth, Metric.someNeedOwnDepth, Metric.timely, Metric.allTimely]

omit [Numeric ν] in
theorem Metric.timely_sumAcross {g : Grouping ν} {m : Metric ν}
    (kept : ∀ f x limit o d, g ≠ .terms f x limit o d) :
    (Metric.sumAcross g m).timely = m.timely := by
  cases g with
  | terms f x limit o d => exact absurd rfl (kept f x limit o d)
  | _ => simp [Metric.timely, Grouping.timely]

/-- The results of a computation are looked up at the depth of the metric that it replaces. -/
theorem Metric.Prepares.needsOwnDepth_iff {m : Metric ν} {c : Computation ν} {p : Place}
    {before after : List (Task ν)} (h : m.Prepares p before c after) :
    m.needsOwnDepth = true ↔ c.outputs "" ≠ [] := by
  cases h <;> simp [Metric.needsOwnDepth, Computation.outputs]

mutual

theorem Metric.Extracts.noted {m r : Metric ν} {p : Place} {before after : List (Task ν)}
    (h : m.Extracts p before r after) (bare : m.lookups = []) (scheduled : Scheduled before) :
    Noted p before after r.lookups (m.needsOwnDepth = true) (m.timely = true) := by
  match h with
  | .kept kept =>
    obtain ⟨own, timely⟩ := Metric.undemanding_of_isKept kept
    rw [bare]
    exact (Noted.refl scheduled).congr (fun _ => Iff.rfl) (by simp [own]) (by simp [timely])
  | .parent inner =>
    simp only [Metric.lookups, Metric.collect, Metric.lookedUp, List.append_nil] at bare
    exact (inner.noted bare scheduled).of_parent.congr (fun _ => Iff.rfl)
      (by simp [Metric.needsOwnDepth]) Iff.rfl
  | .qualified inner =>
    simp only [Metric.lookups, Metric.collect, Metric.lookedUp, List.append_nil] at bare
    exact (inner.noted bare scheduled).of_scope
  | .stats _ summed =>
    simp only [Metric.stats, bind_eq_ok, pure_eq_ok] at summed
    obtain ⟨datasets, _, rfl⟩ := summed
    rw [Metric.summedIn, Metric.lookups_sum_docStatsIn]
    exact (Noted.refl scheduled).congr (fun _ => Iff.rfl) (by simp [Metric.needsOwnDepth])
      (by simp [Metric.timely])
  | .rawStats apart run =>
    exact ((Noted.compute (.refl scheduled) (fun _ => Iff.rfl) run).of_ne apart).congr
      (fun _ => Iff.rfl) Iff.rfl (by simp [Metric.timely])
  | .distinct filter run (f := f) (y := y) (w := w) =>
    simp only [Metric.lookups, Metric.collect, Metric.lookedUp, List.append_nil] at bare
    have inner := filter.noted bare scheduled
    have outer :=
      noted_schedule (c := .distinct f y w) inner.scheduled (fun name hn => inner.known hn) run
    -- The filter stands one level deeper, so what it needs of that level comes too late.
    have deeper : Place.moment { p with depth := p.depth + 1, startDepth := p.depth + 1 } =
        p.moment + 4 := by
      cases hp : p.phase <;> simp only [Place.moment, Phase.moment, hp] <;> omega
    have ready := inner.ready_iff (p.moment + 1) rfl (by omega) (by omega)
    refine (inner.trans outer).congr (fun _ => Iff.rfl)
      (by simp [Metric.needsOwnDepth, Computation.outputs]) ?_
    rw [Metric.timely, Bool.and_eq_true, Bool.not_eq_true', ← Bool.not_eq_true]
    exact and_congr_right fun _ => ready.symm
  | .computed prepared run =>
    obtain ⟨own, noted⟩ := prepared.noted bare scheduled
    exact (noted.compute (fun _ => Iff.rfl) run).congr (fun _ => Iff.rfl)
      prepared.needsOwnDepth_iff Iff.rfl
  | .average inner run =>
    simp only [Metric.lookups, Metric.collect, Metric.lookedUp, List.append_nil] at bare
    rw [lookups_averaged run, ← (run_averaged_eq_ok run).1]
    exact inner.noted bare scheduled
  | .add terms =>
    simp only [Metric.lookups, Metric.collect, Metric.lookedUp, List.append_nil] at bare
    exact (terms.noted bare scheduled).congr (fun _ => Metric.mem_lookups_sum) Iff.rfl Iff.rfl
  | .around alike parts =>
    rw [alike.lookups.1] at bare
    rw [alike.lookups.2, alike.demand.1, alike.demand.2]
    exact parts.noted bare scheduled
  | .ifThenElse condition yes no =>
    simp only [Metric.lookups, Metric.collect, Metric.lookedUp, List.append_nil,
      List.append_eq_nil_iff] at bare
    have decided := condition.noted bare.1.1 scheduled
    have first := decided.append (yes.noted bare.1.2 decided.scheduled)
    exact (first.append (no.noted bare.2 first.scheduled)).congr
      (by simp [Metric.collect, Metric.lookedUp]) (by simp [Metric.needsOwnDepth])
      (by simp [Metric.timely])

/-- What a computation takes up is timely exactly if the metric is that it replaces. -/
theorem Metric.Prepares.noted {m : Metric ν} {c : Computation ν} {p : Place}
    {before after : List (Task ν)} (h : m.Prepares p before c after) (bare : m.lookups = [])
    (scheduled : Scheduled before) :
    ∃ own, Noted p before after c.lookedUp own (m.timely = true) := by
  match h with
  | .percentile =>
    exact ⟨_, (Noted.refl scheduled).congr (fun _ => Iff.rfl) Iff.rfl (by simp [Metric.timely])⟩
  | .sumAcross summed filter =>
    simp only [Metric.lookups, Metric.collect, Grouping.collect, List.append_eq_nil_iff] at bare
    have first := summed.noted bare.1.2 scheduled
    exact ⟨_, (first.append (filter.noted bare.1.1.1 first.scheduled)).congr
      (by simp [Computation.lookedUp]) Iff.rfl (by simp [Metric.timely])⟩
  | .sumAcrossTerms filter order summed =>
    simp only [Metric.lookups, Metric.collect, Grouping.collect, List.append_eq_nil_iff] at bare
    have first := filter.noted bare.1.1.1 scheduled
    have grouping := first.append (order.noted bare.1.1.2 first.scheduled)
    exact ⟨_, (grouping.append (summed.noted bare.1.2 grouping.scheduled)).congr
      (fun _ => mem_lookedUp_sumAcrossGrouping) Iff.rfl
      (by simp [Metric.timely, Grouping.timely])⟩
  | .sumAcrossGrouping kept summed =>
    simp only [Metric.lookups, Metric.collect, List.append_eq_nil_iff] at bare
    rw [Metric.timely_sumAcross kept]
    refine ⟨_, (summed.noted bare.1.2 scheduled).congr (fun name => ?_) Iff.rfl Iff.rfl⟩
    rw [mem_lookedUp_sumAcrossGrouping, Grouping.lookups, bare.1.1, List.nil_append]
  | .fieldMin order filter | .fieldMax order filter =>
    simp only [Metric.lookups, Metric.collect, Metric.lookedUp, List.append_nil,
      List.append_eq_nil_iff] at bare
    have first := order.noted bare.1 scheduled
    exact ⟨_, (first.append (filter.noted bare.2 first.scheduled)).congr
      (by simp [Computation.lookedUp, Metric.collect, Metric.lookedUp]) Iff.rfl
      (by simp [Metric.timely])⟩
  | .bootstrap measured filter =>
    simp only [Metric.lookups, Metric.collect, Metric.lookedUp, List.append_nil,
      List.append_eq_nil_iff] at bare
    have first := measured.noted bare.2 scheduled
    exact ⟨_, (first.append (filter.noted bare.1 first.scheduled)).congr
      (by simp [Computation.lookedUp, or_comm]) Iff.rfl (by simp [Metric.timely])⟩

theorem Metric.ExtractsAll.noted {ms ns : List (Metric ν)} {p : Place}
    {before after : List (Task ν)} (h : Metric.ExtractsAll ms p before ns after)
    (bare : Metric.lookupsOfAll ms = []) (scheduled : Scheduled before) :
    Noted p before after (Metric.lookupsOfAll ns) (Metric.someNeedOwnDepth ms = true)
      (Metric.allTimely ms = true) := by
  match h with
  | .nil =>
    exact (Noted.refl scheduled).congr (fun _ => Iff.rfl) (by simp [Metric.someNeedOwnDepth])
      (by simp [Metric.allTimely])
  | .cons first more =>
    simp only [Metric.lookupsOfAll, Metric.collectAll, List.append_eq_nil_iff] at bare
    have noted := first.noted bare.1 scheduled
    exact (noted.append (more.noted bare.2 noted.scheduled)).congr (fun _ => Iff.rfl)
      (by simp [Metric.someNeedOwnDepth]) (by simp [Metric.allTimely])

theorem Metric.ExtractsOption.noted {m n : Option (Metric ν)} {p : Place}
    {before after : List (Task ν)} (h : Metric.ExtractsOption m p before n after)
    (bare : Metric.lookupsOption m = []) (scheduled : Scheduled before) :
    Noted p before after (Metric.lookupsOption n) (Metric.needsOwnDepthOption m = true)
      (Metric.timelyOption m = true) := by
  match h with
  | .none =>
    exact (Noted.refl scheduled).congr (fun _ => Iff.rfl) (by simp [Metric.needsOwnDepthOption])
      (by simp [Metric.timelyOption])
  | .some inner => exact inner.noted bare scheduled

theorem Metric.ExtractsOr.noted {f : FieldSet} {m : Option (Metric ν)} {n : Metric ν} {p : Place}
    {before after : List (Task ν)} (h : Metric.ExtractsOr f m p before n after)
    (bare : Metric.lookupsOption m = []) (scheduled : Scheduled before) :
    Noted p before after n.lookups (Metric.needsOwnDepthOption m = true)
      (Metric.timelyOption m = true) := by
  match h with
  | .average run =>
    rw [lookups_averaged run, ← (run_averaged_eq_ok run).1, Metric.summedIn,
      Metric.lookups_sum_docStatsIn]
    exact (Noted.refl scheduled).congr (fun _ => Iff.rfl) (by simp [Metric.needsOwnDepthOption])
      (by simp [Metric.timelyOption])
  | .given inner => exact inner.noted bare scheduled

theorem Filter.Extracts.noted {f g : Filter ν} {p : Place} {before after : List (Task ν)}
    (h : f.Extracts p before g after) (bare : f.lookups = []) (scheduled : Scheduled before) :
    Noted p before after g.lookups (f.needsOwnDepth = true) (f.timely = true) := by
  match h with
  | .kept kept =>
    obtain ⟨-, own, timely⟩ := Filter.undemanding_of_isKept kept
    rw [bare]
    exact (Noted.refl scheduled).congr (fun _ => Iff.rfl) (by simp [own]) (by simp [timely])
  | .compare left right =>
    simp only [Filter.lookups, Filter.collect, List.append_eq_nil_iff] at bare
    have first := left.noted bare.1 scheduled
    exact (first.append (right.noted bare.2 first.scheduled)).congr (by simp [Filter.collect])
      (by simp [Filter.needsOwnDepth]) (by simp [Filter.timely])
  | .and operands => exact (operands.noted bare scheduled).combined .and operands.fixed?.2
  | .or operands => exact (operands.noted bare scheduled).combined .or operands.fixed?.2
  | .not inner => exact inner.noted bare scheduled

theorem Filter.ExtractsAll.noted {fs gs : List (Filter ν)} {p : Place}
    {before after : List (Task ν)} (h : Filter.ExtractsAll fs p before gs after)
    (bare : Filter.lookupsOfAll fs = []) (scheduled : Scheduled before) :
    Noted p before after (Filter.lookupsOfAll gs) (Filter.someNeedOwnDepth fs = true)
      (Filter.allTimely fs = true) := by
  match h with
  | .nil =>
    exact (Noted.refl scheduled).congr (fun _ => Iff.rfl) (by simp [Filter.someNeedOwnDepth])
      (by simp [Filter.allTimely])
  | .cons first more =>
    simp only [Filter.lookupsOfAll, Filter.collectAll, List.append_eq_nil_iff] at bare
    have noted := first.noted bare.1 scheduled
    exact (noted.append (more.noted bare.2 noted.scheduled)).congr (fun _ => Iff.rfl)
      (by simp [Filter.someNeedOwnDepth]) (by simp [Filter.allTimely])

theorem Filter.ExtractsOption.noted {x y : Option (Filter ν)} {p : Place}
    {before after : List (Task ν)} (h : Filter.ExtractsOption x p before y after)
    (bare : Filter.lookupsOption x = []) (scheduled : Scheduled before) :
    Noted p before after (Filter.lookupsOption y) (Filter.needsOwnDepthOption x = true)
      (Filter.timelyOption x = true) := by
  match h with
  | .none =>
    exact (Noted.refl scheduled).congr (fun _ => Iff.rfl) (by simp [Filter.needsOwnDepthOption])
      (by simp [Filter.timelyOption])
  | .some inner => exact inner.noted bare scheduled

end

end Aggregate

end Expressions

end Groupwise
