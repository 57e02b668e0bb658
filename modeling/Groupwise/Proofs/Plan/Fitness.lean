import Groupwise.Proofs.Doc.Faults
import Groupwise.Proofs.Plan.Runs

/-!
# Computations that fit into the schedule

Extraction takes two things for granted: that no computation is needed deeper than the schedule
reaches for the expression, and that the terms of a field are walked in exactly the datasets of the
field. Whether they hold can be told from an expression and from where it stands. Extraction from
an expression that fits is never at fault, and where it gives a result, the tasks can be carried out
exactly if the expression fits.
-/
namespace Groupwise

open Aggregate

variable {ν : Type}

/-- Where an expression stands, as far as its computations are concerned. -/
structure Standing where
  /-- How many groupings deeper a computation may be needed; none at all if negative. -/
  room : Int
  /-- Whether the value is needed for the groups for which the whole expression is computed. -/
  atStart : Bool
  scope : Names

namespace Standing

def ofParent (s : Standing) : Standing := { s with room := s.room + 1, atStart := false }

/-- A filter of the terms that are counted stands one grouping deeper. -/
def ofTerms (s : Standing) : Standing := { s with room := s.room - 1, atStart := true }

def within (s : Standing) (scope : Names) : Standing := { s with scope }

def hasRoom (s : Standing) : Bool := decide (0 ≤ s.room)

/-- Whether there is room for a walk over the terms of a field. -/
def allowsWalk (s : Standing) (field : FieldSet) : Bool := s.hasRoom && field.datasets == s.scope

end Standing

namespace Aggregate

mutual

/-- Whether all computations that are taken out of a metric fit into the schedule. -/
def Metric.fits (s : Standing) : Metric ν → Bool
  | .distinct _ x _ => Filter.fitsOption s.ofTerms x && s.hasRoom
  | .percentile .. => s.hasRoom
  | .fieldMin f m x => Metric.fitsOption s m && Filter.fitsOption s x && s.allowsWalk f
  | .fieldMax f m x => Metric.fitsOption s m && Filter.fitsOption s x && s.allowsWalk f
  | .sumAcross (.terms f x none _ _) m => m.fits s && Filter.fitsOption s x && s.allowsWalk f
  | .sumAcross g m => g.fits s && m.fits s && s.hasRoom
  | .bootstrap _ x _ m _ _ => m.fits s && Filter.fitsOption s x && s.hasRoom
  | .docStats _ => s.atStart || s.hasRoom
  | .parent m => m.fits s.ofParent
  | .qualified ds m => m.fits (s.within ds)
  | .ifThenElse c y n => c.fits s && y.fits s && n.fits s
  | .add ms => Metric.allFit s ms
  | .least ms => Metric.allFit s ms
  | .greatest ms => Metric.allFit s ms
  | .calculate _ l r => l.fits s && r.fits s
  | .function _ m => m.fits s
  | .lag _ m => m.fits s
  | .iterateLag _ m => m.fits s
  | .window _ m => m.fits s
  | .running _ m => m.fits s
  | .named m _ => m.fits s
  | .average m => m.fits s
  | .docStatsIn .. => true
  | .lookup _ => true
  | .multiLookup _ => true
  | .reference _ => true
  | .constant _ => true

def Metric.allFit (s : Standing) : List (Metric ν) → Bool
  | [] => true
  | m :: rest => m.fits s && Metric.allFit s rest

def Metric.fitsOption (s : Standing) : Option (Metric ν) → Bool
  | none => true
  | some m => m.fits s

def Filter.fits (s : Standing) : Filter ν → Bool
  | .compare _ l r => l.fits s && r.fits s
  | .and fs => Filter.allFit s fs
  | .or fs => Filter.allFit s fs
  | .not f => f.fits s
  | _ => true

def Filter.allFit (s : Standing) : List (Filter ν) → Bool
  | [] => true
  | f :: rest => f.fits s && Filter.allFit s rest

def Filter.fitsOption (s : Standing) : Option (Filter ν) → Bool
  | none => true
  | some f => f.fits s

def Grouping.fits (s : Standing) : Grouping ν → Bool
  | .terms _ x _ m _ => Filter.fitsOption s x && Metric.fitsOption s m
  | _ => true

end

end Aggregate

/-- Whether all computations that are taken out of a stage fit. Those of a stage whose filter needs
a walk over terms come behind it, and the filter takes the place of that of the groups. -/
def Stage.fits (scope : Names) (s : Stage ν) : Bool :=
  if s.filter?.any Filter.needsTerms then
    let behind : Standing := ⟨1, true, scope⟩
    match s.grouping with
    | .terms _ (some x) _ m _ => x.fits behind && Metric.fitsOption behind m
    | g => Filter.fitsOption behind s.having && g.fits behind
  else
    let before : Standing := ⟨0, true, scope⟩
    s.grouping.fits before && Filter.fitsOption before s.having

/-- Whether all computations that are taken out of a plan fit into its schedule. -/
def Plan.fits (p : Plan ν) : Bool :=
  p.stages.all (Stage.fits p.scope) && Metric.allFit ⟨1, true, p.scope⟩ p.selects

/-! ## Places -/

/-- What a place has to do with the computations of an expression that stands there. -/
def Place.standing (p : Place) : Standing where
  room := match p.phase with
    | .pre => p.maxDepth - p.depth
    | .post => p.maxDepth - (p.depth - 1)
  atStart := decide (p.startDepth = p.depth)
  scope := p.scope

namespace Place

variable {p : Place}

theorem standing_parent (below : p.depth ≤ p.startDepth) :
    standing { p with depth := p.depth - 1 } = p.standing.ofParent := by
  simp only [standing, Standing.ofParent, Standing.mk.injEq, decide_eq_false_iff_not, and_true]
  refine ⟨?_, by omega⟩
  cases p.phase <;> dsimp only <;> omega

theorem standing_terms (p : Place) :
    standing { p with depth := p.depth + 1, startDepth := p.depth + 1 } = p.standing.ofTerms := by
  simp only [standing, Standing.ofTerms, Standing.mk.injEq, decide_true, and_true]
  cases p.phase <;> dsimp only <;> omega

end Place

/-! ## Tasks that can be carried out -/

/-- The field whose terms are walked in exactly the datasets of the computation. -/
def Computation.walked? : Computation ν → Option FieldSet
  | .sumAcross field .. => some field
  | .extreme field .. => some field
  | _ => none

/-- The computation walks over terms in no other datasets than those of its scope. -/
def Computation.Apt (scope : Names) (c : Computation ν) : Prop :=
  ∀ field ∈ c.walked?, field.datasets = scope

/-- All tasks can be carried out in their scopes. -/
def Apt (tasks : List (Task ν)) : Prop := ∀ t ∈ tasks, t.computation.Apt t.scope

variable [Numeric ν] {p : Place} {c : Computation ν}

omit [Numeric ν] in
theorem FieldSet.datasets_of_beq {f g : FieldSet} (same : (f == g) = true) :
    f.datasets = g.datasets := by
  have names : f.names = g.names := eq_of_beq same
  rw [FieldSet.datasets, FieldSet.datasets, names]

theorem Computation.apt_of_beq {d : Computation ν} {scope : Names} (same : (c == d) = true) :
    c.Apt scope ↔ d.Apt scope := by
  change c.beq d = true at same
  cases c <;> cases d <;>
    simp only [Computation.beq, Bool.and_eq_true, Bool.false_eq_true] at same <;> try exact Iff.rfl
  all_goals
    simp only [Apt, walked?, Option.mem_some, forall_eq', FieldSet.datasets_of_beq same.1.1]

/-! ## Runs -/

section Run

variable {α β : Type} {x : ExtractM ν α} {fits fits' : Prop}
  {R T : List (Task ν) → α → List (Task ν) → Prop}
  {S : List (Task ν) → β → List (Task ν) → Prop}

/-- What a run of extraction comes to if everything in it fits, and if not. Its results are as the
relation says. -/
structure Suited (x : ExtractM ν α) (fits : Prop)
    (R : List (Task ν) → α → List (Task ν) → Prop) : Prop where
  faultless : fits → ∀ before, Faultless (x.run before)
  apt : ∀ {before after a}, x.run before = .ok (a, after) → (Apt after ↔ Apt before ∧ fits)
  result : ∀ {before after a}, x.run before = .ok (a, after) → R before a after

omit [Numeric ν]

theorem Faultless.lift {y : CompileM α} (faultless : Faultless y) (before : List (Task ν)) :
    Faultless ((liftM y : ExtractM ν α).run before) := by
  cases y with
  | error e => exact faultless.error rfl
  | ok a => exact .ok (a, before)

namespace Suited

theorem congr (suited : Suited x fits R) (same : fits' ↔ fits) : Suited x fits' R where
  faultless h := suited.faultless (same.mp h)
  apt h := by rw [suited.apt h, same]
  result := suited.result

theorem imp (suited : Suited x fits R)
    (h : ∀ {before a after}, R before a after → T before a after) : Suited x fits T where
  faultless := suited.faultless
  apt := suited.apt
  result run := h (suited.result run)

theorem pure {a : α} (h : ∀ tasks, R tasks a tasks) : Suited (Pure.pure a) True R where
  faultless _ before := .ok (a, before)
  apt run := by
    rw [(run_pure_eq_ok.mp run).2, and_true]
  result run := by
    obtain ⟨rfl, rfl⟩ := run_pure_eq_ok.mp run
    exact h _

theorem throw {e : CompileError} (refused : ∀ reason, e ≠ .internal reason) :
    Suited (throw e) fits R where
  faultless _ _ := fun reason h => refused reason (Except.error.inj h)
  apt run := absurd run run_throw_ne_ok
  result run := absurd run run_throw_ne_ok

theorem lift {y : CompileM α} (faultless : fits → Faultless y) (reached : ∀ {a}, y = .ok a → fits)
    (h : ∀ {a} tasks, y = .ok a → R tasks a tasks) : Suited (liftM y) fits R where
  faultless fits before := (faultless fits).lift before
  apt run := by
    obtain ⟨found, rfl⟩ := run_lift_eq_ok.mp run
    rw [and_iff_left (reached found)]
  result run := by
    obtain ⟨found, rfl⟩ := run_lift_eq_ok.mp run
    exact h _ found

/-- Two runs one after the other, where the second one says what the whole comes to. -/
theorem bind {k : α → ExtractM ν β} (first : Suited x fits R)
    (second : ∀ a, Suited (k a) fits' fun between b after =>
      ∀ before, R before a between → S before b after) : Suited (x >>= k) (fits ∧ fits') S where
  faultless h before := by
    rw [StateT.run_bind]
    exact (first.faultless h.1 before).bind fun a => (second a.1).faultless h.2 a.2
  apt run := by
    obtain ⟨a, between, ha, hb⟩ := run_bind_eq_ok.mp run
    rw [(second a).apt hb, first.apt ha, and_assoc]
  result run := by
    obtain ⟨a, between, ha, hb⟩ := run_bind_eq_ok.mp run
    exact (second a).result hb _ (first.result ha)

theorem map {f : α → β} (suited : Suited x fits R)
    (h : ∀ {before a after}, R before a after → S before (f a) after) :
    Suited (x >>= fun a => Pure.pure (f a)) fits S :=
  (suited.bind fun _ => .pure fun _ _ run => h run).congr (iff_of_eq (and_true _)).symm

end Suited

end Run

theorem Place.faultless_scheduleDepth (room : p.standing.hasRoom = true) :
    Faultless (p.scheduleDepth c) := by
  rw [Standing.hasRoom, decide_eq_true_iff] at room
  unfold scheduleDepth
  intro reason
  cases hp : p.phase <;> simp only [standing, hp] at room ⊢ <;> split_ifs <;>
    first | omega | nofun

theorem Place.hasRoom_of_scheduleDepth {depth : Nat} (h : p.scheduleDepth c = .ok depth) :
    p.standing.hasRoom = true := by
  rw [Standing.hasRoom, decide_eq_true_iff]
  unfold scheduleDepth at h
  cases hp : p.phase <;> simp only [standing, hp] at h ⊢ <;> split_ifs at h <;> omega

/-- A computation is noted as a task that can be carried out exactly if the computation can, and so
can a task that does the same already. -/
theorem suited_schedule : Suited (schedule p c) (p.standing.hasRoom = true ∧ c.Apt p.scope)
    fun before r after => (schedule p c).run before = .ok (r, after) := by
  refine ⟨fun fits before => ?_, fun h => ?_, id⟩
  · rw [schedule, StateT.run_bind]
    refine ((Place.faultless_scheduleDepth fits.1).lift before).bind fun depth => ?_
    rw [StateT.run_bind]
    refine Faultless.bind (.ok (depth.2, depth.2)) fun _ => ?_
    split
    · exact .ok _
    · exact .ok _
  · obtain ⟨t, ⟨-, scope, depth⟩, -, found⟩ := run_schedule_cases h
    rw [and_iff_right (Place.hasRoom_of_scheduleDepth depth), ← scope]
    obtain ⟨ht, same, rfl⟩ | ⟨rfl, -, rfl⟩ := found
    · rw [← Computation.apt_of_beq same]
      exact (and_iff_left_of_imp fun all => all t ht).symm
    · rw [Apt, List.forall_mem_append, List.forall_mem_singleton]
      rfl

theorem suited_schedule_of_none (h : c.walked? = none) :
    Suited (schedule p c) (p.standing.hasRoom = true)
      fun before r after => (schedule p c).run before = .ok (r, after) :=
  suited_schedule.congr (by simp [Computation.Apt, h])

theorem suited_schedule_of_some {field : FieldSet} (h : c.walked? = some field) :
    Suited (schedule p c) (p.standing.allowsWalk field = true)
      fun before r after => (schedule p c).run before = .ok (r, after) :=
  suited_schedule.congr (by simp [Computation.Apt, h, Standing.allowsWalk, Place.standing])

theorem suited_averaged (m : Metric ν) : Suited (averaged m) True
    fun before r after => (averaged m).run before = .ok (r, after) := by
  refine ⟨fun _ before => ?_, fun h => ?_, id⟩
  · rw [averaged, StateT.run_bind]
    refine Faultless.bind (.ok (before, before)) fun _ => ?_
    split
    · rintro _ ⟨⟩
    · exact .ok _
  · rw [(run_averaged_eq_ok h).1, and_true]

theorem Aggregate.Metric.faultless_stats (scope : Names) (m : Doc.Metric) :
    Faultless (Metric.stats scope m : CompileM (Metric ν)) := by
  refine Faultless.bind ?_ fun _ => .pure _
  unfold summedDatasets
  split <;> rintro _ ⟨⟩

/-! ## Expressions -/

section Expressions

mutual

theorem Aggregate.Metric.suited_extract (p : Place) (below : p.depth ≤ p.startDepth) :
    (m : Metric ν) → Suited (m.extract p) (m.fits p.standing = true) (m.Extracts p)
  | .parent m => by
    rw [Metric.extract, Metric.fits, ← Place.standing_parent below]
    exact (Aggregate.Metric.suited_extract _ (by dsimp only; omega) m).imp .parent
  | .distinct f x w => by
    rw [Metric.extract]
    refine .congr (.bind (Aggregate.Filter.suited_extractOption _ le_rfl x) fun y =>
      (suited_schedule_of_none rfl).imp fun run _ filter => .distinct filter run) ?_
    simp [Metric.fits, Place.standing_terms]
  | .percentile f level => (suited_schedule_of_none rfl).imp fun run => .computed .percentile run
  | .qualified ds m => by
    rw [Metric.extract]
    split
    · exact (Aggregate.Metric.suited_extract { p with scope := ds } below m).imp .qualified
    · exact .throw nofun
  | .docStats d => by
    rw [Metric.extract]
    split
    · rename_i start
      refine .congr (.lift (fun _ => Metric.faultless_stats _ d) (fun _ => trivial)
        fun _ summed => .stats start summed) ?_
      simp [Metric.fits, Place.standing, start]
    · rename_i apart
      refine ((suited_schedule_of_none rfl).imp fun run => .rawStats apart run).congr ?_
      simp [Metric.fits, Place.standing, apart]
  | .sumAcross (.buckets _ _ _ _ false _) _ => .throw nofun
  | .sumAcross (.terms f x none _ _) m => by
    rw [Metric.extract]
    refine .congr (.bind (Aggregate.Metric.suited_extract p below m) fun _ =>
      .bind (Aggregate.Filter.suited_extractOption p below x) fun _ =>
        (suited_schedule_of_some rfl).imp fun run _ filter _ summed =>
          .computed (.sumAcross summed filter) run) ?_
    simp [Metric.fits, and_assoc]
  | .sumAcross (.terms f x (some limit) o d) m => by
    simp only [Metric.extract, Grouping.extract, bind_assoc, pure_bind]
    refine .congr (.bind (Aggregate.Filter.suited_extractOption p below x) fun _ =>
      .bind (Aggregate.Metric.suited_extractOption p below o) fun _ =>
        .bind (Aggregate.Metric.suited_extract p below m) fun _ =>
          (suited_schedule_of_none rfl).imp fun run _ summed _ order _ filter =>
            .computed (.sumAcrossTerms filter order summed) run) ?_
    simp [Metric.fits, Grouping.fits, and_assoc]
  | .sumAcross (.buckets _ _ _ _ true _) m | .sumAcross (.time ..) m
  | .sumAcross (.timeBuckets ..) m | .sumAcross (.month ..) m | .sumAcross (.termsIn ..) m
  | .sumAcross .dayOfWeek m | .sumAcross .sessionName m | .sumAcross (.quantiles ..) m
  | .sumAcross (.predicate _) m | .sumAcross (.random ..) m | .sumAcross (.randomMetric ..) m => by
    simp only [Metric.extract, Grouping.extract, pure_bind]
    refine .congr (.bind (Aggregate.Metric.suited_extract p below m) fun _ =>
      (suited_schedule_of_none rfl).imp fun run _ summed =>
        .computed (.sumAcrossGrouping nofun summed) run) ?_
    simp [Metric.fits, Grouping.fits]
  | .fieldMin f m x => by
    rw [Metric.extract]
    refine .congr (.bind (Aggregate.Metric.suited_extractOr p below f m) fun _ =>
      .bind (Aggregate.Filter.suited_extractOption p below x) fun _ =>
        (suited_schedule_of_some rfl).imp fun run _ filter _ order =>
          .computed (.fieldMin order filter) run) ?_
    simp [Metric.fits, and_assoc]
  | .fieldMax f m x => by
    rw [Metric.extract]
    refine .congr (.bind (Aggregate.Metric.suited_extractOr p below f m) fun _ =>
      .bind (Aggregate.Filter.suited_extractOption p below x) fun _ =>
        (suited_schedule_of_some rfl).imp fun run _ filter _ order =>
          .computed (.fieldMax order filter) run) ?_
    simp [Metric.fits, and_assoc]
  | .bootstrap f x seed m n outputs => by
    rw [Metric.extract]
    refine .congr (.bind (Aggregate.Metric.suited_extract p below m) fun _ =>
      .bind (Aggregate.Filter.suited_extractOption p below x) fun _ =>
        (suited_schedule_of_none rfl).imp fun run _ filter _ measured =>
          .computed (.bootstrap measured filter) run) ?_
    simp [Metric.fits, and_assoc]
  | .average m => by
    rw [Metric.extract]
    exact .congr (.bind (Aggregate.Metric.suited_extract p below m) fun n =>
      (suited_averaged n).imp fun run _ inner => .average inner run) (by simp [Metric.fits])
  | .add ms => by
    rw [Metric.extract, Metric.fits]
    exact .map (Aggregate.Metric.suited_extractAll p below ms) .add
  | .least ms => by
    rw [Metric.extract, Metric.fits]
    exact .map (Aggregate.Metric.suited_extractAll p below ms) (.around (.least ..))
  | .greatest ms => by
    rw [Metric.extract, Metric.fits]
    exact .map (Aggregate.Metric.suited_extractAll p below ms) (.around (.greatest ..))
  | .calculate op l r => by
    rw [Metric.extract, Metric.fits, Bool.and_eq_true]
    exact .bind (Aggregate.Metric.suited_extract p below l) fun _ =>
      .map (Aggregate.Metric.suited_extract p below r) fun right _ left =>
        .around (.calculate ..) (.cons left (.cons right .nil))
  | .function f m => by
    rw [Metric.extract, Metric.fits]
    exact .map (Aggregate.Metric.suited_extract p below m) fun inner =>
      .around (.function ..) (.cons inner .nil)
  | .lag n m => by
    rw [Metric.extract, Metric.fits]
    exact .map (Aggregate.Metric.suited_extract p below m) fun inner =>
      .around (.lag ..) (.cons inner .nil)
  | .iterateLag n m => by
    rw [Metric.extract, Metric.fits]
    exact .map (Aggregate.Metric.suited_extract p below m) fun inner =>
      .around (.iterateLag ..) (.cons inner .nil)
  | .window n m => by
    rw [Metric.extract, Metric.fits]
    exact .map (Aggregate.Metric.suited_extract p below m) fun inner =>
      .around (.window ..) (.cons inner .nil)
  | .running n m => by
    rw [Metric.extract, Metric.fits]
    exact .map (Aggregate.Metric.suited_extract p below m) fun inner =>
      .around (.running ..) (.cons inner .nil)
  | .named m name => by
    rw [Metric.extract, Metric.fits]
    exact .map (Aggregate.Metric.suited_extract p below m) fun inner =>
      .around (.named ..) (.cons inner .nil)
  | .ifThenElse c y n => by
    rw [Metric.extract, Metric.fits, Bool.and_eq_true, Bool.and_eq_true, and_assoc]
    exact .bind (Aggregate.Filter.suited_extract p below c) fun _ =>
      .bind (Aggregate.Metric.suited_extract p below y) fun _ =>
        .map (Aggregate.Metric.suited_extract p below n) fun no _ yes _ condition =>
          .ifThenElse condition yes no
  | .docStatsIn .. | .lookup _ | .multiLookup _ | .reference _ | .constant _ => by
    rw [Metric.extract]
    exact .congr (.pure fun _ => .kept rfl) (by simp [Metric.fits])

theorem Aggregate.Metric.suited_extractAll (p : Place) (below : p.depth ≤ p.startDepth) :
    (ms : List (Metric ν)) → Suited (Metric.extractAll p ms) (Metric.allFit p.standing ms = true)
      (Metric.ExtractsAll ms p)
  | [] => .congr (.pure fun _ => .nil) (by simp [Metric.allFit])
  | m :: rest => by
    rw [Metric.extractAll, Metric.allFit, Bool.and_eq_true]
    exact .bind (Aggregate.Metric.suited_extract p below m) fun _ =>
      .map (Aggregate.Metric.suited_extractAll p below rest) fun more _ first => .cons first more

theorem Aggregate.Metric.suited_extractOption (p : Place) (below : p.depth ≤ p.startDepth) :
    (m : Option (Metric ν)) → Suited (Metric.extractOption p m)
      (Metric.fitsOption p.standing m = true) (Metric.ExtractsOption m p)
  | none => .congr (.pure fun _ => .none) (by simp [Metric.fitsOption])
  | some m => .map (Aggregate.Metric.suited_extract p below m) .some

theorem Aggregate.Metric.suited_extractOr (p : Place) (below : p.depth ≤ p.startDepth)
    (field : FieldSet) : (m : Option (Metric ν)) → Suited (Metric.extractOr p field m)
      (Metric.fitsOption p.standing m = true) (Metric.ExtractsOr field m p)
  | none => ((suited_averaged _).imp .average).congr (by simp [Metric.fitsOption])
  | some m => (Aggregate.Metric.suited_extract p below m).imp .given

theorem Aggregate.Filter.suited_extract (p : Place) (below : p.depth ≤ p.startDepth) :
    (f : Filter ν) → Suited (f.extract p) (f.fits p.standing = true) (f.Extracts p)
  | .compare op l r => by
    rw [Filter.extract, Filter.fits, Bool.and_eq_true]
    exact .bind (Aggregate.Metric.suited_extract p below l) fun _ =>
      .map (Aggregate.Metric.suited_extract p below r) fun right _ left => .compare left right
  | .and fs => by
    rw [Filter.extract, Filter.fits]
    exact .map (Aggregate.Filter.suited_extractAll p below fs) .and
  | .or fs => by
    rw [Filter.extract, Filter.fits]
    exact .map (Aggregate.Filter.suited_extractAll p below fs) .or
  | .not f => by
    rw [Filter.extract, Filter.fits]
    exact .map (Aggregate.Filter.suited_extract p below f) .not
  | .termIs _ | .termRegex _ | .regex .. | .always | .never | .isDefaultGroup => by
    rw [Filter.extract]
    exact .congr (.pure fun _ => .kept rfl) (by simp [Filter.fits])

theorem Aggregate.Filter.suited_extractAll (p : Place) (below : p.depth ≤ p.startDepth) :
    (fs : List (Filter ν)) → Suited (Filter.extractAll p fs) (Filter.allFit p.standing fs = true)
      (Filter.ExtractsAll fs p)
  | [] => .congr (.pure fun _ => .nil) (by simp [Filter.allFit])
  | f :: rest => by
    rw [Filter.extractAll, Filter.allFit, Bool.and_eq_true]
    exact .bind (Aggregate.Filter.suited_extract p below f) fun _ =>
      .map (Aggregate.Filter.suited_extractAll p below rest) fun more _ first => .cons first more

theorem Aggregate.Filter.suited_extractOption (p : Place) (below : p.depth ≤ p.startDepth) :
    (f : Option (Filter ν)) → Suited (Filter.extractOption p f)
      (Filter.fitsOption p.standing f = true) (Filter.ExtractsOption f p)
  | none => .congr (.pure fun _ => .none) (by simp [Filter.fitsOption])
  | some f => .map (Aggregate.Filter.suited_extract p below f) .some

end

theorem Aggregate.Grouping.suited_extract (below : p.depth ≤ p.startDepth) (g : Grouping ν) :
    Suited (g.extract p) (g.fits p.standing = true) (g.Extracts p) := by
  cases g with
  | terms f x limit m d =>
    rw [Grouping.extract, Grouping.fits, Bool.and_eq_true]
    exact .bind (Filter.suited_extractOption p below x) fun _ =>
      .map (Metric.suited_extractOption p below m) fun order _ filter => .terms filter order
  | _ => exact .congr (.pure fun _ => .kept nofun) (by simp [Grouping.fits])

end Expressions

/-! ## Stages and plans -/

theorem Stage.suited_extract (scope : Names) (depth : Nat) (s : Stage ν) :
    Suited (s.extract scope depth) (s.fits scope = true) (s.Extracts (.ofStage scope depth)) := by
  obtain ⟨g, x, label⟩ := s
  unfold Stage.extract Stage.fits
  extract_lets place behind before
  split
  · rename_i needed
    have standing : Place.standing { place with phase := .post } = behind := by
      simp [Place.standing, place, behind]
    -- A grouping other than one by terms is taken behind its filter and left as it is.
    have others (kept : ∀ f filter limit o d, g ≠ .terms f filter limit o d) : Suited (do
        let having ← Filter.extractOption { place with phase := .post } x
        let grouping ← g.extract { place with phase := .post }
        pure ({ grouping, having, label } : Stage ν))
        ((Filter.fitsOption behind x && g.fits behind) = true)
        (Stage.Extracts place ⟨g, x, label⟩) := by
      rw [Bool.and_eq_true, ← standing]
      refine .bind (Filter.suited_extractOption _ le_rfl x) fun _ =>
        .map (Grouping.suited_extract le_rfl g) fun grouping _ having => ?_
      cases grouping with
      | kept => exact .behind needed kept having
      | terms => exact (kept _ _ _ _ _ rfl).elim
    cases g with
    | terms f own limit m d =>
      cases own with
      | none => cases needed
      | some own =>
        rw [Bool.and_eq_true, ← standing]
        exact .bind (Filter.suited_extract _ le_rfl own) fun _ =>
          .map (Metric.suited_extractOption _ le_rfl m) fun order _ filter =>
            .behindTerms needed filter order
    | _ => exact others nofun
  · rename_i front
    have standing : place.standing = before := by
      simp [Place.standing, place, before]
    rw [Bool.and_eq_true, ← standing]
    exact .bind (Grouping.suited_extract le_rfl g) fun _ =>
      .map (Filter.suited_extractOption place le_rfl x) fun having _ grouping =>
        .front front grouping having

theorem Stage.suited_extractAll (scope : Names) (depth : Nat) (stages : List (Stage ν)) :
    Suited (Stage.extractAll scope depth stages) (stages.all (Stage.fits scope) = true)
      (Stage.ExtractsAll scope depth stages) := by
  induction stages generalizing depth with
  | nil => exact .congr (.pure fun _ => .nil) (by simp)
  | cons s rest ih =>
    rw [Stage.extractAll, List.all_cons, Bool.and_eq_true]
    exact .bind (s.suited_extract scope depth) fun _ =>
      .map (ih (depth + 1)) fun more _ first => .cons first more

theorem Plan.suited_extractM (p : Plan ν) : Suited p.extractM (p.fits = true) p.Extracts := by
  rw [Plan.fits, Bool.and_eq_true]
  refine .bind (Stage.suited_extractAll p.scope 1 p.stages) fun _ =>
    .map ?_ fun selects _ stages => ⟨_, stages, selects⟩
  refine .congr (Metric.suited_extractAll _ le_rfl p.selects) ?_
  simp [Place.standing]

/-- Extraction from a plan is not at fault if the plan fits, and if it succeeds, then the tasks can
be carried out exactly if the plan fits. -/
theorem Plan.faultless_extract {p : Plan ν} (fits : p.fits = true) : Faultless p.extract :=
  (p.suited_extractM.faultless fits []).bind fun _ => .pure _

section Results

variable {p : Plan ν} {e : Extracted ν}

theorem Plan.run_of_extract (h : p.extract = .ok e) :
    p.extractM.run [] = .ok (e.plan, e.tasks) := by
  simp only [Plan.extract, bind_eq_ok, pure_eq_ok] at h
  obtain ⟨⟨q, tasks⟩, run, rfl⟩ := h
  exact run

theorem Plan.apt_extract (h : p.extract = .ok e) : Apt e.tasks ↔ p.fits = true :=
  (p.suited_extractM.apt (run_of_extract h)).trans (and_iff_right (List.forall_mem_nil _))

theorem Plan.extracts_extract (h : p.extract = .ok e) : p.Extracts [] e.plan e.tasks :=
  p.suited_extractM.result (run_of_extract h)

end Results

end Groupwise
