import Groupwise.Doc.Pushes
import Groupwise.Doc.Revision
import Groupwise.Proofs.Doc.Constructors
import Groupwise.Proofs.Outcome
import Mathlib.Data.List.Basic

/-!
# Expressions that have programs

A metric has a program in a dataset when all its parts have, and a filter when its truth metric has.
The merging constructors keep this, and so a revision does if its rules do.
-/
namespace Groupwise.Doc

variable {dataset : String}

/-- The metric has a program in the dataset. -/
def Metric.Programmable (dataset : String) (m : Metric) : Prop :=
  ∃ program, m.pushes dataset = .ok program

/-- The filter has a truth metric in the dataset, and that has a program. -/
def Filter.Programmable (dataset : String) (f : Filter) : Prop :=
  ∃ truth, f.truth dataset = .ok truth ∧ truth.Programmable dataset

namespace Metric

variable {m l r : Metric} {ms : List Metric}

theorem programmable_of_constant (h : m.constant?.isSome) : m.Programmable dataset := by
  cases m <;> simp_all [constant?, Programmable, pushes]

theorem programmable_constant {v : Int64} : (Metric.constant v).Programmable dataset :=
  programmable_of_constant rfl

theorem exists_pushesOfAll :
    (∃ programs, pushesOfAll dataset ms = .ok programs) ↔ ∀ m ∈ ms, m.Programmable dataset := by
  induction ms with
  | nil => simp [pushesOfAll]
  | cons m rest ih =>
    rw [List.forall_mem_cons, ← ih]
    constructor
    · rintro ⟨programs, h⟩
      simp only [pushesOfAll, bind_eq_ok, pure_eq_ok] at h
      obtain ⟨p, hp, others, hothers, -⟩ := h
      exact ⟨⟨p, hp⟩, others, hothers⟩
    · rintro ⟨⟨p, hp⟩, others, hothers⟩
      exact ⟨p :: others, by simp [pushesOfAll, bind_eq_ok, hp, hothers]⟩

theorem programmable_add : (Metric.add ms).Programmable dataset ↔
    ∀ m ∈ ms, m.Programmable dataset := by
  rw [← exists_pushesOfAll]
  simp only [Programmable, pushes, bind_eq_ok, pure_eq_ok]
  simp only [exists_comm (α := List String), exists_and_left, exists_eq', and_true]

theorem programmable_make (kind : Extreme) : (kind.make ms).Programmable dataset ↔
    ∀ m ∈ ms, m.Programmable dataset := by
  rw [← exists_pushesOfAll]
  cases kind <;> simp only [Extreme.make, Programmable, pushes, bind_eq_ok, pure_eq_ok] <;>
    simp only [exists_comm (α := List String), exists_and_left, exists_eq', and_true]

theorem programmable_arithmetic {op : Arithmetic} :
    (Metric.arithmetic op l r).Programmable dataset ↔
      l.Programmable dataset ∧ r.Programmable dataset := by
  simp only [Programmable, pushes, bind_eq_ok, pure_eq_ok]
  constructor
  · rintro ⟨_, p, hp, q, hq, -⟩
    exact ⟨⟨p, hp⟩, q, hq⟩
  · rintro ⟨⟨p, hp⟩, q, hq⟩
    exact ⟨_, p, hp, q, hq, rfl⟩

theorem programmable_compare {op : Comparison} : (Metric.compare op l r).Programmable dataset ↔
    l.Programmable dataset ∧ r.Programmable dataset := by
  simp only [Programmable, pushes, bind_eq_ok, pure_eq_ok]
  constructor
  · rintro ⟨_, p, hp, q, hq, -⟩
    exact ⟨⟨p, hp⟩, q, hq⟩
  · rintro ⟨⟨p, hp⟩, q, hq⟩
    exact ⟨_, p, hp, q, hq, rfl⟩

theorem programmable_ifThenElse {c : Filter} : (Metric.ifThenElse c l r).Programmable dataset ↔
    c.Programmable dataset ∧ l.Programmable dataset ∧ r.Programmable dataset := by
  simp only [Programmable, Filter.Programmable, pushes]
  cases c.truth dataset with
  | error e => simp
  | ok truth =>
    simp only [bind_eq_ok, pure_eq_ok, Except.ok.injEq, exists_eq_left']
    constructor
    · rintro ⟨_, t, ht, p, hp, q, hq, -⟩
      exact ⟨⟨t, ht⟩, ⟨p, hp⟩, q, hq⟩
    · rintro ⟨⟨t, ht⟩, ⟨p, hp⟩, q, hq⟩
      exact ⟨_, t, ht, p, hp, q, hq, rfl⟩

/-! ## Merging constructors -/

theorem programmable_ofTerms : (ofTerms ms).Programmable dataset ↔
    ∀ m ∈ ms, m.Programmable dataset := by
  match ms with
  | [] => simp [ofTerms, programmable_constant]
  | [m] => simp [ofTerms]
  | m :: n :: rest => exact programmable_add

theorem programmable_addends : (∀ m ∈ addends ms, m.Programmable dataset) ↔
    ∀ m ∈ ms, m.Programmable dataset := by
  fun_induction addends ms with
  | case1 => rfl
  | case2 inner rest ih =>
    rw [List.forall_mem_append, List.forall_mem_cons, ih, programmable_add]
  | case3 m rest _ ih => rw [List.forall_mem_cons, List.forall_mem_cons, ih]

/-- Constants apart, it is enough to look at some of the terms. -/
theorem programmable_others :
    (∀ m ∈ ms.filter (·.constant?.isNone), m.Programmable dataset) ↔
      ∀ m ∈ ms, m.Programmable dataset := by
  simp only [List.mem_filter, and_imp]
  refine forall₂_congr fun m _ => ⟨fun h => ?_, fun h _ => h⟩
  by_cases hm : m.constant?.isNone
  · exact h hm
  · exact programmable_of_constant (by simpa [Option.isSome_iff_ne_none] using hm)

theorem programmable_sum : (sum ms).Programmable dataset ↔ ∀ m ∈ ms, m.Programmable dataset := by
  rw [← programmable_addends, ← programmable_others, sum, programmable_ofTerms,
    List.forall_mem_append]
  refine and_iff_left ?_
  split <;> simp [programmable_constant]

theorem programmable_extreme {kind : Extreme} (h : ∀ m ∈ ms, m.Programmable dataset) :
    (extreme kind ms).Programmable dataset :=
  property_extreme (fun _ => programmable_constant) (fun _ => (programmable_make _).mp)
    (fun _ _ => (programmable_make _).mpr) h

/-- The program of the metric for a dataset, among those for several. -/
theorem programmable_perDataset {ms : List (String × Metric)} :
    (Metric.perDataset ms).Programmable dataset ↔
      ∃ m, Dictionary.find? dataset ms = some m ∧ m.Programmable dataset := by
  simp only [Programmable, pushes]
  induction ms with
  | nil => simp [pushesOfEntry, Dictionary.find?]
  | cons entry rest ih =>
    obtain ⟨d, m⟩ := entry
    rw [pushesOfEntry, Dictionary.find?]
    split
    · simp
    · exact ih

end Metric

namespace Filter

variable {f : Filter} {fs : List Filter}

theorem exists_truthsWith (lucene : List (String × Query) → CompileM Metric) :
    (∃ ms, truthsWith lucene dataset fs = .ok ms ∧ ∀ m ∈ ms, m.Programmable dataset) ↔
      ∀ f ∈ fs, ∃ m, f.truthWith lucene dataset = .ok m ∧ m.Programmable dataset := by
  induction fs with
  | nil => simp [truthsWith]
  | cons f rest ih =>
    rw [List.forall_mem_cons, ← ih, truthsWith]
    cases f.truthWith lucene dataset with
    | error e => simp
    | ok m => cases truthsWith lucene dataset rest <;> simp

theorem programmable_and : (Filter.and fs).Programmable dataset ↔
    ∀ f ∈ fs, f.Programmable dataset := by
  simp only [Programmable, truth, ← exists_truthsWith, truthWith]
  cases truthsWith (Query.truth dataset) dataset fs <;>
    simp [Metric.allOf, Metric.programmable_compare, Metric.programmable_sum,
      Metric.programmable_constant]

theorem programmable_or : (Filter.or fs).Programmable dataset ↔
    ∀ f ∈ fs, f.Programmable dataset := by
  simp only [Programmable, truth, ← exists_truthsWith, truthWith]
  cases truthsWith (Query.truth dataset) dataset fs <;>
    simp [Metric.someOf, Metric.programmable_compare, Metric.programmable_sum,
      Metric.programmable_constant]

theorem programmable_not : (Filter.not f).Programmable dataset ↔ f.Programmable dataset := by
  simp only [Programmable, truth, truthWith]
  cases f.truthWith (Query.truth dataset) dataset <;>
    simp [Metric.complement, Metric.subtract, Metric.programmable_arithmetic,
      Metric.programmable_constant]

theorem programmable_compare {op : Comparison} {l r : Metric} :
    (Filter.compare op l r).Programmable dataset ↔
      l.Programmable dataset ∧ r.Programmable dataset := by
  simp [Programmable, truth, truthWith, Metric.programmable_compare]

theorem programmable_qualified {datasets : Names} :
    (Filter.qualified datasets f).Programmable dataset ↔
      (datasets.contains dataset → f.Programmable dataset) := by
  simp only [Programmable, truth, truthWith]
  split
  · simp_all
  · exact ⟨fun _ listed => absurd listed ‹_›, fun _ => ⟨_, rfl, Metric.programmable_constant⟩⟩

theorem programmable_always : Filter.always.Programmable dataset :=
  ⟨_, rfl, Metric.programmable_constant⟩

theorem programmable_never : Filter.never.Programmable dataset :=
  ⟨_, rfl, Metric.programmable_constant⟩

theorem programmable_ofConjuncts (h : ∀ f ∈ fs, f.Programmable dataset) :
    (ofConjuncts fs).Programmable dataset := by
  match fs with
  | [] => exact programmable_always
  | [f] => exact h f (List.mem_singleton_self f)
  | _ :: _ :: _ => exact programmable_and.mpr h

theorem programmable_ofDisjuncts (h : ∀ f ∈ fs, f.Programmable dataset) :
    (ofDisjuncts fs).Programmable dataset := by
  match fs with
  | [] => exact programmable_never
  | [f] => exact h f (List.mem_singleton_self f)
  | _ :: _ :: _ => exact programmable_or.mpr h

theorem programmable_all (h : ∀ f ∈ fs, f.Programmable dataset) :
    (all fs).Programmable dataset := by
  have opened : ∀ f ∈ conjuncts fs, f.Programmable dataset := by
    fun_induction conjuncts fs with
    | case1 => exact h
    | case2 inner rest ih =>
      rw [List.forall_mem_cons] at h
      exact List.forall_mem_append.mpr ⟨programmable_and.mp h.1, ih h.2⟩
    | case3 f rest _ ih =>
      rw [List.forall_mem_cons] at h
      exact List.forall_mem_cons.mpr ⟨h.1, ih h.2⟩
  unfold all
  dsimp only
  split
  · exact programmable_never
  · exact programmable_ofConjuncts fun f hf => opened f (List.mem_filter.mp hf).1

theorem programmable_any (h : ∀ f ∈ fs, f.Programmable dataset) :
    (any fs).Programmable dataset := by
  have opened : ∀ f ∈ disjuncts fs, f.Programmable dataset := by
    fun_induction disjuncts fs with
    | case1 => exact h
    | case2 inner rest ih =>
      rw [List.forall_mem_cons] at h
      exact List.forall_mem_append.mpr ⟨programmable_or.mp h.1, ih h.2⟩
    | case3 f rest _ ih =>
      rw [List.forall_mem_cons] at h
      exact List.forall_mem_cons.mpr ⟨h.1, ih h.2⟩
  unfold any
  dsimp only
  split
  · exact programmable_always
  · exact programmable_ofDisjuncts fun f hf => opened f (List.mem_filter.mp hf).1

end Filter

/-! ## Revisions -/

section Revision

variable {g : Metric → Metric} {i : Filter → Filter}

mutual

/-- Rules that keep programs make a revision that keeps them. -/
theorem Metric.programmable_revise
    (metric : ∀ m, m.Programmable dataset → (g m).Programmable dataset)
    (filter : ∀ f, f.Programmable dataset → (i f).Programmable dataset) {m : Metric}
    (h : m.Programmable dataset) : (m.revise g i).Programmable dataset := by
  match m with
  | .log m _ | .exponentiate m _ | .negate m | .abs m | .signum m | .sampleMetric m _ _ _
  | .randomMetric m _ _ =>
    apply metric
    simp only [Metric.Programmable, Metric.pushes, bind_eq_ok, pure_eq_ok] at h
    obtain ⟨_, p, hp, -⟩ := h
    obtain ⟨q, hq⟩ := Metric.programmable_revise metric filter ⟨p, hp⟩
    simp [Metric.Programmable, Metric.pushes, hq]
  | .add ms =>
    exact metric _ (Metric.programmable_sum.mpr
      (Metric.programmable_reviseAll metric filter (Metric.programmable_add.mp h)))
  | .least ms =>
    exact metric _ (Metric.programmable_extreme (Metric.programmable_reviseAll metric filter
      ((Metric.programmable_make .min).mp h)))
  | .greatest ms =>
    exact metric _ (Metric.programmable_extreme (Metric.programmable_reviseAll metric filter
      ((Metric.programmable_make .max).mp h)))
  | .arithmetic op l r =>
    obtain ⟨hl, hr⟩ := Metric.programmable_arithmetic.mp h
    exact metric _ (Metric.programmable_arithmetic.mpr
      ⟨Metric.programmable_revise metric filter hl, Metric.programmable_revise metric filter hr⟩)
  | .compare op l r =>
    obtain ⟨hl, hr⟩ := Metric.programmable_compare.mp h
    exact metric _ (Metric.programmable_compare.mpr
      ⟨Metric.programmable_revise metric filter hl, Metric.programmable_revise metric filter hr⟩)
  | .ifThenElse c y n =>
    obtain ⟨hc, hy, hn⟩ := Metric.programmable_ifThenElse.mp h
    exact metric _ (Metric.programmable_ifThenElse.mpr
      ⟨Filter.programmable_revise metric filter hc, Metric.programmable_revise metric filter hy,
        Metric.programmable_revise metric filter hn⟩)
  | .qualified d m =>
    apply metric
    simp only [Metric.Programmable, Metric.pushes] at h ⊢
    split at h
    · rw [if_pos ‹_›]
      exact Metric.programmable_revise metric filter h
    · simp at h
  | .perDataset ms =>
    exact metric _ (Metric.programmable_perDataset.mpr
      (Metric.programmable_reviseEntries metric filter (Metric.programmable_perDataset.mp h)))
  | .field _ | .constant _ | .count | .docId | .regex .. | .extract .. | .hasInt .. | .hasString ..
  | .hasIntField _ | .hasStringField _ | .fieldEqual .. | .floatScale .. | .stringLength _
  | .intTermCount _ | .stringTermCount _ | .lucene .. | .sample .. | .random .. =>
    exact metric _ h

theorem Metric.programmable_reviseAll
    (metric : ∀ m, m.Programmable dataset → (g m).Programmable dataset)
    (filter : ∀ f, f.Programmable dataset → (i f).Programmable dataset) {ms : List Metric}
    (h : ∀ m ∈ ms, m.Programmable dataset) :
    ∀ m ∈ Metric.reviseAll g i ms, m.Programmable dataset := by
  match ms with
  | [] => exact nofun
  | m :: rest =>
    obtain ⟨hm, hrest⟩ := List.forall_mem_cons.mp h
    exact List.forall_mem_cons.mpr ⟨Metric.programmable_revise metric filter hm,
      Metric.programmable_reviseAll metric filter hrest⟩

theorem Metric.programmable_reviseEntries
    (metric : ∀ m, m.Programmable dataset → (g m).Programmable dataset)
    (filter : ∀ f, f.Programmable dataset → (i f).Programmable dataset)
    {ms : List (String × Metric)}
    (h : ∃ m, Dictionary.find? dataset ms = some m ∧ m.Programmable dataset) :
    ∃ m, Dictionary.find? dataset (Metric.reviseEntries g i ms) = some m ∧
      m.Programmable dataset := by
  match ms with
  | [] => exact h
  | (d, m) :: rest =>
    simp only [Metric.reviseEntries, Dictionary.find?] at h ⊢
    split at h
    · rw [if_pos ‹_›]
      obtain ⟨_, ⟨⟩, hm⟩ := h
      exact ⟨_, rfl, Metric.programmable_revise metric filter hm⟩
    · rw [if_neg ‹_›]
      exact Metric.programmable_reviseEntries metric filter h

theorem Filter.programmable_revise
    (metric : ∀ m, m.Programmable dataset → (g m).Programmable dataset)
    (filter : ∀ f, f.Programmable dataset → (i f).Programmable dataset) {f : Filter}
    (h : f.Programmable dataset) : (f.revise g i).Programmable dataset := by
  match f with
  | .compare op l r =>
    obtain ⟨hl, hr⟩ := Filter.programmable_compare.mp h
    exact filter _ (Filter.programmable_compare.mpr
      ⟨Metric.programmable_revise metric filter hl, Metric.programmable_revise metric filter hr⟩)
  | .and fs =>
    exact filter _ (Filter.programmable_all
      (Filter.programmable_reviseAll metric filter (Filter.programmable_and.mp h)))
  | .or fs =>
    exact filter _ (Filter.programmable_any
      (Filter.programmable_reviseAll metric filter (Filter.programmable_or.mp h)))
  | .not f =>
    exact filter _ (Filter.programmable_not.mpr
      (Filter.programmable_revise metric filter (Filter.programmable_not.mp h)))
  | .qualified ds f =>
    exact filter _ (Filter.programmable_qualified.mpr fun listed =>
      Filter.programmable_revise metric filter (Filter.programmable_qualified.mp h listed))
  | .sampleMetric .. =>
    obtain ⟨_, htruth, -⟩ := h
    simp [Filter.truth, Filter.truthWith] at htruth
  | .fieldIs .. | .fieldIsnt .. | .between .. | .regex .. | .notRegex .. | .fieldEqual ..
  | .lucene .. | .sample .. | .stringIn .. | .intIn .. | .inQuery .. | .always | .never =>
    exact filter _ h

theorem Filter.programmable_reviseAll
    (metric : ∀ m, m.Programmable dataset → (g m).Programmable dataset)
    (filter : ∀ f, f.Programmable dataset → (i f).Programmable dataset) {fs : List Filter}
    (h : ∀ f ∈ fs, f.Programmable dataset) :
    ∀ f ∈ Filter.reviseAll g i fs, f.Programmable dataset := by
  match fs with
  | [] => exact nofun
  | f :: rest =>
    obtain ⟨hf, hrest⟩ := List.forall_mem_cons.mp h
    exact List.forall_mem_cons.mpr ⟨Filter.programmable_revise metric filter hf,
      Filter.programmable_reviseAll metric filter hrest⟩

end

end Revision

end Groupwise.Doc
