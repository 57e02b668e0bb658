import Groupwise.Proofs.Doc.Constructors

/-!
# Revisions that keep the meaning

A revision keeps the meaning of an expression if it keeps the meaning of every node. The merging
constructors by which it rebuilds extremes need that none of them is empty, which a revision sees to
as long as its rule does not bring an empty one about.
-/
namespace Groupwise.Doc

variable {doc : Document}

/-! ## Extremes that are not empty -/

mutual

/-- No extreme in a metric is empty, filters apart. -/
def Metric.Filled : Metric → Prop
  | .log m _ => m.Filled
  | .exponentiate m _ => m.Filled
  | .negate m => m.Filled
  | .abs m => m.Filled
  | .signum m => m.Filled
  | .add ms => Metric.AllFilled ms
  | .least ms => ms ≠ [] ∧ Metric.AllFilled ms
  | .greatest ms => ms ≠ [] ∧ Metric.AllFilled ms
  | .arithmetic _ l r => l.Filled ∧ r.Filled
  | .compare _ l r => l.Filled ∧ r.Filled
  | .ifThenElse _ y n => y.Filled ∧ n.Filled
  | .qualified _ m => m.Filled
  | .perDataset ms => Metric.EntriesFilled ms
  | .sampleMetric m _ _ _ => m.Filled
  | .randomMetric m _ _ => m.Filled
  | _ => True

def Metric.AllFilled : List Metric → Prop
  | [] => True
  | m :: rest => m.Filled ∧ Metric.AllFilled rest

def Metric.EntriesFilled : List (String × Metric) → Prop
  | [] => True
  | (_, m) :: rest => m.Filled ∧ Metric.EntriesFilled rest

end

namespace Metric

variable {ms : List Metric} {kind : Extreme}

theorem allFilled_iff : AllFilled ms ↔ ∀ m ∈ ms, m.Filled := by
  induction ms with
  | nil => simp [AllFilled]
  | cons m ms ih => rw [AllFilled, ih, List.forall_mem_cons]

theorem filled_make : (kind.make ms).Filled ↔ ms ≠ [] ∧ ∀ m ∈ ms, m.Filled := by
  rw [← allFilled_iff]
  cases kind <;> exact Iff.rfl

theorem filled_sum (h : ∀ m ∈ ms, m.Filled) : (sum ms).Filled :=
  property_sum (fun _ => trivial) (fun _ => allFilled_iff.mp) (fun _ _ => allFilled_iff.mpr) h

theorem filled_extreme (h : ∀ m ∈ ms, m.Filled) : (extreme kind ms).Filled :=
  property_extreme (fun _ => trivial) (fun _ h => (filled_make.mp h).2)
    (fun _ some h => filled_make.mpr ⟨some, h⟩) h

end Metric

/-! ## Revisions -/

variable {g : Metric → Metric} {i : Filter → Filter}

mutual

theorem Metric.filled_revise (filled : ∀ m, m.Filled → (g m).Filled) (m : Metric) :
    (m.revise g i).Filled := by
  match m with
  | .log m s => exact filled _ (Metric.filled_revise filled m)
  | .exponentiate m s => exact filled _ (Metric.filled_revise filled m)
  | .negate m => exact filled _ (Metric.filled_revise filled m)
  | .abs m => exact filled _ (Metric.filled_revise filled m)
  | .signum m => exact filled _ (Metric.filled_revise filled m)
  | .add ms => exact filled _ (Metric.filled_sum (Metric.filled_reviseAll filled ms))
  | .least ms => exact filled _ (Metric.filled_extreme (Metric.filled_reviseAll filled ms))
  | .greatest ms => exact filled _ (Metric.filled_extreme (Metric.filled_reviseAll filled ms))
  | .arithmetic op l r =>
    exact filled _ ⟨Metric.filled_revise filled l, Metric.filled_revise filled r⟩
  | .compare op l r =>
    exact filled _ ⟨Metric.filled_revise filled l, Metric.filled_revise filled r⟩
  | .ifThenElse c y n =>
    exact filled _ ⟨Metric.filled_revise filled y, Metric.filled_revise filled n⟩
  | .qualified d m => exact filled _ (Metric.filled_revise filled m)
  | .perDataset ms => exact filled _ (Metric.filled_reviseEntries filled ms)
  | .sampleMetric m n d s => exact filled _ (Metric.filled_revise filled m)
  | .randomMetric m n s => exact filled _ (Metric.filled_revise filled m)
  | .field _ | .constant _ | .count | .docId | .regex .. | .extract .. | .hasInt .. | .hasString ..
  | .hasIntField _ | .hasStringField _ | .fieldEqual .. | .floatScale .. | .stringLength _
  | .intTermCount _ | .stringTermCount _ | .lucene .. | .sample .. | .random .. =>
    exact filled _ trivial

theorem Metric.filled_reviseAll (filled : ∀ m, m.Filled → (g m).Filled) (ms : List Metric) :
    ∀ m ∈ Metric.reviseAll g i ms, m.Filled := by
  match ms with
  | [] => exact nofun
  | m :: rest =>
    exact List.forall_mem_cons.mpr
      ⟨Metric.filled_revise filled m, Metric.filled_reviseAll filled rest⟩

theorem Metric.filled_reviseEntries (filled : ∀ m, m.Filled → (g m).Filled)
    (ms : List (String × Metric)) : Metric.EntriesFilled (Metric.reviseEntries g i ms) := by
  match ms with
  | [] => exact trivial
  | (d, m) :: rest =>
    exact ⟨Metric.filled_revise filled m, Metric.filled_reviseEntries filled rest⟩

end

/-- Rules for metrics and for filters keep the meaning of every node on a document, and bring no
empty extreme about. -/
structure KeepMeaning (doc : Document) (g : Metric → Metric) (i : Filter → Filter) : Prop where
  value : ∀ m, (g m).value doc = m.value doc
  filled : ∀ m, m.Filled → (g m).Filled
  holds : ∀ f, (i f).holds doc = f.holds doc

theorem KeepMeaning.value_extreme (keep : KeepMeaning doc g i) (kind : Metric.Extreme)
    (ms : List Metric) :
    (Metric.extreme kind (Metric.reviseAll g i ms)).value doc =
      kind.among (Metric.values doc (Metric.reviseAll g i ms)) := by
  refine Metric.value_extreme fun m hm he => ?_
  have filled := Metric.filled_reviseAll (i := i) keep.filled ms m hm
  rw [he, Metric.filled_make] at filled
  exact filled.1 rfl

mutual

/-- A revision by rules that keep the meaning keeps the value of a metric. -/
theorem Metric.value_revise (keep : KeepMeaning doc g i) (m : Metric) :
    (m.revise g i).value doc = m.value doc := by
  match m with
  | .log m _ | .exponentiate m _ | .negate m | .abs m | .signum m | .qualified _ m
  | .sampleMetric m _ _ _ | .randomMetric m _ _ =>
    rw [Metric.revise, keep.value, Metric.value, Metric.value_revise keep m, Metric.value]
  | .add ms =>
    rw [Metric.revise, keep.value, Metric.value_sum, Metric.values_reviseAll keep ms, Metric.value]
  | .least ms | .greatest ms =>
    rw [Metric.revise, keep.value]
    exact (keep.value_extreme _ ms).trans (congrArg _ (Metric.values_reviseAll keep ms))
  | .arithmetic _ l r | .compare _ l r =>
    rw [Metric.revise, keep.value, Metric.value, Metric.value_revise keep l,
      Metric.value_revise keep r, Metric.value]
  | .ifThenElse c y n =>
    rw [Metric.revise, keep.value, Metric.value, Filter.holds_revise keep c,
      Metric.value_revise keep y, Metric.value_revise keep n, Metric.value]
  | .perDataset ms =>
    rw [Metric.revise, keep.value, Metric.value, Metric.valueOfEntry_reviseEntries keep ms,
      Metric.value]
  | .field _ | .constant _ | .count | .docId | .regex .. | .extract .. | .hasInt .. | .hasString ..
  | .hasIntField _ | .hasStringField _ | .fieldEqual .. | .floatScale .. | .stringLength _
  | .intTermCount _ | .stringTermCount _ | .lucene .. | .sample .. | .random .. =>
    exact keep.value _

theorem Metric.values_reviseAll (keep : KeepMeaning doc g i) (ms : List Metric) :
    Metric.values doc (Metric.reviseAll g i ms) = Metric.values doc ms := by
  match ms with
  | [] => rfl
  | m :: rest =>
    rw [Metric.reviseAll, Metric.values, Metric.value_revise keep m,
      Metric.values_reviseAll keep rest, Metric.values]

theorem Metric.valueOfEntry_reviseEntries (keep : KeepMeaning doc g i)
    (ms : List (String × Metric)) :
    Metric.valueOfEntry doc (Metric.reviseEntries g i ms) = Metric.valueOfEntry doc ms := by
  match ms with
  | [] => rfl
  | (d, m) :: rest =>
    rw [Metric.reviseEntries, Metric.valueOfEntry, Metric.value_revise keep m,
      Metric.valueOfEntry_reviseEntries keep rest, Metric.valueOfEntry]

/-- A revision by rules that keep the meaning keeps a filter true or false. -/
theorem Filter.holds_revise (keep : KeepMeaning doc g i) (f : Filter) :
    (f.revise g i).holds doc = f.holds doc := by
  match f with
  | .compare _ l r =>
    rw [Filter.revise, keep.holds, Filter.holds, Metric.value_revise keep l,
      Metric.value_revise keep r, Filter.holds]
  | .and fs =>
    rw [Filter.revise, keep.holds, Filter.holds_all, Filter.holds, Filter.holdAll_eq_all]
    simpa [List.all_map, Function.comp_def] using
      congrArg (List.all · id) (Filter.map_holds_reviseAll keep fs)
  | .or fs =>
    rw [Filter.revise, keep.holds, Filter.holds_any, Filter.holds, Filter.holdSome_eq_any]
    simpa [List.any_map, Function.comp_def] using
      congrArg (List.any · id) (Filter.map_holds_reviseAll keep fs)
  | .not f | .qualified _ f =>
    rw [Filter.revise, keep.holds, Filter.holds, Filter.holds_revise keep f, Filter.holds]
  | .sampleMetric m _ _ _ =>
    rw [Filter.revise, keep.holds, Filter.holds, Metric.value_revise keep m, Filter.holds]
  | .fieldIs .. | .fieldIsnt .. | .between .. | .regex .. | .notRegex .. | .fieldEqual ..
  | .lucene .. | .sample .. | .stringIn .. | .intIn .. | .inQuery .. | .always | .never =>
    exact keep.holds _

theorem Filter.map_holds_reviseAll (keep : KeepMeaning doc g i) (fs : List Filter) :
    (Filter.reviseAll g i fs).map (·.holds doc) = fs.map (·.holds doc) := by
  match fs with
  | [] => rfl
  | f :: rest =>
    rw [Filter.reviseAll, List.map_cons, Filter.holds_revise keep f,
      Filter.map_holds_reviseAll keep rest, List.map_cons]

end

end Groupwise.Doc
