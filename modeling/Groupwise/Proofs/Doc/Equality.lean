import Groupwise.Proofs.Doc.Meaning

/-!
# Equal expressions have the same meaning

Expressions that compare as equal may differ in how the scopes of their fields came about, and in
the sign of a zero. Neither shows on a document that scales by equal numbers alike.
-/
namespace Groupwise

theorem FieldSet.beq_iff_names {f g : FieldSet} : (f == g) = true ↔ f.names = g.names :=
  beq_iff_eq (a := f.names) (b := g.names)

namespace Doc

/-! ## Index queries -/

mutual

theorem Query.eq_of_beq (p q : Query) (h : Query.beq p q = true) : p = q := by
  unfold Query.beq at h
  split at h
  · rw [beq_iff_eq.mp h]
  · rename_i o as r bs
    rw [Bool.and_eq_true, beq_iff_eq] at h
    rw [h.1, Query.eq_of_beqAll as bs h.2]
  · rename_i a b i c d j
    simp only [Bool.and_eq_true, beq_iff_eq] at h
    rw [h.1.1, h.1.2, h.2]
  · simp at h

theorem Query.eq_of_beqAll (ps qs : List Query) (h : Query.beqAll ps qs = true) : ps = qs := by
  unfold Query.beqAll at h
  split at h
  · rfl
  · rename_i p ps q qs
    rw [Bool.and_eq_true] at h
    rw [Query.eq_of_beq p q h.1, Query.eq_of_beqAll ps qs h.2]
  · simp at h

end

mutual

theorem Query.beq_self (q : Query) : Query.beq q q = true := by
  match q with
  | .term a => exact beq_self_eq_true a
  | .boolean o as => rw [Query.beq, Query.beqAll_self as, beq_self_eq_true, Bool.and_true]
  | .range a b i => simp only [Query.beq, beq_self_eq_true, Bool.and_true]

theorem Query.beqAll_self (qs : List Query) : Query.beqAll qs qs = true := by
  match qs with
  | [] => rfl
  | q :: qs => rw [Query.beqAll, Query.beq_self q, Query.beqAll_self qs, Bool.and_true]

end

instance : LawfulBEq Query where
  eq_of_beq := Query.eq_of_beq _ _
  rfl := Query.beq_self _

/-! ## Metrics and filters -/

variable {doc : Document}

/-- A document scales the values of a field by equal numbers alike. -/
def Document.ScalesAlike (doc : Document) : Prop :=
  ∀ (name : String) (factor summand factor' summand' : Float), factor == factor' →
    summand == summand' →
    doc.reads (.floatScale name factor summand) = doc.reads (.floatScale name factor' summand')

mutual

theorem Metric.value_of_beq (alike : doc.ScalesAlike) (m n : Metric) (h : m.beq n = true) :
    m.value doc = n.value doc := by
  unfold Metric.beq at h
  split at h
  -- Metrics without metrics or filters inside compare by their fields and numbers.
  case h_1 | h_16 | h_17 | h_18 | h_19 | h_20 | h_21 | h_22 | h_24 | h_25 | h_26 | h_30 | h_32 =>
    simp only [Bool.and_eq_true, beq_iff_eq, FieldSet.beq_iff_names] at h
    simp only [Metric.value, Document.int, Document.name, h]
  case h_2 => exact beq_iff_eq.mp h
  case h_3 | h_4 => rfl
  case h_5 | h_6 =>
    rename_i m s n t
    simp only [Bool.and_eq_true, beq_iff_eq] at h
    rw [Metric.value, Metric.value, Metric.value_of_beq alike m n h.1, h.2]
  case h_7 | h_8 | h_9 =>
    rename_i m n
    rw [Metric.value, Metric.value, Metric.value_of_beq alike m n h]
  case h_10 | h_11 | h_12 =>
    rename_i ms ns
    rw [Metric.value, Metric.value, Metric.values_of_beqAll alike ms ns h]
  case h_13 | h_14 =>
    rename_i o l r p m s
    simp only [Bool.and_eq_true, beq_iff_eq] at h
    rw [Metric.value, Metric.value, h.1.1, Metric.value_of_beq alike l m h.1.2,
      Metric.value_of_beq alike r s h.2]
  case h_15 =>
    rename_i c y n d z o
    simp only [Bool.and_eq_true] at h
    rw [Metric.value, Metric.value, Filter.holds_of_beq alike c d h.1.1,
      Metric.value_of_beq alike y z h.1.2, Metric.value_of_beq alike n o h.2]
  case h_23 =>
    rename_i f a b g c d
    simp only [Bool.and_eq_true, FieldSet.beq_iff_names] at h
    rw [Metric.value, Metric.value, Document.name, h.1.1, alike _ a b c d h.1.2 h.2, Document.name]
  case h_27 =>
    rename_i t q u r
    simp only [Bool.and_eq_true, beq_iff_eq] at h
    rw [Metric.value, Metric.value, h.2]
  case h_28 =>
    rename_i d m e n
    rw [Bool.and_eq_true] at h
    exact Metric.value_of_beq alike m n h.2
  case h_29 =>
    rename_i ms ns
    exact Metric.valueOfEntry_of_beqEntries alike ms ns h
  case h_31 =>
    rename_i m n d s k l e t
    simp only [Bool.and_eq_true, beq_iff_eq] at h
    rw [Metric.value, Metric.value, Metric.value_of_beq alike m k h.1.1.1, h.1.1.2, h.1.2, h.2]
  case h_33 =>
    rename_i m n s k l t
    simp only [Bool.and_eq_true, beq_iff_eq] at h
    rw [Metric.value, Metric.value, Metric.value_of_beq alike m k h.1.1, h.1.2, h.2]
  case h_34 => simp at h
termination_by sizeOf m
decreasing_by
  all_goals
    subst_vars
    simp only [Metric.log.sizeOf_spec, Metric.exponentiate.sizeOf_spec, Metric.negate.sizeOf_spec,
      Metric.abs.sizeOf_spec, Metric.signum.sizeOf_spec, Metric.add.sizeOf_spec,
      Metric.least.sizeOf_spec, Metric.greatest.sizeOf_spec, Metric.arithmetic.sizeOf_spec,
      Metric.compare.sizeOf_spec, Metric.ifThenElse.sizeOf_spec, Metric.qualified.sizeOf_spec,
      Metric.perDataset.sizeOf_spec, Metric.sampleMetric.sizeOf_spec,
      Metric.randomMetric.sizeOf_spec]
    omega

theorem Metric.values_of_beqAll (alike : doc.ScalesAlike) (ms ns : List Metric)
    (h : Metric.beqAll ms ns = true) : Metric.values doc ms = Metric.values doc ns := by
  unfold Metric.beqAll at h
  split at h
  · rfl
  · rename_i m ms n ns
    rw [Bool.and_eq_true] at h
    rw [Metric.values, Metric.values, Metric.value_of_beq alike m n h.1,
      Metric.values_of_beqAll alike ms ns h.2]
  · simp at h
termination_by sizeOf ms
decreasing_by
  all_goals
    subst_vars
    rw [List.cons.sizeOf_spec]
    omega

theorem Metric.valueOfEntry_of_beqEntries (alike : doc.ScalesAlike)
    (ms ns : List (String × Metric)) (h : Metric.beqEntries ms ns = true) :
    Metric.valueOfEntry doc ms = Metric.valueOfEntry doc ns := by
  unfold Metric.beqEntries at h
  split at h
  · rfl
  · rename_i d m ms e n ns
    simp only [Bool.and_eq_true, beq_iff_eq] at h
    rw [Metric.valueOfEntry, Metric.valueOfEntry, h.1.1, Metric.value_of_beq alike m n h.1.2,
      Metric.valueOfEntry_of_beqEntries alike ms ns h.2]
  · simp at h
termination_by sizeOf ms
decreasing_by
  all_goals
    subst_vars
    simp only [List.cons.sizeOf_spec, Prod.mk.sizeOf_spec]
    omega

theorem Filter.holds_of_beq (alike : doc.ScalesAlike) (f g : Filter) (h : f.beq g = true) :
    f.holds doc = g.holds doc := by
  unfold Filter.beq at h
  split at h
  case h_1 | h_2 | h_3 | h_8 | h_9 | h_10 | h_13 | h_15 | h_16 | h_17 =>
    simp only [Bool.and_eq_true, beq_iff_eq, FieldSet.beq_iff_names] at h
    simp only [Filter.holds, Document.int, Document.name, h]
  case h_4 =>
    rename_i o l r p m s
    simp only [Bool.and_eq_true, beq_iff_eq] at h
    rw [Filter.holds, Filter.holds, h.1.1, Metric.value_of_beq alike l m h.1.2,
      Metric.value_of_beq alike r s h.2]
  case h_5 =>
    rename_i fs gs
    have each := congrArg (List.all · id) (Filter.map_holds_of_beqAll alike fs gs h)
    simp only [List.all_map, Function.id_comp] at each
    rw [Filter.holds, Filter.holds, Filter.holdAll_eq_all, Filter.holdAll_eq_all, each]
  case h_6 =>
    rename_i fs gs
    have each := congrArg (List.any · id) (Filter.map_holds_of_beqAll alike fs gs h)
    simp only [List.any_map, Function.id_comp] at each
    rw [Filter.holds, Filter.holds, Filter.holdSome_eq_any, Filter.holdSome_eq_any, each]
  case h_7 =>
    rename_i f g
    rw [Filter.holds, Filter.holds, Filter.holds_of_beq alike f g h]
  case h_11 =>
    rename_i d f e g
    simp only [Bool.and_eq_true, beq_iff_eq] at h
    rw [Filter.holds, Filter.holds, h.1, Filter.holds_of_beq alike f g h.2]
  case h_12 =>
    rename_i t q u r
    simp only [Bool.and_eq_true, beq_iff_eq] at h
    rw [Filter.holds, Filter.holds, h.2]
  case h_14 =>
    rename_i m n d s k l e t
    simp only [Bool.and_eq_true, beq_iff_eq] at h
    rw [Filter.holds, Filter.holds, Metric.value_of_beq alike m k h.1.1.1, h.1.1.2, h.1.2, h.2]
  case h_18 | h_19 => rfl
  case h_20 => simp at h
termination_by sizeOf f
decreasing_by
  all_goals
    subst_vars
    simp only [Filter.compare.sizeOf_spec, Filter.and.sizeOf_spec, Filter.or.sizeOf_spec,
      Filter.not.sizeOf_spec, Filter.qualified.sizeOf_spec, Filter.sampleMetric.sizeOf_spec]
    omega

theorem Filter.map_holds_of_beqAll (alike : doc.ScalesAlike) (fs gs : List Filter)
    (h : Filter.beqAll fs gs = true) : fs.map (·.holds doc) = gs.map (·.holds doc) := by
  unfold Filter.beqAll at h
  split at h
  · rfl
  · rename_i f fs g gs
    rw [Bool.and_eq_true] at h
    rw [List.map_cons, List.map_cons, Filter.holds_of_beq alike f g h.1,
      Filter.map_holds_of_beqAll alike fs gs h.2]
  · simp at h
termination_by sizeOf fs
decreasing_by
  all_goals
    subst_vars
    rw [List.cons.sizeOf_spec]
    omega

end

end Doc

end Groupwise
