import Groupwise.Proofs.Doc.Equality
import Groupwise.Proofs.Doc.Revision
import Groupwise.Proofs.Doc.Truth

/-!
# Simplification keeps the meaning

On a document that has one integer for each field, and with an engine that computes as constants are
folded, a simplified metric has the value of the metric and a simplified filter holds where the
filter does. Each rule keeps the meaning of the node that it rewrites, and a revision by such rules
keeps the meaning of the whole.
-/
namespace Groupwise.Doc

variable {doc : Document}

/-- An engine computes what constants are folded to, as far as they are folded. -/
structure Engine.Lawful (engine : Engine) : Prop where
  divide : ∀ l r v, Arithmetic.divide.apply l r = some v → engine.divide l r = v
  modulus : ∀ l r v, Arithmetic.modulus.apply l r = some v → engine.modulus l r = v
  log : ∀ scale v, 0 < v → 0 < scale → engine.log scale v = logOfConstant v scale
  exponentiate : ∀ scale v, 0 < scale → engine.exponentiate scale v = expOfConstant v scale

theorem Engine.lawful_standard : Engine.standard.Lawful where
  divide _ _ _ h := by simp [standard, h]
  modulus _ _ _ h := by simp [standard, h]
  log _ _ _ _ := rfl
  exponentiate _ _ _ := rfl

/-- A field of a document has exactly one integer, and the engine is a lawful one. -/
structure Document.Coherent (doc : Document) : Prop where
  lawful : doc.engine.Lawful
  hasInt : ∀ name v, doc.passes (.hasInt name v) = (doc.reads (.field name) == v)
  alike : doc.ScalesAlike

/-! ## Constants -/

theorem eq_ofInt_of_fit {n : Int} {v : Int64} (h : Arithmetic.fit n = some v) :
    v = Int64.ofInt n := by
  rw [Arithmetic.fit] at h
  split at h
  · exact (Option.some.inj h).symm
  · simp at h

theorem Engine.Lawful.calculate {engine : Engine} (lawful : engine.Lawful) {op : Arithmetic}
    {l r v : Int64} (h : op.apply l r = some v) : engine.calculate op l r = v := by
  cases op with
  | subtract =>
    rw [Engine.calculate, eq_ofInt_of_fit h, Int64.ofInt_sub, Int64.ofInt_toInt, Int64.ofInt_toInt]
  | multiply =>
    rw [Engine.calculate, eq_ofInt_of_fit h, Int64.ofInt_mul, Int64.ofInt_toInt, Int64.ofInt_toInt]
  | divide => exact lawful.divide l r v h
  | modulus => exact lawful.modulus l r v h

theorem Engine.Lawful.divide_one {engine : Engine} (lawful : engine.Lawful) (v : Int64) :
    engine.divide v 1 = v := by
  refine lawful.divide v 1 v ?_
  have within : Int64.minValue.toInt ≤ v.toInt ∧ v.toInt ≤ Int64.maxValue.toInt :=
    ⟨Int64.minValue_le_toInt v, Int64.toInt_le v⟩
  have one : (1 : Int64).toInt = 1 := rfl
  rw [Arithmetic.apply, one, Int.tdiv_one, Arithmetic.fit, if_pos within, Int64.ofInt_toInt]
  rfl

theorem magnitude_magnitude (v : Int64) : magnitude (magnitude v) = magnitude v := by
  unfold magnitude
  by_cases h : v < 0
  · rw [if_pos h]
    by_cases h' : -v < 0
    · rw [if_pos h', Int64.neg_neg]
      -- A word and its negation are both negative for the least word only, which is its own one.
      rcases (Int64.neg_nonpos_iff v).mp (Int64.le_of_lt h') with rfl | nonneg
      · rfl
      · exact absurd nonneg (Int64.not_le.mpr h)
    · rw [if_neg h']
  · rw [if_neg h, if_neg h]

namespace Metric

theorem eq_constant_of_literal? {m : Metric} {v : Int64} (h : m.literal? = some v) :
    m = .constant v := by
  cases m with
  | constant w => rw [Option.some.inj h]
  | _ => simp [literal?] at h

theorem value_ofBool (b : Bool) : (ofBool b).value doc = bit b := rfl

theorem value_foldArithmetic (lawful : doc.engine.Lawful) (op : Arithmetic) (left right : Metric) :
    (foldArithmetic op left right).value doc =
      doc.engine.calculate op (left.value doc) (right.value doc) := by
  unfold foldArithmetic
  split
  · rename_i l r hl hr
    split
    · rename_i v hv
      rw [value_of_constant? hl, value_of_constant? hr, lawful.calculate hv, value]
    · rfl
  · rename_i l hl hr
    split
    · rename_i zero
      rw [Engine.calculate, value_of_constant? hl, beq_iff_eq.mp zero, Int64.zero_mul, value]
    · split
      · rename_i one
        rw [Engine.calculate, value_of_constant? hl, beq_iff_eq.mp one, Int64.one_mul]
      · rfl
  · rename_i r hl hr
    split
    · rename_i zero
      rw [Engine.calculate, value_of_constant? hr, beq_iff_eq.mp zero, Int64.mul_zero, value]
    · split
      · rename_i one
        rw [Engine.calculate, value_of_constant? hr, beq_iff_eq.mp one, Int64.mul_one]
      · rfl
  · rename_i r hl hr
    split
    · rename_i zero
      rw [Engine.calculate, value_of_constant? hr, beq_iff_eq.mp zero, Int64.sub_zero]
    · rfl
  · rename_i r hl hr
    split
    · rename_i one
      rw [Engine.calculate, value_of_constant? hr, beq_iff_eq.mp one, lawful.divide_one]
    · rfl
  · rfl

/-! ## Comparisons -/

/-- What an equality, or an inequality, of a metric with a literal comes to. -/
def equals (doc : Document) (isEq : Bool) (c : Int64) (m : Metric) : Bool :=
  (m.value doc == c) == isEq

theorem equals_compare (isEq : Bool) (c : Int64) (op : Comparison) (left right : Metric) :
    (Metric.compare op left right).equals doc isEq c =
      if c == (if isEq then 1 else 0) then op.holds (left.value doc) (right.value doc)
      else if c == (if isEq then 0 else 1) then
        op.negate.holds (left.value doc) (right.value doc)
      else !isEq := by
  rw [equals, value, Comparison.holds_negate]
  cases op.holds (left.value doc) (right.value doc) <;> cases isEq <;> grind [bit]

theorem value_foldEquality (coherent : doc.Coherent) {isEq : Bool} {c : Int64} {m n : Metric}
    (h : m.foldEquality isEq c = some n) : n.value doc = bit (m.equals doc isEq c) := by
  cases m with
  | field f =>
    have has : (hasInt f c).value doc = bit (doc.int f == c) := by
      rw [value, coherent.hasInt, Document.int]
    obtain rfl := Option.some.inj h
    rw [equals, value]
    cases isEq with
    | true => rw [beq_true]; exact has
    | false => rw [beq_false]; exact value_complement has
  | compare op left right =>
    rw [equals_compare]
    rw [foldEquality] at h
    by_cases one : (c == (if isEq then 1 else 0)) = true
    · rw [if_pos one] at h ⊢
      rw [← Option.some.inj h, value]
    · rw [if_neg one] at h ⊢
      by_cases zero : (c == (if isEq then 0 else 1)) = true
      · rw [if_pos zero] at h ⊢
        rw [← Option.some.inj h, value]
      · rw [if_neg zero] at h ⊢
        rw [← Option.some.inj h, value_ofBool]
  | _ => simp [foldEquality] at h

/-- An equality of two metrics is one of the metric that is no literal with the literal. -/
theorem beq_of_literalAndOther? {left right other : Metric} {c : Int64}
    (h : literalAndOther? left right = some (c, other)) :
    (left.value doc == right.value doc) = (other.value doc == c) := by
  unfold literalAndOther? at h
  split at h
  · rename_i l hl
    obtain ⟨rfl, rfl⟩ := Prod.mk.inj (Option.some.inj h)
    rw [eq_constant_of_literal? hl, value, BEq.comm]
  · rename_i r hl hr
    obtain ⟨rfl, rfl⟩ := Prod.mk.inj (Option.some.inj h)
    rw [eq_constant_of_literal? hr, value]
  · simp at h

theorem value_foldedEquality (coherent : doc.Coherent) {isEq : Bool} {left right n : Metric}
    (h : ((literalAndOther? left right).bind fun (c, other) => other.foldEquality isEq c) =
      some n) : n.value doc = bit ((left.value doc == right.value doc) == isEq) := by
  obtain ⟨⟨c, other⟩, hc, hn⟩ := Option.bind_eq_some_iff.mp h
  rw [value_foldEquality coherent hn, equals, beq_of_literalAndOther? hc]

theorem value_foldCompare (coherent : doc.Coherent) (op : Comparison) (left right : Metric) :
    (foldCompare op left right).value doc =
      bit (op.holds (left.value doc) (right.value doc)) := by
  unfold foldCompare
  split
  · rename_i l r hl hr
    rw [eq_constant_of_literal? hl, eq_constant_of_literal? hr, value_ofBool, value, value]
  · cases op with
    | eq =>
      cases h : ((literalAndOther? left right).bind fun (c, other) =>
          other.foldEquality true c) with
      | none => rfl
      | some n => exact (value_foldedEquality coherent h).trans (by rw [beq_true]; rfl)
    | ne =>
      cases h : ((literalAndOther? left right).bind fun (c, other) =>
          other.foldEquality false c) with
      | none => rfl
      | some n => exact (value_foldedEquality coherent h).trans (by rw [beq_false]; rfl)
    | _ => rfl

/-! ## Metrics -/

theorem value_fold (coherent : doc.Coherent) (m : Metric) : m.fold.value doc = m.value doc := by
  have lawful := coherent.lawful
  cases m with
  | arithmetic op left right => exact value_foldArithmetic lawful op left right
  | compare op left right => exact value_foldCompare coherent op left right
  | negate m | signum m =>
    rw [fold]
    split
    · rename_i v hv
      rw [value, value, value_of_constant? hv]
    · rfl
  | abs m =>
    cases m with
    | abs inner => exact (magnitude_magnitude _).symm
    | _ => rfl
  | log m scale =>
    rw [fold]
    split
    · rename_i v hv
      split
      · rename_i positive
        simp only [Bool.and_eq_true, decide_eq_true_eq] at positive
        rw [value, value, value_of_constant? hv, lawful.log scale v positive.1 positive.2]
      · rfl
    · rfl
  | exponentiate m scale =>
    rw [fold]
    split
    · rename_i v hv
      split
      · rename_i positive
        rw [value, value, value_of_constant? hv, lawful.exponentiate scale v positive]
      · rfl
    · rfl
  | ifThenElse condition yes no =>
    cases condition with
    | always => rfl
    | never => rfl
    | _ =>
      rw [fold, value]
      · split
        · rename_i same
          rw [← value_of_beq coherent.alike yes no same, ite_self]
        · rw [value]
      all_goals nofun
  | _ => rfl

end Metric

/-! ## Filters -/

theorem gt_bounds {l r : Int64} (h : r = Int64.maxValue ∨ l = Int64.minValue) :
    Comparison.gt.holds l r = false := by
  rw [Comparison.holds, decide_eq_false_iff_not, Int64.not_lt]
  rcases h with rfl | rfl
  · exact Int64.le_maxValue l
  · exact Int64.minValue_le r

theorem lt_bounds {l r : Int64} (h : r = Int64.minValue ∨ l = Int64.maxValue) :
    Comparison.lt.holds l r = false := by
  rw [Comparison.holds, decide_eq_false_iff_not, Int64.not_lt]
  rcases h with rfl | rfl
  · exact Int64.minValue_le l
  · exact Int64.le_maxValue r

namespace Filter

theorem holds_ofBool (b : Bool) : (ofBool b).holds doc = b := by
  cases b <;> rfl

/-- The operand of a bound is the literal that it is. -/
theorem value_of_bound {m n : Metric} {b c : Int64}
    (h : (m.literal? == some b || n.literal? == some c) = true) :
    m.value doc = b ∨ n.value doc = c := by
  rw [Bool.or_eq_true, beq_iff_eq, beq_iff_eq] at h
  rcases h with h | h
  · rw [Metric.eq_constant_of_literal? h]
    exact .inl rfl
  · rw [Metric.eq_constant_of_literal? h]
    exact .inr rfl

variable {left right : Metric} {leftIs rightIs : Bool → Int64 → Option Filter}

/-- What replaces an equality or an inequality of two metrics holds where it does. -/
theorem holds_equality
    (hl : ∀ isEq c f, leftIs isEq c = some f → f.holds doc = left.equals doc isEq c)
    (hr : ∀ isEq c f, rightIs isEq c = some f → f.holds doc = right.equals doc isEq c)
    {isEq : Bool} {f : Filter}
    (h : (match left.literal?, right.literal? with
      | some c, _ => rightIs isEq c
      | none, some c => leftIs isEq c
      | none, none => none) = some f) :
    f.holds doc = ((left.value doc == right.value doc) == isEq) := by
  split at h
  · rename_i c hc
    rw [hr isEq c f h, Metric.equals, Metric.eq_constant_of_literal? hc, Metric.value,
      BEq.comm (a := c)]
  · rename_i c _ hc
    rw [hl isEq c f h, Metric.equals, Metric.eq_constant_of_literal? hc, Metric.value]
  · simp at h

theorem holds_getD {o : Option Filter} {f : Filter} {b : Bool}
    (some : ∀ g, o = some g → g.holds doc = b) (none : f.holds doc = b) :
    (o.getD f).holds doc = b := by
  cases o with
  | none => exact none
  | some g => exact some g rfl

theorem holds_foldCompareWith (op : Comparison)
    (hl : ∀ isEq c f, leftIs isEq c = some f → f.holds doc = left.equals doc isEq c)
    (hr : ∀ isEq c f, rightIs isEq c = some f → f.holds doc = right.equals doc isEq c) :
    (foldCompareWith op left right leftIs rightIs).holds doc =
      op.holds (left.value doc) (right.value doc) := by
  unfold foldCompareWith
  split
  · rename_i l r hl hr
    rw [holds_ofBool, Metric.eq_constant_of_literal? hl, Metric.eq_constant_of_literal? hr,
      Metric.value, Metric.value]
  · dsimp only
    split
    · refine holds_getD (fun g hg => (holds_equality hl hr hg).trans ?_) rfl
      rw [beq_true, Comparison.holds]
    · refine holds_getD (fun g hg => (holds_equality hl hr hg).trans ?_) rfl
      rw [beq_false, Comparison.holds, bne]
    · split
      · rename_i bound
        rw [holds_ofBool, gt_bounds (value_of_bound bound)]
        rfl
      · rfl
    · split
      · rename_i bound
        rw [holds_ofBool, ← Bool.not_not (Comparison.lte.holds _ _), ← Comparison.holds_negate,
          Comparison.negate, gt_bounds (value_of_bound bound)]
        rfl
      · rfl
    · split
      · rename_i bound
        rw [holds_ofBool, lt_bounds (value_of_bound bound)]
        rfl
      · rfl
    · split
      · rename_i bound
        rw [holds_ofBool, ← Bool.not_not (Comparison.gte.holds _ _), ← Comparison.holds_negate,
          Comparison.negate, lt_bounds (value_of_bound bound)]
        rfl
      · rfl

/-- An equality or an inequality with a literal holds as a filter where it does as a metric. -/
theorem holds_equalityFilter (coherent : doc.Coherent) (m : Metric) {isEq : Bool} {c : Int64}
    {f : Filter} (h : m.equalityFilter isEq c = some f) :
    f.holds doc = m.equals doc isEq c := by
  match m with
  | .field field =>
    have has (value : Int64) : doc.hasTerm (doc.name field) (.ofInt value) =
        (doc.int field == value) := coherent.hasInt _ _
    simp only [Metric.equalityFilter, Option.some.injEq] at h
    rw [← h, Metric.equals, Metric.value]
    cases isEq with
    | true => rw [beq_true, if_pos rfl, holds, has]
    | false => rw [beq_false, if_neg (by decide), holds, has]
  | .compare op left right =>
    rw [Metric.equals_compare]
    rw [Metric.equalityFilter] at h
    by_cases one : (c == (if isEq then 1 else 0)) = true
    · rw [if_pos one] at h ⊢
      rw [← Option.some.inj h, holds]
    · rw [if_neg one] at h ⊢
      by_cases zero : (c == (if isEq then 0 else 1)) = true
      · rw [if_pos zero] at h ⊢
        rw [← Option.some.inj h]
        exact holds_foldCompareWith op.negate
          (fun _ _ _ hf => holds_equalityFilter coherent left hf)
          (fun _ _ _ hf => holds_equalityFilter coherent right hf)
      · rw [if_neg zero] at h ⊢
        rw [← Option.some.inj h, holds_ofBool]
  | .constant _ | .count | .docId | .log .. | .exponentiate .. | .negate _ | .abs _ | .signum _
  | .add _ | .least _ | .greatest _ | .arithmetic .. | .ifThenElse .. | .regex .. | .extract ..
  | .hasInt .. | .hasString .. | .hasIntField _ | .hasStringField _ | .fieldEqual ..
  | .floatScale .. | .stringLength _ | .intTermCount _ | .stringTermCount _ | .lucene ..
  | .qualified .. | .perDataset _ | .sample .. | .sampleMetric .. | .random .. | .randomMetric .. =>
    simp [Metric.equalityFilter] at h

theorem holds_foldCompare (coherent : doc.Coherent) (op : Comparison) (left right : Metric) :
    (foldCompare op left right).holds doc = op.holds (left.value doc) (right.value doc) :=
  holds_foldCompareWith op (fun _ _ _ => holds_equalityFilter coherent left)
    (fun _ _ _ => holds_equalityFilter coherent right)

theorem holds_foldNot (coherent : doc.Coherent) (f : Filter) :
    f.foldNot.holds doc = !f.holds doc := by
  cases f with
  | compare op left right =>
    rw [foldNot, holds_foldCompare coherent, Comparison.holds_negate, holds]
  | not f => exact (Bool.not_not _).symm
  | notRegex field pattern => exact (Bool.not_not _).symm
  | fieldIsnt field term => exact (Bool.not_not _).symm
  | _ => rfl

theorem liesIn_unboundedBelow (upper : Int64) (inclusive : Bool) (v : Int64) :
    liesIn Int64.minValue upper inclusive v =
      (if inclusive then Comparison.lte else .lt).holds v upper := by
  have lower : Comparison.gte.holds v Int64.minValue = true :=
    decide_eq_true (Int64.minValue_le v)
  rw [liesIn, lower, Bool.true_and]

theorem liesIn_unboundedAbove (lower v : Int64) :
    liesIn lower Int64.maxValue true v = Comparison.gte.holds v lower := by
  have upper : Comparison.lte.holds v Int64.maxValue = true :=
    decide_eq_true (Int64.le_maxValue v)
  rw [liesIn, if_pos rfl, upper, Bool.and_true]

theorem toInt_sub_one {v : Int64} (h : v ≠ Int64.minValue) : (v - 1).toInt = v.toInt - 1 := by
  have lower := Int64.le_toInt v
  have upper := Int64.toInt_lt v
  have least : v.toInt ≠ -2 ^ 63 := fun he => h (Int64.toInt_inj.mp he)
  have one : (1 : Int64).toInt = 1 := rfl
  rw [Int64.toInt_sub, one]
  apply Int.bmod_eq_of_le
  · omega
  · omega

/-- A range with a single integer, provided that there is an integer before the upper bound if this
one is left out. -/
theorem liesIn_single {lower upper : Int64} {inclusive : Bool} (v : Int64)
    (bound : inclusive = false → upper ≠ Int64.minValue)
    (h : lower = if inclusive then upper else upper - 1) :
    liesIn lower upper inclusive v = Comparison.eq.holds v lower := by
  subst h
  cases inclusive with
  | true =>
    simp only [liesIn, if_true, Comparison.holds]
    rw [Bool.eq_iff_iff, Bool.and_eq_true, decide_eq_true_iff, decide_eq_true_iff, beq_iff_eq]
    exact ⟨fun h => Int64.le_antisymm h.2 h.1, fun h => h ▸ ⟨Int64.le_refl _, Int64.le_refl _⟩⟩
  | false =>
    have before : (upper - 1).toInt = upper.toInt - 1 := toInt_sub_one (bound rfl)
    simp only [liesIn, Bool.false_eq_true, if_false, Comparison.holds]
    rw [Bool.eq_iff_iff, Bool.and_eq_true, decide_eq_true_iff, decide_eq_true_iff, beq_iff_eq,
      Int64.le_iff_toInt_le, Int64.lt_iff_toInt_lt, ← Int64.toInt_inj, before]
    omega

theorem holds_foldBetween (coherent : doc.Coherent) (field : FieldSet) (lower upper : Int64)
    (inclusive : Bool) :
    (foldBetween field lower upper inclusive).holds doc =
      liesIn lower upper inclusive (doc.int field) := by
  unfold foldBetween
  dsimp only
  split
  · rename_i unbounded
    simp only [Bool.and_eq_true, beq_iff_eq] at unbounded
    rw [unbounded.1, unbounded.2.1, unbounded.2.2, liesIn_unboundedBelow, holds, if_pos rfl]
    exact (decide_eq_true (Int64.le_maxValue _)).symm
  · rename_i bounded
    split
    · rename_i below
      rw [holds_foldCompare coherent, beq_iff_eq.mp below, liesIn_unboundedBelow]
      rfl
    · rename_i below
      split
      · rename_i above
        simp only [Bool.and_eq_true, beq_iff_eq] at above
        rw [holds_foldCompare coherent, above.1, above.2, liesIn_unboundedAbove]
        rfl
      · split
        · rename_i empty
          simp only [Bool.and_eq_true, Bool.not_eq_true', beq_iff_eq] at empty
          have none := lt_bounds (l := doc.int field) (.inl empty.2)
          rw [holds, liesIn, empty.1, if_neg (by decide), none, Bool.and_false]
        · rename_i some
          by_cases single : (lower == (if inclusive then upper else upper - 1)) = true
          · have bound (h : inclusive = false) : upper ≠ Int64.minValue :=
              fun he => some (by rw [h, he]; rfl)
            rw [if_pos single, holds_foldCompare coherent,
              liesIn_single _ bound (beq_iff_eq.mp single)]
            rfl
          · rw [if_neg single, holds]

theorem holds_fold (coherent : doc.Coherent) (f : Filter) : f.fold.holds doc = f.holds doc := by
  cases f with
  | compare op left right => exact holds_foldCompare coherent op left right
  | not f => exact holds_foldNot coherent f
  | between field lower upper inclusive =>
    exact holds_foldBetween coherent field lower upper inclusive
  | intIn field terms | stringIn field terms =>
    rcases terms with _ | ⟨term, _ | ⟨other, rest⟩⟩
    · rfl
    · exact (Bool.or_false _).symm
    · rfl
  | _ => rfl

end Filter

/-! ## Simplification -/

namespace Metric

theorem filled_foldArithmetic (op : Arithmetic) {left right : Metric} (hl : left.Filled)
    (hr : right.Filled) : (foldArithmetic op left right).Filled := by
  unfold foldArithmetic
  split <;> grind [Filled]

theorem filled_foldEquality {isEq : Bool} {c : Int64} {m n : Metric} (hm : m.Filled)
    (h : m.foldEquality isEq c = some n) : n.Filled := by
  cases m with
  | field f =>
    rw [← Option.some.inj h]
    cases isEq
    · exact ⟨trivial, trivial⟩
    · exact trivial
  | compare op left right =>
    rw [foldEquality] at h
    by_cases one : (c == (if isEq then 1 else 0)) = true
    · rw [if_pos one] at h
      exact Option.some.inj h ▸ hm
    · rw [if_neg one] at h
      by_cases zero : (c == (if isEq then 0 else 1)) = true
      · rw [if_pos zero] at h
        rw [← Option.some.inj h]
        exact hm
      · rw [if_neg zero] at h
        rw [← Option.some.inj h]
        exact trivial
  | _ => simp [foldEquality] at h

theorem filled_foldedEquality {isEq : Bool} {left right n : Metric} (hl : left.Filled)
    (hr : right.Filled)
    (h : ((literalAndOther? left right).bind fun (c, other) => other.foldEquality isEq c) =
      some n) : n.Filled := by
  obtain ⟨⟨c, other⟩, hc, hn⟩ := Option.bind_eq_some_iff.mp h
  refine filled_foldEquality ?_ hn
  unfold literalAndOther? at hc
  split at hc
  · exact (Prod.mk.inj (Option.some.inj hc)).2 ▸ hr
  · exact (Prod.mk.inj (Option.some.inj hc)).2 ▸ hl
  · simp at hc

theorem filled_foldCompare (op : Comparison) {left right : Metric} (hl : left.Filled)
    (hr : right.Filled) : (foldCompare op left right).Filled := by
  unfold foldCompare
  split
  · exact trivial
  · cases op with
    | eq =>
      cases h : ((literalAndOther? left right).bind fun (c, other) =>
          other.foldEquality true c) with
      | none => exact ⟨hl, hr⟩
      | some n => exact filled_foldedEquality hl hr h
    | ne =>
      cases h : ((literalAndOther? left right).bind fun (c, other) =>
          other.foldEquality false c) with
      | none => exact ⟨hl, hr⟩
      | some n => exact filled_foldedEquality hl hr h
    | _ => exact ⟨hl, hr⟩

theorem filled_fold (m : Metric) (h : m.Filled) : m.fold.Filled := by
  cases m with
  | arithmetic op left right => exact filled_foldArithmetic op h.1 h.2
  | compare op left right => exact filled_foldCompare op h.1 h.2
  | negate m | signum m =>
    rw [fold]
    split
    · exact trivial
    · exact h
  | abs m =>
    cases m with
    | constant v => exact trivial
    | count => exact trivial
    | _ => exact h
  | log m scale | exponentiate m scale =>
    rw [fold]
    split
    · split
      · exact trivial
      · exact h
    · exact h
  | ifThenElse condition yes no =>
    cases condition with
    | always => exact h.1
    | never => exact h.2
    | _ =>
      rw [fold]
      · split
        · exact h.1
        · exact h
      all_goals nofun
  | _ => exact h

end Metric

theorem keepMeaning_fold (coherent : doc.Coherent) :
    KeepMeaning doc Metric.fold Filter.fold where
  value := Metric.value_fold coherent
  filled := Metric.filled_fold
  holds := Filter.holds_fold coherent

/-- On a coherent document the simplified form of a filter holds where the filter does, and that of
a metric has the value of the metric. -/
theorem simplify_preserves_meaning (coherent : doc.Coherent) :
    (∀ f : Filter, f.simplify.holds doc = f.holds doc) ∧
      ∀ m : Metric, m.simplify.value doc = m.value doc :=
  ⟨Filter.holds_revise (keepMeaning_fold coherent),
    Metric.value_revise (keepMeaning_fold coherent)⟩

/-- A range that holds a single integer, beside a comparison that always holds, and a product with
an empty extreme beside it. -/
theorem simplify_preserves_meaning_range :
    let clicks : FieldSet := .single "ads" "clicks"
    let doc : Document :=
      { Document.uniform "ads" false 9 with
        passes := fun
          | .hasInt _ v => 9 == v
          | _ => false }
    let f : Filter := .not (.and [.between clicks 3 4 false,
      .compare .lte (.field clicks) (.constant Int64.maxValue)])
    let m : Metric := .greatest [.greatest [],
      .arithmetic .multiply (.constant 1) (.abs (.abs (.field clicks)))]
    f.simplify = .fieldIsnt clicks (.ofInt 3) ∧ f.simplify.holds doc = true ∧
      m.simplify = .greatest [.abs (.field clicks), .constant 0] ∧ m.simplify.value doc = 9 := by
  intro clicks doc f m
  have coherent : doc.Coherent :=
    { lawful := Engine.lawful_standard
      hasInt := fun _ _ => rfl
      alike := fun _ _ _ _ _ _ _ => rfl }
  refine ⟨rfl, ?_, rfl, ?_⟩
  · exact ((simplify_preserves_meaning coherent).1 f).trans rfl
  · exact ((simplify_preserves_meaning coherent).2 m).trans rfl

end Groupwise.Doc
