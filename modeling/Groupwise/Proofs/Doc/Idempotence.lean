import Groupwise.Proofs.Doc.Settled
import Mathlib.Algebra.Order.BigOperators.Group.List
import Mathlib.Algebra.Order.Group.Nat

/-!
# Simplifying twice

A simplified expression is not changed by simplifying it again unless some filter in it compares
with an end of the range of integers. Such a filter is left behind where a comparison of a metric is
unfolded into a filter, for it is not looked at again; the second time it is decided, and the
expression gets smaller.
-/
namespace Groupwise.Doc

namespace Node

/-- A filter that compares with an end of the range of integers. -/
def isDecided : Node → Bool
  | .filter (.compare op l r) => decidedByEnds op l.literal? r.literal?
  | _ => false

/-! ## Settled expressions without decided comparisons -/

theorem fold_of_stays {m : Metric} (stays : (metric m).Stays) : m.fold = m := by
  cases m with
  | add | least | greatest => rfl
  | compare => exact Metric.foldCompare_of_irreducible stays
  | _ => exact stays

theorem foldFilter_of_stays {f : Filter} (stays : (filter f).Stays)
    (undecided : (filter f).isDecided = false) : f.fold = f := by
  cases f with
  | and | or => rfl
  | compare op l r =>
    exact (Filter.foldCompare_of_irreducible stays).trans (if_neg (Bool.eq_false_iff.mp undecided))
  | _ => exact stays

/-- A settled expression is not changed by simplification if no comparison in it is decided. -/
theorem simplify_of_settled {n : Node} (settled : n.Settled)
    (undecided : ∀ part, Within part n → part.isDecided = false) : n.simplify = n := by
  induction n using Node.induction with
  | step n ih =>
    have ih : ∀ part ∈ n.parts, part.simplify = part := fun part below =>
      ih part below (settled.part below) fun inner within => undecided inner (within.tail below)
    have fixed {m : Metric} (below : metric m ∈ n.parts) : m.revise Metric.fold Filter.fold = m :=
      metric.inj (ih _ below)
    have fixedFilter {f : Filter} (below : filter f ∈ n.parts) :
        f.revise Metric.fold Filter.fold = f := filter.inj (ih _ below)
    cases n with
    | metric m =>
      have kept : m.fold = m := fold_of_stays settled.stays
      have terms {ms : List Metric} (h : (metric m).parts = ms.map metric) :
          ms.map Metric.simplify = ms :=
        (List.map_congr_left fun m hm => fixed (h ▸ List.mem_map_of_mem hm)).trans (List.map_id' ms)
      refine congrArg metric ?_
      cases m with
      | add ms =>
        obtain ⟨two, c, nonzero, merged⟩ := settled.stays
        rw [Metric.simplify_add, terms rfl, Metric.sum_of_merged two nonzero merged, kept]
      | least ms =>
        obtain ⟨two, c, merged⟩ := settled.stays
        rw [Metric.simplify_least, terms rfl,
          Metric.extreme_of_merged .min two merged]
        exact kept
      | greatest ms =>
        obtain ⟨two, c, merged⟩ := settled.stays
        rw [Metric.simplify_greatest, terms rfl,
          Metric.extreme_of_merged .max two merged]
        exact kept
      | perDataset ms =>
        rw [Metric.simplify_perDataset]
        refine congrArg Metric.perDataset
          ((List.map_congr_left fun e he => ?_).trans (List.map_id' ms))
        exact Prod.ext rfl (fixed (List.mem_map_of_mem he))
      | log m _ | exponentiate m _ | negate m | abs m | signum m | qualified _ m
      | sampleMetric m _ _ _ | randomMetric m _ _ =>
        rw [Metric.simplify, Metric.revise, fixed (List.mem_singleton_self _), kept]
      | arithmetic _ l r | compare _ l r =>
        rw [Metric.simplify, Metric.revise, fixed (m := l) (by simp [parts]),
          fixed (m := r) (by simp [parts]), kept]
      | ifThenElse c y n =>
        rw [Metric.simplify, Metric.revise, fixedFilter (f := c) (by simp [parts]),
          fixed (m := y) (by simp [parts]), fixed (m := n) (by simp [parts]), kept]
      | _ => exact kept
    | filter f =>
      have kept : f.fold = f := foldFilter_of_stays settled.stays (undecided _ .refl)
      have operands {fs : List Filter} (h : (filter f).parts = fs.map filter) :
          fs.map Filter.simplify = fs :=
        (List.map_congr_left fun f hf => fixedFilter (h ▸ List.mem_map_of_mem hf)).trans
          (List.map_id' fs)
      refine congrArg filter ?_
      cases f with
      | and fs =>
        obtain ⟨two, conjoined⟩ := settled.stays
        rw [Filter.simplify_and, operands rfl, Filter.all_of_conjoined two conjoined, kept]
      | or fs =>
        obtain ⟨two, disjoined⟩ := settled.stays
        rw [Filter.simplify_or, operands rfl, Filter.any_of_disjoined two disjoined, kept]
      | not f | qualified _ f =>
        rw [Filter.simplify, Filter.revise, fixedFilter (List.mem_singleton_self _), kept]
      | sampleMetric m _ _ _ =>
        rw [Filter.simplify, Filter.revise, fixed (List.mem_singleton_self _), kept]
      | compare _ l r =>
        rw [Filter.simplify, Filter.revise, fixed (m := l) (by simp [parts]),
          fixed (m := r) (by simp [parts]), kept]
      | _ => exact kept

/-! ## Weights -/

/-- A range test counts as much as a comparison of a field with a constant. -/
def ownWeight : Node → Nat
  | .filter (.between ..) => 3
  | _ => 1

/-- The weight of an expression. No rule makes an expression heavier. -/
def weight (n : Node) : Nat := n.total ownWeight

theorem weight_eq (n : Node) : n.weight = n.ownWeight + (n.parts.map weight).sum :=
  total_eq ownWeight n

theorem weight_pos (n : Node) : 0 < n.weight := by
  have own : 0 < n.ownWeight := by
    unfold ownWeight
    split <;> omega
  rw [weight_eq]
  omega

/-- The weight of several metrics. -/
def weightOfAll (ms : List Metric) : Nat := (ms.map fun m => (metric m).weight).sum

/-- The weight of several filters. -/
def weightOfFilters (fs : List Filter) : Nat := (fs.map fun f => (filter f).weight).sum

@[simp] theorem weightOfAll_nil : weightOfAll [] = 0 := rfl

@[simp] theorem weightOfAll_cons (m : Metric) (ms : List Metric) :
    weightOfAll (m :: ms) = (metric m).weight + weightOfAll ms := rfl

@[simp] theorem weightOfAll_append (ms ns : List Metric) :
    weightOfAll (ms ++ ns) = weightOfAll ms + weightOfAll ns := by
  simp [weightOfAll]

@[simp] theorem weightOfFilters_nil : weightOfFilters [] = 0 := rfl

@[simp] theorem weightOfFilters_cons (f : Filter) (fs : List Filter) :
    weightOfFilters (f :: fs) = (filter f).weight + weightOfFilters fs := rfl

@[simp] theorem weightOfFilters_append (fs gs : List Filter) :
    weightOfFilters (fs ++ gs) = weightOfFilters fs + weightOfFilters gs := by
  simp [weightOfFilters]

/-- A node without parts that is no range test weighs one. -/
theorem weight_of_parts_nil {n : Node} (nil : n.parts = []) (own : n.ownWeight = 1) :
    n.weight = 1 := by
  rw [weight_eq, nil, own]
  rfl

@[simp] theorem weight_constant (v : Int64) : (metric (.constant v)).weight = 1 :=
  weight_of_parts_nil rfl rfl

@[simp] theorem weight_ofBool (b : Bool) : (filter (.ofBool b)).weight = 1 := by
  cases b <;> exact weight_of_parts_nil rfl rfl

theorem weight_add (ms : List Metric) : (metric (.add ms)).weight = 1 + weightOfAll ms := by
  simp [weight_eq, parts, ownWeight, weightOfAll, Function.comp_def]

theorem weight_make (kind : Metric.Extreme) (ms : List Metric) :
    (metric (kind.make ms)).weight = 1 + weightOfAll ms := by
  cases kind <;>
    simp [Metric.Extreme.make, weight_eq, parts, ownWeight, weightOfAll, Function.comp_def]

theorem weight_and (fs : List Filter) : (filter (.and fs)).weight = 1 + weightOfFilters fs := by
  simp [weight_eq, parts, ownWeight, weightOfFilters, Function.comp_def]

theorem weight_or (fs : List Filter) : (filter (.or fs)).weight = 1 + weightOfFilters fs := by
  simp [weight_eq, parts, ownWeight, weightOfFilters, Function.comp_def]

theorem weight_compare (op : Comparison) (l r : Metric) :
    (metric (.compare op l r)).weight = 1 + ((metric l).weight + (metric r).weight) := by
  rw [weight_eq]
  rfl

theorem weight_compareFilter (op : Comparison) (l r : Metric) :
    (filter (.compare op l r)).weight = 1 + ((metric l).weight + (metric r).weight) := by
  rw [weight_eq]
  rfl

/-! ### Merging constructors -/

/-- Constants that are put into one behind the other terms weigh no more than before. -/
theorem weight_merged_le (terms : List Metric) {c : Option Int64}
    (known : c.isSome → terms.filterMap Metric.constant? ≠ []) :
    weightOfAll (terms.filter (·.constant?.isNone) ++ (c.map Metric.constant).toList) ≤
      weightOfAll terms := by
  have split : weightOfAll (terms.filter (·.constant?.isNone)) +
      (terms.filterMap Metric.constant?).length ≤ weightOfAll terms := by
    clear known
    induction terms with
    | nil => exact Nat.le_refl _
    | cons m rest ih =>
      have := weight_pos (metric m)
      cases h : m.constant? with
      | none =>
        rw [List.filter_cons_of_pos (by simp [h]), List.filterMap_cons_none h]
        simp only [weightOfAll_cons]
        omega
      | some v =>
        rw [List.filter_cons_of_neg (by simp [h]), List.filterMap_cons_some h]
        simp only [weightOfAll_cons, List.length_cons]
        omega
  cases c with
  | none =>
    simp
    omega
  | some v =>
    have := List.length_pos_iff.mpr (known rfl)
    simp
    omega

theorem weight_sum_le (ms : List Metric) : (metric (.sum ms)).weight ≤ 1 + weightOfAll ms := by
  have opened : weightOfAll (Metric.addends ms) ≤ weightOfAll ms := by
    fun_induction Metric.addends ms with
    | case1 => exact Nat.le_refl _
    | case2 inner rest ih =>
      simp only [weightOfAll_append, weightOfAll_cons, weight_add]
      omega
    | case3 m rest _ ih =>
      simp only [weightOfAll_cons]
      omega
  have joined (terms : List Metric) :
      (metric (.ofTerms terms)).weight ≤ 1 + weightOfAll terms := by
    rcases terms with _ | ⟨m, _ | ⟨n, rest⟩⟩
    · simp [Metric.ofTerms]
    · simp [Metric.ofTerms]
    · exact Nat.le_of_eq (weight_add _)
  refine Nat.le_trans (joined _) (Nat.add_le_add_left (Nat.le_trans ?_ opened) 1)
  split
  · exact weight_merged_le (c := none) _ (by simp)
  · rename_i nonzero
    refine weight_merged_le (c := some _) _ fun _ none => nonzero ?_
    rw [none]
    rfl

theorem weight_extreme_le (kind : Metric.Extreme) (ms : List Metric) :
    (metric (.extreme kind ms)).weight ≤ 1 + weightOfAll ms := by
  have opened : weightOfAll (Metric.operands kind ms) ≤ weightOfAll ms := by
    induction ms with
    | nil => exact Nat.le_refl _
    | cons m rest ih =>
      by_cases nested : ∃ inner, m = kind.make inner
      · obtain ⟨inner, rfl⟩ := nested
        rw [Metric.operands_make]
        simp only [weightOfAll_append, weightOfAll_cons, weight_make]
        omega
      · rw [Metric.operands_of_ne (not_exists.mp nested)]
        simp only [weightOfAll_cons]
        omega
  have merged := weight_merged_le (Metric.operands kind ms) (c := Metric.extremeConstant? kind
    ((Metric.operands kind ms).filterMap Metric.constant?)) fun some none => by
      rw [none] at some
      simp [Metric.extremeConstant?] at some
  rw [Metric.extreme]
  revert merged
  generalize (Metric.operands kind ms).filter (·.constant?.isNone) ++
    ((Metric.extremeConstant? kind ((Metric.operands kind ms).filterMap Metric.constant?)).map
      Metric.constant).toList = terms
  intro merged
  rcases terms with _ | ⟨m, _ | ⟨n, rest⟩⟩
  · simp
  · simp only [weightOfAll_cons, weightOfAll_nil] at merged
    simp only []
    omega
  · refine Nat.le_trans (Nat.le_of_eq (weight_make kind _)) ?_
    omega

theorem weightOfFilters_filter_le (p : Filter → Bool) (fs : List Filter) :
    weightOfFilters (fs.filter p) ≤ weightOfFilters fs := by
  induction fs with
  | nil => exact Nat.le_refl _
  | cons f rest ih =>
    rw [List.filter_cons]
    split <;> simp only [weightOfFilters_cons] <;> omega

theorem weight_all_le (fs : List Filter) :
    (filter (.all fs)).weight ≤ 1 + weightOfFilters fs := by
  have opened : weightOfFilters (Filter.conjuncts fs) ≤ weightOfFilters fs := by
    fun_induction Filter.conjuncts fs with
    | case1 => exact Nat.le_refl _
    | case2 inner rest ih =>
      simp only [weightOfFilters_append, weightOfFilters_cons, weight_and]
      omega
    | case3 f rest _ ih =>
      simp only [weightOfFilters_cons]
      omega
  have joined (kept : List Filter) :
      (filter (.ofConjuncts kept)).weight ≤ 1 + weightOfFilters kept := by
    rcases kept with _ | ⟨f, _ | ⟨g, rest⟩⟩
    · exact Nat.le_of_eq (weight_of_parts_nil rfl rfl)
    · simp [Filter.ofConjuncts]
    · exact Nat.le_of_eq (weight_and _)
  rw [Filter.all]
  split
  · rw [weight_of_parts_nil rfl rfl]
    exact Nat.le_add_right ..
  · refine Nat.le_trans (joined _) (Nat.add_le_add_left (Nat.le_trans ?_ opened) 1)
    exact weightOfFilters_filter_le ..

theorem weight_any_le (fs : List Filter) :
    (filter (.any fs)).weight ≤ 1 + weightOfFilters fs := by
  have opened : weightOfFilters (Filter.disjuncts fs) ≤ weightOfFilters fs := by
    fun_induction Filter.disjuncts fs with
    | case1 => exact Nat.le_refl _
    | case2 inner rest ih =>
      simp only [weightOfFilters_append, weightOfFilters_cons, weight_or]
      omega
    | case3 f rest _ ih =>
      simp only [weightOfFilters_cons]
      omega
  have joined (kept : List Filter) :
      (filter (.ofDisjuncts kept)).weight ≤ 1 + weightOfFilters kept := by
    rcases kept with _ | ⟨f, _ | ⟨g, rest⟩⟩
    · exact Nat.le_of_eq (weight_of_parts_nil rfl rfl)
    · simp [Filter.ofDisjuncts]
    · exact Nat.le_of_eq (weight_or _)
  rw [Filter.any]
  split
  · rw [weight_of_parts_nil rfl rfl]
    exact Nat.le_add_right ..
  · refine Nat.le_trans (joined _) (Nat.add_le_add_left (Nat.le_trans ?_ opened) 1)
    exact weightOfFilters_filter_le ..

/-! ### Rules -/

theorem weight_foldEquality_le {isEq : Bool} {c : Int64} {m n : Metric}
    (h : m.foldEquality isEq c = some n) : (metric n).weight ≤ 2 + (metric m).weight := by
  cases m with
  | field f =>
    rw [Metric.foldEquality, Option.some.injEq] at h
    subst h
    have has : (metric (.hasInt f c)).weight = 1 := weight_of_parts_nil rfl rfl
    have field : (metric (.field f)).weight = 1 := weight_of_parts_nil rfl rfl
    cases isEq
    · rw [weight_eq]
      simp [parts, ownWeight, Metric.subtract, has, field]
    · simp [has, field]
  | compare op l r =>
    have same (op' : Comparison) :
        (metric (.compare op' l r)).weight = (metric (.compare op l r)).weight := by
      rw [weight_compare, weight_compare]
    simp only [Metric.foldEquality] at h
    by_cases keep : (c == if isEq then 1 else 0) = true
    · rw [if_pos keep] at h
      rw [← Option.some.inj h]
      omega
    rw [if_neg keep] at h
    by_cases invert : (c == if isEq then 0 else 1) = true
    · rw [if_pos invert] at h
      rw [← Option.some.inj h, same]
      omega
    · rw [if_neg invert] at h
      rw [← Option.some.inj h, Metric.ofBool, weight_constant]
      omega
  | _ => simp [Metric.foldEquality] at h

/-- The other side of a literal is lighter than both by the literal. -/
theorem weight_other_lt {l r : Metric} {e : Int64 × Metric}
    (h : Metric.literalAndOther? l r = some e) :
    (metric e.2).weight < (metric l).weight + (metric r).weight := by
  have left := weight_pos (metric l)
  have right := weight_pos (metric r)
  unfold Metric.literalAndOther? at h
  split at h
  · rw [← Option.some.inj h]
    exact Nat.lt_add_of_pos_left left
  · rw [← Option.some.inj h]
    exact Nat.lt_add_of_pos_right right
  · cases h

theorem weight_foldCompare_le (op : Comparison) (l r : Metric) :
    (metric (.foldCompare op l r)).weight ≤ (metric (.compare op l r)).weight := by
  rw [weight_compare]
  by_cases literals : l.literal? = none ∨ r.literal? = none
  · rw [Metric.foldCompare_eq op l r literals]
    cases folded : (equality? op).bind fun isEq => (Metric.literalAndOther? l r).bind fun e =>
        e.2.foldEquality isEq e.1 with
    | none => exact Nat.le_of_eq (weight_compare op l r)
    | some n =>
      obtain ⟨isEq, -, e, other, folded⟩ : ∃ isEq, _ ∧ ∃ e, _ ∧ _ := by
        simpa only [Option.bind_eq_some_iff] using folded
      have := weight_foldEquality_le folded
      have := weight_other_lt other
      simp only [Option.getD_some]
      omega
  · simp only [not_or, ← ne_eq, Option.ne_none_iff_exists'] at literals
    obtain ⟨⟨a, ha⟩, b, hb⟩ := literals
    rw [Metric.foldCompare_of_literals op ha hb, Metric.ofBool, weight_constant]
    omega

/-- A comparison as a filter is no heavier if equalities with its sides are no heavier than them. -/
theorem weight_foldCompareFilter_le_of (op : Comparison) {l r : Metric}
    (hl : ∀ isEq c f, l.equalityFilter isEq c = some f → (filter f).weight ≤ (metric l).weight)
    (hr : ∀ isEq c f, r.equalityFilter isEq c = some f → (filter f).weight ≤ (metric r).weight) :
    (filter (.foldCompare op l r)).weight ≤ (filter (.compare op l r)).weight := by
  rw [weight_compareFilter]
  by_cases literals : l.literal? = none ∨ r.literal? = none
  · rw [Filter.foldCompare_eq op l r literals]
    split
    · rw [weight_ofBool]
      omega
    cases folded : (equality? op).bind fun isEq => (Metric.literalAndOther? l r).bind fun e =>
        e.2.equalityFilter isEq e.1 with
    | none => exact Nat.le_of_eq (weight_compareFilter op l r)
    | some f =>
      obtain ⟨isEq, -, e, other, folded⟩ : ∃ isEq, _ ∧ ∃ e, _ ∧ _ := by
        simpa only [Option.bind_eq_some_iff] using folded
      have side : e.2 = l ∨ e.2 = r := by
        unfold Metric.literalAndOther? at other
        split at other
        · exact .inr (Option.some.inj other ▸ rfl)
        · exact .inl (Option.some.inj other ▸ rfl)
        · cases other
      simp only [Option.getD_some]
      rcases side with side | side <;> rw [side] at folded
      · have := hl _ _ _ folded
        omega
      · have := hr _ _ _ folded
        omega
  · simp only [not_or, ← ne_eq, Option.ne_none_iff_exists'] at literals
    obtain ⟨⟨a, ha⟩, b, hb⟩ := literals
    rw [Filter.foldCompare_of_literals op ha hb, weight_ofBool]
    omega

theorem weight_equalityFilter_le {isEq : Bool} {c : Int64} {m : Metric} {f : Filter}
    (h : m.equalityFilter isEq c = some f) : (filter f).weight ≤ (metric m).weight := by
  cases m with
  | field =>
    rw [Metric.equalityFilter, Option.some.injEq] at h
    rw [← h, weight_of_parts_nil (n := metric _) rfl rfl]
    cases isEq <;> exact Nat.le_of_eq (weight_of_parts_nil rfl rfl)
  | compare op l r =>
    rw [Metric.equalityFilter_compare] at h
    by_cases keep : (c == if isEq then 1 else 0) = true
    · rw [if_pos keep] at h
      rw [← Option.some.inj h, weight_compare, weight_compareFilter]
    rw [if_neg keep] at h
    by_cases invert : (c == if isEq then 0 else 1) = true
    · rw [if_pos invert] at h
      rw [← Option.some.inj h]
      refine Nat.le_trans (weight_foldCompareFilter_le_of op.negate
        (fun _ _ _ => weight_equalityFilter_le) fun _ _ _ => weight_equalityFilter_le) ?_
      rw [weight_compare, weight_compareFilter]
    · rw [if_neg invert] at h
      rw [← Option.some.inj h, weight_ofBool]
      exact weight_pos _
  | _ => simp [Metric.equalityFilter] at h
termination_by sizeOf m

theorem weight_foldCompareFilter_le (op : Comparison) (l r : Metric) :
    (filter (.foldCompare op l r)).weight ≤ (filter (.compare op l r)).weight :=
  weight_foldCompareFilter_le_of op (fun _ _ _ => weight_equalityFilter_le) fun _ _ _ =>
    weight_equalityFilter_le

/-- A part is lighter than the node. -/
theorem weight_part_lt {part n : Node} (below : part ∈ n.parts) : part.weight < n.weight := by
  have own : 0 < n.ownWeight := by
    unfold ownWeight
    split <;> omega
  have := List.le_sum_of_mem (List.mem_map_of_mem (f := weight) below)
  rw [weight_eq n]
  omega

theorem weight_fold_le (m : Metric) : (metric m.fold).weight ≤ (metric m).weight := by
  by_cases compare : ∃ op l r, m = .compare op l r
  · obtain ⟨op, l, r, rfl⟩ := compare
    exact weight_foldCompare_le op l r
  rcases fold_cases (by simpa only [not_exists] using compare) with same | part | ⟨v, constant⟩
  · rw [same]
  · exact (weight_part_lt part).le
  · rw [constant, weight_constant]
    exact weight_pos _

theorem weight_foldNot_le (f : Filter) : (filter f.foldNot).weight ≤ (filter (.not f)).weight := by
  have negated : (filter (.not f)).weight = 1 + (filter f).weight := by
    rw [weight_eq]
    rfl
  have single {g : Filter} (h : (filter g).weight = 1) :
      (filter g).weight ≤ (filter (.not f)).weight := by
    rw [h]
    exact weight_pos _
  cases f with
  | always | never | regex | notRegex | fieldIs | fieldIsnt =>
    exact single (weight_of_parts_nil rfl rfl)
  | compare op l r =>
    have := weight_foldCompareFilter_le op.negate l r
    rw [weight_compareFilter] at this
    rw [negated, weight_compareFilter]
    exact this.trans (Nat.le_add_left ..)
  | not f =>
    exact ((weight_part_lt (List.mem_singleton_self _)).trans
      (weight_part_lt (List.mem_singleton_self _))).le
  | _ => exact le_refl _

theorem weight_foldBetween_le (field : FieldSet) (lower upper : Int64) (inclusive : Bool) :
    (filter (.foldBetween field lower upper inclusive)).weight ≤ 3 := by
  have single {f : Filter} (h : (filter f).weight = 1) : (filter f).weight ≤ 3 := by
    omega
  rcases Filter.foldBetween_cases field lower upper inclusive with
    stays | always | never | ⟨op, c, compared⟩
  · rw [stays, weight_eq]
    rfl
  · rw [always]
    exact single (weight_of_parts_nil rfl rfl)
  · rw [never]
    exact single (weight_of_parts_nil rfl rfl)
  · rw [compared]
    refine (weight_foldCompareFilter_le ..).trans ?_
    rw [weight_compareFilter, weight_constant, weight_of_parts_nil (n := metric (.field field))
      rfl rfl]

theorem weight_foldFilter_le (f : Filter) : (filter f.fold).weight ≤ (filter f).weight := by
  cases f with
  | compare op l r => exact weight_foldCompareFilter_le op l r
  | not f => exact weight_foldNot_le f
  | between field lower upper inclusive =>
    refine (weight_foldBetween_le field lower upper inclusive).trans ?_
    rw [weight_eq]
    rfl
  | intIn field terms | stringIn field terms =>
    rcases terms with _ | ⟨term, _ | ⟨next, rest⟩⟩
    · exact le_refl _
    · exact (weight_of_parts_nil rfl rfl).le.trans (weight_pos _)
    · exact le_refl _
  | _ => exact le_refl _

/-! ## Simplification -/

/-- The number of decided comparisons in an expression. -/
def decided (n : Node) : Nat := n.total fun n => n.isDecided.toNat

theorem decided_eq (n : Node) : n.decided = n.isDecided.toNat + (n.parts.map decided).sum :=
  total_eq _ n

theorem isDecided_of_decided_eq_zero {n : Node} (h : n.decided = 0) {part : Node}
    (within : Within part n) : part.isDecided = false := by
  have here {n : Node} (h : n.decided = 0) :
      n.isDecided = false ∧ ∀ part ∈ n.parts, part.decided = 0 := by
    rw [decided_eq, Nat.add_eq_zero_iff, List.sum_eq_zero_iff] at h
    exact ⟨by simpa using h.1, fun part below => h.2 _ (List.mem_map_of_mem below)⟩
  induction within with
  | refl => exact (here h).1
  | tail within below ih => exact ih ((here h).2 _ below)

/-- Whatever rules do to the parts, a comparison that is decided stays decided. -/
theorem decidedByEnds_simplify {op : Comparison} {l r : Metric}
    (h : decidedByEnds op l.literal? r.literal? = true) :
    decidedByEnds op l.simplify.literal? r.simplify.literal? = true := by
  have kept {m : Metric} {v : Int64} (h : m.literal? = some v) : m.simplify.literal? = some v := by
    rw [Metric.eq_constant_of_literal? h]
    rfl
  cases op <;> simp only [decidedByEnds, Bool.or_eq_true, beq_iff_eq, Bool.false_eq_true] at h ⊢ <;>
    exact h.imp kept kept

theorem weight_foldCompareFilter_of_decided {op : Comparison} {l r : Metric}
    (h : decidedByEnds op l.literal? r.literal? = true) :
    (filter (.foldCompare op l r)).weight = 1 := by
  by_cases literals : l.literal? = none ∨ r.literal? = none
  · rw [Filter.foldCompare_eq op l r literals, if_pos h, weight_ofBool]
  · simp only [not_or, ← ne_eq, Option.ne_none_iff_exists'] at literals
    obtain ⟨⟨a, ha⟩, b, hb⟩ := literals
    rw [Filter.foldCompare_of_literals op ha hb, weight_ofBool]

/-- Simplification takes away at least as much weight as there are decided comparisons. -/
theorem weight_simplify_le (n : Node) : n.simplify.weight + n.decided ≤ n.weight := by
  induction n using Node.induction with
  | step n ih =>
    have parts_le : (n.parts.map fun part => part.simplify.weight).sum +
        (n.parts.map decided).sum ≤ (n.parts.map weight).sum := by
      rw [← List.sum_map_add]
      exact List.sum_le_sum ih
    -- What weighs no more than an undecided node whose parts were simplified is light enough.
    have rebuilt {w : Nat} {n' : Node} (light : w ≤ n'.weight)
        (h : n'.parts = n.parts.map simplify) (own : n'.ownWeight = n.ownWeight)
        (undecided : n.isDecided = false) : w + n.decided ≤ n.weight := by
      rw [weight_eq n', h, own, List.map_map] at light
      simp only [Function.comp_def] at light
      rw [decided_eq, undecided, weight_eq n, Bool.toNat_false]
      omega
    cases n with
    | metric m =>
      have terms (ms : List Metric) :
          (ms.map Metric.simplify).map metric = (ms.map metric).map simplify := by
        simp [simplify]
      cases m with
      | add ms =>
        rw [simplify, Metric.simplify_add]
        exact rebuilt ((weight_fold_le _).trans ((weight_sum_le _).trans (weight_add _).ge))
          (terms ms) rfl rfl
      | least ms =>
        rw [simplify, Metric.simplify_least]
        exact rebuilt ((weight_fold_le _).trans
          ((weight_extreme_le ..).trans (weight_make .min _).ge)) (terms ms) rfl rfl
      | greatest ms =>
        rw [simplify, Metric.simplify_greatest]
        exact rebuilt ((weight_fold_le _).trans
          ((weight_extreme_le ..).trans (weight_make .max _).ge)) (terms ms) rfl rfl
      | perDataset ms =>
        rw [simplify, Metric.simplify_perDataset]
        exact rebuilt le_rfl (by simp [parts, simplify]) rfl rfl
      | _ =>
        rw [simplify, Metric.simplify, Metric.revise]
        exact rebuilt (weight_fold_le _) rfl rfl rfl
    | filter f =>
      have operands (fs : List Filter) :
          (fs.map Filter.simplify).map filter = (fs.map filter).map simplify := by
        simp [simplify]
      cases f with
      | and fs =>
        rw [simplify, Filter.simplify_and]
        exact rebuilt ((weight_foldFilter_le _).trans ((weight_all_le _).trans (weight_and _).ge))
          (operands fs) rfl rfl
      | or fs =>
        rw [simplify, Filter.simplify_or]
        exact rebuilt ((weight_foldFilter_le _).trans ((weight_any_le _).trans (weight_or _).ge))
          (operands fs) rfl rfl
      | compare op l r =>
        by_cases ends : decidedByEnds op l.literal? r.literal? = true
        · have one : (filter (.compare op l r)).simplify.weight = 1 :=
            weight_foldCompareFilter_of_decided (decidedByEnds_simplify ends)
          have left := weight_pos (metric l).simplify
          have right := weight_pos (metric r).simplify
          rw [one, decided_eq, weight_eq, isDecided, ends]
          simp only [parts, ownWeight, List.map_cons, List.map_nil, List.sum_cons, List.sum_nil,
            Bool.toNat_true] at parts_le ⊢
          omega
        · rw [simplify, Filter.simplify, Filter.revise]
          exact rebuilt (weight_foldFilter_le _) rfl rfl (Bool.eq_false_iff.mpr ends)
      | _ =>
        rw [simplify, Filter.simplify, Filter.revise]
        exact rebuilt (weight_foldFilter_le _) rfl rfl rfl

/-- A simplified expression is not changed by simplifying it again exactly if no comparison in it is
decided by the ends of the range of integers. -/
theorem simplify_simplify_iff (n : Node) : n.simplify.simplify = n.simplify ↔
    ∀ part, Within part n.simplify → part.isDecided = false := by
  refine ⟨fun same part within => ?_, simplify_of_settled (settled_simplify n)⟩
  have := weight_simplify_le n.simplify
  rw [same] at this
  exact isDecided_of_decided_eq_zero (by omega) within

end Node

/-- Simplification is idempotent on a filter, and on a metric, exactly if no filter within the
simplified form compares with an end of the range of integers. -/
theorem simplify_idempotent_iff (f : Filter) (m : Metric) :
    (f.simplify.simplify = f.simplify ↔
      ∀ op l r, Node.Within (.filter (.compare op l r)) (.filter f.simplify) →
        decidedByEnds op l.literal? r.literal? = false) ∧
    (m.simplify.simplify = m.simplify ↔
      ∀ op l r, Node.Within (.filter (.compare op l r)) (.metric m.simplify) →
        decidedByEnds op l.literal? r.literal? = false) := by
  -- Among the parts of a node only comparisons of filters can be decided.
  have comparisons (n : Node) : (∀ part, Node.Within part n → part.isDecided = false) ↔
      ∀ op l r, Node.Within (.filter (.compare op l r)) n →
        decidedByEnds op l.literal? r.literal? = false := by
    refine ⟨fun h op l r within => h _ within, fun h part within => ?_⟩
    cases part with
    | metric => rfl
    | filter f =>
      cases f with
      | compare op l r => exact h op l r within
      | _ => rfl
  constructor
  · rw [← Node.filter.injEq]
    exact (Node.simplify_simplify_iff (.filter f)).trans (comparisons _)
  · rw [← Node.metric.injEq]
    exact (Node.simplify_simplify_iff (.metric m)).trans (comparisons _)

/-- Whether clicks exceed the greatest integer, as a truth value that is compared with one. -/
def exceedsGreatest : Filter :=
  .compare .eq (.compare .gt (.field (.single "ads" "clicks")) (.constant Int64.maxValue))
    (.constant 1)

/-- The comparison is unfolded the first time and decided the second time only. -/
theorem simplify_exceedsGreatest :
    exceedsGreatest.simplify =
        .compare .gt (.field (.single "ads" "clicks")) (.constant Int64.maxValue) ∧
      exceedsGreatest.simplify.simplify = .never ∧
      exceedsGreatest.simplify.simplify ≠ exceedsGreatest.simplify := by
  have once : exceedsGreatest.simplify =
      .compare .gt (.field (.single "ads" "clicks")) (.constant Int64.maxValue) := rfl
  have twice : exceedsGreatest.simplify.simplify = .never := rfl
  refine ⟨once, twice, ?_⟩
  rw [twice, once]
  exact Filter.noConfusion

end Groupwise.Doc
