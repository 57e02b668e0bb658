import Groupwise.Proofs.Doc.Meaning

/-!
# Merging constructors keep the meaning

A sum, an extreme, a conjunction or a disjunction that is made by its merging constructor means what
the plain one means, although nested ones are opened up and constants are moved and folded. Only an
empty extreme inside another one is not to be opened up, for it counts as zero.
-/
namespace Groupwise.Doc

variable {doc : Document}

/-! ## Sums -/

theorem total_append (vs ws : List Int64) : total (vs ++ ws) = total vs + total ws := by
  induction vs with
  | nil => exact (Int64.zero_add _).symm
  | cons v vs ih => exact (congrArg (v + ·) ih).trans (Int64.add_assoc ..).symm

theorem total_perm {vs ws : List Int64} (h : vs.Perm ws) : total vs = total ws :=
  h.foldr_eq' (fun _ _ _ _ _ => by ac_rfl) 0

theorem foldl_add (v : Int64) (vs : List Int64) : vs.foldl (· + ·) v = v + total vs := by
  induction vs generalizing v with
  | nil => exact (Int64.add_zero v).symm
  | cons w vs ih => rw [List.foldl_cons, ih, Int64.add_assoc]; rfl

namespace Metric

theorem values_append (ms ns : List Metric) :
    values doc (ms ++ ns) = values doc ms ++ values doc ns := by
  rw [values_eq_map, values_eq_map, values_eq_map, List.map_append]

theorem value_of_constant? {m : Metric} {v : Int64} (h : m.constant? = some v) :
    m.value doc = v := by
  cases m with
  | constant w => exact Option.some.inj h
  | count => exact Option.some.inj h
  | _ => simp [constant?] at h

/-- The values of some terms are those of the terms that are no constants, and the constants. -/
theorem values_perm (doc : Document) (terms : List Metric) :
    (values doc terms).Perm (values doc (terms.filter (·.constant?.isNone)) ++
      terms.filterMap constant?) := by
  induction terms with
  | nil => exact .refl _
  | cons m rest ih =>
    cases h : m.constant? with
    | none =>
      rw [List.filter_cons_of_pos (by simp [h]), List.filterMap_cons_none h, values, values]
      exact ih.cons _
    | some v =>
      rw [List.filter_cons_of_neg (by simp [h]), List.filterMap_cons_some h, values,
        value_of_constant? h]
      exact (ih.cons v).trans List.perm_middle.symm

theorem total_addends (ms : List Metric) :
    total (values doc (addends ms)) = total (values doc ms) := by
  fun_induction addends ms with
  | case1 => rfl
  | case2 inner rest ih =>
    rw [values_append, total_append, ih, values, value]
    rfl
  | case3 m rest _ ih => exact congrArg (m.value doc + ·) ih

theorem value_ofTerms (ms : List Metric) : (ofTerms ms).value doc = total (values doc ms) := by
  unfold ofTerms
  split
  · rfl
  · exact (Int64.add_zero _).symm
  · rfl

theorem value_sum (ms : List Metric) : (sum ms).value doc = total (values doc ms) := by
  have split := total_perm (values_perm doc (addends ms))
  rw [total_append, total_addends] at split
  rw [sum, value_ofTerms, values_append, total_append, foldl_add, Int64.zero_add, split]
  congr 1
  by_cases zero : total ((addends ms).filterMap constant?) = 0
  · rw [zero]
    rfl
  · rw [if_neg (by simpa using zero)]
    exact Int64.add_zero _

/-- A property of all constants that passes from sums to their terms and back is one of a merged sum
if it is one of what is added. -/
theorem property_sum {P : Metric → Prop} (constant : ∀ v, P (.constant v))
    (terms : ∀ ms, P (.add ms) → ∀ m ∈ ms, P m)
    (add : ∀ ms, ms ≠ [] → (∀ m ∈ ms, P m) → P (.add ms)) {ms : List Metric}
    (h : ∀ m ∈ ms, P m) : P (sum ms) := by
  have opened : ∀ m ∈ addends ms, P m := by
    fun_induction addends ms with
    | case1 => exact h
    | case2 inner rest ih =>
      rw [List.forall_mem_cons] at h
      exact List.forall_mem_append.mpr ⟨terms inner h.1, ih h.2⟩
    | case3 m rest _ ih =>
      rw [List.forall_mem_cons] at h
      exact List.forall_mem_cons.mpr ⟨h.1, ih h.2⟩
  have made (ns : List Metric) (hn : ∀ m ∈ ns, P m) : P (ofTerms ns) := by
    unfold ofTerms
    split
    · exact constant 0
    · exact hn _ (List.mem_singleton_self _)
    · rename_i some _
      exact add ns some hn
  refine made _ (List.forall_mem_append.mpr ⟨fun m hm => ?_, fun m hm => ?_⟩)
  · exact opened m (List.mem_filter.mp hm).1
  · split at hm
    · exact absurd hm List.not_mem_nil
    · rw [List.mem_singleton.mp hm]
      exact constant _

end Metric

/-! ## Extremes -/

namespace Metric

namespace Extreme

theorem pick_comm (kind : Extreme) (a b : Int64) : kind.pick a b = kind.pick b a := by
  cases kind <;> grind [pick]

theorem pick_assoc (kind : Extreme) (a b c : Int64) :
    kind.pick (kind.pick a b) c = kind.pick a (kind.pick b c) := by
  cases kind <;> grind [pick]

instance (kind : Extreme) : Std.Commutative kind.pick := ⟨kind.pick_comm⟩

instance (kind : Extreme) : Std.Associative kind.pick := ⟨kind.pick_assoc⟩

end Extreme

variable {kind : Extreme}

theorem extremeConstant?_cons (v : Int64) (vs : List Int64) :
    extremeConstant? kind (v :: vs) =
      Option.merge kind.pick (some v) (extremeConstant? kind vs) := by
  cases vs with
  | nil => rfl
  | cons w vs =>
    rw [extremeConstant?, extremeConstant?, Option.merge_some_some, List.foldl_cons,
      List.foldl_assoc]

theorem extremeConstant?_append (vs ws : List Int64) :
    extremeConstant? kind (vs ++ ws) =
      Option.merge kind.pick (extremeConstant? kind vs) (extremeConstant? kind ws) := by
  induction vs with
  | nil => exact Option.merge_none_left.symm
  | cons v vs ih =>
    rw [List.cons_append, extremeConstant?_cons, extremeConstant?_cons, ih]
    ac_rfl

theorem extremeConstant?_perm {vs ws : List Int64} (h : vs.Perm ws) :
    extremeConstant? kind vs = extremeConstant? kind ws := by
  induction h with
  | nil => rfl
  | cons v _ ih => rw [extremeConstant?_cons, extremeConstant?_cons, ih]
  | swap v w vs => simp only [extremeConstant?_cons]; ac_rfl
  | trans _ _ ih ih' => exact ih.trans ih'

theorem value_make (kind : Extreme) (ms : List Metric) :
    (kind.make ms).value doc = kind.among (values doc ms) := by
  cases kind <;> rfl

/-- An extreme of some terms is among the terms of another one what its terms are. -/
theorem extremeConstant?_make {inner : List Metric} (filled : inner ≠ []) (ms : List Metric) :
    extremeConstant? kind (values doc (kind.make inner :: ms)) =
      extremeConstant? kind (values doc (inner ++ ms)) := by
  cases inner with
  | nil => exact absurd rfl filled
  | cons m inner =>
    rw [values_append, extremeConstant?_append, values, extremeConstant?_cons, value_make]
    rfl

theorem operands_make (inner rest : List Metric) :
    operands kind (kind.make inner :: rest) = inner ++ operands kind rest := by
  cases kind <;> rfl

theorem operands_of_ne {m : Metric} (h : ∀ inner, m ≠ kind.make inner) (rest : List Metric) :
    operands kind (m :: rest) = m :: operands kind rest := by
  cases kind with
  | min =>
    cases m with
    | least inner => exact absurd rfl (h inner)
    | _ => rfl
  | max =>
    cases m with
    | greatest inner => exact absurd rfl (h inner)
    | _ => rfl

/-- A property of all constants that passes from extremes to their terms and back is one of a merged
extreme if it is one of its operands. -/
theorem property_extreme {P : Metric → Prop} (constant : ∀ v, P (.constant v))
    (terms : ∀ ms, P (kind.make ms) → ∀ m ∈ ms, P m)
    (make : ∀ ms, ms ≠ [] → (∀ m ∈ ms, P m) → P (kind.make ms)) {ms : List Metric}
    (h : ∀ m ∈ ms, P m) : P (extreme kind ms) := by
  have opened : ∀ m ∈ operands kind ms, P m := by
    induction ms with
    | nil => exact h
    | cons m rest ih =>
      rw [List.forall_mem_cons] at h
      by_cases nested : ∃ inner, m = kind.make inner
      · obtain ⟨inner, rfl⟩ := nested
        rw [operands_make, List.forall_mem_append]
        exact ⟨terms inner h.1, ih h.2⟩
      · rw [operands_of_ne (not_exists.mp nested)]
        exact List.forall_mem_cons.mpr ⟨h.1, ih h.2⟩
  have merged : ∀ m ∈ (operands kind ms).filter (·.constant?.isNone) ++
      ((extremeConstant? kind ((operands kind ms).filterMap constant?)).map
        Metric.constant).toList, P m := by
    rw [List.forall_mem_append]
    refine ⟨fun m hm => opened m (List.mem_filter.mp hm).1, fun m hm => ?_⟩
    obtain ⟨v, _, rfl⟩ := Option.map_eq_some_iff.mp (Option.mem_toList.mp hm)
    exact constant v
  unfold extreme
  dsimp only
  split
  · exact constant 0
  · rename_i m single
    exact merged m (single ▸ List.mem_singleton_self m)
  · rename_i some _
    exact make _ some merged

theorem extremeConstant?_operands {ms : List Metric} (filled : ∀ m ∈ ms, m ≠ kind.make []) :
    extremeConstant? kind (values doc (operands kind ms)) =
      extremeConstant? kind (values doc ms) := by
  induction ms with
  | nil => rfl
  | cons m rest ih =>
    have ih := ih fun n hn => filled n (List.mem_cons_of_mem _ hn)
    by_cases h : ∃ inner, m = kind.make inner
    · obtain ⟨inner, rfl⟩ := h
      have some : inner ≠ [] := fun he => filled _ (List.mem_cons_self ..) (he ▸ rfl)
      rw [operands_make, extremeConstant?_make some, values_append, values_append,
        extremeConstant?_append, extremeConstant?_append, ih]
    · rw [operands_of_ne (not_exists.mp h), values, values, extremeConstant?_cons,
        extremeConstant?_cons, ih]

/-- Constants among the operands of an extreme may be folded into one. -/
theorem extremeConstant?_fold (terms : List Metric) :
    extremeConstant? kind (values doc (terms.filter (·.constant?.isNone) ++
        ((extremeConstant? kind (terms.filterMap constant?)).map Metric.constant).toList)) =
      extremeConstant? kind (values doc terms) := by
  rw [extremeConstant?_perm (values_perm doc terms), values_append, extremeConstant?_append,
    extremeConstant?_append]
  congr 1
  cases extremeConstant? kind (terms.filterMap constant?) <;> rfl

theorem value_extreme {ms : List Metric} (filled : ∀ m ∈ ms, m ≠ kind.make []) :
    (extreme kind ms).value doc = kind.among (values doc ms) := by
  rw [Extreme.among, ← extremeConstant?_operands filled, ← extremeConstant?_fold, extreme]
  split
  · rename_i none
    rw [none]
    rfl
  · rename_i m single
    rw [single]
    rfl
  · rw [value_make]
    rfl

end Metric

/-! ## Conjunctions and disjunctions -/

namespace Filter

theorem all_conjuncts (fs : List Filter) :
    (conjuncts fs).all (·.holds doc) = fs.all (·.holds doc) := by
  fun_induction conjuncts fs with
  | case1 => rfl
  | case2 inner rest ih => rw [List.all_append, ih, List.all_cons, holds, holdAll_eq_all]
  | case3 f rest _ ih => rw [List.all_cons, List.all_cons, ih]

theorem any_disjuncts (fs : List Filter) :
    (disjuncts fs).any (·.holds doc) = fs.any (·.holds doc) := by
  fun_induction disjuncts fs with
  | case1 => rfl
  | case2 inner rest ih => rw [List.any_append, ih, List.any_cons, holds, holdSome_eq_any]
  | case3 f rest _ ih => rw [List.any_cons, List.any_cons, ih]

theorem holds_ofConjuncts (fs : List Filter) :
    (ofConjuncts fs).holds doc = fs.all (·.holds doc) := by
  unfold ofConjuncts
  split
  · rfl
  · simp
  · rw [holds, holdAll_eq_all]

theorem holds_ofDisjuncts (fs : List Filter) :
    (ofDisjuncts fs).holds doc = fs.any (·.holds doc) := by
  unfold ofDisjuncts
  split
  · rfl
  · simp
  · rw [holds, holdSome_eq_any]

theorem holds_of_isAlways {f : Filter} (h : f.isAlways) : f.holds doc = true := by
  cases f with
  | always => rfl
  | _ => simp [isAlways] at h

theorem holds_of_isNever {f : Filter} (h : f.isNever) : f.holds doc = false := by
  cases f with
  | never => rfl
  | _ => simp [isNever] at h

theorem holds_all (fs : List Filter) : (Filter.all fs).holds doc = fs.all (·.holds doc) := by
  rw [← all_conjuncts, Filter.all]
  split
  · rename_i never
    obtain ⟨f, hf, hn⟩ := List.any_eq_true.mp never
    refine (List.all_eq_false.mpr ⟨f, hf, ?_⟩).symm
    simp [holds_of_isNever hn]
  · rw [holds_ofConjuncts, List.all_filter]
    congr 1
    funext f
    by_cases h : f.isAlways
    · simp [h, holds_of_isAlways h]
    · simp [h]

theorem holds_any (fs : List Filter) : (Filter.any fs).holds doc = fs.any (·.holds doc) := by
  rw [← any_disjuncts, Filter.any]
  split
  · rename_i always
    obtain ⟨f, hf, ha⟩ := List.any_eq_true.mp always
    exact (List.any_eq_true.mpr ⟨f, hf, holds_of_isAlways ha⟩).symm
  · rw [holds_ofDisjuncts, List.any_filter]
    congr 1
    funext f
    by_cases h : f.isNever
    · simp [h, holds_of_isNever h]
    · simp [h]

/-- A property of both constants that passes from conjunctions to their operands and back is one of
a merged conjunction if it is one of its operands. -/
theorem property_all {P : Filter → Prop} (always : P .always) (never : P .never)
    (operands : ∀ fs, P (.and fs) → ∀ f ∈ fs, P f) (and : ∀ fs, (∀ f ∈ fs, P f) → P (.and fs))
    {fs : List Filter} (h : ∀ f ∈ fs, P f) : P (Filter.all fs) := by
  have opened : ∀ f ∈ conjuncts fs, P f := by
    fun_induction conjuncts fs with
    | case1 => exact h
    | case2 inner rest ih =>
      rw [List.forall_mem_cons] at h
      exact List.forall_mem_append.mpr ⟨operands inner h.1, ih h.2⟩
    | case3 f rest _ ih =>
      rw [List.forall_mem_cons] at h
      exact List.forall_mem_cons.mpr ⟨h.1, ih h.2⟩
  have made (gs : List Filter) (hg : ∀ g ∈ gs, P g) : P (ofConjuncts gs) := by
    unfold ofConjuncts
    split
    · exact always
    · exact hg _ (List.mem_singleton_self _)
    · exact and gs hg
  unfold Filter.all
  dsimp only
  split
  · exact never
  · exact made _ fun f hf => opened f (List.mem_filter.mp hf).1

/-- A property of both constants that passes from disjunctions to their operands and back is one of
a merged disjunction if it is one of its operands. -/
theorem property_any {P : Filter → Prop} (always : P .always) (never : P .never)
    (operands : ∀ fs, P (.or fs) → ∀ f ∈ fs, P f) (or : ∀ fs, (∀ f ∈ fs, P f) → P (.or fs))
    {fs : List Filter} (h : ∀ f ∈ fs, P f) : P (Filter.any fs) := by
  have opened : ∀ f ∈ disjuncts fs, P f := by
    fun_induction disjuncts fs with
    | case1 => exact h
    | case2 inner rest ih =>
      rw [List.forall_mem_cons] at h
      exact List.forall_mem_append.mpr ⟨operands inner h.1, ih h.2⟩
    | case3 f rest _ ih =>
      rw [List.forall_mem_cons] at h
      exact List.forall_mem_cons.mpr ⟨h.1, ih h.2⟩
  have made (gs : List Filter) (hg : ∀ g ∈ gs, P g) : P (ofDisjuncts gs) := by
    unfold ofDisjuncts
    split
    · exact never
    · exact hg _ (List.mem_singleton_self _)
    · exact or gs hg
  unfold Filter.any
  dsimp only
  split
  · exact always
  · exact made _ fun f hf => opened f (List.mem_filter.mp hf).1

end Filter

end Groupwise.Doc
