import Groupwise.Proofs.Doc.Nodes
import Groupwise.Proofs.Doc.Simplify

/-!
# What simplification leaves behind

No rule changes a node of a simplified expression, given that its parts are simple, with one
exception: a filter that compares with an end of the range of integers may have been unfolded from a
metric, where such comparisons are not decided.
-/
namespace Groupwise.Doc

/-! ## Rules for arithmetic and comparisons -/

/-- Whether a comparison asks for equality, if it does not ask for order. -/
def equality? : Comparison → Option Bool
  | .eq => some true
  | .ne => some false
  | _ => none

/-- An ordered comparison with these literals is decided by the ends of the range of integers. -/
def decidedByEnds : Comparison → Option Int64 → Option Int64 → Bool
  | .gt, l, r | .lte, l, r => r == some Int64.maxValue || l == some Int64.minValue
  | .lt, l, r | .gte, l, r => r == some Int64.minValue || l == some Int64.maxValue
  | .eq, _, _ | .ne, _, _ => false

theorem equality?_negate (op : Comparison) : equality? op.negate = (equality? op).map (!·) := by
  cases op <;> rfl

/-- A metric of which equality with a literal can be said in another way. -/
def Metric.Equatable : Metric → Prop
  | .field _ => True
  | .compare .. => True
  | _ => False

/-- There is no rule for a comparison, the ends of the range of integers apart. -/
def Irreducible (op : Comparison) (l r : Metric) : Prop :=
  (l.literal? = none ∨ r.literal? = none) ∧
    ((equality? op).isSome → ∀ e, Metric.literalAndOther? l r = some e → ¬e.2.Equatable)

theorem Irreducible.negate {op : Comparison} {l r : Metric} (h : Irreducible op l r) :
    Irreducible op.negate l r :=
  ⟨h.1, fun equality => h.2 (by simpa [equality?_negate] using equality)⟩

namespace Metric

/-- Arithmetic stays, or one of its sides or a constant is left. -/
theorem foldArithmetic_cases (op : Arithmetic) (l r : Metric) :
    foldArithmetic op l r = .arithmetic op l r ∨ foldArithmetic op l r = l ∨
      foldArithmetic op l r = r ∨ ∃ v, foldArithmetic op l r = .constant v := by
  unfold foldArithmetic
  repeat' split
  all_goals simp

theorem foldCompare_eq (op : Comparison) (l r : Metric)
    (h : l.literal? = none ∨ r.literal? = none) :
    foldCompare op l r = ((equality? op).bind fun isEq => (literalAndOther? l r).bind fun e =>
      e.2.foldEquality isEq e.1).getD (.compare op l r) := by
  unfold foldCompare
  split
  · simp_all
  · cases op <;> rfl

theorem foldCompare_of_literals (op : Comparison) {l r : Metric} {a b : Int64}
    (hl : l.literal? = some a) (hr : r.literal? = some b) :
    foldCompare op l r = ofBool (op.holds a b) := by
  unfold foldCompare
  rw [hl, hr]

theorem foldEquality_eq_none {isEq : Bool} {c : Int64} {m : Metric} :
    m.foldEquality isEq c = none ↔ ¬m.Equatable := by
  cases m with
  | field => simp [foldEquality, Equatable]
  | compare =>
    unfold foldEquality
    simp only [Equatable, not_true_eq_false, iff_false]
    repeat' split
    all_goals exact Option.some_ne_none _
  | _ => simp [foldEquality, Equatable]

theorem foldCompare_of_irreducible {op : Comparison} {l r : Metric} (h : Irreducible op l r) :
    foldCompare op l r = .compare op l r := by
  rw [foldCompare_eq op l r h.1]
  cases equality : equality? op with
  | none => rfl
  | some isEq =>
    cases other : literalAndOther? l r with
    | none => rfl
    | some e =>
      have := h.2 (by simp [equality]) e other
      simp [foldEquality_eq_none.mpr this]

end Metric

namespace Filter

theorem foldCompare_eq (op : Comparison) (l r : Metric)
    (h : l.literal? = none ∨ r.literal? = none) :
    foldCompare op l r =
      if decidedByEnds op l.literal? r.literal? then .ofBool (op == .lte || op == .gte)
      else ((equality? op).bind fun isEq => (Metric.literalAndOther? l r).bind fun e =>
        e.2.equalityFilter isEq e.1).getD (.compare op l r) := by
  unfold foldCompare foldCompareWith Metric.literalAndOther?
  cases hl : l.literal? with
  | none => cases hr : r.literal? <;> cases op <;> rfl
  | some a =>
    cases hr : r.literal? with
    | none => cases op <;> rfl
    | some b => simp [hl, hr] at h

theorem foldCompare_of_literals (op : Comparison) {l r : Metric} {a b : Int64}
    (hl : l.literal? = some a) (hr : r.literal? = some b) :
    foldCompare op l r = ofBool (op.holds a b) := by
  unfold foldCompare foldCompareWith
  rw [hl, hr]

end Filter

namespace Metric

theorem equalityFilter_eq_none {isEq : Bool} {c : Int64} {m : Metric} :
    m.equalityFilter isEq c = none ↔ ¬m.Equatable := by
  cases m with
  | field => simp [equalityFilter, Equatable]
  | compare =>
    unfold equalityFilter
    simp only [Equatable, not_true_eq_false, iff_false]
    repeat' split
    all_goals exact Option.some_ne_none _
  | _ => simp [equalityFilter, Equatable]

theorem equalityFilter_compare (isEq : Bool) (c : Int64) (op : Comparison) (l r : Metric) :
    equalityFilter isEq c (.compare op l r) =
      if c == (if isEq then 1 else 0) then some (.compare op l r)
      else if c == (if isEq then 0 else 1) then some (Filter.foldCompare op.negate l r)
      else some (.ofBool (!isEq)) := by
  rw [equalityFilter]
  rfl

end Metric

/-- A comparison without another rule stays, or is decided by the ends of the range of integers. -/
theorem Filter.foldCompare_of_irreducible {op : Comparison} {l r : Metric}
    (h : Irreducible op l r) : foldCompare op l r =
      if decidedByEnds op l.literal? r.literal? then .ofBool (op == .lte || op == .gte)
      else .compare op l r := by
  rw [foldCompare_eq op l r h.1]
  split
  · rfl
  cases equality : equality? op with
  | none => rfl
  | some isEq =>
    cases other : Metric.literalAndOther? l r with
    | none => rfl
    | some e =>
      have := h.2 (by simp [equality]) e other
      simp [Metric.equalityFilter_eq_none.mpr this]

/-- A range test stays, is decided, or becomes a comparison of the field. -/
theorem Filter.foldBetween_cases (field : FieldSet) (lower upper : Int64) (inclusive : Bool) :
    foldBetween field lower upper inclusive = .between field lower upper inclusive ∨
      foldBetween field lower upper inclusive = .always ∨
        foldBetween field lower upper inclusive = .never ∨
          ∃ op c, foldBetween field lower upper inclusive =
            foldCompare op (.field field) (.constant c) := by
  unfold foldBetween
  dsimp only
  split
  · exact .inr (.inl rfl)
  split
  · exact .inr (.inr (.inr ⟨_, upper, rfl⟩))
  split
  · exact .inr (.inr (.inr ⟨_, lower, rfl⟩))
  split
  · exact .inr (.inr (.inl rfl))
  by_cases single : (lower == if inclusive then upper else upper - 1) = true
  · exact .inr (.inr (.inr ⟨_, lower, if_pos single⟩))
  · exact .inl (if_neg single)

/-! ## Settled nodes -/

/-- The terms of a merging constructor: none of its own kind and no constants, and then the constant
into which those were folded. -/
def Metric.Merged (own : List Metric → Metric) (c : Option Int64) (ms : List Metric) : Prop :=
  ∃ others, ms = others ++ (c.map .constant).toList ∧
    ∀ m ∈ others, m.constant? = none ∧ ∀ inner, m ≠ own inner

/-- The operands of a merged conjunction. -/
def Filter.Conjoined (fs : List Filter) : Prop :=
  ∀ f ∈ fs, f ≠ .always ∧ f ≠ .never ∧ ∀ inner, f ≠ .and inner

/-- The operands of a merged disjunction. -/
def Filter.Disjoined (fs : List Filter) : Prop :=
  ∀ f ∈ fs, f ≠ .always ∧ f ≠ .never ∧ ∀ inner, f ≠ .or inner

namespace Node

/-- No rule changes the node itself, the ends of the range of integers apart. -/
def Stays : Node → Prop
  | .metric (.add ms) => 2 ≤ ms.length ∧ ∃ c, c ≠ some 0 ∧ Metric.Merged .add c ms
  | .metric (.least ms) => 2 ≤ ms.length ∧ ∃ c, Metric.Merged .least c ms
  | .metric (.greatest ms) => 2 ≤ ms.length ∧ ∃ c, Metric.Merged .greatest c ms
  | .metric (.compare op l r) => Irreducible op l r
  | .metric m => m.fold = m
  | .filter (.and fs) => 2 ≤ fs.length ∧ Filter.Conjoined fs
  | .filter (.or fs) => 2 ≤ fs.length ∧ Filter.Disjoined fs
  | .filter (.compare op l r) => Irreducible op l r
  | .filter f => f.fold = f

/-- No rule changes any node of an expression, the ends of the range of integers apart. -/
def Settled (whole : Node) : Prop := ∀ part, Within part whole → part.Stays

theorem settled_iff {n : Node} : n.Settled ↔ n.Stays ∧ ∀ part ∈ n.parts, part.Settled :=
  throughout_iff

theorem Settled.stays {n : Node} (h : n.Settled) : n.Stays := h n .refl

theorem Settled.part {n part : Node} (h : n.Settled) (below : part ∈ n.parts) : part.Settled :=
  (settled_iff.mp h).2 part below

theorem settled_of_parts_nil {n : Node} (stays : n.Stays) (nil : n.parts = []) : n.Settled :=
  settled_iff.mpr ⟨stays, by simp [nil]⟩

theorem settled_constant (v : Int64) : (metric (.constant v)).Settled :=
  settled_of_parts_nil rfl rfl

theorem settled_ofBool (b : Bool) : (filter (.ofBool b)).Settled := by
  cases b <;> exact settled_of_parts_nil rfl rfl

theorem settled_compare {op : Comparison} {l r : Metric} :
    (metric (.compare op l r)).Settled ↔
      Irreducible op l r ∧ (metric l).Settled ∧ (metric r).Settled := by
  rw [settled_iff]
  simp [Stays, parts]

theorem settled_compareFilter {op : Comparison} {l r : Metric} :
    (filter (.compare op l r)).Settled ↔
      Irreducible op l r ∧ (metric l).Settled ∧ (metric r).Settled := by
  rw [settled_iff]
  simp [Stays, parts]

end Node

/-! ## Merging constructors -/

namespace Metric

variable {ms : List Metric} {kind : Extreme}

theorem addends_of_forall (h : ∀ m ∈ ms, ∀ inner, m ≠ .add inner) : addends ms = ms := by
  fun_induction addends ms with
  | case1 => rfl
  | case2 inner rest => exact absurd rfl (h _ (List.mem_cons_self ..) inner)
  | case3 m rest _ ih => rw [ih fun n hn => h n (List.mem_cons_of_mem _ hn)]

theorem operands_of_forall (h : ∀ m ∈ ms, ∀ inner, m ≠ kind.make inner) :
    operands kind ms = ms := by
  induction ms with
  | nil => rfl
  | cons m rest ih =>
    obtain ⟨here, later⟩ := List.forall_mem_cons.mp h
    rw [operands_of_ne here, ih later]

namespace Merged

variable {own : List Metric → Metric} {c : Option Int64}

theorem forall_ne (h : Merged own c ms) (constant : ∀ v inner, Metric.constant v ≠ own inner) :
    ∀ m ∈ ms, ∀ inner, m ≠ own inner := by
  obtain ⟨others, rfl, plain⟩ := h
  refine List.forall_mem_append.mpr ⟨fun m hm => (plain m hm).2, fun m hm => ?_⟩
  obtain ⟨v, -, rfl⟩ := Option.map_eq_some_iff.mp (Option.mem_toList.mp hm)
  exact constant v

/-- The constant of merged terms is folded from nothing else, and they are in order. -/
theorem split (h : Merged own c ms) : ms.filterMap constant? = c.toList ∧
    ms.filter (·.constant?.isNone) ++ (c.map Metric.constant).toList = ms := by
  obtain ⟨others, rfl, plain⟩ := h
  have kept : others.filter (·.constant?.isNone) = others :=
    List.filter_eq_self.mpr fun m hm => by simp [(plain m hm).1]
  have noConstants : others.filterMap constant? = [] :=
    List.filterMap_eq_nil_iff.mpr fun m hm => (plain m hm).1
  rw [List.filterMap_append, List.filter_append, kept, noConstants]
  cases c <;> simp [constant?]

/-- What is left of opened terms when constants are taken out and one is put behind is merged. -/
theorem of_filter {terms : List Metric} (opened : ∀ m ∈ terms, ∀ inner, m ≠ own inner) :
    Merged own c (terms.filter (·.constant?.isNone) ++ (c.map Metric.constant).toList) := by
  refine ⟨_, rfl, fun m hm => ?_⟩
  obtain ⟨mem, none⟩ := List.mem_filter.mp hm
  exact ⟨Option.isNone_iff_eq_none.mp none, opened m mem⟩

end Merged

/-- Merged terms stay as they are in a sum. -/
theorem sum_of_merged {c : Option Int64} (two : 2 ≤ ms.length) (nonzero : c ≠ some 0)
    (merged : Merged .add c ms) : sum ms = .add ms := by
  obtain ⟨constants, split⟩ := merged.split
  have folded : (if c.toList.foldl (· + ·) 0 == 0 then []
      else [Metric.constant (c.toList.foldl (· + ·) 0)]) = (c.map Metric.constant).toList := by
    cases c with
    | none => rfl
    | some v =>
      have : v ≠ 0 := fun zero => nonzero (congrArg some zero)
      simp [this]
  rw [sum, addends_of_forall (merged.forall_ne fun _ _ => Metric.noConfusion)]
  simp only [constants, folded, split]
  rcases ms with _ | ⟨m, _ | ⟨n, rest⟩⟩
  · simp at two
  · simp at two
  · rfl

/-- Merged terms stay as they are in an extreme. -/
theorem extreme_of_merged (kind : Extreme) {c : Option Int64} (two : 2 ≤ ms.length)
    (merged : Merged kind.make c ms) : extreme kind ms = kind.make ms := by
  obtain ⟨constants, split⟩ := merged.split
  have folded : extremeConstant? kind c.toList = c := by
    cases c <;> rfl
  have plain := merged.forall_ne fun v inner same => by cases kind <;> cases same
  rw [extreme, operands_of_forall plain]
  simp only [constants, folded, split]
  rcases ms with _ | ⟨m, _ | ⟨n, rest⟩⟩
  · simp at two
  · simp at two
  · rfl

end Metric

namespace Node

/-- Of the combinations, a property allows exactly the merged ones, and it allows all constants. -/
structure AllowsMerged (P : Node → Prop) : Prop where
  constant : ∀ v, P (.metric (.constant v))
  add : ∀ ms, P (.metric (.add ms)) ↔
    2 ≤ ms.length ∧ ∃ c, c ≠ some 0 ∧ Metric.Merged .add c ms
  make : ∀ (kind : Metric.Extreme) ms, P (.metric (kind.make ms)) ↔
    2 ≤ ms.length ∧ ∃ c, Metric.Merged kind.make c ms
  always : P (.filter .always)
  never : P (.filter .never)
  and : ∀ fs, P (.filter (.and fs)) ↔ 2 ≤ fs.length ∧ Filter.Conjoined fs
  or : ∀ fs, P (.filter (.or fs)) ↔ 2 ≤ fs.length ∧ Filter.Disjoined fs

theorem allowsMerged_stays : AllowsMerged Stays where
  constant _ := rfl
  add _ := Iff.rfl
  make kind _ := by cases kind <;> exact Iff.rfl
  always := rfl
  never := rfl
  and _ := Iff.rfl
  or _ := Iff.rfl

namespace AllowsMerged

variable {P : Node → Prop}

theorem throughout_constant (allows : AllowsMerged P) (v : Int64) :
    (metric (.constant v)).Throughout P :=
  throughout_iff.mpr ⟨allows.constant v, List.forall_mem_nil _⟩

/-- What a merging constructor makes of terms with a property has the property if it is allowed:
nothing at all gives zero, and a single term stands for itself. -/
theorem throughout_of_merged (allows : AllowsMerged P) {terms : List Metric} {made : Metric}
    (h : ∀ m ∈ terms, (metric m).Throughout P)
    (shape : made = .constant 0 ∨ terms = [made] ∨
      P (metric made) ∧ (metric made).parts = terms.map .metric) :
    (metric made).Throughout P := by
  rcases shape with rfl | rfl | ⟨allowed, parts⟩
  · exact allows.throughout_constant 0
  · exact h made (List.mem_singleton_self made)
  · exact throughout_iff.mpr ⟨allowed, by simpa [parts] using h⟩

/-- The terms of merged ones, without constants and with one constant behind, keep the property. -/
theorem throughout_terms (allows : AllowsMerged P) {terms : List Metric}
    (h : ∀ m ∈ terms, (metric m).Throughout P) (c : Option Int64) :
    ∀ m ∈ terms.filter (·.constant?.isNone) ++ (c.map Metric.constant).toList,
      (metric m).Throughout P := by
  refine List.forall_mem_append.mpr ⟨fun m hm => h m (List.mem_filter.mp hm).1, fun m hm => ?_⟩
  obtain ⟨v, -, rfl⟩ := Option.map_eq_some_iff.mp (Option.mem_toList.mp hm)
  exact allows.throughout_constant v

/-- Opened up once, terms with the property hold no sums any more. -/
theorem throughout_addends (allows : AllowsMerged P) {ms : List Metric}
    (h : ∀ m ∈ ms, (metric m).Throughout P) :
    ∀ m ∈ Metric.addends ms, (metric m).Throughout P ∧ ∀ inner, m ≠ .add inner := by
  fun_induction Metric.addends ms with
  | case1 => simp
  | case2 inner rest ih =>
    obtain ⟨here, later⟩ := List.forall_mem_cons.mp h
    obtain ⟨sum, parts⟩ := throughout_iff.mp here
    obtain ⟨-, c, -, merged⟩ := (allows.add inner).mp sum
    have ne := merged.forall_ne fun _ _ => Metric.noConfusion
    exact List.forall_mem_append.mpr
      ⟨fun m hm => ⟨parts _ (List.mem_map_of_mem hm), ne m hm⟩, ih later⟩
  | case3 m rest other ih =>
    obtain ⟨here, later⟩ := List.forall_mem_cons.mp h
    exact List.forall_mem_cons.mpr ⟨⟨here, other⟩, ih later⟩

/-- A merged sum of terms with the property has the property. -/
theorem throughout_sum (allows : AllowsMerged P) {ms : List Metric}
    (h : ∀ m ∈ ms, (metric m).Throughout P) : (metric (.sum ms)).Throughout P := by
  have opened := allows.throughout_addends h
  obtain ⟨c, nonzero, constant⟩ : ∃ c : Option Int64, c ≠ some 0 ∧
      (if ((Metric.addends ms).filterMap Metric.constant?).foldl (· + ·) 0 == 0 then []
        else [Metric.constant (((Metric.addends ms).filterMap Metric.constant?).foldl (· + ·) 0)]) =
          (c.map Metric.constant).toList := by
    split
    · exact ⟨none, by simp, rfl⟩
    · rename_i nonzero
      exact ⟨some _, fun zero => nonzero (by simp [Option.some.inj zero]), rfl⟩
  refine allows.throughout_of_merged
    (allows.throughout_terms (fun m hm => (opened m hm).1) c) ?_
  rw [Metric.sum]
  simp only [constant]
  have merged := Metric.Merged.of_filter (c := c) fun m hm => (opened m hm).2
  revert merged
  generalize
    (Metric.addends ms).filter (·.constant?.isNone) ++ (c.map Metric.constant).toList = terms
  intro merged
  rcases terms with _ | ⟨m, _ | ⟨n, rest⟩⟩
  · exact .inl rfl
  · exact .inr (.inl rfl)
  · exact .inr (.inr ⟨(allows.add _).mpr ⟨by simp, c, nonzero, merged⟩, rfl⟩)

/-- Opened up once, terms with the property hold no extremes of the kind any more. -/
theorem throughout_operands (allows : AllowsMerged P) (kind : Metric.Extreme) {ms : List Metric}
    (h : ∀ m ∈ ms, (metric m).Throughout P) :
    ∀ m ∈ Metric.operands kind ms, (metric m).Throughout P ∧ ∀ inner, m ≠ kind.make inner := by
  induction ms with
  | nil => exact fun m hm => absurd hm List.not_mem_nil
  | cons m rest ih =>
    obtain ⟨here, later⟩ := List.forall_mem_cons.mp h
    by_cases nested : ∃ inner, m = kind.make inner
    · obtain ⟨inner, rfl⟩ := nested
      rw [Metric.operands_make]
      obtain ⟨extreme, parts⟩ := throughout_iff.mp here
      obtain ⟨-, c, merged⟩ := (allows.make kind inner).mp extreme
      have ne := merged.forall_ne fun v inner same => by cases kind <;> cases same
      have within : (metric (kind.make inner)).parts = inner.map .metric := by cases kind <;> rfl
      rw [within] at parts
      exact List.forall_mem_append.mpr
        ⟨fun m hm => ⟨parts _ (List.mem_map_of_mem hm), ne m hm⟩, ih later⟩
    · rw [Metric.operands_of_ne (not_exists.mp nested)]
      exact List.forall_mem_cons.mpr ⟨⟨here, not_exists.mp nested⟩, ih later⟩

/-- A merged extreme of terms with the property has the property. -/
theorem throughout_extreme (allows : AllowsMerged P) (kind : Metric.Extreme) {ms : List Metric}
    (h : ∀ m ∈ ms, (metric m).Throughout P) : (metric (.extreme kind ms)).Throughout P := by
  have opened := allows.throughout_operands kind h
  refine allows.throughout_of_merged (allows.throughout_terms (fun m hm => (opened m hm).1)
    (Metric.extremeConstant? kind ((Metric.operands kind ms).filterMap Metric.constant?))) ?_
  have merged := Metric.Merged.of_filter (c := Metric.extremeConstant? kind
    ((Metric.operands kind ms).filterMap Metric.constant?)) fun m hm => (opened m hm).2
  revert merged
  rw [Metric.extreme]
  generalize (Metric.operands kind ms).filter (·.constant?.isNone) ++
    ((Metric.extremeConstant? kind ((Metric.operands kind ms).filterMap Metric.constant?)).map
      Metric.constant).toList = terms
  intro merged
  rcases terms with _ | ⟨m, _ | ⟨n, rest⟩⟩
  · exact .inl rfl
  · exact .inr (.inl rfl)
  · exact .inr (.inr ⟨(allows.make kind _).mpr ⟨by simp, _, merged⟩, by cases kind <;> rfl⟩)

end AllowsMerged

/-- A merged sum of settled terms is settled. -/
theorem settled_sum {ms : List Metric} (h : ∀ m ∈ ms, (metric m).Settled) :
    (metric (.sum ms)).Settled :=
  allowsMerged_stays.throughout_sum h

/-- A merged extreme of settled terms is settled. -/
theorem settled_extreme (kind : Metric.Extreme) {ms : List Metric}
    (h : ∀ m ∈ ms, (metric m).Settled) : (metric (.extreme kind ms)).Settled :=
  allowsMerged_stays.throughout_extreme kind h

end Node

/-! ## Conjunctions and disjunctions -/

namespace Filter

variable {fs : List Filter}

theorem conjuncts_of_forall (h : ∀ f ∈ fs, ∀ inner, f ≠ .and inner) : conjuncts fs = fs := by
  fun_induction conjuncts fs with
  | case1 => rfl
  | case2 inner rest => exact absurd rfl (h _ (List.mem_cons_self ..) inner)
  | case3 f rest _ ih => rw [ih fun g hg => h g (List.mem_cons_of_mem _ hg)]

theorem disjuncts_of_forall (h : ∀ f ∈ fs, ∀ inner, f ≠ .or inner) : disjuncts fs = fs := by
  fun_induction disjuncts fs with
  | case1 => rfl
  | case2 inner rest => exact absurd rfl (h _ (List.mem_cons_self ..) inner)
  | case3 f rest _ ih => rw [ih fun g hg => h g (List.mem_cons_of_mem _ hg)]

theorem isAlways_iff {f : Filter} : f.isAlways = true ↔ f = .always := by
  cases f <;> simp [isAlways]

theorem isNever_iff {f : Filter} : f.isNever = true ↔ f = .never := by
  cases f <;> simp [isNever]

/-- Merged operands stay as they are in a conjunction. -/
theorem all_of_conjoined (two : 2 ≤ fs.length) (conjoined : Conjoined fs) :
    Filter.all fs = .and fs := by
  have never : fs.any isNever = false :=
    List.any_eq_false.mpr fun f hf is => (conjoined f hf).2.1 (isNever_iff.mp is)
  have kept : fs.filter (!·.isAlways) = fs := List.filter_eq_self.mpr fun f hf => by
    simpa using fun is => (conjoined f hf).1 (isAlways_iff.mp is)
  rw [Filter.all, conjuncts_of_forall fun f hf => (conjoined f hf).2.2]
  simp only [never, kept]
  rcases fs with _ | ⟨f, _ | ⟨g, rest⟩⟩
  · simp at two
  · simp at two
  · rfl

/-- Merged operands stay as they are in a disjunction. -/
theorem any_of_disjoined (two : 2 ≤ fs.length) (disjoined : Disjoined fs) :
    Filter.any fs = .or fs := by
  have always : fs.any isAlways = false :=
    List.any_eq_false.mpr fun f hf is => (disjoined f hf).1 (isAlways_iff.mp is)
  have kept : fs.filter (!·.isNever) = fs := List.filter_eq_self.mpr fun f hf => by
    simpa using fun is => (disjoined f hf).2.1 (isNever_iff.mp is)
  rw [Filter.any, disjuncts_of_forall fun f hf => (disjoined f hf).2.2]
  simp only [always, kept]
  rcases fs with _ | ⟨f, _ | ⟨g, rest⟩⟩
  · simp at two
  · simp at two
  · rfl

end Filter

namespace Node

theorem settled_always : (filter .always).Settled := settled_of_parts_nil rfl rfl

theorem settled_never : (filter .never).Settled := settled_of_parts_nil rfl rfl

namespace AllowsMerged

variable {P : Node → Prop}

/-- Opened up once, filters with the property hold no conjunctions any more. -/
theorem throughout_conjuncts (allows : AllowsMerged P) {fs : List Filter}
    (h : ∀ f ∈ fs, (filter f).Throughout P) :
    ∀ f ∈ Filter.conjuncts fs, (filter f).Throughout P ∧ ∀ inner, f ≠ .and inner := by
  fun_induction Filter.conjuncts fs with
  | case1 => simp
  | case2 inner rest ih =>
    obtain ⟨here, later⟩ := List.forall_mem_cons.mp h
    obtain ⟨conjunction, parts⟩ := throughout_iff.mp here
    have conjoined := ((allows.and inner).mp conjunction).2
    exact List.forall_mem_append.mpr
      ⟨fun f hf => ⟨parts _ (List.mem_map_of_mem hf), (conjoined f hf).2.2⟩, ih later⟩
  | case3 f rest other ih =>
    obtain ⟨here, later⟩ := List.forall_mem_cons.mp h
    exact List.forall_mem_cons.mpr ⟨⟨here, other⟩, ih later⟩

/-- A merged conjunction of filters with the property has the property. -/
theorem throughout_all (allows : AllowsMerged P) {fs : List Filter}
    (h : ∀ f ∈ fs, (filter f).Throughout P) : (filter (.all fs)).Throughout P := by
  have opened := allows.throughout_conjuncts h
  rw [Filter.all]
  split
  · exact throughout_iff.mpr ⟨allows.never, List.forall_mem_nil _⟩
  rename_i never
  have each : ∀ f ∈ (Filter.conjuncts fs).filter (!·.isAlways), (filter f).Throughout P :=
    fun f hf => (opened f (List.mem_filter.mp hf).1).1
  have conjoined : Filter.Conjoined ((Filter.conjuncts fs).filter (!·.isAlways)) := by
    intro f hf
    obtain ⟨mem, notAlways⟩ := List.mem_filter.mp hf
    refine ⟨?_, ?_, (opened f mem).2⟩
    · rintro rfl
      simp [Filter.isAlways] at notAlways
    · rintro rfl
      exact never (List.any_eq_true.mpr ⟨_, mem, rfl⟩)
  revert each conjoined
  generalize (Filter.conjuncts fs).filter (!·.isAlways) = kept
  intro each conjoined
  rcases kept with _ | ⟨f, _ | ⟨g, rest⟩⟩
  · exact throughout_iff.mpr ⟨allows.always, List.forall_mem_nil _⟩
  · exact each f (List.mem_singleton_self f)
  · exact throughout_iff.mpr
      ⟨(allows.and _).mpr ⟨by simp, conjoined⟩, List.forall_mem_map.mpr each⟩

/-- Opened up once, filters with the property hold no disjunctions any more. -/
theorem throughout_disjuncts (allows : AllowsMerged P) {fs : List Filter}
    (h : ∀ f ∈ fs, (filter f).Throughout P) :
    ∀ f ∈ Filter.disjuncts fs, (filter f).Throughout P ∧ ∀ inner, f ≠ .or inner := by
  fun_induction Filter.disjuncts fs with
  | case1 => simp
  | case2 inner rest ih =>
    obtain ⟨here, later⟩ := List.forall_mem_cons.mp h
    obtain ⟨disjunction, parts⟩ := throughout_iff.mp here
    have disjoined := ((allows.or inner).mp disjunction).2
    exact List.forall_mem_append.mpr
      ⟨fun f hf => ⟨parts _ (List.mem_map_of_mem hf), (disjoined f hf).2.2⟩, ih later⟩
  | case3 f rest other ih =>
    obtain ⟨here, later⟩ := List.forall_mem_cons.mp h
    exact List.forall_mem_cons.mpr ⟨⟨here, other⟩, ih later⟩

/-- A merged disjunction of filters with the property has the property. -/
theorem throughout_any (allows : AllowsMerged P) {fs : List Filter}
    (h : ∀ f ∈ fs, (filter f).Throughout P) : (filter (.any fs)).Throughout P := by
  have opened := allows.throughout_disjuncts h
  rw [Filter.any]
  split
  · exact throughout_iff.mpr ⟨allows.always, List.forall_mem_nil _⟩
  rename_i always
  have each : ∀ f ∈ (Filter.disjuncts fs).filter (!·.isNever), (filter f).Throughout P :=
    fun f hf => (opened f (List.mem_filter.mp hf).1).1
  have disjoined : Filter.Disjoined ((Filter.disjuncts fs).filter (!·.isNever)) := by
    intro f hf
    obtain ⟨mem, notNever⟩ := List.mem_filter.mp hf
    refine ⟨?_, ?_, (opened f mem).2⟩
    · rintro rfl
      exact always (List.any_eq_true.mpr ⟨_, mem, rfl⟩)
    · rintro rfl
      simp [Filter.isNever] at notNever
  revert each disjoined
  generalize (Filter.disjuncts fs).filter (!·.isNever) = kept
  intro each disjoined
  rcases kept with _ | ⟨f, _ | ⟨g, rest⟩⟩
  · exact throughout_iff.mpr ⟨allows.never, List.forall_mem_nil _⟩
  · exact each f (List.mem_singleton_self f)
  · exact throughout_iff.mpr
      ⟨(allows.or _).mpr ⟨by simp, disjoined⟩, List.forall_mem_map.mpr each⟩

end AllowsMerged

/-- A merged conjunction of settled filters is settled. -/
theorem settled_all {fs : List Filter} (h : ∀ f ∈ fs, (filter f).Settled) :
    (filter (.all fs)).Settled :=
  allowsMerged_stays.throughout_all h

/-- A merged disjunction of settled filters is settled. -/
theorem settled_any {fs : List Filter} (h : ∀ f ∈ fs, (filter f).Settled) :
    (filter (.any fs)).Settled :=
  allowsMerged_stays.throughout_any h

/-! ## Rules -/

theorem settled_foldEquality {isEq : Bool} {c : Int64} {m n : Metric} (hm : (metric m).Settled)
    (h : m.foldEquality isEq c = some n) : (metric n).Settled := by
  cases m with
  | field f =>
    simp only [Metric.foldEquality, Option.some.injEq] at h
    subst h
    have has : (metric (.hasInt f c)).Settled := settled_of_parts_nil rfl rfl
    cases isEq
    · exact settled_iff.mpr ⟨rfl, by simpa [parts, Metric.subtract] using ⟨settled_constant 1, has⟩⟩
    · exact has
  | compare op l r =>
    obtain ⟨irreducible, hl, hr⟩ := settled_compare.mp hm
    simp only [Metric.foldEquality] at h
    by_cases keep : (c == if isEq then 1 else 0) = true
    · rw [if_pos keep] at h
      exact Option.some.inj h ▸ hm
    rw [if_neg keep] at h
    by_cases invert : (c == if isEq then 0 else 1) = true
    · rw [if_pos invert] at h
      exact Option.some.inj h ▸ settled_compare.mpr ⟨irreducible.negate, hl, hr⟩
    · rw [if_neg invert] at h
      exact Option.some.inj h ▸ settled_constant _
  | _ => simp [Metric.foldEquality] at h

theorem settled_other {l r : Metric} (hl : (metric l).Settled) (hr : (metric r).Settled)
    {e : Int64 × Metric} (h : Metric.literalAndOther? l r = some e) : (metric e.2).Settled := by
  unfold Metric.literalAndOther? at h
  split at h
  · exact Option.some.inj h ▸ hr
  · exact Option.some.inj h ▸ hl
  · cases h

theorem settled_foldCompare (op : Comparison) {l r : Metric} (hl : (metric l).Settled)
    (hr : (metric r).Settled) : (metric (.foldCompare op l r)).Settled := by
  by_cases literals : l.literal? = none ∨ r.literal? = none
  · rw [Metric.foldCompare_eq op l r literals]
    cases equality : equality? op with
    | none => exact settled_compare.mpr ⟨⟨literals, by simp [equality]⟩, hl, hr⟩
    | some isEq =>
      cases other : Metric.literalAndOther? l r with
      | none => exact settled_compare.mpr ⟨⟨literals, by simp [other]⟩, hl, hr⟩
      | some e =>
        cases folded : e.2.foldEquality isEq e.1 with
        | none =>
          simp only [Option.bind_some, folded, Option.getD_none]
          refine settled_compare.mpr ⟨⟨literals, fun _ e' he => ?_⟩, hl, hr⟩
          rw [other] at he
          exact Option.some.inj he ▸ Metric.foldEquality_eq_none.mp folded
        | some n =>
          simp only [Option.bind_some, folded, Option.getD_some]
          exact settled_foldEquality (settled_other hl hr other) folded
  · simp only [not_or, ← ne_eq, Option.ne_none_iff_exists'] at literals
    obtain ⟨⟨a, ha⟩, b, hb⟩ := literals
    rw [Metric.foldCompare_of_literals op ha hb]
    exact settled_constant _

/-- Comparisons apart, a rule for metrics leaves the node, one of its parts or a constant. -/
theorem fold_cases {m : Metric} (other : ∀ op l r, m ≠ .compare op l r) :
    m.fold = m ∨ metric m.fold ∈ (metric m).parts ∨ ∃ v, m.fold = .constant v := by
  cases m with
  | compare op l r => exact absurd rfl (other op l r)
  | arithmetic op l r =>
    rcases Metric.foldArithmetic_cases op l r with stays | left | right | constant
    · exact .inl stays
    · exact .inr (.inl (by simp [Metric.fold, left, parts]))
    · exact .inr (.inl (by simp [Metric.fold, right, parts]))
    · exact .inr (.inr constant)
  | ifThenElse c y n =>
    cases c with
    | always | never => exact .inr (.inl (by simp [Metric.fold, parts]))
    | _ =>
      simp only [Metric.fold]
      split
      · exact .inr (.inl (by simp [parts]))
      · exact .inl rfl
  | abs m =>
    cases m with
    | constant | count => exact .inr (.inr ⟨_, rfl⟩)
    | abs m => exact .inr (.inl (List.mem_singleton_self _))
    | _ => exact .inl rfl
  | negate m | signum m =>
    rw [Metric.fold]
    split
    · exact .inr (.inr ⟨_, rfl⟩)
    · exact .inl rfl
  | log m scale | exponentiate m scale =>
    rw [Metric.fold]
    split
    · split
      · exact .inr (.inr ⟨_, rfl⟩)
      · exact .inl rfl
    · exact .inl rfl
  | _ => exact .inl rfl

/-- A node that is rebuilt by a merging constructor. -/
def IsMerged : Node → Prop
  | .metric (.add _) => True
  | .metric (.least _) => True
  | .metric (.greatest _) => True
  | .filter (.and _) => True
  | .filter (.or _) => True
  | _ => False

/-- What a rule makes of a node with settled parts is settled. Merged nodes stay already. -/
theorem settled_fold {m : Metric} (h : ∀ part ∈ (metric m).parts, part.Settled)
    (merged : (metric m).IsMerged → (metric m).Stays) : (metric m.fold).Settled := by
  by_cases compare : ∃ op l r, m = .compare op l r
  · obtain ⟨op, l, r, rfl⟩ := compare
    exact settled_foldCompare op (h (metric l) (by simp [parts])) (h (metric r) (by simp [parts]))
  have other : ∀ op l r, m ≠ .compare op l r := by simpa only [not_exists] using compare
  rcases fold_cases other with same | part | ⟨v, constant⟩
  · rw [same]
    refine settled_iff.mpr ⟨?_, h⟩
    cases m with
    | compare op l r => exact absurd rfl (other op l r)
    | add | least | greatest => exact merged trivial
    | _ => exact same
  · exact h _ part
  · rw [constant]
    exact settled_constant v

theorem settled_foldCompareFilter_of_irreducible {op : Comparison} {l r : Metric}
    (irreducible : Irreducible op l r) (hl : (metric l).Settled) (hr : (metric r).Settled) :
    (filter (.foldCompare op l r)).Settled := by
  rw [Filter.foldCompare_of_irreducible irreducible]
  split
  · exact settled_ofBool _
  · exact settled_compareFilter.mpr ⟨irreducible, hl, hr⟩

theorem settled_equalityFilter {isEq : Bool} {c : Int64} {m : Metric} {f : Filter}
    (hm : (metric m).Settled) (h : m.equalityFilter isEq c = some f) : (filter f).Settled := by
  cases m with
  | field =>
    simp only [Metric.equalityFilter, Option.some.injEq] at h
    subst h
    cases isEq <;> exact settled_of_parts_nil rfl rfl
  | compare op l r =>
    obtain ⟨irreducible, hl, hr⟩ := settled_compare.mp hm
    rw [Metric.equalityFilter_compare] at h
    by_cases keep : (c == if isEq then 1 else 0) = true
    · rw [if_pos keep] at h
      exact Option.some.inj h ▸ settled_compareFilter.mpr ⟨irreducible, hl, hr⟩
    rw [if_neg keep] at h
    by_cases invert : (c == if isEq then 0 else 1) = true
    · rw [if_pos invert] at h
      exact Option.some.inj h ▸ settled_foldCompareFilter_of_irreducible irreducible.negate hl hr
    · rw [if_neg invert] at h
      exact Option.some.inj h ▸ settled_ofBool _
  | _ => simp [Metric.equalityFilter] at h

theorem settled_foldCompareFilter (op : Comparison) {l r : Metric} (hl : (metric l).Settled)
    (hr : (metric r).Settled) : (filter (.foldCompare op l r)).Settled := by
  by_cases irreducible : Irreducible op l r
  · exact settled_foldCompareFilter_of_irreducible irreducible hl hr
  by_cases literals : l.literal? = none ∨ r.literal? = none
  · rw [Filter.foldCompare_eq op l r literals]
    split
    · exact settled_ofBool _
    · simp only [Irreducible, literals, true_and, Classical.not_imp, Classical.not_forall,
        Classical.not_not] at irreducible
      obtain ⟨equality, e, other, equatable⟩ := irreducible
      obtain ⟨isEq, equality⟩ := Option.isSome_iff_exists.mp equality
      obtain ⟨f, folded⟩ : ∃ f, e.2.equalityFilter isEq e.1 = some f :=
        Option.ne_none_iff_exists'.mp fun none =>
          Metric.equalityFilter_eq_none.mp none equatable
      simp only [equality, other, Option.bind_some, folded, Option.getD_some]
      exact settled_equalityFilter (settled_other hl hr other) folded
  · simp only [not_or, ← ne_eq, Option.ne_none_iff_exists'] at literals
    obtain ⟨⟨a, ha⟩, b, hb⟩ := literals
    rw [Filter.foldCompare_of_literals op ha hb]
    exact settled_ofBool _

theorem settled_foldNot {f : Filter} (h : (filter f).Settled) : (filter f.foldNot).Settled := by
  cases f with
  | always => exact settled_never
  | never => exact settled_always
  | compare op l r =>
    obtain ⟨-, hl, hr⟩ := settled_compareFilter.mp h
    exact settled_foldCompareFilter op.negate hl hr
  | not f => exact h.part (List.mem_singleton_self _)
  | regex | notRegex | fieldIs | fieldIsnt => exact settled_of_parts_nil rfl rfl
  | _ => exact settled_iff.mpr ⟨rfl, List.forall_mem_singleton.mpr h⟩

theorem settled_foldBetween (field : FieldSet) (lower upper : Int64) (inclusive : Bool) :
    (filter (.foldBetween field lower upper inclusive)).Settled := by
  rcases Filter.foldBetween_cases field lower upper inclusive with
    stays | always | never | ⟨op, c, compared⟩
  · rw [stays]
    exact settled_of_parts_nil stays rfl
  · rw [always]
    exact settled_always
  · rw [never]
    exact settled_never
  · rw [compared]
    exact settled_foldCompareFilter op (settled_of_parts_nil rfl rfl) (settled_constant c)

/-- What a rule makes of a filter with settled parts is settled. Merged nodes stay already. -/
theorem settled_foldFilter {f : Filter} (h : ∀ part ∈ (filter f).parts, part.Settled)
    (merged : (filter f).IsMerged → (filter f).Stays) : (filter f.fold).Settled := by
  cases f with
  | and | or => exact settled_iff.mpr ⟨merged trivial, h⟩
  | compare op l r =>
    exact settled_foldCompareFilter op (h (metric l) (by simp [parts]))
      (h (metric r) (by simp [parts]))
  | not f => exact settled_foldNot (h (filter f) (by simp [parts]))
  | between field lower upper inclusive => exact settled_foldBetween field lower upper inclusive
  | intIn field terms | stringIn field terms =>
    rcases terms with _ | ⟨term, _ | ⟨next, rest⟩⟩ <;> exact settled_of_parts_nil rfl rfl
  | _ => exact settled_iff.mpr ⟨rfl, h⟩

/-- The simplified form of a node. -/
def simplify : Node → Node
  | metric m => metric m.simplify
  | filter f => filter f.simplify

/-- What simplification leaves behind is settled. -/
theorem settled_simplify (n : Node) : n.simplify.Settled := by
  induction n using Node.induction with
  | step n ih =>
    have single {m : Metric} (h : (metric m).parts = n.parts.map simplify)
        (free : ¬(metric m).IsMerged) : (metric m.fold).Settled :=
      settled_fold (by simpa [h] using ih) fun merged => absurd merged free
    have singleFilter {f : Filter} (h : (filter f).parts = n.parts.map simplify)
        (free : ¬(filter f).IsMerged) : (filter f.fold).Settled :=
      settled_foldFilter (by simpa [h] using ih) fun merged => absurd merged free
    cases n with
    | metric m =>
      have terms {ms : List Metric} (h : (metric m).parts = ms.map metric) :
          ∀ m ∈ ms.map Metric.simplify, (metric m).Settled :=
        List.forall_mem_map.mpr fun m hm => ih (metric m) (h ▸ List.mem_map_of_mem hm)
      cases m with
      | add ms =>
        have sum := settled_sum (terms rfl)
        rw [simplify, Metric.simplify_add]
        exact settled_fold (fun _ => sum.part) fun _ => sum.stays
      | least ms =>
        have extreme := settled_extreme .min (terms rfl)
        rw [simplify, Metric.simplify_least]
        exact settled_fold (fun _ => extreme.part) fun _ => extreme.stays
      | greatest ms =>
        have extreme := settled_extreme .max (terms rfl)
        rw [simplify, Metric.simplify_greatest]
        exact settled_fold (fun _ => extreme.part) fun _ => extreme.stays
      | perDataset ms =>
        rw [simplify, Metric.simplify_perDataset]
        exact single (m := .perDataset _) (by simp [parts, simplify]) id
      | _ =>
        rw [simplify, Metric.simplify, Metric.revise]
        exact single rfl id
    | filter f =>
      have operands {fs : List Filter} (h : (filter f).parts = fs.map filter) :
          ∀ f ∈ fs.map Filter.simplify, (filter f).Settled :=
        List.forall_mem_map.mpr fun f hf => ih (filter f) (h ▸ List.mem_map_of_mem hf)
      cases f with
      | and fs =>
        have all := settled_all (operands rfl)
        rw [simplify, Filter.simplify_and]
        exact settled_foldFilter (fun _ => all.part) fun _ => all.stays
      | or fs =>
        have any := settled_any (operands rfl)
        rw [simplify, Filter.simplify_or]
        exact settled_foldFilter (fun _ => any.part) fun _ => any.stays
      | _ =>
        rw [simplify, Filter.simplify, Filter.revise]
        exact singleFilter rfl id

end Node

end Groupwise.Doc
