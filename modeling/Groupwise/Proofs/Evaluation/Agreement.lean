import Groupwise.Aggregate.Nature
import Groupwise.Aggregate.Revision
import Groupwise.Evaluation.Lowering
import Groupwise.Proofs.Evaluation.Pointwise

/-!
# Walks and columns agree on unordered metrics

Nothing in an unordered metric without filters on terms asks for more than one group. So a walk over
terms may stand in for the columns of a regrouping, and the value of a group does not change with
what is known of the other groups.
-/
namespace Groupwise

variable {ν : Type} [Numeric ν]

namespace Lookups

/-- Look-ups of the same names that hold the same values at a group. -/
def AgreeAt (group : Nat) (a b : Lookups ν) : Prop :=
  ∀ name, (a.find? name).map (·.getD group Numeric.zero) =
    (b.find? name).map (·.getD group Numeric.zero)

omit [Numeric ν] in
theorem get_eq_ok {lookups : Lookups ν} {name : String} {values : List ν} :
    lookups.get name = .ok values ↔ lookups.find? name = some values := by
  unfold get
  split <;> simp_all

/-- What is found under a name in one of two agreeing look-ups has its like in the other. -/
theorem AgreeAt.exists_get {group : Nat} {a b : Lookups ν} (h : a.AgreeAt group b)
    {name : String} {values : List ν} (hget : a.get name = .ok values) :
    ∃ values', b.get name = .ok values' ∧
      values.getD group Numeric.zero = values'.getD group Numeric.zero := by
  have := h name
  rw [get_eq_ok.mp hget] at this
  obtain ⟨values', hfind, heq⟩ := Option.map_eq_some_iff.mp this.symm
  exact ⟨values', get_eq_ok.mpr hfind, heq.symm⟩

theorem AgreeAt.exists_mapM_get {group : Nat} {a b : Lookups ν} (h : a.AgreeAt group b)
    {names : List String} {columns : List (List ν)} (hget : names.mapM a.get = .ok columns) :
    ∃ columns', names.mapM b.get = .ok columns' ∧
      List.Forall₂ (fun a b => a.getD group Numeric.zero = b.getD group Numeric.zero)
        columns columns' := by
  induction names generalizing columns with
  | nil =>
    cases hget
    exact ⟨[], rfl, .nil⟩
  | cons name rest ih =>
    simp only [List.mapM_cons, bind_eq_ok, pure_eq_ok] at hget
    obtain ⟨values, hvalues, others, hothers, rfl⟩ := hget
    obtain ⟨values', hvalues', heq⟩ := h.exists_get hvalues
    obtain ⟨others', hothers', hall⟩ := ih hothers
    exact ⟨values' :: others', by simp [List.mapM_cons, bind_eq_ok, hvalues', hothers'],
      .cons heq hall⟩

end Lookups

namespace Evaluation

/-- Metrics that read the same programs and, once those are summed, have the same value at a group,
which that group determines. -/
def Metric.AgreeAt (group : Nat) (a b : Metric ν) : Prop :=
  a.reads = b.reads ∧ ∀ sum : Push → Option Nat → Option ν,
    (∀ push ∈ a.reads, (sum push none).isSome) →
      ∃ x, a.valueAt sum group = some x ∧ b.valueAt sum group = some x

/-- Filters that read the same programs and, once those are summed, both hold at a group or both do
not. -/
def Filter.AgreeAt (group : Nat) (a b : Filter ν) : Prop :=
  a.reads = b.reads ∧ ∀ sum : Push → Option Nat → Option ν,
    (∀ push ∈ a.reads, (sum push none).isSome) →
      ∃ t, a.holdsAt sum group = some t ∧ b.holdsAt sum group = some t

variable {group : Nat}

/-- A metric has a value at a group in a column over the table, and every visit of the group with
the sums that stand there gives the same value and notes nothing. -/
def Metric.Yields (table : List (List ν)) (count group : Nat) (m : Metric ν) (x : ν) : Prop :=
  (∃ values, m.column table count = .ok values ∧ values[group]? = some x) ∧
    ∀ term, m.visit ⟨term, group, table.map (·.getD group Numeric.zero)⟩ = (.ok x, m)

/-- A registered metric yields what its group determines. -/
theorem Metric.yields_of_valueAt {table : List (List ν)} {count group : Nat}
    (hg : group ≤ count) {index : Push → Option Nat} {m m' : Metric ν}
    (h : m.register index = .ok m') {x : ν}
    (hx : m.valueAt (fun push _ =>
      atPlace (table.map (·.getD group Numeric.zero)) push (index push)) group = some x) :
    m'.Yields table count group x := by
  rw [← Metric.valueAt_of_register h] at hx
  exact ⟨Metric.column_of_valueAt hg hx, fun _ => Metric.visit_of_valueAt hx⟩

theorem Metric.AgreeAt.function (f : Function) {m m' : Metric ν} (h : m.AgreeAt group m') :
    (Metric.function f m).AgreeAt group (.function f m') := by
  refine ⟨h.1, fun sum hsum => ?_⟩
  obtain ⟨x, hx, hx'⟩ := h.2 sum hsum
  exact ⟨Numeric.apply f x, by simp [valueAt, hx], by simp [valueAt, hx']⟩

theorem Metric.AgreeAt.calculate (op : Calculation) {l l' r r' : Metric ν}
    (hl : l.AgreeAt group l') (hr : r.AgreeAt group r') :
    (Metric.calculate op l r).AgreeAt group (.calculate op l' r') := by
  refine ⟨by simp [reads, hl.1, hr.1], fun sum hsum => ?_⟩
  simp only [reads, List.mem_append, or_imp, forall_and] at hsum
  obtain ⟨x, hx, hx'⟩ := hl.2 sum hsum.1
  obtain ⟨y, hy, hy'⟩ := hr.2 sum hsum.2
  exact ⟨Numeric.calculate op x y, by simp [valueAt, hx, hy], by simp [valueAt, hx', hy']⟩

theorem Metric.AgreeAt.ifThenElse {c c' : Filter ν} {y y' n n' : Metric ν}
    (hc : c.AgreeAt group c') (hy : y.AgreeAt group y') (hn : n.AgreeAt group n') :
    (Metric.ifThenElse c y n).AgreeAt group (.ifThenElse c' y' n') := by
  refine ⟨by simp [reads, hc.1, hy.1, hn.1], fun sum hsum => ?_⟩
  simp only [reads, List.mem_append, or_imp, forall_and] at hsum
  obtain ⟨t, ht, ht'⟩ := hc.2 sum hsum.1.1
  obtain ⟨a, ha, ha'⟩ := hy.2 sum hsum.1.2
  obtain ⟨b, hb, hb'⟩ := hn.2 sum hsum.2
  exact ⟨if t then a else b, by simp [valueAt, ha, hb, ht], by simp [valueAt, ha', hb', ht']⟩

/-- Lists of metrics that agree one by one have the same values. -/
theorem Metric.AgreeAt.all {ms ms' : List (Metric ν)}
    (h : List.Forall₂ (Metric.AgreeAt group) ms ms') :
    Metric.readsOfAll ms = Metric.readsOfAll ms' ∧
      ∀ sum : Push → Option Nat → Option ν,
        (∀ push ∈ Metric.readsOfAll ms, (sum push none).isSome) →
          ∃ xs, Metric.valuesAt sum group ms = some xs ∧
            Metric.valuesAt sum group ms' = some xs := by
  induction h with
  | nil => exact ⟨rfl, fun _ _ => ⟨[], rfl, rfl⟩⟩
  | cons hm _ ih =>
    refine ⟨by simp [readsOfAll, hm.1, ih.1], fun sum hsum => ?_⟩
    simp only [readsOfAll, List.mem_append, or_imp, forall_and] at hsum
    obtain ⟨x, hx, hx'⟩ := hm.2 sum hsum.1
    obtain ⟨xs, hxs, hxs'⟩ := ih.2 sum hsum.2
    exact ⟨x :: xs, by simp [valuesAt, hx, hxs], by simp [valuesAt, hx', hxs']⟩

theorem Metric.AgreeAt.least {ms ms' : List (Metric ν)}
    (h : List.Forall₂ (Metric.AgreeAt group) ms ms') :
    (Metric.least ms).AgreeAt group (.least ms') := by
  refine ⟨(Metric.AgreeAt.all h).1, fun sum hsum => ?_⟩
  obtain ⟨xs, hxs, hxs'⟩ := (Metric.AgreeAt.all h).2 sum hsum
  exact ⟨combineValues Numeric.least xs, by simp [valueAt, hxs], by simp [valueAt, hxs']⟩

theorem Metric.AgreeAt.greatest {ms ms' : List (Metric ν)}
    (h : List.Forall₂ (Metric.AgreeAt group) ms ms') :
    (Metric.greatest ms).AgreeAt group (.greatest ms') := by
  refine ⟨(Metric.AgreeAt.all h).1, fun sum hsum => ?_⟩
  obtain ⟨xs, hxs, hxs'⟩ := (Metric.AgreeAt.all h).2 sum hsum
  exact ⟨combineValues Numeric.greatest xs, by simp [valueAt, hxs], by simp [valueAt, hxs']⟩

theorem Metric.AgreeAt.constant (x : ν) : (Metric.constant x).AgreeAt group (.constant x) :=
  ⟨rfl, fun _ _ => ⟨x, rfl, rfl⟩⟩

theorem Metric.AgreeAt.documents (push : Push) :
    (Metric.documents push none).AgreeAt (ν := ν) group (.documents push none) := by
  refine ⟨rfl, fun sum hsum => ?_⟩
  obtain ⟨x, hx⟩ := Option.isSome_iff_exists.mp (hsum push List.mem_cons_self)
  exact ⟨x, hx, hx⟩

theorem Metric.AgreeAt.lookup {values values' : List ν}
    (h : values.getD group Numeric.zero = values'.getD group Numeric.zero) :
    (Metric.lookup values).AgreeAt group (.lookup values') :=
  ⟨rfl, fun _ _ => ⟨_, rfl, congrArg some h.symm⟩⟩

theorem Metric.AgreeAt.multiLookup {columns columns' : List (List ν)}
    (h : List.Forall₂ (fun a b => a.getD group Numeric.zero = b.getD group Numeric.zero)
      columns columns') :
    (Metric.multiLookup columns).AgreeAt group (.multiLookup columns') := by
  refine ⟨rfl, fun _ _ => ⟨_, rfl, congrArg some ?_⟩⟩
  cases h with
  | nil => rfl
  | cons first _ => exact first.symm

theorem Filter.AgreeAt.constant (b : Bool) :
    (Filter.constant b).AgreeAt (ν := ν) group (.constant b) :=
  ⟨rfl, fun _ _ => ⟨b, rfl, rfl⟩⟩

theorem Filter.AgreeAt.isDefaultGroup {keys keys' : GroupKeys}
    (h : keys.isDefault group = keys'.isDefault group) :
    (Filter.isDefaultGroup keys).AgreeAt (ν := ν) group (.isDefaultGroup keys') :=
  ⟨rfl, fun _ _ => ⟨_, rfl, congrArg some h.symm⟩⟩

theorem Filter.AgreeAt.compare (op : Comparison) {l l' r r' : Metric ν}
    (hl : l.AgreeAt group l') (hr : r.AgreeAt group r') :
    (Filter.compare op l r).AgreeAt group (.compare op l' r') := by
  refine ⟨by simp [reads, hl.1, hr.1], fun sum hsum => ?_⟩
  simp only [reads, List.mem_append, or_imp, forall_and] at hsum
  obtain ⟨x, hx, hx'⟩ := hl.2 sum hsum.1
  obtain ⟨y, hy, hy'⟩ := hr.2 sum hsum.2
  exact ⟨Numeric.compare op x y, by simp [holdsAt, hx, hy], by simp [holdsAt, hx', hy']⟩

theorem Filter.AgreeAt.not {f f' : Filter ν} (h : f.AgreeAt group f') :
    (Filter.not f).AgreeAt group (.not f') := by
  refine ⟨h.1, fun sum hsum => ?_⟩
  obtain ⟨t, ht, ht'⟩ := h.2 sum hsum
  exact ⟨!t, by simp [holdsAt, ht], by simp [holdsAt, ht']⟩

theorem Filter.AgreeAt.and {l l' r r' : Filter ν} (hl : l.AgreeAt group l')
    (hr : r.AgreeAt group r') : (Filter.and l r).AgreeAt group (.and l' r') := by
  refine ⟨by simp [reads, hl.1, hr.1], fun sum hsum => ?_⟩
  simp only [reads, List.mem_append, or_imp, forall_and] at hsum
  obtain ⟨s, hs, hs'⟩ := hl.2 sum hsum.1
  obtain ⟨t, ht, ht'⟩ := hr.2 sum hsum.2
  exact ⟨s && t, by simp [holdsAt, hs, ht], by simp [holdsAt, hs', ht']⟩

theorem Filter.AgreeAt.or {l l' r r' : Filter ν} (hl : l.AgreeAt group l')
    (hr : r.AgreeAt group r') : (Filter.or l r).AgreeAt group (.or l' r') := by
  refine ⟨by simp [reads, hl.1, hr.1], fun sum hsum => ?_⟩
  simp only [reads, List.mem_append, or_imp, forall_and] at hsum
  obtain ⟨s, hs, hs'⟩ := hl.2 sum hsum.1
  obtain ⟨t, ht, ht'⟩ := hr.2 sum hsum.2
  exact ⟨s || t, by simp [holdsAt, hs, ht], by simp [holdsAt, hs', ht']⟩

end Evaluation

namespace Aggregate

/-! ## Lowering -/

/-- Parts that are related one by one stay so when they are joined. -/
theorem joinAll_related {α : Type} {R : α → α → Prop} {join : α → α → α} {empty : α}
    (hempty : R empty empty)
    (hjoin : ∀ {a a' b b'}, R a a' → R b b' → R (join a b) (join a' b'))
    {parts parts' : List α} (h : List.Forall₂ R parts parts') :
    R (joinAll join empty parts) (joinAll join empty parts') := by
  cases h with
  | nil => exact hempty
  | @cons first first' rest rest' hfirst hrest =>
    show R (rest.foldl join first) (rest'.foldl join first')
    induction hrest generalizing first first' with
    | nil => exact hfirst
    | cons hnext _ ih => exact ih (hjoin hfirst hnext)

/-- The filters that stand in a metric itself, not in the metrics below it. -/
def Metric.conditions : Metric ν → List (Filter ν)
  | .ifThenElse c _ _ => [c]
  | .distinct _ x _ => x.toList
  | .fieldMin _ _ x => x.toList
  | .fieldMax _ _ x => x.toList
  | .bootstrap _ x _ _ _ _ => x.toList
  | .sumAcross (.terms _ x _ _ _) _ => x.toList
  | _ => []

/-- Whether a filter anywhere in a metric looks at the current term. -/
abbrev Metric.looksAtTerm (m : Metric ν) : Bool :=
  (m.collect Metric.conditions).any (·.isTermFilter)

abbrev Filter.looksAtTerm (f : Filter ν) : Bool :=
  f.isTermFilter || (f.collect Metric.conditions).any (·.isTermFilter)

variable {group : Nat} {known known' : Lookups ν} {keys keys' : GroupKeys}

mutual

/-- An unordered metric without filters on terms becomes ready for evaluation alike over look-ups
and groups that agree at one group, and that group determines its value there. -/
theorem Metric.agreeAt_lower (hknown : known.AgreeAt group known')
    (hkeys : keys.isDefault group = keys'.isDefault group) {m : Metric ν}
    (unordered : m.isOrdered = false) (termless : m.looksAtTerm = false)
    {e : Evaluation.Metric ν} (h : m.lower known keys = .ok e) :
    ∃ e', m.lower known' keys' = .ok e' ∧ e.AgreeAt group e' := by
  match m with
  | .constant v =>
    cases h
    exact ⟨_, rfl, .constant v⟩
  | .docStatsIn dataset m =>
    simp only [Metric.lower, bind_eq_ok, pure_eq_ok] at h
    obtain ⟨program, hprogram, rfl⟩ := h
    exact ⟨.documents ⟨dataset, program⟩ none, by simp [Metric.lower, hprogram],
      .documents _⟩
  | .lookup name =>
    simp only [Metric.lower, bind_eq_ok, pure_eq_ok] at h
    obtain ⟨values, hget, rfl⟩ := h
    obtain ⟨values', hget', heq⟩ := hknown.exists_get hget
    exact ⟨.lookup values', by simp [Metric.lower, hget'], .lookup heq⟩
  | .multiLookup names =>
    simp only [Metric.lower, bind_eq_ok, pure_eq_ok] at h
    obtain ⟨columns, hget, rfl⟩ := h
    obtain ⟨columns', hget', heq⟩ := hknown.exists_mapM_get hget
    exact ⟨.multiLookup columns', by simp [Metric.lower, hget'], .multiLookup heq⟩
  | .add ms =>
    simp only [Metric.lower, bind_eq_ok, pure_eq_ok] at h
    obtain ⟨es, hes, rfl⟩ := h
    simp only [Metric.looksAtTerm, Metric.collect, Metric.conditions, List.append_nil] at termless
    obtain ⟨es', hes', hagree⟩ := Metric.agreeAt_lowerAll hknown hkeys unordered termless hes
    exact ⟨_, by simp [Metric.lower, hes'],
      joinAll_related (.constant Numeric.zero) (.calculate .add) hagree⟩
  | .calculate op l r =>
    simp only [Metric.lower, bind_eq_ok, pure_eq_ok] at h
    obtain ⟨a, ha, b, hb, rfl⟩ := h
    simp only [Metric.isOrdered, Bool.or_eq_false_iff] at unordered
    simp only [Metric.looksAtTerm, Metric.collect, Metric.conditions, List.append_nil,
      List.any_append, Bool.or_eq_false_iff] at termless
    obtain ⟨a', ha', hl⟩ := Metric.agreeAt_lower hknown hkeys unordered.1 termless.1 ha
    obtain ⟨b', hb', hr⟩ := Metric.agreeAt_lower hknown hkeys unordered.2 termless.2 hb
    exact ⟨.calculate op a' b', by simp [Metric.lower, bind_eq_ok, ha', hb'], .calculate op hl hr⟩
  | .function .negate m =>
    simp only [Metric.lower, bind_eq_ok, pure_eq_ok] at h
    obtain ⟨a, ha, rfl⟩ := h
    simp only [Metric.looksAtTerm, Metric.collect, Metric.conditions, List.append_nil] at termless
    obtain ⟨a', ha', hm⟩ := Metric.agreeAt_lower (m := m) hknown hkeys unordered termless ha
    exact ⟨.calculate .subtract (.constant Numeric.zero) a', by simp [Metric.lower, ha'],
      .calculate .subtract (.constant Numeric.zero) hm⟩
  | .function .log m | .function .abs m | .function .floor m | .function .ceil m
  | .function .round m =>
    simp only [Metric.lower, bind_eq_ok, pure_eq_ok] at h
    obtain ⟨a, ha, rfl⟩ := h
    simp only [Metric.looksAtTerm, Metric.collect, Metric.conditions, List.append_nil] at termless
    obtain ⟨a', ha', hm⟩ := Metric.agreeAt_lower (m := m) hknown hkeys unordered termless ha
    exact ⟨_, by simp [Metric.lower, ha'], .function _ hm⟩
  | .least ms =>
    simp only [Metric.lower, bind_eq_ok, pure_eq_ok] at h
    obtain ⟨es, hes, rfl⟩ := h
    simp only [Metric.looksAtTerm, Metric.collect, Metric.conditions, List.append_nil] at termless
    obtain ⟨es', hes', hagree⟩ := Metric.agreeAt_lowerAll hknown hkeys unordered termless hes
    exact ⟨.least es', by simp [Metric.lower, hes'], .least hagree⟩
  | .greatest ms =>
    simp only [Metric.lower, bind_eq_ok, pure_eq_ok] at h
    obtain ⟨es, hes, rfl⟩ := h
    simp only [Metric.looksAtTerm, Metric.collect, Metric.conditions, List.append_nil] at termless
    obtain ⟨es', hes', hagree⟩ := Metric.agreeAt_lowerAll hknown hkeys unordered termless hes
    exact ⟨.greatest es', by simp [Metric.lower, hes'], .greatest hagree⟩
  | .ifThenElse c y n =>
    simp only [Metric.lower, bind_eq_ok, pure_eq_ok] at h
    obtain ⟨a, ha, b, hb, d, hd, rfl⟩ := h
    simp only [Metric.isOrdered, Bool.or_eq_false_iff] at unordered
    simp only [Metric.looksAtTerm, Metric.collect, Metric.conditions, List.any_append,
      List.any_cons, List.any_nil, Bool.or_false, Bool.or_eq_false_iff] at termless
    obtain ⟨⟨⟨inCondition, inYes⟩, inNo⟩, condition⟩ := termless
    obtain ⟨a', ha', hc⟩ := Filter.agreeAt_lower hknown hkeys unordered.1.1
      (Bool.or_eq_false_iff.mpr ⟨condition, inCondition⟩) ha
    obtain ⟨b', hb', hy⟩ := Metric.agreeAt_lower hknown hkeys unordered.1.2 inYes hb
    obtain ⟨d', hd', hn⟩ := Metric.agreeAt_lower hknown hkeys unordered.2 inNo hd
    exact ⟨.ifThenElse a' b' d', by simp [Metric.lower, bind_eq_ok, ha', hb', hd'],
      .ifThenElse hc hy hn⟩
  | .lag .. | .iterateLag .. | .window .. | .running .. => cases unordered
  | .reference _ | .docStats _ | .parent _ | .distinct .. | .percentile .. | .fieldMin ..
  | .fieldMax .. | .sumAcross .. | .qualified .. | .named .. | .bootstrap .. | .average _ =>
    simp [Metric.lower, notLowered] at h

theorem Metric.agreeAt_lowerAll (hknown : known.AgreeAt group known')
    (hkeys : keys.isDefault group = keys'.isDefault group) {ms : List (Metric ν)}
    (unordered : Metric.someOrdered ms = false)
    (termless : (Metric.collectAll Metric.conditions ms).any (·.isTermFilter) = false)
    {es : List (Evaluation.Metric ν)} (h : Metric.lowerAll known keys ms = .ok es) :
    ∃ es', Metric.lowerAll known' keys' ms = .ok es' ∧
      List.Forall₂ (Evaluation.Metric.AgreeAt group) es es' := by
  match ms with
  | [] =>
    cases h
    exact ⟨_, rfl, .nil⟩
  | m :: rest =>
    simp only [Metric.lowerAll, bind_eq_ok, pure_eq_ok] at h
    obtain ⟨e, he, others, hothers, rfl⟩ := h
    simp only [Metric.someOrdered, Bool.or_eq_false_iff] at unordered
    simp only [Metric.collectAll, List.any_append, Bool.or_eq_false_iff] at termless
    obtain ⟨e', he', hm⟩ := Metric.agreeAt_lower hknown hkeys unordered.1 termless.1 he
    obtain ⟨others', hothers', hrest⟩ :=
      Metric.agreeAt_lowerAll hknown hkeys unordered.2 termless.2 hothers
    exact ⟨e' :: others', by simp [Metric.lowerAll, bind_eq_ok, he', hothers'], .cons hm hrest⟩

theorem Filter.agreeAt_lower (hknown : known.AgreeAt group known')
    (hkeys : keys.isDefault group = keys'.isDefault group) {f : Filter ν}
    (unordered : f.isOrdered = false) (termless : f.looksAtTerm = false)
    {e : Evaluation.Filter ν} (h : f.lower known keys = .ok e) :
    ∃ e', f.lower known' keys' = .ok e' ∧ e.AgreeAt group e' := by
  match f with
  | .always =>
    cases h
    exact ⟨_, rfl, .constant true⟩
  | .never =>
    cases h
    exact ⟨_, rfl, .constant false⟩
  | .isDefaultGroup =>
    cases h
    exact ⟨_, rfl, .isDefaultGroup hkeys⟩
  | .compare op l r =>
    simp only [Filter.lower, bind_eq_ok, pure_eq_ok] at h
    obtain ⟨a, ha, b, hb, rfl⟩ := h
    simp only [Filter.isOrdered, Bool.or_eq_false_iff] at unordered
    simp only [Filter.looksAtTerm, Filter.collect, Filter.isTermFilter, List.any_append,
      Bool.or_eq_false_iff] at termless
    obtain ⟨a', ha', hl⟩ := Metric.agreeAt_lower hknown hkeys unordered.1 termless.2.1 ha
    obtain ⟨b', hb', hr⟩ := Metric.agreeAt_lower hknown hkeys unordered.2 termless.2.2 hb
    exact ⟨.compare op a' b', by simp [Filter.lower, bind_eq_ok, ha', hb'], .compare op hl hr⟩
  | .and fs =>
    simp only [Filter.lower, bind_eq_ok, pure_eq_ok] at h
    obtain ⟨es, hes, rfl⟩ := h
    obtain ⟨es', hes', hagree⟩ := Filter.agreeAt_lowerAll hknown hkeys unordered termless hes
    exact ⟨_, by simp [Filter.lower, hes'], joinAll_related (.constant true) .and hagree⟩
  | .or fs =>
    simp only [Filter.lower, bind_eq_ok, pure_eq_ok] at h
    obtain ⟨es, hes, rfl⟩ := h
    obtain ⟨es', hes', hagree⟩ := Filter.agreeAt_lowerAll hknown hkeys unordered termless hes
    exact ⟨_, by simp [Filter.lower, hes'], joinAll_related (.constant false) .or hagree⟩
  | .not f =>
    simp only [Filter.lower, bind_eq_ok, pure_eq_ok] at h
    obtain ⟨a, ha, rfl⟩ := h
    obtain ⟨a', ha', hf⟩ := Filter.agreeAt_lower (f := f) hknown hkeys unordered termless ha
    exact ⟨.not a', by simp [Filter.lower, ha'], .not hf⟩
  | .termIs _ | .termRegex _ | .regex .. => cases termless

theorem Filter.agreeAt_lowerAll (hknown : known.AgreeAt group known')
    (hkeys : keys.isDefault group = keys'.isDefault group) {fs : List (Filter ν)}
    (unordered : Filter.someOrdered fs = false)
    (termless : (Filter.someTermFilter fs ||
      (Filter.collectAll Metric.conditions fs).any (·.isTermFilter)) = false)
    {es : List (Evaluation.Filter ν)} (h : Filter.lowerAll known keys fs = .ok es) :
    ∃ es', Filter.lowerAll known' keys' fs = .ok es' ∧
      List.Forall₂ (Evaluation.Filter.AgreeAt group) es es' := by
  match fs with
  | [] =>
    cases h
    exact ⟨_, rfl, .nil⟩
  | f :: rest =>
    simp only [Filter.lowerAll, bind_eq_ok, pure_eq_ok] at h
    obtain ⟨e, he, others, hothers, rfl⟩ := h
    simp only [Filter.someOrdered, Bool.or_eq_false_iff] at unordered
    simp only [Filter.someTermFilter, Filter.collectAll, List.any_append,
      Bool.or_eq_false_iff] at termless
    obtain ⟨⟨first, others'⟩, inFirst, inOthers⟩ := termless
    obtain ⟨e', he', hf⟩ := Filter.agreeAt_lower hknown hkeys unordered.1
      (Bool.or_eq_false_iff.mpr ⟨first, inFirst⟩) he
    obtain ⟨rest', hrest', hrest⟩ := Filter.agreeAt_lowerAll hknown hkeys unordered.2
      (Bool.or_eq_false_iff.mpr ⟨others', inOthers⟩) hothers
    exact ⟨e' :: rest', by simp [Filter.lowerAll, bind_eq_ok, he', hrest'], .cons hf hrest⟩

end

omit [Numeric ν] in
/-- Every program with a place in the table has a sum at each group. -/
theorem isSome_atPlace {index : Evaluation.Push → Option Nat} {sums : List ν}
    {push : Evaluation.Push} (h : ∃ i, index push = some i ∧ i < sums.length) :
    (Evaluation.atPlace sums push (index push)).isSome := by
  obtain ⟨i, hi, hlt⟩ := h
  simp [Evaluation.atPlace, hi, hlt]

/-- Walks and columns agree on an unordered metric without filters on terms, once it is ready for
evaluation and the programs that it reads have places in the table: a visit of a group gives the
value that the column has there and leaves the metric as it was. The value stays the same over every
table, look-ups and groups that agree at that group. -/
theorem Metric.yields_lower_of_unordered {m : Metric ν} (unordered : m.isOrdered = false)
    (termless : m.looksAtTerm = false) {known : Lookups ν} {keys : GroupKeys}
    {e : Evaluation.Metric ν} (lowered : m.lower known keys = .ok e)
    {index : Evaluation.Push → Option Nat} {width : Nat}
    (placed : ∀ push ∈ e.reads, ∃ i, index push = some i ∧ i < width) :
    ∃ ready, e.register index = .ok ready ∧
      ∀ (table : List (List ν)) (count group : Nat), table.length = width → group ≤ count →
        ∃ x, ready.Yields table count group x ∧
          ∀ (known' : Lookups ν) (keys' : GroupKeys) (table' : List (List ν)) (count' : Nat),
            known.AgreeAt group known' → keys.isDefault group = keys'.isDefault group →
            table'.map (·.getD group Numeric.zero) = table.map (·.getD group Numeric.zero) →
            group ≤ count' →
            ∃ e' ready', m.lower known' keys' = .ok e' ∧ e'.register index = .ok ready' ∧
              ready'.Yields table' count' group x := by
  have indexed : ∀ push ∈ e.reads, (index push).isSome := fun push hpush => by
    obtain ⟨i, hi, -⟩ := placed push hpush
    simp [hi]
  obtain ⟨ready, hready⟩ := Evaluation.Metric.exists_register indexed
  refine ⟨ready, hready, fun table count group hwidth hg => ?_⟩
  have summed : ∀ push ∈ e.reads,
      (Evaluation.atPlace (table.map (·.getD group Numeric.zero)) push (index push)).isSome :=
    fun push hpush => isSome_atPlace (by simpa [hwidth] using placed push hpush)
  -- Over the same look-ups and groups, the metric agrees with itself.
  obtain ⟨_, -, -, same⟩ :=
    Metric.agreeAt_lower (fun _ => rfl) rfl unordered termless lowered
  obtain ⟨x, hx, -⟩ := same (fun push _ => Evaluation.atPlace _ push (index push)) summed
  refine ⟨x, Evaluation.Metric.yields_of_valueAt hg hready hx, ?_⟩
  intro known' keys' table' count' hknown hkeys htable hg'
  obtain ⟨e', lowered', hreads, hagree⟩ :=
    Metric.agreeAt_lower hknown hkeys unordered termless lowered
  obtain ⟨ready', hready'⟩ := Evaluation.Metric.exists_register (hreads ▸ indexed)
  obtain ⟨y, hy, hy'⟩ := hagree (fun push _ => Evaluation.atPlace _ push (index push)) summed
  obtain rfl : x = y := Option.some.inj (hx.symm.trans hy)
  exact ⟨e', ready', lowered', hready',
    Evaluation.Metric.yields_of_valueAt hg' hready' (htable ▸ hy')⟩

/-- The documents above a known number, in all groups but the default one. -/
theorem yields_excess_over_lookup :
    let m : Metric Float := .ifThenElse
      (.and [.not .isDefaultGroup, .compare .gt (.docStatsIn "ads" .count) (.lookup "usual")])
      (.calculate .subtract (.docStatsIn "ads" .count) (.lookup "usual")) (.constant 0)
    let index := Evaluation.indexIn [⟨"ads", ["count()"]⟩]
    ∃ e ready, m.lower [("usual", [0, 3, 8])] .root = .ok e ∧ e.register index = .ok ready ∧
      ∃ x, ready.Yields [[0, 5, 2]] 2 1 x := by
  intro m index
  have lowered : m.lower [("usual", [0, 3, 8])] .root = .ok (.ifThenElse
      (.and (.not (.isDefaultGroup .root))
        (.compare .gt (.documents ⟨"ads", ["count()"]⟩ none) (.lookup [0, 3, 8])))
      (.calculate .subtract (.documents ⟨"ads", ["count()"]⟩ none) (.lookup [0, 3, 8]))
      (.constant 0)) := by
    simp only [m, Metric.lower, Filter.lower, Filter.lowerAll, Doc.Metric.pushes]
    rfl
  obtain ⟨ready, hready, agrees⟩ :=
    @Metric.yields_lower_of_unordered Float _ m rfl rfl _ _ _ lowered index 1 (by
      intro push hpush
      obtain rfl : push = ⟨"ads", ["count()"]⟩ := by
        simpa [Evaluation.Metric.reads, Evaluation.Filter.reads] using hpush
      exact ⟨0, by decide⟩)
  obtain ⟨x, hx, -⟩ := agrees [[0, 5, 2]] 2 1 rfl (by decide)
  exact ⟨_, ready, lowered, hready, x, hx⟩

end Aggregate
end Groupwise
