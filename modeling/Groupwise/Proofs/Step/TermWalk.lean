import Groupwise.Evaluation.Lowering
import Groupwise.Proofs.Aggregate.Combination
import Groupwise.Proofs.Doc.Programs
import Groupwise.Proofs.Evaluation.Exact
import Groupwise.Proofs.Evaluation.SiblingColumns
import Groupwise.Proofs.Evaluation.Walks
import Groupwise.Step.Merging

/-!
# A walk in place of a regrouping by listed terms

A last regrouping by a list of terms is merged with the numbers selected after it into one walk.
Lags and running sums are made to follow the walk, and then a visit gives what the column of the
child group would have held. Windows are not, and a walk gives something else for them.
-/
namespace Groupwise.Aggregate

variable {ν : Type}

mutual

/-- The metrics of constants, sums of programs and arithmetic that look back by nothing but lags and
running sums up to the group itself. -/
def Metric.looksBack : Metric ν → Bool
  | .constant _ => true
  | .docStatsIn .. => true
  | .add ms => Metric.allLookBack ms
  | .calculate _ l r => l.looksBack && r.looksBack
  | .function _ m => m.looksBack
  | .least ms => Metric.allLookBack ms
  | .greatest ms => Metric.allLookBack ms
  | .lag _ m => m.looksBack
  | .running offset m => offset == 1 && m.looksBack
  | .docStats _ => false
  | .parent _ => false
  | .iterateLag .. => false
  | .window .. => false
  | .distinct .. => false
  | .percentile .. => false
  | .fieldMin .. => false
  | .fieldMax .. => false
  | .sumAcross .. => false
  | .lookup _ => false
  | .multiLookup _ => false
  | .ifThenElse .. => false
  | .qualified .. => false
  | .named .. => false
  | .reference _ => false
  | .bootstrap .. => false
  | .average _ => false

def Metric.allLookBack : List (Metric ν) → Bool
  | [] => true
  | m :: rest => m.looksBack && Metric.allLookBack rest

end

/-- The document metrics whose sums in one dataset a metric asks for itself. -/
def Metric.summed : Metric ν → List (String × Doc.Metric)
  | .docStatsIn dataset m => [(dataset, m)]
  | _ => []

variable [Numeric ν]

/-! ## Joined metrics -/

theorem upTo_joinAll {op : Calculation} {empty : ν}
    {sum : Evaluation.Push → Option Nat → Nat → ν} {placed : Evaluation.Push → Option Nat → Prop}
    {visited : Nat → List Nat} {es : List (Evaluation.Metric ν)} :
    (joinAll (.calculate op) (.constant empty) es).UpTo sum placed visited ↔
      ∀ e ∈ es, e.UpTo sum placed visited := by
  match es with
  | [] => exact ⟨fun _ => nofun, fun _ => trivial⟩
  | first :: rest =>
    show (rest.foldl (Evaluation.Metric.calculate op) first).UpTo sum placed visited ↔ _
    induction rest generalizing first with
    | nil => simp
    | cons next rest ih =>
      rw [List.foldl_cons, ih]
      simp [Evaluation.Metric.UpTo, and_assoc]

omit [Numeric ν] in
theorem columnar_joinAll {op : Calculation} {empty : ν} {keys : GroupKeys}
    {placed : Evaluation.Push → Option Nat → Prop} {es : List (Evaluation.Metric ν)}
    (h : ∀ e ∈ es, e.Columnar keys placed) :
    (joinAll (.calculate op) (.constant empty) es).Columnar keys placed := by
  match es with
  | [] => trivial
  | first :: rest =>
    obtain ⟨hfirst, hrest⟩ := List.forall_mem_cons.mp h
    show (rest.foldl (Evaluation.Metric.calculate op) first).Columnar keys placed
    clear h
    induction rest generalizing first with
    | nil => exact hfirst
    | cons next rest ih =>
      obtain ⟨hnext, hrest⟩ := List.forall_mem_cons.mp hrest
      exact ih (.calculate op first next) ⟨hfirst, hnext⟩ hrest

theorem valueAlong_joinAll (sum : Evaluation.Push → Option Nat → Nat → ν)
    (es : List (Evaluation.Metric ν)) (past : List Nat) :
    (joinAll (.calculate .add) (.constant Numeric.zero) es).valueAlong sum past =
      Evaluation.combineValues Numeric.add (es.map (·.valueAlong sum past)) := by
  match es with
  | [] => rfl
  | first :: rest =>
    show (rest.foldl (Evaluation.Metric.calculate .add) first).valueAlong sum past =
      (rest.map (·.valueAlong sum past)).foldl Numeric.add (first.valueAlong sum past)
    induction rest generalizing first with
    | nil => rfl
    | cons next rest ih => exact ih (.calculate .add first next)

/-! ## Metrics that are ready for a walk -/

/-- A metric that can be lowered for a walk and starts with nothing seen. -/
def Metric.Walks (known : Lookups ν) (keys : GroupKeys) (m : Metric ν) : Prop :=
  ∃ e, m.lower known keys = .ok e ∧
    ∀ sum, e.UpTo sum Evaluation.anyPlace (fun _ => [])

/-- What a metric gives along the children of a group. -/
def Metric.along (source : Evaluation.Push → Nat → ν) (known : Lookups ν) (keys : GroupKeys)
    (m : Metric ν) (past : List Nat) : ν :=
  match m.lower known keys with
  | .ok e => e.valueAlong (fun push _ => source push) past
  | .error _ => Numeric.zero

section Walks

variable {source : Evaluation.Push → Nat → ν} {known : Lookups ν} {keys : GroupKeys}
  {m l r : Metric ν} {ms : List (Metric ν)}

theorem along_of_lower {e : Evaluation.Metric ν} (h : m.lower known keys = .ok e) :
    m.along source known keys = e.valueAlong (fun push _ => source push) := by
  funext past
  simp only [Metric.along, h]

theorem walks_constant (v : ν) : (Metric.constant v).Walks known keys := ⟨_, rfl, fun _ => trivial⟩

theorem along_constant (v : ν) (past : List Nat) :
    (Metric.constant v).along source known keys past = v := rfl

theorem walks_calculate (op : Calculation) (hl : l.Walks known keys) (hr : r.Walks known keys) :
    (Metric.calculate op l r).Walks known keys ∧
      (Metric.calculate op l r).along source known keys = fun past =>
        Numeric.calculate op (l.along source known keys past) (r.along source known keys past) := by
  obtain ⟨a, ha, freshLeft⟩ := hl
  obtain ⟨b, hb, freshRight⟩ := hr
  have lowered : (Metric.calculate op l r).lower known keys = .ok (.calculate op a b) := by
    simp [Metric.lower, bind_eq_ok, ha, hb]
  refine ⟨⟨_, lowered, fun sum => ⟨freshLeft sum, freshRight sum⟩⟩, ?_⟩
  rw [along_of_lower lowered, along_of_lower ha, along_of_lower hb]
  rfl

theorem walks_lag (distance : Nat) (hm : m.Walks known keys) :
    (Metric.iterateLag distance m).Walks known keys ∧
      (Metric.iterateLag distance m).along source known keys = fun past =>
        ((Evaluation.series (m.along source known keys) past)[distance]?).getD Numeric.zero := by
  obtain ⟨a, ha, fresh⟩ := hm
  have lowered : (Metric.iterateLag distance m).lower known keys =
      .ok (.iterateLag distance a []) := by
    simp [Metric.lower, ha]
  refine ⟨⟨_, lowered, fun sum => ⟨fresh sum, fun _ => by simp [Evaluation.series]; rfl⟩⟩, ?_⟩
  rw [along_of_lower lowered, along_of_lower ha]
  rfl

theorem walks_running (offset : Int64) (hm : m.Walks known keys) :
    (Metric.running offset m).Walks known keys ∧
      (Metric.running offset m).along source known keys = fun past =>
        Evaluation.accumulate (Evaluation.series (m.along source known keys) past) := by
  obtain ⟨a, ha, fresh⟩ := hm
  have lowered : (Metric.running offset m).lower known keys = .ok (.running offset a keys []) := by
    simp [Metric.lower, ha]
  refine ⟨⟨_, lowered, fun sum => ⟨fresh sum, fun _ => rfl⟩⟩, ?_⟩
  rw [along_of_lower lowered, along_of_lower ha]
  rfl

/-- A function of a metric as it is lowered: a negation becomes a difference. -/
def lowerFunction : Function → Evaluation.Metric ν → Evaluation.Metric ν
  | .negate, e => .calculate .subtract (.constant Numeric.zero) e
  | f, e => .function f e

theorem lower_function {f : Function} {e : Evaluation.Metric ν} :
    (Metric.function f m).lower known keys = .ok e ↔
      ∃ a, m.lower known keys = .ok a ∧ lowerFunction f a = e := by
  cases f <;> simp only [Metric.lower, bind_eq_ok, pure_eq_ok, lowerFunction]

theorem walks_function (f : Function) (hm : m.Walks known keys) :
    (Metric.function f m).Walks known keys := by
  obtain ⟨a, ha, fresh⟩ := hm
  refine ⟨lowerFunction f a, lower_function.mpr ⟨a, ha, rfl⟩, fun sum => ?_⟩
  cases f with
  | negate => exact ⟨trivial, fresh sum⟩
  | _ => exact fresh sum

theorem valueAlong_lowerFunction {a b : Evaluation.Metric ν}
    {sum sum' : Evaluation.Push → Option Nat → Nat → ν} (f : Function)
    (h : a.valueAlong sum = b.valueAlong sum') :
    (lowerFunction f a).valueAlong sum = (lowerFunction f b).valueAlong sum' := by
  funext past
  cases f <;> simp only [lowerFunction, Evaluation.Metric.valueAlong, h]

/-- A list of metrics that are ready for a walk is lowered one by one. -/
theorem exists_lowerAll (source : Evaluation.Push → Nat → ν)
    (h : ∀ m ∈ ms, m.Walks known keys) :
    ∃ es, Metric.lowerAll known keys ms = .ok es ∧
      (∀ sum, ∀ e ∈ es, e.UpTo sum Evaluation.anyPlace (fun _ => [])) ∧
      ∀ past, es.map (·.valueAlong (fun push _ => source push) past) =
        ms.map (·.along source known keys past) := by
  induction ms with
  | nil => exact ⟨[], rfl, fun _ => nofun, fun _ => rfl⟩
  | cons m rest ih =>
    obtain ⟨⟨e, he, fresh⟩, hrest⟩ := List.forall_mem_cons.mp h
    obtain ⟨es, hes, freshRest, values⟩ := ih hrest
    refine ⟨e :: es, by simp [Metric.lowerAll, bind_eq_ok, he, hes],
      fun sum => List.forall_mem_cons.mpr ⟨fresh sum, freshRest sum⟩, fun past => ?_⟩
    rw [List.map_cons, List.map_cons, values, along_of_lower he]

theorem mem_of_lowerAll {es : List (Evaluation.Metric ν)}
    (h : Metric.lowerAll known keys ms = .ok es) :
    ∀ m ∈ ms, ∃ e ∈ es, m.lower known keys = .ok e := by
  induction ms generalizing es with
  | nil => exact nofun
  | cons m rest ih =>
    simp only [Metric.lowerAll, bind_eq_ok, pure_eq_ok] at h
    obtain ⟨e, he, others, hothers, rfl⟩ := h
    refine List.forall_mem_cons.mpr ⟨⟨e, List.mem_cons_self, he⟩, fun n hn => ?_⟩
    obtain ⟨e', he', hlower⟩ := ih hothers n hn
    exact ⟨e', List.mem_cons_of_mem _ he', hlower⟩

theorem walks_least (h : ∀ m ∈ ms, m.Walks known keys) :
    (Metric.least ms).Walks known keys ∧
      (Metric.least ms).along source known keys = fun past =>
        Evaluation.combineValues Numeric.least (ms.map (·.along source known keys past)) := by
  obtain ⟨es, hes, fresh, values⟩ := exists_lowerAll source h
  have lowered : (Metric.least ms).lower known keys = .ok (.least es) := by
    simp [Metric.lower, hes]
  refine ⟨⟨_, lowered, fun sum => Evaluation.Metric.allUpTo_iff.mpr (fresh sum)⟩, ?_⟩
  rw [along_of_lower lowered]
  funext past
  rw [← values, ← Evaluation.Metric.valuesAlong_eq_map]
  rfl

theorem walks_greatest (h : ∀ m ∈ ms, m.Walks known keys) :
    (Metric.greatest ms).Walks known keys ∧
      (Metric.greatest ms).along source known keys = fun past =>
        Evaluation.combineValues Numeric.greatest (ms.map (·.along source known keys past)) := by
  obtain ⟨es, hes, fresh, values⟩ := exists_lowerAll source h
  have lowered : (Metric.greatest ms).lower known keys = .ok (.greatest es) := by
    simp [Metric.lower, hes]
  refine ⟨⟨_, lowered, fun sum => Evaluation.Metric.allUpTo_iff.mpr (fresh sum)⟩, ?_⟩
  rw [along_of_lower lowered]
  funext past
  rw [← values, ← Evaluation.Metric.valuesAlong_eq_map]
  rfl

/-! ## Following a walk -/

/-- The rule that makes lags and running sums follow a walk. -/
def followWalk : Metric ν → Metric ν
  | .running offset m => .running (Step.pred offset) m
  | .lag distance m => .iterateLag distance m
  | m => m

theorem alongTerms_eq (m : Metric ν) : Step.alongTerms m = m.revise { metric := followWalk } := rfl

/-- A metric that is ready for a walk gives the same once more is done to make it follow. -/
theorem walks_followWalk (source : Evaluation.Push → Nat → ν) (h : m.Walks known keys) :
    (followWalk m).Walks known keys ∧
      (followWalk m).along source known keys = m.along source known keys := by
  match m with
  | .running offset m =>
    obtain ⟨e, he, fresh⟩ := h
    simp only [Metric.lower, bind_eq_ok, pure_eq_ok] at he
    obtain ⟨a, ha, rfl⟩ := he
    have inner : m.Walks known keys := ⟨a, ha, fun sum => (fresh sum).1⟩
    obtain ⟨ready, same⟩ := walks_running (Step.pred offset) inner
    exact ⟨ready, same.trans (walks_running offset inner).2.symm⟩
  | .lag distance m =>
    obtain ⟨e, he, fresh⟩ := h
    simp only [Metric.lower, bind_eq_ok, pure_eq_ok] at he
    obtain ⟨a, ha, rfl⟩ := he
    exact (fresh fun _ _ _ => Numeric.zero).elim
  | .add _ | .calculate .. | .function .. | .docStats _ | .docStatsIn .. | .parent _
  | .iterateLag .. | .window .. | .distinct .. | .percentile .. | .fieldMin .. | .fieldMax ..
  | .sumAcross .. | .lookup _ | .multiLookup _ | .ifThenElse .. | .least _ | .greatest _
  | .qualified .. | .named .. | .reference _ | .bootstrap .. | .constant _ | .average _ =>
    exact ⟨h, rfl⟩

/-! ## Sums -/

theorem walks_add : (Metric.add ms).Walks known keys ↔ ∀ m ∈ ms, m.Walks known keys := by
  constructor
  · rintro ⟨e, he, fresh⟩ m hm
    simp only [Metric.lower, bind_eq_ok, pure_eq_ok] at he
    obtain ⟨es, hes, rfl⟩ := he
    obtain ⟨e, hmem, hlower⟩ := mem_of_lowerAll hes m hm
    exact ⟨e, hlower, fun sum => upTo_joinAll.mp (fresh sum) e hmem⟩
  · intro h
    obtain ⟨es, hes, fresh, -⟩ := exists_lowerAll (fun _ _ => Numeric.zero) h
    exact ⟨joinAll (.calculate .add) (.constant Numeric.zero) es, by simp [Metric.lower, hes],
      fun sum => upTo_joinAll.mpr (fresh sum)⟩

variable [ExactSums ν]

theorem along_add (h : ∀ m ∈ ms, m.Walks known keys) (past : List Nat) :
    (Metric.add ms).along source known keys past =
      Numeric.total (ms.map (·.along source known keys past)) := by
  obtain ⟨es, hes, -, values⟩ := exists_lowerAll source h
  have lowered : (Metric.add ms).lower known keys =
      .ok (joinAll (.calculate .add) (.constant Numeric.zero) es) := by
    simp [Metric.lower, hes]
  rw [along_of_lower lowered, valueAlong_joinAll, values, Numeric.combineValues_add]

theorem total_singleton (a : ν) : Numeric.total [a] = a := Numeric.add_zero a

mutual

/-- The summands of a metric are ready for a walk if it is, and add up to it. -/
theorem walks_summands (source : Evaluation.Push → Nat → ν) {m : Metric ν}
    (h : m.Walks known keys) :
    (∀ s ∈ Metric.summands m, s.Walks known keys) ∧ ∀ past,
      Numeric.total ((Metric.summands m).map (·.along source known keys past)) =
        m.along source known keys past := by
  match m with
  | .add ms =>
    obtain ⟨ready, sums⟩ := walks_summandsOfAll source (walks_add.mp h)
    exact ⟨ready, fun past => by rw [along_add (walks_add.mp h), ← sums]; rfl⟩
  | .calculate .. | .function .. | .docStats _ | .docStatsIn .. | .parent _ | .lag ..
  | .iterateLag .. | .window .. | .running .. | .distinct .. | .percentile .. | .fieldMin ..
  | .fieldMax .. | .sumAcross .. | .lookup _ | .multiLookup _ | .ifThenElse .. | .least _
  | .greatest _ | .qualified .. | .named .. | .reference _ | .bootstrap .. | .constant _
  | .average _ =>
    exact ⟨by simpa [Metric.summands] using h, fun past => by
      simp [Metric.summands, total_singleton]⟩

theorem walks_summandsOfAll (source : Evaluation.Push → Nat → ν) {ms : List (Metric ν)}
    (h : ∀ m ∈ ms, m.Walks known keys) :
    (∀ s ∈ Metric.summandsOfAll ms, s.Walks known keys) ∧ ∀ past,
      Numeric.total ((Metric.summandsOfAll ms).map (·.along source known keys past)) =
        Numeric.total (ms.map (·.along source known keys past)) := by
  match ms with
  | [] => exact ⟨nofun, fun _ => rfl⟩
  | m :: rest =>
    obtain ⟨hm, hrest⟩ := List.forall_mem_cons.mp h
    obtain ⟨readyFirst, first⟩ := walks_summands source hm
    obtain ⟨readyRest, others⟩ := walks_summandsOfAll source hrest
    refine ⟨List.forall_mem_append.mpr ⟨readyFirst, readyRest⟩, fun past => ?_⟩
    rw [Metric.summandsOfAll, List.map_append, Numeric.total_append, first, others]
    rfl

end

omit [ExactSums ν] in
/-- Constants gathered from a list of terms add up to what they contribute to it. -/
theorem along_constants (source : Evaluation.Push → Nat → ν) (terms : List (Metric ν))
    (past : List Nat) :
    (terms.filter (!·.constant?.isNone)).map (·.along source known keys past) =
      terms.filterMap Metric.constant? := by
  induction terms with
  | nil => rfl
  | cons m rest ih =>
    cases hm : m.constant? with
    | none => simpa [List.filter_cons, List.filterMap_cons, hm] using ih
    | some v =>
      obtain rfl := Metric.constant?_eq_some_iff.mp hm
      simp only [List.filter_cons, List.filterMap_cons, hm, Option.isNone_some, Bool.not_false,
        if_true, List.map_cons, along_constant, ih]

/-- A merged sum gives what its terms add up to. -/
theorem walks_sum (source : Evaluation.Push → Nat → ν) (h : ∀ m ∈ ms, m.Walks known keys) :
    (Metric.sum ms).Walks known keys ∧ ∀ past,
      (Metric.sum ms).along source known keys past =
        Numeric.total (ms.map (·.along source known keys past)) := by
  obtain ⟨ready, sums⟩ := walks_summandsOfAll source h
  unfold Metric.sum
  extract_lets terms constants total others keep
  have gathered : total = Numeric.total constants := by
    show constants.foldr (fun v total => Numeric.add total v) Numeric.zero = _
    simp only [ExactSums.add_comm]
    rfl
  have kept (past : List Nat) : Numeric.total
      ((if keep then [Metric.constant total] else []).map (·.along source known keys past)) =
        Numeric.total constants := by
    by_cases hkeep : keep
    · simp [hkeep, along_constant, total_singleton, gathered]
    · -- A total that is left out is zero, since there are no constants or it tests as zero.
      rw [if_neg hkeep]
      by_cases none : constants = []
      · rw [none]
        rfl
      · have zero : Numeric.isZero total = true := by
          by_contra nonzero
          exact hkeep (by simp [keep, none, nonzero])
        rw [← gathered, ExactSums.eq_zero_of_isZero total zero]
        rfl
  have value (past : List Nat) : Numeric.total ((others ++
      (if keep then [Metric.constant total] else [])).map (·.along source known keys past)) =
        Numeric.total (ms.map (·.along source known keys past)) := by
    have contributed : constants =
        (terms.filter (!·.constant?.isNone)).map (·.along source known keys past) :=
      (along_constants source terms past).symm
    rw [← sums, List.map_append, Numeric.total_append, kept, contributed, ← Numeric.total_append,
      ← List.map_append]
    exact Numeric.total_perm ((List.filter_append_perm ..).map _)
  have readyAll : ∀ m ∈ others ++ (if keep then [Metric.constant total] else []),
      m.Walks known keys := by
    refine List.forall_mem_append.mpr ⟨fun m hm => ready m (List.mem_filter.mp hm).1, ?_⟩
    split <;> simp [walks_constant]
  split
  · rename_i none
    rw [none] at value
    exact ⟨walks_constant _, value⟩
  · rename_i m single
    rw [single] at value readyAll
    exact ⟨readyAll m (List.mem_singleton_self m),
      fun past => (total_singleton _).symm.trans (value past)⟩
  · exact ⟨walks_add.mpr readyAll, fun past => (along_add readyAll past).trans (value past)⟩

end Walks

/-! ## Rewritten metrics -/

/-- The sums of a document metric stay what they are when the metric is rebuilt. -/
def Rebuilt (source source' : Evaluation.Push → Nat → ν) (dataset : String) (m : Doc.Metric) :
    Prop :=
  ∀ program program', m.pushes dataset = .ok program →
    (m.revise id id).pushes dataset = .ok program' →
      source' ⟨dataset, program'⟩ = source ⟨dataset, program⟩

section Rewritten

variable {source source' : Evaluation.Push → Nat → ν} {known : Lookups ν} {keys parents : GroupKeys}

mutual

/-- A metric that looks back has columns along the children of each group, and made to follow a walk
it gives there the same. -/
theorem walks_alongTerms [ExactSums ν] {m : Metric ν} (followed : m.looksBack = true)
    {e : Evaluation.Metric ν} (lowered : m.lower known keys = .ok e)
    (rebuilt : ∀ s ∈ m.collect Metric.summed, Rebuilt source source' s.1 s.2) :
    e.Columnar keys Evaluation.anyPlace ∧ (Step.alongTerms m).Walks known parents ∧
      e.valueAlong (fun push _ => source push) =
        (Step.alongTerms m).along source' known parents := by
  match m with
  | .constant v =>
    cases lowered
    exact ⟨trivial, walks_constant v, rfl⟩
  | .docStatsIn dataset m =>
    simp only [Metric.lower, bind_eq_ok, pure_eq_ok] at lowered
    obtain ⟨program, hprogram, rfl⟩ := lowered
    obtain ⟨program', hprogram'⟩ := Doc.Metric.programmable_revise (g := id) (i := id)
      (fun _ h => h) (fun _ h => h) ⟨program, hprogram⟩
    have hlower : (Step.alongTerms (Metric.docStatsIn dataset m)).lower known parents =
        .ok (.documents ⟨dataset, program'⟩ none) := by
      simp [alongTerms_eq, Metric.revise, followWalk, Metric.lower, hprogram']
    refine ⟨trivial, ⟨_, hlower, fun _ => trivial⟩, ?_⟩
    rw [along_of_lower hlower]
    funext past
    have := rebuilt (dataset, m) (by simp [Metric.collect, Metric.summed]) _ _ hprogram hprogram'
    simp only [Evaluation.Metric.valueAlong, this]
  | .calculate op l r =>
    simp only [Metric.lower, bind_eq_ok, pure_eq_ok] at lowered
    obtain ⟨a, ha, b, hb, rfl⟩ := lowered
    simp only [Metric.looksBack, Bool.and_eq_true] at followed
    simp only [Metric.collect, Metric.summed, List.append_nil, List.forall_mem_append] at rebuilt
    obtain ⟨columnarLeft, readyLeft, sameLeft⟩ := walks_alongTerms followed.1 ha rebuilt.1
    obtain ⟨columnarRight, readyRight, sameRight⟩ := walks_alongTerms followed.2 hb rebuilt.2
    obtain ⟨ready, along⟩ := walks_calculate op readyLeft readyRight
    refine ⟨⟨columnarLeft, columnarRight⟩, ready, ?_⟩
    funext past
    rw [Evaluation.Metric.valueAlong, sameLeft, sameRight]
    exact (congrFun along past).symm
  | .function f m =>
    obtain ⟨a, ha, rfl⟩ := lower_function.mp lowered
    simp only [Metric.collect, Metric.summed, List.append_nil] at rebuilt
    obtain ⟨columnar, ready, same⟩ := walks_alongTerms (m := m) followed ha rebuilt
    refine ⟨?_, walks_function f ready, ?_⟩
    · cases f with
      | negate => exact ⟨trivial, columnar⟩
      | _ => exact columnar
    · obtain ⟨b, hb, -⟩ := ready
      rw [along_of_lower hb] at same
      exact (valueAlong_lowerFunction f same).trans
        (along_of_lower (lower_function.mpr ⟨b, hb, rfl⟩)).symm
  | .lag distance m =>
    simp only [Metric.lower, bind_eq_ok, pure_eq_ok] at lowered
    obtain ⟨a, ha, rfl⟩ := lowered
    simp only [Metric.collect, Metric.summed, List.append_nil] at rebuilt
    obtain ⟨columnar, ready, same⟩ := walks_alongTerms (m := m) followed ha rebuilt
    obtain ⟨ready, along⟩ := walks_lag distance ready
    refine ⟨⟨rfl, columnar⟩, ready, ?_⟩
    funext past
    rw [Evaluation.Metric.valueAlong, same]
    exact (congrFun along past).symm
  | .running offset m =>
    simp only [Metric.lower, bind_eq_ok, pure_eq_ok] at lowered
    obtain ⟨a, ha, rfl⟩ := lowered
    simp only [Metric.looksBack, Bool.and_eq_true, beq_iff_eq] at followed
    simp only [Metric.collect, Metric.summed, List.append_nil] at rebuilt
    obtain ⟨columnar, ready, same⟩ := walks_alongTerms followed.2 ha rebuilt
    obtain ⟨ready, along⟩ := walks_running (Step.pred offset) ready
    refine ⟨⟨followed.1, rfl, columnar⟩, ready, ?_⟩
    funext past
    rw [Evaluation.Metric.valueAlong, same]
    exact (congrFun along past).symm
  | .add ms =>
    simp only [Metric.lower, bind_eq_ok, pure_eq_ok] at lowered
    obtain ⟨es, hes, rfl⟩ := lowered
    simp only [Metric.collect, Metric.summed, List.append_nil] at rebuilt
    obtain ⟨columnar, ready, same⟩ := walks_alongTermsOfAll followed hes rebuilt
    obtain ⟨readySum, sum⟩ := walks_sum source' ready
    obtain ⟨ready, follow⟩ := walks_followWalk source' readySum
    refine ⟨columnar_joinAll columnar, ready, ?_⟩
    funext past
    rw [valueAlong_joinAll, same, Numeric.combineValues_add, ← sum]
    exact (congrFun follow past).symm
  | .least ms =>
    simp only [Metric.lower, bind_eq_ok, pure_eq_ok] at lowered
    obtain ⟨es, hes, rfl⟩ := lowered
    simp only [Metric.collect, Metric.summed, List.append_nil] at rebuilt
    obtain ⟨columnar, ready, same⟩ := walks_alongTermsOfAll followed hes rebuilt
    obtain ⟨ready, along⟩ := walks_least ready
    refine ⟨Evaluation.Metric.allColumnar_iff.mpr columnar, ready, ?_⟩
    funext past
    rw [Evaluation.Metric.valueAlong, Evaluation.Metric.valuesAlong_eq_map, same]
    exact (congrFun along past).symm
  | .greatest ms =>
    simp only [Metric.lower, bind_eq_ok, pure_eq_ok] at lowered
    obtain ⟨es, hes, rfl⟩ := lowered
    simp only [Metric.collect, Metric.summed, List.append_nil] at rebuilt
    obtain ⟨columnar, ready, same⟩ := walks_alongTermsOfAll followed hes rebuilt
    obtain ⟨ready, along⟩ := walks_greatest ready
    refine ⟨Evaluation.Metric.allColumnar_iff.mpr columnar, ready, ?_⟩
    funext past
    rw [Evaluation.Metric.valueAlong, Evaluation.Metric.valuesAlong_eq_map, same]
    exact (congrFun along past).symm
  | .docStats _ | .parent _ | .iterateLag .. | .window .. | .distinct .. | .percentile ..
  | .fieldMin .. | .fieldMax .. | .sumAcross .. | .lookup _ | .multiLookup _ | .ifThenElse ..
  | .qualified .. | .named .. | .reference _ | .bootstrap .. | .average _ => cases followed

theorem walks_alongTermsOfAll [ExactSums ν] {ms : List (Metric ν)}
    (followed : Metric.allLookBack ms = true) {es : List (Evaluation.Metric ν)}
    (lowered : Metric.lowerAll known keys ms = .ok es)
    (rebuilt : ∀ s ∈ Metric.collectAll Metric.summed ms, Rebuilt source source' s.1 s.2) :
    (∀ e ∈ es, e.Columnar keys Evaluation.anyPlace) ∧
      (∀ m ∈ Metric.reviseAll { metric := followWalk } ms, m.Walks known parents) ∧
      ∀ past, es.map (·.valueAlong (fun push _ => source push) past) =
        (Metric.reviseAll { metric := followWalk } ms).map
          (·.along source' known parents past) := by
  match ms with
  | [] =>
    cases lowered
    exact ⟨nofun, nofun, fun _ => rfl⟩
  | m :: rest =>
    simp only [Metric.lowerAll, bind_eq_ok, pure_eq_ok] at lowered
    obtain ⟨e, he, others, hothers, rfl⟩ := lowered
    simp only [Metric.allLookBack, Bool.and_eq_true] at followed
    simp only [Metric.collectAll, List.forall_mem_append] at rebuilt
    obtain ⟨columnar, ready, same⟩ := walks_alongTerms followed.1 he rebuilt.1
    obtain ⟨columnarRest, readyRest, sameRest⟩ :=
      walks_alongTermsOfAll followed.2 hothers rebuilt.2
    refine ⟨List.forall_mem_cons.mpr ⟨columnar, columnarRest⟩,
      List.forall_mem_cons.mpr ⟨ready, readyRest⟩, fun past => ?_⟩
    rw [Metric.reviseAll, List.map_cons, List.map_cons, same, sameRest]
    rfl

end

end Rewritten

end Groupwise.Aggregate

namespace Groupwise.Step

open Aggregate (Metric)

variable {ν : Type} [Numeric ν]

/-! ## Merging -/

/-- A last regrouping by listed terms without a default group and the numbers selected after it
become a walk over these terms, whatever stands before. -/
theorem iterateLast_termsIn (rowLimit : Option Nat) (before : List (Step ν)) (field : FieldSet)
    (ints : List Int64) (strings : List String) (isInt : Bool) (stats : List (Metric ν))
    (formats : List (Option String)) :
    iterateLast rowLimit
        (before ++ [.regroup (.termsIn field ints strings isInt false), .stats stats formats]) =
      before ++ [.iterate
        { field, rowLimit, formats
          stats := stats.map alongTerms
          stringTerms := termSet (fun a b => decide (a < b)) strings
          intTerms := termSet (fun a b => decide (a < b)) ints }] := by
  induction before with
  | nil => rfl
  | cons step rest ih =>
    rw [List.cons_append, List.cons_append, ← ih]
    rcases rest with _ | ⟨next, _ | ⟨third, rest⟩⟩ <;> simp [iterateLast]

/-- The table of the columns that a source has for some programs. -/
abbrev tableOf (source : Evaluation.Push → List ν) (pushes : List Evaluation.Push) :
    List (List ν) :=
  pushes.map source

/-- The sums of some programs over a group. -/
abbrev sumsAt (source : Evaluation.Push → List ν) (pushes : List Evaluation.Push) (group : Nat) :
    List ν :=
  pushes.map fun push => (source push).getD group Numeric.zero

theorem tableSum_tableOf (source : Evaluation.Push → List ν) {pushes : List Evaluation.Push}
    {push : Evaluation.Push} (h : push ∈ pushes) :
    Evaluation.tableSum (tableOf source pushes) push (Evaluation.indexIn pushes push) =
      fun group => (source push).getD group Numeric.zero := by
  obtain ⟨i, hi, hget⟩ := Evaluation.exists_indexIn h
  funext group
  simp [Evaluation.tableSum, hi, hget]

/-- Over the columns of a source, a metric has a column, and in a walk that visits the children of
each group in order another metric gives at every child what that column holds. -/
def ColumnAlongWalk (source : Evaluation.Push → List ν) (keys : GroupKeys)
    (column walk : Evaluation.Metric ν) : Prop :=
  ∀ pushes pushes' : List Evaluation.Push,
    (∀ push ∈ column.reads, push ∈ pushes) → (∀ push ∈ walk.reads, push ∈ pushes') →
      ∃ ready ready' values, column.register (Evaluation.indexIn pushes) = .ok ready ∧
        walk.register (Evaluation.indexIn pushes') = .ok ready' ∧
        ready.column (tableOf source pushes) keys.size = .ok values ∧
        ∀ (order : List Nat) (term : Nat → Term), Evaluation.InOrder keys order →
          ready'.walk (order.map fun child =>
              ⟨term child, keys.parent child, sumsAt source pushes' child⟩) =
            order.map fun child => .ok (values.getD child Numeric.zero)

omit [Numeric ν] in
theorem isSome_indexIn {pushes : List Evaluation.Push} {e : Evaluation.Metric ν}
    (read : ∀ push ∈ e.reads, push ∈ pushes) :
    ∀ push ∈ e.reads, (Evaluation.indexIn pushes push).isSome := fun push hpush => by
  obtain ⟨i, hi, -⟩ := Evaluation.exists_indexIn (read push hpush)
  simp [hi]

/-- A metric of which columns run along siblings, and one that starts with nothing seen, agree along
walks if they have the same value along any children. -/
theorem columnAlongWalk {source : Evaluation.Push → List ν} {keys : GroupKeys}
    (contiguous : keys.Contiguous) {column walk : Evaluation.Metric ν}
    (columnar : column.Columnar keys Evaluation.anyPlace)
    (fresh : ∀ sum, walk.UpTo sum Evaluation.anyPlace (fun _ => []))
    (same : column.valueAlong (fun push _ group => (source push).getD group Numeric.zero) =
      walk.valueAlong (fun push _ group => (source push).getD group Numeric.zero)) :
    ColumnAlongWalk source keys column walk := by
  intro pushes pushes' read read'
  -- The column.
  obtain ⟨ready, hready⟩ := Evaluation.Metric.exists_register (isSome_indexIn read)
  have placed : ∀ push ∈ column.reads, Evaluation.PlacedWithin (tableOf source pushes).length push
      (Evaluation.indexIn pushes push) := fun push hpush => by
    obtain ⟨i, hi, hget⟩ := Evaluation.exists_indexIn (read push hpush)
    exact ⟨i, hi, by simpa using (List.getElem?_eq_some_iff.mp hget).1⟩
  obtain ⟨values, hvalues, along⟩ := Evaluation.Metric.along_column_of_columnar contiguous
    (Evaluation.Metric.columnar_of_register columnar placed hready)
  rw [Evaluation.Metric.valueAlong_of_register hready,
    Evaluation.Metric.valueAlong_congr fun push hpush =>
      funext fun _ => tableSum_tableOf source (read push hpush), same] at along
  -- The walk.
  obtain ⟨ready', hready'⟩ := Evaluation.Metric.exists_register (isSome_indexIn read')
  let summed (push : Evaluation.Push) (index : Option Nat) : Prop :=
    ∃ i ∈ index, pushes'[i]? = some push
  have upTo : ready'.UpTo (fun push _ group => (source push).getD group Numeric.zero) summed
      (fun _ => []) :=
    Evaluation.Metric.upTo_of_register (fresh _)
      (fun push hpush => Evaluation.exists_indexIn (read' push hpush)) hready'
  refine ⟨ready, ready', values, hready, hready', hvalues, fun order term inOrder => ?_⟩
  have walked := Evaluation.Metric.walk_of_upTo (fun child =>
    ⟨term child, keys.parent child, sumsAt source pushes' child⟩)
      (fun child (_ : child ∈ order) push index h => by
        obtain ⟨i, hi, hget⟩ := h
        simp [Option.mem_def.mp hi, hget]) upTo
  rw [walked, Evaluation.valuesAfter_of_inOrder _ inOrder,
    Evaluation.Metric.valueAlong_of_register hready', List.map_map]
  refine List.map_congr_left fun child hchild => ?_
  obtain ⟨hpos, hle⟩ := inOrder.mem hchild
  simp only [Function.comp, along.getD hpos hle]

/-- The walk that takes the place of a last regrouping by listed terms gives, for each selected
number that looks back by nothing but lags and running sums, what the column of the number held at
the children, as long as the children of each group stand together. The source is only taken to sum a
document metric alike before and after it was rebuilt. -/
theorem iterateLast_keeps_values [ExactSums ν] (rowLimit : Option Nat) (before : List (Step ν))
    (field : FieldSet) (ints : List Int64) (strings : List String) (isInt : Bool)
    (stats : List (Metric ν)) (formats : List (Option String)) :
    ∃ walk, iterateLast rowLimit
          (before ++ [.regroup (.termsIn field ints strings isInt false), .stats stats formats]) =
        before ++ [.iterate walk] ∧
      walk.stats = stats.map alongTerms ∧
      ∀ m ∈ stats, m.looksBack = true →
        ∀ (known : Lookups ν) (keys parents : GroupKeys) (e : Evaluation.Metric ν),
          keys.Contiguous → m.lower known keys = .ok e →
          ∀ source : Evaluation.Push → List ν,
            (∀ s ∈ m.collect Metric.summed, ∀ program program',
              s.2.pushes s.1 = .ok program → (s.2.revise id id).pushes s.1 = .ok program' →
                source ⟨s.1, program'⟩ = source ⟨s.1, program⟩) →
            ∃ e', (alongTerms m).lower known parents = .ok e' ∧
              ColumnAlongWalk source keys e e' := by
  refine ⟨_, iterateLast_termsIn .., rfl, fun m _ followed known keys parents e contiguous lowered
    source rebuilt => ?_⟩
  let sums (push : Evaluation.Push) (group : Nat) : ν := (source push).getD group Numeric.zero
  have rebuilt' : ∀ s ∈ m.collect Metric.summed, Aggregate.Rebuilt sums sums s.1 s.2 :=
    fun s hs program program' h h' => by
      funext group
      simp only [sums, rebuilt s hs program program' h h']
  obtain ⟨columnar, ⟨e', lowered', fresh⟩, same⟩ :=
    Aggregate.walks_alongTerms followed lowered rebuilt'
  rw [Aggregate.along_of_lower lowered'] at same
  exact ⟨e', lowered', columnAlongWalk contiguous columnar fresh same⟩

/-- The change against the term before, and the running sum, of the documents of two groups. -/
theorem iterateLast_keeps_values_of_counts :
    let count : Metric ℚ := .docStatsIn "ads" .count
    let m : Metric ℚ := .add [.running 1 count, .calculate .subtract count (.lag 1 count)]
    let parents : GroupKeys := .level .root [(1, .label "x"), (1, .label "y")]
    let keys : GroupKeys := .level parents
      [(1, .label "a"), (1, .label "b"), (2, .label "a"), (2, .label "b")]
    ∃ e e', m.lower [] keys = .ok e ∧ (alongTerms m).lower [] parents = .ok e' ∧
      ColumnAlongWalk (fun _ => [0, 5, 7, 2, 3]) keys e e' := by
  intro count m parents keys
  have lowered : m.lower [] keys = .ok (.calculate .add
      (.running 1 (.documents ⟨"ads", ["count()"]⟩ none) keys [])
      (.calculate .subtract (.documents ⟨"ads", ["count()"]⟩ none)
        (.lag 1 (.documents ⟨"ads", ["count()"]⟩ none) keys))) := by
    simp only [m, count, Metric.lower, Metric.lowerAll, Doc.Metric.pushes]
    rfl
  obtain ⟨_, -, -, keeps⟩ := iterateLast_keeps_values none []
    (.single "ads" "country") [] ["a", "b"] false [m] [none]
  obtain ⟨e', lowered', along⟩ := keeps m (List.mem_singleton_self m) rfl [] keys parents _
    (GroupKeys.contiguous_of_sorted (by decide)) lowered (fun _ => [0, 5, 7, 2, 3])
    fun _ _ _ _ _ _ => rfl
  exact ⟨_, e', lowered, lowered', along⟩

/-- A window is not made to follow a walk: where the window of the column has moved on, the walk
goes on adding up. -/
theorem window_runs_on :
    let m : Metric ℚ := .window 2 (.docStatsIn "ads" .count)
    let keys : GroupKeys := .level .root [(1, .label "a"), (1, .label "b"), (1, .label "c")]
    let index := Evaluation.indexIn [⟨"ads", ["count()"]⟩]
    ∃ e ready e' ready', m.lower [] keys = .ok e ∧ e.register index = .ok ready ∧
      ready.column [[0, 5, 7, 2]] keys.size = .ok [0, 5, 12, 9] ∧
      (alongTerms m).lower [] .root = .ok e' ∧ e'.register index = .ok ready' ∧
      ready'.walk [⟨.string "a", 1, [5]⟩, ⟨.string "b", 1, [7]⟩, ⟨.string "c", 1, [2]⟩] =
        [.ok 5, .ok 12, .ok 14] := by
  intro m keys index
  have lowered (groups : GroupKeys) : m.lower [] groups =
      .ok (.window 2 (.documents ⟨"ads", ["count()"]⟩ none) groups []) := by
    simp only [m, Metric.lower, Doc.Metric.pushes]
    rfl
  have rewritten : alongTerms m = m := rfl
  have column : Evaluation.windowColumn keys 2 [(0 : ℚ), 5, 7, 2] = [0, 5, 12, 9] := by
    decide +kernel
  refine ⟨_, _, _, _, lowered keys, rfl, congrArg Except.ok column, rewritten ▸ lowered .root, rfl,
    ?_⟩
  decide +kernel

end Groupwise.Step
