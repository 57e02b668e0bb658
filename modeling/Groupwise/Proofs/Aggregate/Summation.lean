import Groupwise.Aggregate.Expression
import Groupwise.Proofs.Evaluation.Exact

/-!
# Sums merged step by step

Nested sums can be merged without recursion. What is still to be added stands in one list. The last
metric is taken from it: a sum puts its terms in its place, a constant is added to the others, and
anything else is a term that stands behind all terms still to be found. Each step does away with one
sum, one constant or one term, and so the list gets empty. Then the terms are turned around.
-/
namespace Groupwise.Aggregate

variable {ν : Type}

namespace Metric

/-! ## Leaves of nested sums -/

mutual

/-- How many sums and operands of sums there are in nested sums. -/
def weight : Metric ν → Nat
  | .add terms => weightOfAll terms + 1
  | _ => 1

def weightOfAll : List (Metric ν) → Nat
  | [] => 0
  | m :: rest => weight m + weightOfAll rest

end

theorem weightOfAll_append (ms ns : List (Metric ν)) :
    weightOfAll (ms ++ ns) = weightOfAll ms + weightOfAll ns := by
  induction ms with
  | nil => simp [weightOfAll]
  | cons m rest ih => simp [weightOfAll, ih, Nat.add_assoc]

theorem summandsOfAll_append (ms ns : List (Metric ν)) :
    summandsOfAll (ms ++ ns) = summandsOfAll ms ++ summandsOfAll ns := by
  induction ms with
  | nil => rfl
  | cons m rest ih => simp [summandsOfAll, ih]

theorem summandsOfAll_concat (ms : List (Metric ν)) (m : Metric ν) :
    summandsOfAll (ms ++ [m]) = summandsOfAll ms ++ summands m := by
  simp [summandsOfAll_append, summandsOfAll]

theorem summands_of_ne {m : Metric ν} (h : ∀ inner, m ≠ .add inner) : summands m = [m] := by
  cases m <;> simp_all [summands]

theorem weight_of_ne {m : Metric ν} (h : ∀ inner, m ≠ .add inner) : weight m = 1 := by
  cases m <;> simp_all [weight]

theorem constant?_of_ne {m : Metric ν} (h : ∀ v, m ≠ .constant v) : m.constant? = none :=
  Option.eq_none_iff_forall_ne_some.mpr fun v hv => h v (constant?_eq_some_iff.mp hv)

mutual

/-- No sum is left among the operands of opened sums. -/
theorem ne_add_of_mem_summands {m n : Metric ν} (h : n ∈ summands m) (inner : List (Metric ν)) :
    n ≠ .add inner := by
  match m with
  | .add ms => exact ne_add_of_mem_summandsOfAll h inner
  | .calculate .. | .function .. | .docStats _ | .docStatsIn .. | .parent _ | .lag ..
  | .iterateLag .. | .window .. | .running .. | .distinct .. | .percentile .. | .fieldMin ..
  | .fieldMax .. | .sumAcross .. | .lookup _ | .multiLookup _ | .ifThenElse .. | .least _
  | .greatest _ | .qualified .. | .named .. | .reference _ | .bootstrap .. | .constant _
  | .average _ =>
    obtain rfl := List.mem_singleton.mp h
    simp

theorem ne_add_of_mem_summandsOfAll {ms : List (Metric ν)} {n : Metric ν}
    (h : n ∈ summandsOfAll ms) (inner : List (Metric ν)) : n ≠ .add inner := by
  match ms with
  | [] => cases h
  | m :: rest =>
    rcases List.mem_append.mp h with here | later
    · exact ne_add_of_mem_summands here inner
    · exact ne_add_of_mem_summandsOfAll later inner

end

/-- The operands of some metrics that are no constants. -/
def othersOf (metrics : List (Metric ν)) : List (Metric ν) :=
  (summandsOfAll metrics).filter (·.constant?.isNone)

/-- The constants among the operands of some metrics. -/
def constantsOf (metrics : List (Metric ν)) : List ν := (summandsOfAll metrics).filterMap constant?

theorem ne_add_of_mem_terms {metrics kept : List (Metric ν)}
    (constants : ∀ m ∈ kept, ∃ v, m = .constant v) {m : Metric ν}
    (mem : m ∈ othersOf metrics ++ kept) (inner : List (Metric ν)) : m ≠ .add inner := by
  rcases List.mem_append.mp mem with other | last
  · exact ne_add_of_mem_summandsOfAll (List.mem_filter.mp other).1 inner
  · obtain ⟨v, rfl⟩ := constants m last
    simp

/-- The terms of a sum; any other metric is the only one. -/
def terms : Metric ν → List (Metric ν)
  | .add ms => ms
  | m => [m]

theorem terms_of_ne {m : Metric ν} (h : ∀ inner, m ≠ .add inner) : m.terms = [m] := by
  cases m <;> simp_all [terms]

variable [Numeric ν]

/-- The sum of some terms, a sum only where there are several. -/
def gather : List (Metric ν) → Metric ν
  | [] => .constant Numeric.zero
  | [m] => m
  | all => .add all

/-- Terms with a constant behind them, if one was found that adds something or stands alone. -/
def withConstant (others : List (Metric ν)) (found : Bool) (total : ν) : List (Metric ν) :=
  others ++ if found && (!Numeric.isZero total || others.isEmpty) then [.constant total] else []

theorem terms_gather {all : List (Metric ν)} (h : ∀ m ∈ all, ∀ inner, m ≠ .add inner)
    (some : all ≠ []) : (gather all).terms = all := by
  match all with
  | [] => exact absurd rfl some
  | [m] => exact terms_of_ne (h m (List.mem_singleton_self m))
  | _ :: _ :: _ => rfl

/-- What some constants add up to, the last one first. -/
def fromTheLast (constants : List ν) (start : ν) : ν :=
  constants.foldr (fun v total => Numeric.add total v) start

/-- The terms of a merged sum, if there are any. -/
def merged (metrics : List (Metric ν)) : List (Metric ν) :=
  withConstant (othersOf metrics) (!(constantsOf metrics).isEmpty)
    (fromTheLast (constantsOf metrics) Numeric.zero)

theorem sum_eq_gather (metrics : List (Metric ν)) : Metric.sum metrics = gather (merged metrics) :=
  rfl

theorem fromTheLast_eq_total [ExactSums ν] (constants : List ν) :
    fromTheLast constants Numeric.zero = Numeric.total constants := by
  simp only [fromTheLast, ExactSums.add_comm]
  rfl

end Metric

variable [Numeric ν]

/-! ## Steps -/

/-- A sum that is being merged. -/
structure Worklist (ν : Type) where
  /-- What is still to be added. The last comes next. -/
  pending : List (Metric ν)
  /-- The terms that were found. The last of the sum comes first. -/
  terms : List (Metric ν)
  /-- What the constants that were found add up to. -/
  constant : ν
  hasConstant : Bool

namespace Worklist

variable {w next last : Worklist ν}

def start (metrics : List (Metric ν)) : Worklist ν := ⟨metrics, [], Numeric.zero, false⟩

/-- Take the last metric that is to be added, if there is one. -/
def step (w : Worklist ν) : Option (Worklist ν) :=
  match w.pending.getLast? with
  | none => none
  | some (.add inner) => some { w with pending := w.pending.dropLast ++ inner }
  | some (.constant v) =>
    some { w with
      pending := w.pending.dropLast, constant := Numeric.add w.constant v, hasConstant := true }
  | some m => some { w with pending := w.pending.dropLast, terms := w.terms ++ [m] }

/-- The sum of what was found. -/
def close (w : Worklist ν) : Metric ν :=
  Metric.gather (Metric.withConstant w.terms.reverse w.hasConstant w.constant)

/-- One worklist becomes another one in a number of steps. -/
inductive Steps : Nat → Worklist ν → Worklist ν → Prop where
  | refl (w : Worklist ν) : Steps 0 w w
  | step {n : Nat} {w next last : Worklist ν} (first : w.step = some next)
      (rest : Steps n next last) : Steps (n + 1) w last

/-- A step opens a sum, or adds a constant, or finds a term. -/
theorem step_cases (h : w.step = some next) : ∃ front m, w.pending = front ++ [m] ∧
    ((∃ inner, m = .add inner ∧ next = { w with pending := front ++ inner }) ∨
      (∃ v, m = .constant v ∧ next =
        { w with pending := front, constant := Numeric.add w.constant v, hasConstant := true }) ∨
      Metric.summands m = [m] ∧ m.weight = 1 ∧ m.constant? = none ∧
        next = { w with pending := front, terms := w.terms ++ [m] }) := by
  unfold step at h
  split at h
  · cases h
  · rename_i inner found
    exact ⟨_, _, (List.dropLast_append_getLast? _ found).symm,
      .inl ⟨inner, rfl, (Option.some.inj h).symm⟩⟩
  · rename_i v found
    exact ⟨_, _, (List.dropLast_append_getLast? _ found).symm,
      .inr (.inl ⟨v, rfl, (Option.some.inj h).symm⟩)⟩
  · rename_i m noSum noConstant found
    exact ⟨_, m, (List.dropLast_append_getLast? _ found).symm,
      .inr (.inr ⟨Metric.summands_of_ne noSum, Metric.weight_of_ne noSum,
        Metric.constant?_of_ne noConstant, (Option.some.inj h).symm⟩)⟩

theorem step_eq_none_iff : w.step = none ↔ w.pending = [] := by
  unfold step
  split <;> rename_i found
  · simpa using found
  all_goals
    simp only [reduceCtorEq, false_iff]
    intro none
    simp [none] at found

/-! ## What a step keeps -/

/-- What is left to be added loses one sum, constant or term. -/
theorem weight_step (h : w.step = some next) :
    Metric.weightOfAll w.pending = Metric.weightOfAll next.pending + 1 := by
  obtain ⟨front, m, pending, ⟨inner, rfl, rfl⟩ | ⟨v, rfl, rfl⟩ | ⟨-, weight, -, rfl⟩⟩ :=
    step_cases h
  · simp [pending, Metric.weightOfAll_append, Metric.weightOfAll, Metric.weight, Nat.add_assoc]
  · simp [pending, Metric.weightOfAll_append, Metric.weightOfAll, Metric.weight]
  · simp [pending, Metric.weightOfAll_append, Metric.weightOfAll, weight]

/-- Two worklists stand for the same sum: with what is still to be found, both have the same terms
in order, and constants that add up to the same. -/
structure Same (w next : Worklist ν) : Prop where
  others : Metric.othersOf w.pending ++ w.terms.reverse =
    Metric.othersOf next.pending ++ next.terms.reverse
  total : Metric.fromTheLast (Metric.constantsOf w.pending) w.constant =
    Metric.fromTheLast (Metric.constantsOf next.pending) next.constant
  hasConstant : (!(Metric.constantsOf w.pending).isEmpty || w.hasConstant) =
    (!(Metric.constantsOf next.pending).isEmpty || next.hasConstant)

theorem Same.refl (w : Worklist ν) : Same w w := ⟨rfl, rfl, rfl⟩

theorem Same.trans (first : Same w next) (rest : Same next last) : Same w last :=
  ⟨first.others.trans rest.others, first.total.trans rest.total,
    first.hasConstant.trans rest.hasConstant⟩

/-- A step does not change the sum. -/
theorem same_step (h : w.step = some next) : Same w next := by
  obtain ⟨front, m, pending, ⟨inner, rfl, rfl⟩ | ⟨v, rfl, rfl⟩ | ⟨leaf, -, none, rfl⟩⟩ :=
    step_cases h
  · have opened : Metric.summandsOfAll w.pending = Metric.summandsOfAll (front ++ inner) := by
      rw [pending, Metric.summandsOfAll_concat, Metric.summandsOfAll_append, Metric.summands]
    constructor <;> simp only [Metric.othersOf, Metric.constantsOf, opened]
  · have split : Metric.summandsOfAll w.pending =
        Metric.summandsOfAll front ++ [.constant v] := by
      rw [pending, Metric.summandsOfAll_concat, Metric.summands_of_ne (by simp)]
    constructor <;>
      simp [Metric.othersOf, Metric.constantsOf, Metric.fromTheLast, split, Metric.constant?]
  · have split : Metric.summandsOfAll w.pending = Metric.summandsOfAll front ++ [m] := by
      rw [pending, Metric.summandsOfAll_concat, leaf]
    constructor <;> simp [Metric.othersOf, Metric.constantsOf, split, none]

/-! ## Runs -/

theorem Steps.same {n : Nat} (h : Steps n w last) : Same w last := by
  induction h with
  | refl w => exact .refl w
  | step first _ ih => exact (same_step first).trans ih

/-- The list gets empty after as many steps as there are sums, constants and terms in it. -/
theorem exists_steps (w : Worklist ν) :
    ∃ last, Steps (Metric.weightOfAll w.pending) w last ∧ last.pending = [] := by
  induction h : Metric.weightOfAll w.pending generalizing w with
  | zero =>
    refine ⟨w, .refl w, step_eq_none_iff.mp ?_⟩
    cases found : w.step with
    | none => rfl
    | some next => exact absurd (weight_step found) (by omega)
  | succ n ih =>
    cases found : w.step with
    | none =>
      rw [step_eq_none_iff.mp found] at h
      cases h
    | some next =>
      obtain ⟨last, rest, done⟩ := ih next (by have := weight_step found; omega)
      exact ⟨last, .step found rest, done⟩

/-- When nothing is left to be added, what was found gives the merged sum of what there was at the
start. -/
theorem close_of_steps {n : Nat} {metrics : List (Metric ν)} (h : Steps n (start metrics) last)
    (done : last.pending = []) : last.close = Metric.sum metrics := by
  have same := h.same
  have others : Metric.othersOf metrics = last.terms.reverse := by
    simpa [start, done, Metric.othersOf, Metric.summandsOfAll] using same.others
  have total : Metric.fromTheLast (Metric.constantsOf metrics) Numeric.zero = last.constant := by
    simpa [start, done, Metric.constantsOf, Metric.summandsOfAll, Metric.fromTheLast]
      using same.total
  have hasConstant : (!(Metric.constantsOf metrics).isEmpty) = last.hasConstant := by
    simpa [start, done, Metric.constantsOf, Metric.summandsOfAll] using same.hasConstant
  rw [Metric.sum_eq_gather, Metric.merged, others, total, hasConstant, close]

end Worklist

/-! ## Merged sums -/

namespace Metric

theorem terms_sum_of_ne_nil {metrics : List (Metric ν)} (some : merged metrics ≠ []) :
    (Metric.sum metrics).terms = merged metrics := by
  refine terms_gather (fun m mem => ne_add_of_mem_terms (fun m last => ?_) mem) some
  split at last
  · exact ⟨_, List.mem_singleton.mp last⟩
  · cases last

/-- A merged sum has the operands that are no constants in order. Behind them stands what the
constants add up to, the last one first, unless there are such operands and either no constants or
nothing that they add. -/
theorem terms_sum (metrics : List (Metric ν)) :
    let total := fromTheLast (constantsOf metrics) Numeric.zero
    ∃ kept, (Metric.sum metrics).terms = othersOf metrics ++ kept ∧
      (kept = [] ∨ kept = [.constant total]) ∧
      (kept = [] ↔ othersOf metrics ≠ [] ∧
        (constantsOf metrics = [] ∨ Numeric.isZero total = true)) := by
  intro total
  by_cases alone : othersOf metrics = []
  · refine ⟨[.constant total], ?_, .inr rfl, by simp [alone]⟩
    by_cases none : constantsOf metrics = []
    · have nothing : merged metrics = [] := by
        simp [merged, withConstant, alone, none]
      have zero : total = Numeric.zero := by
        simp [total, none, fromTheLast]
      rw [sum_eq_gather, nothing, alone, zero]
      rfl
    · rw [terms_sum_of_ne_nil] <;> simp [merged, withConstant, alone, none, total]
  · have decided : (!(constantsOf metrics).isEmpty &&
        (!Numeric.isZero total || (othersOf metrics).isEmpty)) = true ↔
          ¬(constantsOf metrics = [] ∨ Numeric.isZero total = true) := by
      simp [alone]
    rw [terms_sum_of_ne_nil (by simp [merged, withConstant, alone])]
    refine ⟨_, rfl, ?_, ?_⟩
    · split
      · exact .inr rfl
      · exact .inl rfl
    · split
      · rename_i keeps
        simp [decided.mp keeps]
      · rename_i omits
        simp [alone, not_not.mp (mt decided.mpr omits)]

/-- Merging metrics step by step ends after as many steps as there are sums and operands, and gives
the merged sum. Among its terms is no sum. The terms that are no constants are the operands of the
nested sums that are none, in order and as often as they stand there. At most one constant stands
behind them: what the constants among the operands add up to, the last one first. Where numbers are
added exactly, that is their sum, which is left out just if it is zero and not the only term. -/
theorem merged_by_steps (metrics : List (Metric ν)) :
    (∃ last, Worklist.Steps (weightOfAll metrics) (.start metrics) last ∧ last.pending = [] ∧
      last.close = Metric.sum metrics) ∧
    (∀ m ∈ (Metric.sum metrics).terms, ∀ inner, m ≠ .add inner) ∧
    (Metric.sum metrics).terms.filter (·.constant?.isNone) = othersOf metrics ∧
    ∃ kept, (Metric.sum metrics).terms = othersOf metrics ++ kept ∧
      (kept = [] ∨ kept = [.constant (fromTheLast (constantsOf metrics) Numeric.zero)]) ∧
      ∀ _ : ExactSums ν, Numeric.isZero (Numeric.zero : ν) = true →
        fromTheLast (constantsOf metrics) Numeric.zero = Numeric.total (constantsOf metrics) ∧
        (kept = [] ↔ Numeric.total (constantsOf metrics) = Numeric.zero ∧
          othersOf metrics ≠ []) := by
  obtain ⟨kept, terms, shape, omitted⟩ := terms_sum metrics
  have constant : ∀ m ∈ kept, ∃ v, m = .constant v := by
    rcases shape with rfl | rfl <;> simp
  refine ⟨?_, fun m mem inner => ?_, ?_, kept, terms, shape, fun exact tested => ?_⟩
  · obtain ⟨last, steps, done⟩ := Worklist.exists_steps (.start metrics)
    exact ⟨last, steps, done, Worklist.close_of_steps steps done⟩
  · exact ne_add_of_mem_terms constant (terms ▸ mem) inner
  · have none : kept.filter (·.constant?.isNone) = [] := by
      rcases shape with rfl | rfl <;> simp [constant?]
    rw [terms, List.filter_append, none, List.append_nil, othersOf, List.filter_filter]
    simp
  · have total := fromTheLast_eq_total (constantsOf metrics)
    have zero : constantsOf metrics = [] ∨
        Numeric.isZero (Numeric.total (constantsOf metrics)) = true ↔
          Numeric.total (constantsOf metrics) = Numeric.zero := by
      constructor
      · rintro (none | zero)
        · rw [none]
          rfl
        · exact ExactSums.eq_zero_of_isZero _ zero
      · intro zero
        exact .inr (zero ▸ tested)
    exact ⟨total, by rw [omitted, total, zero, and_comm]⟩

/-- Two look-ups and three constants, one of the sums within the other. -/
theorem merged_by_steps_lookups :
    let inner : Metric ℚ := .add [.lookup "v1", .constant 4]
    let metrics : List (Metric ℚ) := [.add [.constant 2, .lookup "v0", inner], .constant (-5)]
    ExactSums ℚ ∧ Numeric.isZero (Numeric.zero : ℚ) = true ∧
      (∃ last, Worklist.Steps 7 (.start metrics) last ∧ last.close = Metric.sum metrics) ∧
      (Metric.sum metrics).terms.filter (·.constant?.isNone) = [.lookup "v0", .lookup "v1"] ∧
      ∃ kept, (Metric.sum metrics).terms = [.lookup "v0", .lookup "v1"] ++ kept ∧
        kept = [.constant 1] := by
  intro inner metrics
  have tested : Numeric.isZero (Numeric.zero : ℚ) = true := by decide +kernel
  obtain ⟨⟨last, steps, -, close⟩, -, others, kept, terms, shape, exact⟩ :=
    merged_by_steps metrics
  obtain ⟨total, omitted⟩ := exact inferInstance tested
  have one : Numeric.total (constantsOf metrics) = (1 : ℚ) := by decide +kernel
  have stays : kept ≠ [] := by
    intro none
    have zero : Numeric.total (constantsOf metrics) = (0 : ℚ) := (omitted.mp none).1
    rw [one] at zero
    exact one_ne_zero zero
  have single : kept = [.constant 1] := by
    rw [shape.resolve_left stays, total, one]
  exact ⟨inferInstance, tested, ⟨last, steps, close⟩, others, kept, terms, single⟩

end Metric

end Groupwise.Aggregate
