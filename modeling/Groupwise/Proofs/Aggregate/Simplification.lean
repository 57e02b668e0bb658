import Groupwise.Aggregate.Simplify
import Groupwise.Proofs.Aggregate.Combination
import Groupwise.Proofs.Aggregate.Joined
import Groupwise.Proofs.Evaluation.Unordered

/-!
# Simplification keeps values

What an expression gives is the column of what it is lowered to. Simplified, it gives the same
column: every rule gives what its left side gives, every node gives the same for parts that do, and
the rest is induction. What is joined in a sum or in a combination of filters does not change if
nested parts are opened up, neutral constants dropped, and the constants of a sum added up behind
its other terms.
-/
namespace Groupwise.Aggregate

/-! ## What expressions give -/

variable {ν : Type}

/-- What expressions are lowered and evaluated over. -/
structure Level (ν : Type) where
  lookups : Lookups ν
  keys : GroupKeys
  /-- The table of sums over documents. -/
  table : List (List ν)
  /-- The number of groups. -/
  count : Nat

variable [Numeric ν] {l : Level ν} {values : List ν} {flags : List Bool}

/-- A metric gives the column of what it is lowered to. -/
def Metric.Gives (l : Level ν) (m : Metric ν) (values : List ν) : Prop :=
  ∃ e, m.lower l.lookups l.keys = .ok e ∧ e.column l.table l.count = .ok values

/-- A filter gives the truth values of what it is lowered to. -/
def Filter.Gives (l : Level ν) (f : Filter ν) (flags : List Bool) : Prop :=
  ∃ e, f.lower l.lookups l.keys = .ok e ∧ e.column l.table l.count = .ok flags

theorem Metric.length_of_gives (m : Metric ν) (values : List ν) (h : m.Gives l values) :
    values.length = l.count + 1 := by
  obtain ⟨e, -, evaluated⟩ := h
  exact Evaluation.Metric.length_column evaluated

theorem Filter.length_of_gives (f : Filter ν) (flags : List Bool) (h : f.Gives l flags) :
    flags.length = l.count + 1 := by
  obtain ⟨e, -, evaluated⟩ := h
  exact Evaluation.Filter.length_column evaluated

theorem Metric.lowerAll_eq_mapM (lookups : Lookups ν) (keys : GroupKeys) (ms : List (Metric ν)) :
    Metric.lowerAll lookups keys ms = ms.mapM (Metric.lower lookups keys) := by
  induction ms with
  | nil => rfl
  | cons m rest ih => rw [List.mapM_cons, Metric.lowerAll, ih]

theorem Filter.lowerAll_eq_mapM (lookups : Lookups ν) (keys : GroupKeys) (fs : List (Filter ν)) :
    Filter.lowerAll lookups keys fs = fs.mapM (Filter.lower lookups keys) := by
  induction fs with
  | nil => rfl
  | cons f rest ih => rw [List.mapM_cons, Filter.lowerAll, ih]

theorem Metric.columns_eq_mapM (table : List (List ν)) (count : Nat)
    (es : List (Evaluation.Metric ν)) :
    Evaluation.Metric.columns table count es = es.mapM (Evaluation.Metric.column table count) := by
  induction es with
  | nil => rfl
  | cons e rest ih => rw [List.mapM_cons, Evaluation.Metric.columns, ih]

theorem Metric.gives_constant {v : ν} : (Metric.constant v).Gives l values ↔
    List.replicate (l.count + 1) v = values := by
  simp [Gives, lower, Evaluation.Metric.column]

namespace Metric

variable {m left right : Metric ν} {ms : List (Metric ν)}

theorem gives_calculate {op : Calculation} : (calculate op left right).Gives l values ↔
    ∃ a b, left.Gives l a ∧ right.Gives l b ∧ List.zipWith (Numeric.calculate op) a b = values :=
  given_map₂ fun _ _ => rfl

theorem gives_lag {distance : Nat} : (lag distance m).Gives l values ↔
    ∃ inner, m.Gives l inner ∧ Evaluation.lagColumn l.keys distance l.count inner = values :=
  given_map fun _ => rfl

theorem gives_window {size : Nat} : (window size m).Gives l values ↔
    ∃ inner, m.Gives l inner ∧ Evaluation.windowColumn l.keys size inner = values :=
  given_map fun _ => rfl

theorem gives_running {offset : Int64} : (running offset m).Gives l values ↔
    ∃ inner, m.Gives l inner ∧ Evaluation.runningColumn l.keys offset l.count inner = values :=
  given_map fun _ => rfl

/-- A negation is lowered to a difference, which is the same where differences are exact. -/
theorem gives_function [ExactDifferences ν] {f : Function} : (function f m).Gives l values ↔
    ∃ inner, m.Gives l inner ∧ inner.map (Numeric.apply f) = values := by
  cases f with
  | negate =>
    have lowered : (function .negate m).Gives l values ↔ ∃ inner, m.Gives l inner ∧
        List.zipWith Numeric.subtract (List.replicate (l.count + 1) Numeric.zero) inner = values :=
      given_map fun _ => rfl
    rw [lowered]
    refine exists_congr fun inner => and_congr_right fun given => ?_
    rw [zipWith_replicate_left _ _ (length_of_gives m inner given)]
    rw [show Numeric.apply .negate = Numeric.subtract (Numeric.zero : ν) from
      funext ExactDifferences.negate_eq]
  | log | abs | floor | ceil | round => exact given_map fun _ => rfl

/-- Metrics that are lowered one by one give one column each. -/
theorem gives_all {columns : List (List ν)} :
    (∃ es, lowerAll l.lookups l.keys ms = .ok es ∧
      Evaluation.Metric.columns l.table l.count es = .ok columns) ↔
      List.Forall₂ (Gives l) ms columns := by
  simp only [lowerAll_eq_mapM, columns_eq_mapM]
  exact given_all

theorem gives_least : (least ms).Gives l values ↔ ∃ columns, List.Forall₂ (Gives l) ms columns ∧
    Evaluation.combineColumns Numeric.least l.count columns = values := by
  simp only [← gives_all]
  exact given_map fun _ => rfl

theorem gives_greatest : (greatest ms).Gives l values ↔
    ∃ columns, List.Forall₂ (Gives l) ms columns ∧
      Evaluation.combineColumns Numeric.greatest l.count columns = values := by
  simp only [← gives_all]
  exact given_map fun _ => rfl

theorem gives_ifThenElse {condition : Filter ν} {yes no : Metric ν} :
    (ifThenElse condition yes no).Gives l values ↔ ∃ flags a b,
      condition.Gives l flags ∧ yes.Gives l a ∧ no.Gives l b ∧
        List.zipWith (fun b v => if b then v.1 else v.2) flags (a.zip b) = values := by
  simp only [Gives, Filter.Gives, lower, bind_eq_ok, pure_eq_ok]
  constructor
  · rintro ⟨_, ⟨c, hc, d, hd, e, he, rfl⟩, evaluated⟩
    simp only [Evaluation.Metric.column, bind_eq_ok, pure_eq_ok] at evaluated
    obtain ⟨flags, hflags, a, ha, b, hb, rfl⟩ := evaluated
    exact ⟨flags, a, b, ⟨c, hc, hflags⟩, ⟨d, hd, ha⟩, ⟨e, he, hb⟩, rfl⟩
  · rintro ⟨flags, a, b, ⟨c, hc, hflags⟩, ⟨d, hd, ha⟩, ⟨e, he, hb⟩, rfl⟩
    refine ⟨_, ⟨c, hc, d, hd, e, he, rfl⟩, ?_⟩
    simp only [Evaluation.Metric.column, bind_eq_ok, pure_eq_ok]
    exact ⟨flags, hflags, a, ha, b, hb, rfl⟩

variable [ExactSums ν]

/-- A sum gives what its terms give, added up place by place. -/
theorem gives_add : (add ms).Gives l values ↔
    Joined (Gives l) Numeric.add Numeric.zero l.count ms values := by
  simp only [Gives, lower, lowerAll_eq_mapM]
  exact given_joinAll (fun _ _ => rfl) rfl fun _ _ => Evaluation.Metric.length_column

end Metric

namespace Filter

variable {f : Filter ν} {fs : List (Filter ν)}

theorem gives_compare {op : Comparison} {left right : Metric ν} :
    (compare op left right).Gives l flags ↔ ∃ a b, left.Gives l a ∧ right.Gives l b ∧
      List.zipWith (Numeric.compare op) a b = flags :=
  given_map₂ fun _ _ => rfl

theorem gives_not : (not f).Gives l flags ↔ ∃ inner, f.Gives l inner ∧ inner.map (!·) = flags :=
  given_map fun _ => rfl

theorem gives_always : (always : Filter ν).Gives l flags ↔
    List.replicate (l.count + 1) true = flags := by
  simp [Gives, lower, Evaluation.Filter.column]

theorem gives_never : (never : Filter ν).Gives l flags ↔
    List.replicate (l.count + 1) false = flags := by
  simp [Gives, lower, Evaluation.Filter.column]

end Filter

namespace Connective

/-- The operation that joins truth values. -/
def op : Connective → Bool → Bool → Bool
  | .and => (· && ·)
  | .or => (· || ·)

variable {c : Connective} {f : Filter ν} {fs : List (Filter ν)}

instance : Std.Associative c.op := by cases c <;> exact ⟨by decide⟩

instance : Std.LawfulIdentity c.op c.unit := by
  cases c <;> exact { left_id := by decide, right_id := by decide }

/-- A combination gives what its operands give, joined place by place. -/
theorem gives_node : (c.node fs).Gives l flags ↔
    Joined (Filter.Gives l) c.op c.unit l.count fs flags := by
  cases c <;>
  · simp only [Filter.Gives, node, Filter.lower, Filter.lowerAll_eq_mapM]
    exact given_joinAll (fun _ _ => rfl) rfl fun _ _ => Evaluation.Filter.length_column

end Connective

/-! ## Rules -/

namespace Metric

section Sums

variable [ExactSums ν] {m : Metric ν} {ms : List (Metric ν)}

mutual

/-- A metric gives what its summands give together. -/
theorem joined_summands (m : Metric ν) {values : List ν} (h : m.Gives l values) :
    Joined (Gives l) Numeric.add Numeric.zero l.count (summands m) values := by
  match m with
  | .add ms => exact joined_summandsOfAll ms (gives_add.mp h)
  | .calculate .. | .function .. | .docStats _ | .docStatsIn .. | .parent _ | .lag ..
  | .iterateLag .. | .window .. | .running .. | .distinct .. | .percentile .. | .fieldMin ..
  | .fieldMax .. | .sumAcross .. | .lookup _ | .multiLookup _ | .ifThenElse .. | .least _
  | .greatest _ | .qualified .. | .named .. | .reference _ | .bootstrap .. | .constant _
  | .average _ => exact (joined_singleton length_of_gives).mpr h

theorem joined_summandsOfAll (ms : List (Metric ν)) {values : List ν}
    (h : Joined (Gives l) Numeric.add Numeric.zero l.count ms values) :
    Joined (Gives l) Numeric.add Numeric.zero l.count (summandsOfAll ms) values := by
  match ms with
  | [] => exact h
  | m :: rest =>
    obtain ⟨first, others, here, behind, rfl⟩ := joined_cons.mp h
    exact (joined_append length_of_gives).mpr
      ⟨first, others, joined_summands m here, joined_summandsOfAll rest behind, rfl⟩

end

/-- The constants of a sum may be added up behind its other terms. -/
theorem joined_constants
    (h : Joined (Gives l) Numeric.add Numeric.zero l.count ms values) :
    Joined (Gives l) Numeric.add Numeric.zero l.count
      (ms.filter (·.constant?.isNone) ++ [.constant ((ms.filterMap constant?).foldr
        (fun v total => Numeric.add total v) Numeric.zero)]) values := by
  induction ms generalizing values with
  | nil => exact (joined_singleton length_of_gives).mpr (gives_constant.mpr (joined_nil.mp h))
  | cons m rest ih =>
    obtain ⟨first, others, here, behind, rfl⟩ := joined_cons.mp h
    have moved := ih behind
    cases hm : m.constant? with
    | none =>
      rw [List.filter_cons_of_pos (by simp [hm]), List.filterMap_cons_none hm]
      exact joined_cons.mpr ⟨first, others, here, moved, rfl⟩
    | some v =>
      obtain rfl := constant?_eq_some_iff.mp hm
      rw [List.filter_cons_of_neg (by simp [hm]), List.filterMap_cons_some hm, List.foldr_cons]
      obtain ⟨proper, constants, before, last, rfl⟩ := (joined_append length_of_gives).mp moved
      obtain rfl := gives_constant.mp ((joined_singleton length_of_gives).mp last)
      obtain rfl := gives_constant.mp here
      refine (joined_append length_of_gives).mpr
        ⟨proper, _, before, (joined_singleton length_of_gives).mpr (gives_constant.mpr rfl), ?_⟩
      generalize (rest.filterMap constant?).foldr _ _ = total
      calc List.zipWith Numeric.add proper (List.replicate (l.count + 1) (Numeric.add total v))
        _ = List.zipWith Numeric.add proper (List.zipWith Numeric.add
              (List.replicate (l.count + 1) total) (List.replicate (l.count + 1) v)) := by
          rw [List.zipWith_replicate, Nat.min_self]
        _ = List.zipWith Numeric.add (List.zipWith Numeric.add proper
              (List.replicate (l.count + 1) total)) (List.replicate (l.count + 1) v) :=
          (zipWith_assoc ..).symm
        _ = _ := List.zipWith_comm_of_comm ExactSums.add_comm

/-- A merged sum gives what the sum gives. -/
theorem gives_sum (h : (add ms).Gives l values) : (Metric.sum ms).Gives l values := by
  have moved := joined_constants (joined_summandsOfAll ms (gives_add.mp h))
  unfold Metric.sum
  extract_lets terms constants total others keep
  have kept : Joined (Gives l) Numeric.add Numeric.zero l.count
      (others ++ if keep then [.constant total] else []) values := by
    cases hkeep : keep with
    | true => exact moved
    | false =>
      have zero : total = Numeric.zero := by
        rcases hconstants : constants with _ | ⟨v, rest⟩
        · simp [total, hconstants]
        · refine ExactSums.eq_zero_of_isZero _ ?_
          simp_all [keep]
      obtain ⟨proper, last, before, behind, rfl⟩ := (joined_append length_of_gives).mp moved
      obtain rfl := gives_constant.mp ((joined_singleton length_of_gives).mp behind)
      have full := length_of_joined length_of_gives before
      rw [show (terms.filterMap constant?).foldr (fun v total => Numeric.add total v)
        Numeric.zero = Numeric.zero from zero, zipWith_unit_right full]
      simpa using before
  split
  · rename_i none
    rw [none] at kept
    exact gives_constant.mpr (joined_nil.mp kept)
  · rename_i m single
    rw [single] at kept
    exact (joined_singleton length_of_gives).mp kept
  · exact gives_add.mpr kept

end Sums

/-- Folding a node changes nothing. -/
theorem gives_fold [ExactDifferences ν] {m : Metric ν} (h : m.Gives l values) :
    m.fold.Gives l values := by
  unfold fold
  split
  · rename_i v
    split
    · obtain ⟨_, given, rfl⟩ := gives_function.mp h
      obtain rfl := gives_constant.mp given
      exact gives_constant.mpr List.map_replicate.symm
    · exact h
  · rename_i f v _
    obtain ⟨_, given, rfl⟩ := gives_function.mp h
    obtain rfl := gives_constant.mp given
    exact gives_constant.mpr List.map_replicate.symm
  · rename_i op left right
    extract_lets v
    split
    · obtain ⟨_, _, first, second, rfl⟩ := gives_calculate.mp h
      obtain rfl := gives_constant.mp first
      obtain rfl := gives_constant.mp second
      exact gives_constant.mpr (by rw [List.zipWith_replicate, Nat.min_self])
    · exact h
  · exact h

end Metric

theorem Filter.gives_fold {f : Filter ν} (h : f.Gives l flags) : f.fold.Gives l flags := by
  unfold fold
  split
  · rename_i op left right
    obtain ⟨_, _, first, second, rfl⟩ := gives_compare.mp h
    obtain rfl := Metric.gives_constant.mp first
    obtain rfl := Metric.gives_constant.mp second
    rw [List.zipWith_replicate, Nat.min_self]
    split
    · rename_i holds
      exact gives_always.mpr (by rw [holds])
    · rename_i fails
      exact gives_never.mpr (by rw [Bool.eq_false_of_not_eq_true fails])
  · obtain ⟨_, given, rfl⟩ := gives_not.mp h
    obtain rfl := gives_always.mp given
    exact gives_never.mpr (by rw [List.map_replicate, Bool.not_true])
  · obtain ⟨_, given, rfl⟩ := gives_not.mp h
    obtain rfl := gives_never.mp given
    exact gives_always.mpr (by rw [List.map_replicate, Bool.not_false])
  · obtain ⟨_, negated, rfl⟩ := gives_not.mp h
    obtain ⟨inner, given, rfl⟩ := gives_not.mp negated
    rwa [List.map_map, show (!·) ∘ (!·) = id from funext Bool.not_not, List.map_id]
  · exact h

namespace Connective

variable {c : Connective} {f : Filter ν} {fs : List (Filter ν)}

theorem gives_neutral : (c.neutral : Filter ν).Gives l flags ↔
    List.replicate (l.count + 1) c.unit = flags := by
  cases c with
  | and => exact Filter.gives_always
  | or => exact Filter.gives_never

theorem gives_absorbing : (c.absorbing : Filter ν).Gives l flags ↔
    List.replicate (l.count + 1) (!c.unit) = flags := by
  cases c with
  | and => exact Filter.gives_never
  | or => exact Filter.gives_always

theorem op_absorbing_left : c.op (!c.unit) = Function.const Bool (!c.unit) := by
  funext b
  cases c <;> cases b <;> rfl

theorem op_absorbing_right : (c.op · (!c.unit)) = Function.const Bool (!c.unit) := by
  funext b
  cases c <;> cases b <;> rfl

/-- A filter that absorbs the others decides what they give together. -/
theorem gives_absorbing_of_joined (h : c.absorbing ∈ fs)
    (joined : Joined (Filter.Gives l) c.op c.unit l.count fs flags) :
    (c.absorbing : Filter ν).Gives l flags := by
  rw [gives_absorbing]
  induction fs generalizing flags with
  | nil => cases h
  | cons f rest ih =>
    obtain ⟨first, others, here, behind, rfl⟩ := joined_cons.mp joined
    rcases List.mem_cons.mp h with rfl | later
    · obtain rfl := gives_absorbing.mp here
      have full := length_of_joined Filter.length_of_gives behind
      rw [zipWith_replicate_left _ _ full, op_absorbing_left, List.map_const, full]
    · obtain rfl := ih later behind
      have full := Filter.length_of_gives f first here
      rw [zipWith_replicate_right _ _ full, op_absorbing_right, List.map_const, full]

theorem joined_operands (h : f.Gives l flags) :
    Joined (Filter.Gives l) c.op c.unit l.count (c.operands f) flags := by
  cases c with
  | and =>
    cases f with
    | and fs => exact Connective.and.gives_node.mp h
    | always => exact joined_nil.mpr (Filter.gives_always.mp h)
    | _ => exact (joined_singleton Filter.length_of_gives).mpr h
  | or =>
    cases f with
    | or fs => exact Connective.or.gives_node.mp h
    | never => exact joined_nil.mpr (Filter.gives_never.mp h)
    | _ => exact (joined_singleton Filter.length_of_gives).mpr h

theorem joined_flatMap_operands (h : Joined (Filter.Gives l) c.op c.unit l.count fs flags) :
    Joined (Filter.Gives l) c.op c.unit l.count (fs.flatMap c.operands) flags := by
  induction fs generalizing flags with
  | nil => exact h
  | cons f rest ih =>
    obtain ⟨first, others, here, behind, rfl⟩ := joined_cons.mp h
    exact (joined_append Filter.length_of_gives).mpr
      ⟨first, others, joined_operands here, ih behind, rfl⟩

/-- A merged combination gives what the combination gives. -/
theorem gives_merge (h : (c.node fs).Gives l flags) : (c.merge fs).Gives l flags := by
  have joined := gives_node.mp h
  by_cases absorbed : c.absorbing ∈ fs
  · rw [merge_of_absorbing absorbed]
    exact gives_absorbing_of_joined absorbed joined
  · rw [merge_of_not_absorbing absorbed]
    have opened := joined_flatMap_operands joined
    match hgs : fs.flatMap c.operands with
    | [] =>
      rw [hgs] at opened
      exact gives_neutral.mpr (joined_nil.mp opened)
    | [g] =>
      rw [hgs] at opened
      exact (joined_singleton Filter.length_of_gives).mp opened
    | g :: k :: rest =>
      rw [hgs] at opened
      exact gives_node.mpr opened

end Connective

/-! ## The whole pass -/

mutual

/-- Simplified, a metric gives what it gave before. -/
theorem Metric.gives_simplify [ExactDifferences ν] (m : Metric ν) {values : List ν}
    (h : m.Gives l values) :
    (m.revise simplification).Gives l values := by
  match m with
  | .constant _ | .lookup _ | .multiLookup _ => exact Metric.gives_fold h
  | .add ms =>
    obtain ⟨columns, given, joined⟩ := Metric.gives_add.mp h
    exact Metric.gives_fold (Metric.gives_sum (Metric.gives_add.mpr
      ⟨columns, Metric.gives_simplifyAll ms given, joined⟩))
  | .calculate op left right =>
    obtain ⟨a, b, ha, hb, rfl⟩ := Metric.gives_calculate.mp h
    exact Metric.gives_fold (Metric.gives_calculate.mpr
      ⟨a, b, Metric.gives_simplify left ha, Metric.gives_simplify right hb, rfl⟩)
  | .function f m =>
    obtain ⟨inner, given, rfl⟩ := Metric.gives_function.mp h
    exact Metric.gives_fold (Metric.gives_function.mpr ⟨inner, Metric.gives_simplify m given, rfl⟩)
  | .lag _ m =>
    obtain ⟨inner, given, rfl⟩ := Metric.gives_lag.mp h
    exact Metric.gives_fold (Metric.gives_lag.mpr ⟨inner, Metric.gives_simplify m given, rfl⟩)
  | .window _ m =>
    obtain ⟨inner, given, rfl⟩ := Metric.gives_window.mp h
    exact Metric.gives_fold (Metric.gives_window.mpr ⟨inner, Metric.gives_simplify m given, rfl⟩)
  | .running _ m =>
    obtain ⟨inner, given, rfl⟩ := Metric.gives_running.mp h
    exact Metric.gives_fold (Metric.gives_running.mpr ⟨inner, Metric.gives_simplify m given, rfl⟩)
  | .ifThenElse c y n =>
    obtain ⟨flags, a, b, hc, ha, hb, rfl⟩ := Metric.gives_ifThenElse.mp h
    exact Metric.gives_fold (Metric.gives_ifThenElse.mpr ⟨flags, a, b, Filter.gives_simplify c hc,
      Metric.gives_simplify y ha, Metric.gives_simplify n hb, rfl⟩)
  | .least ms =>
    obtain ⟨columns, given, rfl⟩ := Metric.gives_least.mp h
    exact Metric.gives_fold (Metric.gives_least.mpr
      ⟨columns, Metric.gives_simplifyAll ms given, rfl⟩)
  | .greatest ms =>
    obtain ⟨columns, given, rfl⟩ := Metric.gives_greatest.mp h
    exact Metric.gives_fold (Metric.gives_greatest.mpr
      ⟨columns, Metric.gives_simplifyAll ms given, rfl⟩)
  | .docStatsIn .. | .iterateLag .. =>
    -- Sums have no place in a table before they are registered, and walks have no columns.
    obtain ⟨e, lowered, evaluated⟩ := h
    simp only [Metric.lower, bind_eq_ok, pure_eq_ok] at lowered
    obtain ⟨_, -, rfl⟩ := lowered
    cases evaluated
  | .docStats _ | .parent _ | .distinct .. | .percentile .. | .fieldMin .. | .fieldMax ..
  | .sumAcross .. | .qualified .. | .named .. | .reference _ | .bootstrap .. | .average _ =>
    obtain ⟨e, lowered, -⟩ := h
    cases lowered

theorem Metric.gives_simplifyAll [ExactDifferences ν] (ms : List (Metric ν))
    {columns : List (List ν)} (h : List.Forall₂ (Metric.Gives l) ms columns) :
    List.Forall₂ (Metric.Gives l) (Metric.reviseAll simplification ms) columns := by
  match ms, h with
  | [], .nil => exact .nil
  | m :: rest, .cons first others =>
    exact .cons (Metric.gives_simplify m first) (Metric.gives_simplifyAll rest others)

theorem Filter.gives_simplify [ExactDifferences ν] (f : Filter ν) {flags : List Bool}
    (h : f.Gives l flags) :
    (f.revise simplification).Gives l flags := by
  match f with
  | .compare op left right =>
    obtain ⟨a, b, ha, hb, rfl⟩ := Filter.gives_compare.mp h
    exact Filter.gives_fold (Filter.gives_compare.mpr
      ⟨a, b, Metric.gives_simplify left ha, Metric.gives_simplify right hb, rfl⟩)
  | .and fs =>
    obtain ⟨columns, given, joined⟩ := Connective.and.gives_node.mp h
    exact Filter.gives_fold (Connective.and.gives_merge (Connective.and.gives_node.mpr
      ⟨columns, Filter.gives_simplifyAll fs given, joined⟩))
  | .or fs =>
    obtain ⟨columns, given, joined⟩ := Connective.or.gives_node.mp h
    exact Filter.gives_fold (Connective.or.gives_merge (Connective.or.gives_node.mpr
      ⟨columns, Filter.gives_simplifyAll fs given, joined⟩))
  | .not f =>
    obtain ⟨inner, given, rfl⟩ := Filter.gives_not.mp h
    exact Filter.gives_fold (Filter.gives_not.mpr ⟨inner, Filter.gives_simplify f given, rfl⟩)
  | .termIs _ | .termRegex _ | .regex .. | .always | .never | .isDefaultGroup =>
    exact Filter.gives_fold h

theorem Filter.gives_simplifyAll [ExactDifferences ν] (fs : List (Filter ν))
    {columns : List (List Bool)} (h : List.Forall₂ (Filter.Gives l) fs columns) :
    List.Forall₂ (Filter.Gives l) (Filter.reviseAll simplification fs) columns := by
  match fs, h with
  | [], .nil => exact .nil
  | f :: rest, .cons first others =>
    exact .cons (Filter.gives_simplify f first) (Filter.gives_simplifyAll rest others)

end

mutual

/-- The metrics that compute with constants and results of earlier computations only. -/
def Metric.FromLookups : Metric ν → Prop
  | .constant _ => True
  | .lookup _ => True
  | .add ms => Metric.AllFromLookups ms
  | .calculate _ l r => l.FromLookups ∧ r.FromLookups
  | .function _ m => m.FromLookups
  | .least ms => Metric.AllFromLookups ms
  | .greatest ms => Metric.AllFromLookups ms
  | .lag _ m => m.FromLookups
  | .window _ m => m.FromLookups
  | .running _ m => m.FromLookups
  | .ifThenElse c y n => c.FromLookups ∧ y.FromLookups ∧ n.FromLookups
  | _ => False

def Metric.AllFromLookups : List (Metric ν) → Prop
  | [] => True
  | m :: rest => m.FromLookups ∧ Metric.AllFromLookups rest

/-- The filters that compare such metrics or tell the group of all other documents. -/
def Filter.FromLookups : Filter ν → Prop
  | .compare _ l r => l.FromLookups ∧ r.FromLookups
  | .and fs => Filter.AllFromLookups fs
  | .or fs => Filter.AllFromLookups fs
  | .not f => f.FromLookups
  | .always => True
  | .never => True
  | .isDefaultGroup => True
  | _ => False

def Filter.AllFromLookups : List (Filter ν) → Prop
  | [] => True
  | f :: rest => f.FromLookups ∧ Filter.AllFromLookups rest

end

mutual

/-- If such a metric can be lowered, it gives a column. -/
theorem Metric.exists_gives [ExactDifferences ν] {m : Metric ν} (plain : m.FromLookups)
    {e : Evaluation.Metric ν} (lowered : m.lower l.lookups l.keys = .ok e) :
    ∃ values, m.Gives l values := by
  match m with
  | .constant _ => exact ⟨_, Metric.gives_constant.mpr rfl⟩
  | .lookup name =>
    have found := lowered
    simp only [Metric.lower, bind_eq_ok, pure_eq_ok] at found
    obtain ⟨values, -, rfl⟩ := found
    exact ⟨_, _, lowered, rfl⟩
  | .add ms =>
    simp only [Metric.lower, bind_eq_ok, pure_eq_ok] at lowered
    obtain ⟨es, hes, -⟩ := lowered
    obtain ⟨columns, given⟩ := Metric.exists_givesAll plain hes
    exact ⟨_, Metric.gives_add.mpr ⟨columns, given, rfl⟩⟩
  | .calculate _ left right =>
    simp only [Metric.lower, bind_eq_ok, pure_eq_ok] at lowered
    obtain ⟨a, ha, b, hb, -⟩ := lowered
    obtain ⟨first, hfirst⟩ := Metric.exists_gives plain.1 ha
    obtain ⟨second, hsecond⟩ := Metric.exists_gives plain.2 hb
    exact ⟨_, Metric.gives_calculate.mpr ⟨first, second, hfirst, hsecond, rfl⟩⟩
  | .function f m =>
    obtain ⟨a, ha⟩ : ∃ a, m.lower l.lookups l.keys = .ok a := by
      cases f <;>
      · simp only [Metric.lower, bind_eq_ok, pure_eq_ok] at lowered
        obtain ⟨a, ha, -⟩ := lowered
        exact ⟨a, ha⟩
    obtain ⟨inner, given⟩ := Metric.exists_gives (m := m) plain ha
    exact ⟨_, Metric.gives_function.mpr ⟨inner, given, rfl⟩⟩
  | .lag _ m =>
    simp only [Metric.lower, bind_eq_ok, pure_eq_ok] at lowered
    obtain ⟨a, ha, -⟩ := lowered
    obtain ⟨inner, given⟩ := Metric.exists_gives (m := m) plain ha
    exact ⟨_, Metric.gives_lag.mpr ⟨inner, given, rfl⟩⟩
  | .window _ m =>
    simp only [Metric.lower, bind_eq_ok, pure_eq_ok] at lowered
    obtain ⟨a, ha, -⟩ := lowered
    obtain ⟨inner, given⟩ := Metric.exists_gives (m := m) plain ha
    exact ⟨_, Metric.gives_window.mpr ⟨inner, given, rfl⟩⟩
  | .running _ m =>
    simp only [Metric.lower, bind_eq_ok, pure_eq_ok] at lowered
    obtain ⟨a, ha, -⟩ := lowered
    obtain ⟨inner, given⟩ := Metric.exists_gives (m := m) plain ha
    exact ⟨_, Metric.gives_running.mpr ⟨inner, given, rfl⟩⟩
  | .ifThenElse c y n =>
    simp only [Metric.lower, bind_eq_ok, pure_eq_ok] at lowered
    obtain ⟨d, hd, a, ha, b, hb, -⟩ := lowered
    obtain ⟨flags, hflags⟩ := Filter.exists_gives plain.1 hd
    obtain ⟨first, hfirst⟩ := Metric.exists_gives plain.2.1 ha
    obtain ⟨second, hsecond⟩ := Metric.exists_gives plain.2.2 hb
    exact ⟨_, Metric.gives_ifThenElse.mpr ⟨flags, first, second, hflags, hfirst, hsecond, rfl⟩⟩
  | .least ms =>
    simp only [Metric.lower, bind_eq_ok, pure_eq_ok] at lowered
    obtain ⟨es, hes, -⟩ := lowered
    obtain ⟨columns, given⟩ := Metric.exists_givesAll plain hes
    exact ⟨_, Metric.gives_least.mpr ⟨columns, given, rfl⟩⟩
  | .greatest ms =>
    simp only [Metric.lower, bind_eq_ok, pure_eq_ok] at lowered
    obtain ⟨es, hes, -⟩ := lowered
    obtain ⟨columns, given⟩ := Metric.exists_givesAll plain hes
    exact ⟨_, Metric.gives_greatest.mpr ⟨columns, given, rfl⟩⟩
  | .multiLookup _ | .docStatsIn .. | .iterateLag .. | .docStats _ | .parent _ | .distinct ..
  | .percentile .. | .fieldMin .. | .fieldMax .. | .sumAcross .. | .qualified .. | .named ..
  | .reference _ | .bootstrap .. | .average _ => exact plain.elim

theorem Metric.exists_givesAll [ExactDifferences ν] {ms : List (Metric ν)}
    (plain : Metric.AllFromLookups ms) {es : List (Evaluation.Metric ν)}
    (lowered : Metric.lowerAll l.lookups l.keys ms = .ok es) :
    ∃ columns, List.Forall₂ (Metric.Gives l) ms columns := by
  match ms with
  | [] => exact ⟨[], .nil⟩
  | m :: rest =>
    simp only [Metric.lowerAll, bind_eq_ok, pure_eq_ok] at lowered
    obtain ⟨a, ha, others, hothers, -⟩ := lowered
    obtain ⟨first, hfirst⟩ := Metric.exists_gives plain.1 ha
    obtain ⟨columns, given⟩ := Metric.exists_givesAll plain.2 hothers
    exact ⟨first :: columns, .cons hfirst given⟩

theorem Filter.exists_gives [ExactDifferences ν] {f : Filter ν} (plain : f.FromLookups)
    {e : Evaluation.Filter ν} (lowered : f.lower l.lookups l.keys = .ok e) :
    ∃ flags, f.Gives l flags := by
  match f with
  | .compare _ left right =>
    simp only [Filter.lower, bind_eq_ok, pure_eq_ok] at lowered
    obtain ⟨a, ha, b, hb, -⟩ := lowered
    obtain ⟨first, hfirst⟩ := Metric.exists_gives plain.1 ha
    obtain ⟨second, hsecond⟩ := Metric.exists_gives plain.2 hb
    exact ⟨_, Filter.gives_compare.mpr ⟨first, second, hfirst, hsecond, rfl⟩⟩
  | .and fs =>
    simp only [Filter.lower, bind_eq_ok, pure_eq_ok] at lowered
    obtain ⟨es, hes, -⟩ := lowered
    obtain ⟨columns, given⟩ := Filter.exists_givesAll plain hes
    exact ⟨_, Connective.and.gives_node.mpr ⟨columns, given, rfl⟩⟩
  | .or fs =>
    simp only [Filter.lower, bind_eq_ok, pure_eq_ok] at lowered
    obtain ⟨es, hes, -⟩ := lowered
    obtain ⟨columns, given⟩ := Filter.exists_givesAll plain hes
    exact ⟨_, Connective.or.gives_node.mpr ⟨columns, given, rfl⟩⟩
  | .not f =>
    simp only [Filter.lower, bind_eq_ok, pure_eq_ok] at lowered
    obtain ⟨a, ha, -⟩ := lowered
    obtain ⟨inner, given⟩ := Filter.exists_gives (f := f) plain ha
    exact ⟨_, Filter.gives_not.mpr ⟨inner, given, rfl⟩⟩
  | .always => exact ⟨_, Filter.gives_always.mpr rfl⟩
  | .never => exact ⟨_, Filter.gives_never.mpr rfl⟩
  | .isDefaultGroup => exact ⟨_, _, rfl, rfl⟩
  | .termIs _ | .termRegex _ | .regex .. => exact plain.elim

theorem Filter.exists_givesAll [ExactDifferences ν] {fs : List (Filter ν)}
    (plain : Filter.AllFromLookups fs) {es : List (Evaluation.Filter ν)}
    (lowered : Filter.lowerAll l.lookups l.keys fs = .ok es) :
    ∃ columns, List.Forall₂ (Filter.Gives l) fs columns := by
  match fs with
  | [] => exact ⟨[], .nil⟩
  | f :: rest =>
    simp only [Filter.lowerAll, bind_eq_ok, pure_eq_ok] at lowered
    obtain ⟨a, ha, others, hothers, -⟩ := lowered
    obtain ⟨first, hfirst⟩ := Filter.exists_gives plain.1 ha
    obtain ⟨columns, given⟩ := Filter.exists_givesAll plain.2 hothers
    exact ⟨first :: columns, .cons hfirst given⟩

end

/-- A metric that computes with constants and results of earlier computations and that can be
lowered can be lowered when it is simplified, too, and then has the same column for any number of
groups. -/
theorem Metric.column_simplify [ExactDifferences ν] {m : Metric ν} (plain : m.FromLookups)
    {lookups : Lookups ν} {keys : GroupKeys} {e : Evaluation.Metric ν}
    (lowered : m.lower lookups keys = .ok e) :
    ∃ e', m.simplify.lower lookups keys = .ok e' ∧
      ∀ table count, ∃ values, e.column table count = .ok values ∧
        e'.column table count = .ok values := by
  have gives (table : List (List ν)) (count : Nat) :
      ∃ values e', e.column table count = .ok values ∧ m.simplify.lower lookups keys = .ok e' ∧
        e'.column table count = .ok values := by
    obtain ⟨values, given⟩ :=
      Metric.exists_gives (l := ⟨lookups, keys, table, count⟩) plain lowered
    obtain ⟨e', lowered', evaluated'⟩ := Metric.gives_simplify m given
    obtain ⟨_, again, evaluated⟩ := given
    obtain rfl := Except.ok.inj (lowered.symm.trans again)
    exact ⟨values, e', evaluated, lowered', evaluated'⟩
  obtain ⟨-, e', -, lowered', -⟩ := gives [] 0
  refine ⟨e', lowered', fun table count => ?_⟩
  obtain ⟨values, _, evaluated, again, evaluated'⟩ := gives table count
  obtain rfl := Except.ok.inj (lowered'.symm.trans again)
  exact ⟨values, evaluated, evaluated'⟩

/-- A condition that always holds goes away, and the constants of nested sums end up as one. -/
theorem column_simplify_clicks :
    let clicks : Metric ℚ := .lookup "clicks"
    let nested : Metric ℚ := .ifThenElse
      (.or [.not .always, .not (.not (.compare .lt (.constant 1) (.constant 2)))])
      (.add [.constant 1, .running 1 (.add [.function .negate (.constant 3), clicks]), .constant 2])
      (.calculate .divide clicks (.constant 0))
    let keys : GroupKeys := .level .root [(1, .label "a"), (1, .label "b"), (1, .label "c")]
    let lookups : Lookups ℚ := [("clicks", [0, 5, 2, 4])]
    nested.FromLookups ∧ ∃ e e', nested.lower lookups keys = .ok e ∧
      nested.simplify.lower lookups keys = .ok e' ∧
      e.column [] 3 = .ok [3, 5, 4, 5] ∧ e'.column [] 3 = .ok [3, 5, 4, 5] := by
  intro clicks nested keys lookups
  have plain : nested.FromLookups := by
    simp [nested, clicks, Metric.FromLookups, Metric.AllFromLookups, Filter.FromLookups,
      Filter.AllFromLookups]
  obtain ⟨e, lowered, evaluated⟩ : ∃ e, nested.lower lookups keys = .ok e ∧
      e.column [] 3 = .ok [3, 5, 4, 5] := ⟨_, rfl, by decide +kernel⟩
  obtain ⟨e', lowered', same⟩ := Metric.column_simplify plain lowered
  obtain ⟨values, found, found'⟩ := same [] 3
  obtain rfl := Except.ok.inj (evaluated.symm.trans found)
  exact ⟨plain, e, e', lowered, lowered', evaluated, found'⟩

end Groupwise.Aggregate
