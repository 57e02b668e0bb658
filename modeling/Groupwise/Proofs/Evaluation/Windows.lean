import Groupwise.Proofs.Evaluation.Unordered
import Groupwise.Proofs.Evaluation.Walks

/-!
# Sums over windows

A window looks at a group and a number of groups before it, as far as they have the same parent. A
column moves one sum along the groups: a value comes in and the value that is now too far back goes
out. A walk adds every value to the sums of the windows that will contain it. If the children of
each parent stand together, both give the sum over the window.
-/
namespace Groupwise

namespace GroupKeys

/-- The groups in a window of the given size that ends in a group. -/
def window (keys : GroupKeys) (size group : Nat) : List Nat :=
  (List.range' 1 group).filter fun g =>
    decide (group < g + size) && keys.parent g == keys.parent group

variable {keys : GroupKeys}

/-- The siblings before a group are those of the group before, if that has the same parent. -/
theorem siblings_succ (contiguous : keys.Contiguous) {group : Nat} (hle : group + 1 ≤ keys.size) :
    keys.siblings (group + 1) = (group + 1) ::
      if keys.parent group = keys.parent (group + 1) then keys.siblings group else [] := by
  rw [siblings_eq_cons (by omega), Nat.add_sub_cancel]
  split
  · rename_i same
    rw [siblings, same]
  · rename_i other
    refine congrArg _ ((upTo_eq_nil_or_siblings ..).resolve_right ?_)
    rintro ⟨earlier, hpos, hbefore, hparent, -⟩
    exact other (contiguous earlier group (group + 1) hpos hbefore (Nat.le_succ _) hle hparent)

theorem getElem?_siblings (contiguous : keys.Contiguous) {group : Nat} (hpos : 1 ≤ group)
    (hle : group ≤ keys.size) (i : Nat) :
    (keys.siblings group)[i]? =
      if i < group ∧ keys.parent (group - i) = keys.parent group then some (group - i)
      else none := by
  have self := (Evaluation.series_headD id 0 (keys.siblings group)).trans (List.map_id _)
  rw [← self, Evaluation.getElem?_series_siblings contiguous _ hpos hle]
  refine if_ctx_congr Iff.rfl (fun there => ?_) fun _ => rfl
  rw [siblings_eq_cons (by omega), List.headD_cons, id]

/-- Of numbers that count down one by one, the first few are those that are not far below the
first. -/
theorem take_eq_filter_of_countdown {numbers : List Nat} {start : Nat}
    (h : ∀ i, i < numbers.length → i < start ∧ numbers[i]? = some (start - i)) (size : Nat) :
    numbers.take size = numbers.filter fun n => decide (start < n + size) := by
  induction numbers generalizing start size with
  | nil => simp
  | cons first rest ih =>
    obtain ⟨hstart, hfirst⟩ := h 0 (by simp)
    obtain rfl : first = start := by simpa using hfirst
    have later : ∀ i, i < rest.length → i < first - 1 ∧ rest[i]? = some (first - 1 - i) := by
      intro i hi
      obtain ⟨hlt, hrest⟩ := h (i + 1) (by simpa using hi)
      exact ⟨by omega, by simpa [Nat.sub_sub, Nat.add_comm] using hrest⟩
    cases size with
    | zero =>
      refine (List.filter_eq_nil_iff.mpr fun n hn => ?_).symm
      obtain ⟨i, hi⟩ := List.getElem?_of_mem hn
      obtain ⟨-, here⟩ := h i (List.getElem?_eq_some_iff.mp hi).1
      have : n = first - i := Option.some.inj (hi.symm.trans here)
      simp only [Nat.add_zero, decide_eq_true_eq]
      omega
    | succ size =>
      rw [List.take_succ_cons, ih later, List.filter_cons_of_pos (by simp)]
      refine congrArg _ (List.filter_congr fun n _ => ?_)
      rw [decide_eq_decide]
      omega

/-- If the children of each parent stand together, a window shows the latest siblings. -/
theorem perm_window (contiguous : keys.Contiguous) (size : Nat) {group : Nat} (hpos : 1 ≤ group)
    (hle : group ≤ keys.size) :
    ((keys.siblings group).take size).Perm (keys.window size group) := by
  have countdown : ∀ i, i < (keys.siblings group).length →
      i < group ∧ (keys.siblings group)[i]? = some (group - i) := by
    intro i hi
    have here := getElem?_siblings contiguous hpos hle i
    rw [List.getElem?_eq_getElem hi] at here
    split at here
    · rename_i near
      exact ⟨near.1, (List.getElem?_eq_getElem hi).trans here⟩
    · cases here
  rw [take_eq_filter_of_countdown countdown, siblings, upTo_eq_filter, List.filter_reverse,
    List.filter_filter]
  exact List.reverse_perm _

end GroupKeys

namespace Evaluation

variable {ν : Type} [Numeric ν] {keys : GroupKeys} {size : Nat}

/-! ## Along columns -/

section

variable [ExactDifferences ν]

/-- A window moves on: the new value is added, and the one that falls out is subtracted. -/
theorem total_take_cons (size : Nat) (value : ν) (past : List ν) :
    Numeric.total ((value :: past).take size) =
      if h : size < (value :: past).length then
        Numeric.subtract (Numeric.add (Numeric.total (past.take size)) value) (value :: past)[size]
      else Numeric.add (Numeric.total (past.take size)) value := by
  have grown : Numeric.total ((value :: past).take (size + 1)) =
      Numeric.add (Numeric.total (past.take size)) value := by
    rw [List.take_succ_cons]
    exact ExactSums.add_comm ..
  split
  · rename_i full
    rw [← grown, List.take_add_one, List.getElem?_eq_getElem full, Option.toList_some,
      Numeric.total_append]
    show _ = Numeric.subtract (Numeric.add _ (Numeric.add _ Numeric.zero)) _
    rw [Numeric.add_zero, ExactDifferences.subtract_of_add]
  · rename_i short
    rw [← grown, List.take_of_length_le (Nat.not_lt.mp short),
      List.take_of_length_le (Nat.le_succ_of_le (Nat.not_lt.mp short))]

/-- The window that a column has moved to a group: it has seen the siblings of the group, and has
the sum of the latest of them. -/
structure Slid (keys : GroupKeys) (size : Nat) (inner : List ν) (group : Nat) (w : Sliding ν) :
    Prop where
  parent : w.parent = keys.parent group
  seen : w.seen = (keys.siblings group).length
  sum : w.sum =
    Numeric.total (((keys.siblings group).map (inner.getD · Numeric.zero)).take size)

/-- A window that has the sum of the latest siblings before a group takes in that group. -/
theorem slid_of_past (contiguous : keys.Contiguous) (size : Nat) (inner : List ν) {group : Nat}
    (hpos : 1 ≤ group) (hle : group ≤ keys.size) {past : List Nat}
    (opened : keys.siblings group = group :: past) {sum : ν}
    (hsum : sum = Numeric.total ((past.map (inner.getD · Numeric.zero)).take size)) :
    Slid keys size inner group
      { parent := keys.parent group
        sum := if size < past.length + 1 then
            Numeric.subtract (Numeric.add sum (inner.getD group Numeric.zero))
              (inner.getD (group - size) Numeric.zero)
          else Numeric.add sum (inner.getD group Numeric.zero)
        seen := past.length + 1 } where
  parent := rfl
  seen := by rw [opened, List.length_cons]
  sum := by
    subst hsum
    rw [opened, List.map_cons, total_take_cons]
    simp only [List.length_cons, List.length_map]
    by_cases full : size < past.length + 1
    · have inside : size < (group :: past).length := full
      have last : (group :: past)[size] = group - size := by
        have there := opened ▸ GroupKeys.getElem?_siblings contiguous hpos hle size
        rw [List.getElem?_eq_getElem inside] at there
        split at there
        · exact Option.some.inj there
        · cases there
      rw [if_pos full, dif_pos full, ← last]
      congr 1
      rw [← List.getElem_map (inner.getD · Numeric.zero)]
      rfl
    · rw [if_neg full, dif_neg full]

/-- One step takes a window from a group to the next one. -/
theorem slid_step (contiguous : keys.Contiguous) {inner : List ν} {group : Nat}
    (hle : group + 1 ≤ keys.size) {window : Option (Sliding ν)}
    (before : ∀ w ∈ window, Slid keys size inner group w) (first : window = none → group = 0) :
    Slid keys size inner (group + 1)
      (Sliding.step keys size inner (group + 1) (inner.getD (group + 1) Numeric.zero) window) := by
  have opened := GroupKeys.siblings_succ contiguous hle
  have next := slid_of_past contiguous size inner (Nat.succ_pos group) hle opened rfl
  rcases window with _ | w
  · obtain rfl := first rfl
    simpa [Sliding.step, GroupKeys.siblings, GroupKeys.upTo, Numeric.total] using next
  · obtain ⟨hparent, hseen, hsum⟩ := before w rfl
    by_cases same : keys.parent group = keys.parent (group + 1)
    · simpa [Sliding.step, hparent, hseen, hsum, same] using next
    · simpa [Sliding.step, hparent, same, Numeric.total] using next

/-- Moved along the groups, a window has at each the sum over the window that ends there. -/
theorem slidingSums_getElem? (contiguous : keys.Contiguous) {inner rest : List ν} {group : Nat}
    {window : Option (Sliding ν)} (behind : rest = inner.drop (group + 1))
    (before : ∀ w ∈ window, Slid keys size inner group w) (first : window = none → group = 0)
    {i : Nat} (hi : i < rest.length) (hle : group + 1 + i ≤ keys.size) :
    (slidingSums keys size inner (group + 1) window rest)[i]? = some (Numeric.total
      ((keys.window size (group + 1 + i)).map (inner.getD · Numeric.zero))) := by
  induction rest generalizing group window i with
  | nil => simp at hi
  | cons value rest ih =>
    have here : value = inner.getD (group + 1) Numeric.zero := by
      have := congrArg (·[0]?) behind
      simp only [List.getElem?_cons_zero, List.getElem?_drop] at this
      simp [← this]
    have later : rest = inner.drop (group + 1 + 1) := by
      rw [← List.tail_drop, ← behind, List.tail_cons]
    have moved := slid_step contiguous (by omega) before first
    rw [← here] at moved
    cases i with
    | zero =>
      rw [slidingSums, List.getElem?_cons_zero, moved.sum, ← List.map_take]
      exact congrArg some (Numeric.total_perm
        ((GroupKeys.perm_window contiguous size (Nat.succ_pos group) hle).map _))
    | succ i =>
      have next : ∀ w ∈ some (Sliding.step keys size inner (group + 1) value window),
          Slid keys size inner (group + 1) w := by
        rintro _ ⟨⟩
        exact moved
      have started : some (Sliding.step keys size inner (group + 1) value window) = none →
          group + 1 = 0 := fun none => absurd none (Option.some_ne_none _)
      rw [slidingSums, List.getElem?_cons_succ, ih later next started (by simpa using hi) (by omega),
        Nat.add_right_comm (group + 1) 1 i, Nat.add_assoc (group + 1) i 1]

/-- The column of a window has at each group the sum over the window that ends there. -/
theorem windowColumn_getElem? (contiguous : keys.Contiguous) (size : Nat) {inner : List ν}
    {group : Nat} (hpos : 1 ≤ group) (hle : group ≤ keys.size) (hlt : group < inner.length) :
    (windowColumn keys size inner)[group]? =
      some (Numeric.total ((keys.window size group).map (inner.getD · Numeric.zero))) := by
  obtain ⟨i, rfl⟩ := Nat.exists_eq_add_of_le hpos
  cases inner with
  | nil => simp at hlt
  | cons first rest =>
    rw [windowColumn, Nat.add_comm, List.getElem?_cons_succ, Nat.add_comm]
    simp only [List.length_cons] at hlt
    have fresh : ∀ w ∈ none, Slid keys size (first :: rest) 0 w := nofun
    have behind : rest = (first :: rest).drop 1 := rfl
    simpa using slidingSums_getElem? contiguous behind fresh (fun _ => rfl)
      (show i < rest.length by omega) (by omega)

end

/-! ## Along walks -/

/-- A value is added to the sums of the windows that contain its group. -/
theorem sum_addToWindows (group : Nat) (value : ν) (sums : Tally ν) (target : Nat) :
    (addToWindows keys size group value sums).sum target =
      if target ≤ keys.size ∧ group ≤ target ∧ target < group + size ∧
          keys.parent target = keys.parent group then
        Numeric.add (sums.sum target) value
      else sums.sum target := by
  have upTo (n : Nat) : ((List.range n).foldl (fun sums target =>
      if group ≤ target && target < group + size && keys.parent target == keys.parent group then
        sums.add target value
      else sums) sums).sum target =
        if target < n ∧ group ≤ target ∧ target < group + size ∧
            keys.parent target = keys.parent group then
          Numeric.add (sums.sum target) value
        else sums.sum target := by
    induction n with
    | zero => simp
    | succ n ih =>
      rw [List.range_succ, List.foldl_append, List.foldl_cons, List.foldl_nil]
      split
      · rename_i shown
        rw [Tally.sum_add]
        by_cases same : target = n
        · subst same
          simp_all
        · have : target < n + 1 ↔ target < n := by omega
          simp only [if_neg same, ih, this]
      · rename_i hidden
        by_cases same : target = n
        · subst same
          simp_all
        · have : target < n + 1 ↔ target < n := by omega
          simp only [ih, this]
  have whole := upTo (keys.size + 1)
  simp only [Nat.lt_succ_iff] at whole
  exact whole

/-- The sums of a walk over the first groups: every window has what it shows of these. -/
def Spread (keys : GroupKeys) (size : Nat) (value : Nat → ν) (visited : Nat) (sums : Tally ν) :
    Prop :=
  ∀ target ≤ keys.size, sums.sum target =
    Numeric.total (((List.range' 1 visited).filter fun g =>
      decide (g ≤ target ∧ target < g + size) && keys.parent g == keys.parent target).map value)

section

variable [ExactSums ν] {value : Nat → ν} {visited : Nat} {sums : Tally ν}

theorem spread_next (h : Spread keys size value visited sums) :
    Spread keys size value (visited + 1)
      (addToWindows keys size (visited + 1) (value (visited + 1)) sums) := by
  intro target hle
  rw [sum_addToWindows, h target hle, List.range'_1_concat, Nat.add_comm 1 visited,
    List.filter_append, List.map_append, Numeric.total_append]
  by_cases shown : visited + 1 ≤ target ∧ target < visited + 1 + size ∧
      keys.parent target = keys.parent (visited + 1)
  · rw [if_pos ⟨hle, shown⟩, List.filter_cons_of_pos (by simp [shown])]
    exact congrArg _ (Numeric.add_zero _).symm
  · rw [if_neg fun inside => shown inside.2, List.filter_cons_of_neg (by grind)]
    exact (Numeric.add_zero _).symm

omit [ExactSums ν] in
/-- When a group is visited, its sum is complete. -/
theorem Spread.sum_last (h : Spread keys size value visited sums) (hle : visited ≤ keys.size) :
    sums.sum visited = Numeric.total ((keys.window size visited).map value) := by
  rw [h visited hle, GroupKeys.window]
  congr 2
  refine List.filter_congr fun g hg => ?_
  have := List.mem_range'_1.mp hg
  simp only [show g ≤ visited by omega, true_and]

/-- A walk over the groups in order gives at each the sum over the window that ends there. -/
theorem walk_window {m : Metric ν} {term : Nat → Term} {row : Nat → List ν} {last : Nat}
    (hlast : last ≤ keys.size)
    (yields : ∀ group ≤ last, m.visit ⟨term group, group, row group⟩ = (.ok (value group), m))
    {remaining : Nat} (hle : visited + remaining ≤ last)
    (h : Spread keys size value visited sums) :
    (Metric.window size m keys sums).walk
        ((List.range' (visited + 1) remaining).map fun group => ⟨term group, group, row group⟩) =
      (List.range' (visited + 1) remaining).map fun group =>
        .ok (Numeric.total ((keys.window size group).map value)) := by
  induction remaining generalizing visited sums with
  | zero => rfl
  | succ remaining ih =>
    have next := spread_next h
    have visit : (Metric.window size m keys sums).visit
          ⟨term (visited + 1), visited + 1, row (visited + 1)⟩ =
        (.ok (Numeric.total ((keys.window size (visited + 1)).map value)),
          .window size m keys
            (addToWindows keys size (visited + 1) (value (visited + 1)) sums)) := by
      rw [Metric.visit, yields (visited + 1) (by omega)]
      simp only
      rw [next.sum_last (by omega)]
    rw [List.range'_succ, List.map_cons, List.map_cons, Metric.walk, visit,
      ih (by omega) next]

end

/-- Where parents do not decrease from group to group, the column of a window has at each group the
sum of its metric over the groups in the window, and a walk over the groups in order gives the same
values. -/
theorem Metric.totals_of_window [ExactDifferences ν]
    (sorted : (keys.children.map (·.1)).Pairwise (· ≤ ·)) (size : Nat) {m : Metric ν}
    (unordered : (Node.metric m).Unordered) {table : List (List ν)} {count : Nat} {inner : List ν}
    (evaluated : m.column table count = .ok inner) :
    ∃ outer, (Metric.window size m keys []).column table count = .ok outer ∧
      outer.length = count + 1 ∧
      (∀ group, 1 ≤ group → group ≤ count → group ≤ keys.size → outer[group]? =
        some (Numeric.total ((keys.window size group).map (inner.getD · Numeric.zero)))) ∧
      ∀ term : Nat → Term, (Metric.window size m keys []).walk
          ((List.range' 1 (min count keys.size)).map fun group =>
            ⟨term group, group, table.map (·.getD group Numeric.zero)⟩) =
        (List.range' 1 (min count keys.size)).map fun group =>
          .ok (outer.getD group Numeric.zero) := by
  have contiguous := GroupKeys.contiguous_of_sorted sorted
  have full := Metric.length_column evaluated
  have sums (group : Nat) (hpos : 1 ≤ group) (hcount : group ≤ count) (hle : group ≤ keys.size) :
      (windowColumn keys size inner)[group]? = _ :=
    windowColumn_getElem? contiguous size hpos hle (by omega)
  refine ⟨windowColumn keys size inner, by simp [Metric.column, evaluated],
    (length_windowColumn ..).trans full, sums, fun term => ?_⟩
  have yields : ∀ group ≤ min count keys.size,
      m.visit ⟨term group, group, table.map (·.getD group Numeric.zero)⟩ =
        (.ok (inner.getD group Numeric.zero), m) :=
    fun group hle => (Metric.yields_of_column unordered evaluated (by omega)).2 _
  -- Before the first visit no value has been spread over the windows behind it.
  have fresh : Spread keys size (inner.getD · Numeric.zero) 0 [] := fun _ _ => rfl
  refine (walk_window (Nat.min_le_right ..) yields (Nat.le_of_eq (Nat.zero_add _)) fresh).trans
    (List.map_congr_left fun group hg => ?_)
  have := List.mem_range'_1.mp hg
  simp [sums group (by omega) (by omega) (by omega)]

/-- The states of two countries: two of the first and three of the second. -/
def states : GroupKeys :=
  .level (.level .root [(1, .label "us"), (1, .label "ca")])
    [(1, .label "tx"), (1, .label "ny"), (2, .label "on"), (2, .label "bc"), (2, .label "qc")]

/-- A window of two states does not reach from one country into the other. -/
theorem totals_of_window_states :
    let clicks : Metric ℚ := .documents ⟨"ads", ["clicks"]⟩ (some 0)
    let table : List (List ℚ) := [[0, 1, 2, 4, 8, 16]]
    (states.children.map (·.1)).Pairwise (· ≤ ·) ∧ (Node.metric clicks).Unordered ∧
      clicks.column table 5 = .ok [0, 1, 2, 4, 8, 16] ∧
      (Metric.window 2 clicks states []).column table 5 = .ok [0, 1, 3, 4, 12, 24] ∧
      ∀ term : Nat → Term, (Metric.window 2 clicks states []).walk
          ((List.range' 1 5).map fun group =>
            ⟨term group, group, table.map (·.getD group Numeric.zero)⟩) =
        [.ok 1, .ok 3, .ok 4, .ok 12, .ok 24] := by
  intro clicks table
  have sorted : (states.children.map (·.1)).Pairwise (· ≤ ·) := by decide
  have unordered : (Node.metric clicks).Unordered := Node.unordered_documents _ _
  have evaluated : clicks.column table 5 = .ok [0, 1, 2, 4, 8, 16] := rfl
  obtain ⟨outer, column, -, -, walks⟩ := Metric.totals_of_window sorted 2 unordered evaluated
  obtain rfl : outer = [0, 1, 3, 4, 12, 24] :=
    Except.ok.inj (column.symm.trans (by decide +kernel))
  exact ⟨sorted, unordered, evaluated, column, walks⟩

end Evaluation

end Groupwise
