import Groupwise.Proofs.Evaluation.Unordered
import Mathlib.Logic.Function.Basic

/-!
# Running sums for every offset

A running sum with an offset looks at the groups of one parent up to the group that lies one place
less than the offset behind. Where that group is, numbers without bounds tell. Machine words find it
as well: the sum or the difference stops at the last word, the sums up to each group are kept by
parent in the order of the groups, and a binary search finds how many of them count. As long as the
groups have words for numbers nothing is lost in this, however large or small the offset.
-/
namespace Groupwise

namespace GroupKeys

/-- The groups with the parent of a group that lie less than `offset` places behind it. -/
def reach (keys : GroupKeys) (offset : Int) (count group : Nat) : List Nat :=
  (List.range' 1 count).filter fun g =>
    keys.parent g == keys.parent group && decide ((g : Int) ≤ group + offset - 1)

/-- Of the first numbers, those up to a bound are again the first ones. -/
theorem range'_filter_le (count : Nat) (last : Int) :
    (List.range' 1 count).filter (fun g : Nat => decide ((g : Int) ≤ last)) =
      List.range' 1 (min count last.toNat) := by
  induction count with
  | zero => simp
  | succ count ih =>
    rw [List.range'_1_concat, List.filter_append, ih]
    by_cases inside : ((1 + count : Nat) : Int) ≤ last
    · rw [List.filter_cons_of_pos (by simpa using inside), List.filter_nil,
        show min count last.toNat = count by omega,
        show min (count + 1) last.toNat = count + 1 by omega, List.range'_1_concat]
    · rw [List.filter_cons_of_neg (by simpa using inside), List.filter_nil, List.append_nil,
        show min (count + 1) last.toNat = min count last.toNat by omega]

variable {keys : GroupKeys}

theorem upTo_eq_reach (offset : Int) (count group : Nat) :
    keys.upTo (keys.parent group) (min count (group + offset - 1).toNat) =
      (keys.reach offset count group).reverse := by
  rw [reach, ← List.filter_filter, range'_filter_le, upTo_eq_filter]

end GroupKeys

namespace Evaluation

variable {ν : Type} [Numeric ν] {keys : GroupKeys} {value : Nat → ν} {inner : List ν} {count : Nat}

/-- The column of a running sum has at each group what its metric adds up to over the groups in
reach. -/
theorem runningColumn_getElem?_reach (full : inner.length = count + 1) (offset : Int64)
    {group : Nat} (hpos : 1 ≤ group) (hle : group ≤ count) :
    (runningColumn keys offset count inner)[group]? =
      some (accumulate ((keys.reach offset.toInt count group).reverse.map
        (inner.getD · Numeric.zero))) := by
  let latest (past : List Nat) : ν := inner.getD (past.headD 0) Numeric.zero
  have here (group : Nat) (hpos : 1 ≤ group) (hle : group ≤ count) :
      inner[group]? = some (latest (keys.siblings group)) := by
    have inside : group < inner.length := by omega
    rw [GroupKeys.siblings_eq_cons hpos]
    simp [latest, inside]
  rw [runningColumn_getElem? full here offset hpos hle, GroupKeys.upTo_eq_reach,
    series_headD (inner.getD · Numeric.zero) 0]

theorem accumulate_reverse [ExactSums ν] (values : List ν) :
    accumulate values.reverse = Numeric.total values := by
  rw [accumulate, List.foldr_reverse, Numeric.foldl_add_eq, ExactSums.zero_add]

/-! ## Sums by parent -/

/-- The groups of a parent in order, each with the sum up to it. -/
def sumsOf (keys : GroupKeys) (value : Nat → ν) (count parent : Nat) : List (Nat × ν) :=
  ((keys.upTo parent count).map fun g => (g, accumulate ((keys.upTo parent g).map value))).reverse

/-- The last of the sums is that over all groups of the parent. -/
theorem last_sumsOf (count parent : Nat) :
    (sumsOf keys value count parent).getLast?.elim Numeric.zero (·.2) =
      accumulate ((keys.upTo parent count).map value) := by
  rw [sumsOf, List.getLast?_reverse, List.head?_map]
  rcases keys.upTo_eq_nil_or_siblings parent count with none | ⟨group, hpos, -, rfl, upTo⟩
  · simp [none, accumulate]
  · simp [upTo, GroupKeys.siblings_eq_cons hpos]

theorem sumsOf_succ (count parent : Nat) :
    sumsOf keys value (count + 1) parent = sumsOf keys value count parent ++
      if keys.parent (count + 1) = parent then
        [(count + 1, Numeric.add (accumulate ((keys.upTo parent count).map value))
          (value (count + 1)))]
      else [] := by
  by_cases own : keys.parent (count + 1) = parent
  · simp [sumsOf, GroupKeys.upTo, own, accumulate]
  · simp [sumsOf, GroupKeys.upTo, own]

/-- The sums up to a group come first, and the others belong to later groups. -/
theorem sumsOf_split (keys : GroupKeys) (value : Nat → ν) {early : Nat} (h : early ≤ count)
    (parent : Nat) :
    ∃ later, sumsOf keys value count parent = sumsOf keys value early parent ++ later ∧
      ∀ entry ∈ later, early < entry.1 ∧ entry.1 ≤ count := by
  induction h with
  | refl => exact ⟨[], by simp, nofun⟩
  | @step count hle ih =>
    have : early ≤ count := hle
    obtain ⟨later, split, bounds⟩ := ih
    refine ⟨_, by rw [sumsOf_succ, split, List.append_assoc], fun entry mem => ?_⟩
    rcases List.mem_append.mp mem with old | new
    · exact ⟨(bounds entry old).1, Nat.le_succ_of_le (bounds entry old).2⟩
    · split at new
      · obtain rfl := List.mem_singleton.mp new
        exact ⟨Nat.lt_succ_of_le this, Nat.le_refl _⟩
      · cases new

/-- Only the first groups have sums among them. -/
theorem bounds_of_mem_sumsOf {parent : Nat} {entry : Nat × ν}
    (mem : entry ∈ sumsOf keys value count parent) : 1 ≤ entry.1 ∧ entry.1 ≤ count := by
  obtain ⟨later, split, bounds⟩ := sumsOf_split keys value (Nat.zero_le count) parent
  rw [split] at mem
  exact bounds entry mem

/-! ## In words -/

/-- The number of a group as a word, if it fits into one. -/
def wordOf (group : Nat) : StrictM Int64 :=
  if (group : Int) ≤ Int64.maxValue.toInt then .ok (Int64.ofNat group)
  else .error (.outOfRange group)

/-- The last group that counts for a group. Sum and difference stop at the last word. -/
def lastInReach (offset : Int64) (group : Nat) : StrictM Int64 := do
  let before := Int64.ofIntClamp (offset.toInt - 1)
  pure (Int64.ofIntClamp ((← wordOf group).toInt + before.toInt))

/-- Add a group to the sums of its parent. -/
def enter (keys : GroupKeys) (inner : List ν) (sums : Nat → List (Nat × ν)) (group : Nat) :
    StrictM (Nat → List (Nat × ν)) := do
  let own := sums (keys.parent group)
  let sum := Numeric.add (own.getLast?.elim Numeric.zero (·.2)) (← readAt inner group)
  pure (Function.update sums (keys.parent group) (own ++ [(group, sum)]))

/-- How many places from `low` on hold, if they are followed up to `high` by those that do not. -/
def countHolding {α : Type} (holds : α → StrictM Bool) (items : List α) (low high : Nat) :
    StrictM Nat := do
  if low < high then
    let mid := (low + high) / 2
    if ← holds (← readAt items mid) then countHolding holds items (mid + 1) high
    else countHolding holds items low mid
  else pure low
termination_by high - low
decreasing_by all_goals omega

/-- Whether a sum is that up to a group that counts. -/
def counts (last : Int64) (entry : Nat × ν) : StrictM Bool := do
  pure (decide ((← wordOf entry.1) ≤ last))

/-- The sum for a group from the sums of its parent. -/
def sumInReach (keys : GroupKeys) (offset : Int64) (sums : Nat → List (Nat × ν)) (group : Nat) :
    StrictM ν := do
  let last ← lastInReach offset group
  if last < 1 then pure Numeric.zero
  else
    let own := sums (keys.parent group)
    let seen ← countHolding (counts last) own 0 own.length
    if seen = 0 then pure Numeric.zero else pure (← readAt own (seen - 1)).2

/-- The column of a running sum in words, with every place read by its number. -/
def runningWords (keys : GroupKeys) (offset : Int64) (count : Nat) (inner : List ν) :
    StrictM (List ν) := do
  let sums ← (List.range' 1 count).foldlM (enter keys inner) fun _ => []
  pure (Numeric.zero :: (← (List.range' 1 count).mapM (sumInReach keys offset sums)))

theorem toInt_ofIntClamp (n : Int) :
    (Int64.ofIntClamp n).toInt = max (-2 ^ 63) (min (2 ^ 63 - 1) n) := by
  have least : Int64.minValue.toInt = -2 ^ 63 := Int64.toInt_minValue
  have greatest : Int64.maxValue.toInt = 2 ^ 63 - 1 := Int64.toInt_maxValue
  rw [Int64.ofIntClamp]
  split
  · split
    · rw [Int64.toInt_ofIntLE]
      omega
    · omega
  · omega

theorem wordOf_eq_ok {group : Nat} (fits : (group : Int) ≤ Int64.maxValue.toInt) :
    ∃ word, wordOf group = .ok word ∧ word.toInt = group := by
  refine ⟨_, if_pos fits, Int64.toInt_ofNat_of_lt ?_⟩
  have : Int64.maxValue.toInt = 2 ^ 63 - 1 := Int64.toInt_maxValue
  omega

/-- Where sum and difference stop at the last word, no group is lost and none is gained. -/
theorem lastInReach_eq_ok (offset : Int64) {group : Nat}
    (fits : (group : Int) ≤ Int64.maxValue.toInt) :
    ∃ last, lastInReach offset group = .ok last ∧
      ∀ g : Nat, 1 ≤ g → (g : Int) ≤ Int64.maxValue.toInt →
        ((g : Int) ≤ last.toInt ↔ (g : Int) ≤ group + offset.toInt - 1) := by
  obtain ⟨word, found, exact⟩ := wordOf_eq_ok fits
  refine ⟨_, by rw [lastInReach, found]; rfl, fun g hpos hg => ?_⟩
  have greatest : Int64.maxValue.toInt = 2 ^ 63 - 1 := Int64.toInt_maxValue
  have least := Int64.le_toInt offset
  rw [toInt_ofIntClamp, toInt_ofIntClamp, exact]
  omega

/-- If the places that hold come first, the search finds their number. -/
theorem countHolding_eq_ok {α : Type} {holds : α → StrictM Bool} {front back : List α}
    (first : ∀ item ∈ front, holds item = .ok true) (rest : ∀ item ∈ back, holds item = .ok false)
    {low high : Nat} (hlow : low ≤ front.length) (hhigh : front.length ≤ high)
    (inside : high ≤ (front ++ back).length) :
    countHolding holds (front ++ back) low high = .ok front.length := by
  rw [countHolding]
  split
  · rename_i wide
    obtain ⟨item, there, told⟩ : ∃ item, readAt (front ++ back) ((low + high) / 2) = .ok item ∧
        holds item = .ok (decide ((low + high) / 2 < front.length)) := by
      have hmid : (low + high) / 2 < (front ++ back).length := by omega
      refine ⟨(front ++ back)[(low + high) / 2], readAt_eq_ok (List.getElem?_eq_getElem hmid), ?_⟩
      by_cases early : (low + high) / 2 < front.length
      · rw [List.getElem_append_left early, decide_eq_true early]
        exact first _ (List.getElem_mem early)
      · rw [List.getElem_append_right (Nat.not_lt.mp early), decide_eq_false early]
        exact rest _ (List.getElem_mem _)
    simp only [there, told, bind, Except.bind, decide_eq_true_eq]
    split
    · exact countHolding_eq_ok first rest (by omega) hhigh inside
    · exact countHolding_eq_ok first rest hlow (by omega) (by omega)
  · rw [Nat.le_antisymm hlow (by omega)]
    rfl
termination_by high - low

/-- Entering one group after another gives the sums of every parent. -/
theorem foldlM_enter
    (here : ∀ group, 1 ≤ group → group ≤ count → inner[group]? = some (value group))
    {n : Nat} (h : n ≤ count) :
    (List.range' 1 n).foldlM (enter keys inner) (fun _ => []) = .ok (sumsOf keys value n) := by
  induction n with
  | zero => rfl
  | succ n ih =>
    rw [List.range'_1_concat, List.foldlM_append, ih (by omega), Nat.add_comm 1 n]
    have entered : enter keys inner (sumsOf keys value n) (n + 1) =
        .ok (sumsOf keys value (n + 1)) := by
      rw [enter, readAt_eq_ok (here (n + 1) (by omega) h), last_sumsOf]
      refine congrArg Except.ok (funext fun parent => ?_)
      rw [sumsOf_succ, Function.update_apply]
      by_cases own : keys.parent (n + 1) = parent
      · simp [own]
      · simp [own, Ne.symm own]
    simp only [bind, Except.bind, List.foldlM_cons, entered]
    rfl

/-- Of the sums of a parent, the search counts those up to the last group that counts. -/
theorem countHolding_sumsOf (keys : GroupKeys) (value : Nat → ν)
    (fits : (count : Int) ≤ Int64.maxValue.toInt) {last : Int64} {early : Nat}
    (hearly : early ≤ count)
    (counted : ∀ g : Nat, 1 ≤ g → g ≤ count → ((g : Int) ≤ last.toInt ↔ g ≤ early)) (parent : Nat) :
    ∃ later, sumsOf keys value count parent = sumsOf keys value early parent ++ later ∧
      countHolding (counts last) (sumsOf keys value count parent) 0
        (sumsOf keys value count parent).length = .ok (sumsOf keys value early parent).length := by
  have told (entry : Nat × ν) (hpos : 1 ≤ entry.1) (hcount : entry.1 ≤ count) :
      counts last entry = .ok (decide (entry.1 ≤ early)) := by
    obtain ⟨word, found, same⟩ := wordOf_eq_ok (show (entry.1 : Int) ≤ _ by omega)
    simp only [counts, found, bind, Except.bind, Int64.le_iff_toInt_le, same,
      counted entry.1 hpos hcount]
    rfl
  obtain ⟨later, split, bounds⟩ := sumsOf_split keys value hearly parent
  refine ⟨later, split, ?_⟩
  rw [split]
  refine countHolding_eq_ok (fun entry mem => ?_) (fun entry mem => ?_) (Nat.zero_le _) (by simp)
    (Nat.le_refl _)
  · have := bounds_of_mem_sumsOf mem
    rw [told entry this.1 (by omega), decide_eq_true this.2]
  · have := bounds entry mem
    rw [told entry (by omega) this.2, decide_eq_false (by omega)]

theorem readAt_last {α : Type} {front : List α} (nonempty : front ≠ []) (later : List α) :
    readAt (front ++ later) (front.length - 1) = .ok (front.getLast nonempty) := by
  have : front.length ≠ 0 := mt List.eq_nil_of_length_eq_zero nonempty
  rw [← List.getElem_length_sub_one_eq_getLast (by omega)]
  exact readAt_eq_ok (by rw [List.getElem?_append_left (by omega), List.getElem?_eq_getElem])

/-- The search in words finds the sum over all groups in reach. -/
theorem sumInReach_eq_ok (keys : GroupKeys) (value : Nat → ν)
    (fits : (count : Int) ≤ Int64.maxValue.toInt) (offset : Int64) {group : Nat}
    (hle : group ≤ count) :
    sumInReach keys offset (sumsOf keys value count) group =
      .ok (accumulate ((keys.reach offset.toInt count group).reverse.map value)) := by
  obtain ⟨last, found, exact⟩ := lastInReach_eq_ok offset (show (group : Int) ≤ _ by omega)
  rw [← GroupKeys.upTo_eq_reach]
  generalize hearly : min count ((group : Int) + offset.toInt - 1).toNat = early
  have counted (g : Nat) (hpos : 1 ≤ g) (hg : g ≤ count) : (g : Int) ≤ last.toInt ↔ g ≤ early := by
    rw [exact g hpos (by omega)]
    omega
  have one : (1 : Int64).toInt = 1 := rfl
  simp only [sumInReach, found, bind, Except.bind]
  split
  · rename_i short
    rw [Int64.lt_iff_toInt_lt, one] at short
    have none : early = 0 := by
      by_contra some
      have := (counted 1 (Nat.le_refl 1) (by omega)).mpr (by omega)
      omega
    rw [none]
    rfl
  · obtain ⟨later, split, searched⟩ :=
      countHolding_sumsOf keys value fits (by omega) counted (keys.parent group)
    rw [searched, ← last_sumsOf, split]
    generalize sumsOf keys value early (keys.parent group) = front
    by_cases nonempty : front = []
    · rw [nonempty]
      rfl
    · have some : front.length ≠ 0 := mt List.eq_nil_of_length_eq_zero nonempty
      simp only [if_neg some, readAt_last nonempty, List.getLast?_eq_some_getLast nonempty]
      rfl

/-- In words the column of a running sum is the same, and nothing overflows on the way. -/
theorem runningWords_eq_ok (fits : (count : Int) ≤ Int64.maxValue.toInt)
    (full : inner.length = count + 1) (keys : GroupKeys) (offset : Int64) :
    runningWords keys offset count inner = .ok (runningColumn keys offset count inner) := by
  let value (group : Nat) : ν := inner.getD group Numeric.zero
  have here (group : Nat) (_ : 1 ≤ group) (hle : group ≤ count) :
      inner[group]? = some (value group) := by
    have inside : group < inner.length := by omega
    simp [value, inside]
  have found (group : Nat) (mem : group ∈ List.range' 1 count) :=
    have hle : group ≤ count := by have := List.mem_range'_1.mp mem; omega
    sumInReach_eq_ok keys value fits offset hle
  simp only [runningWords, foldlM_enter here (Nat.le_refl count), bind, Except.bind,
    mapM_eq_ok_map found]
  refine congrArg Except.ok (List.ext_getElem? fun group => ?_)
  cases group with
  | zero => rfl
  | succ i =>
    rw [List.getElem?_cons_succ, List.getElem?_map]
    by_cases inside : i < count
    · rw [List.getElem?_range' inside, runningColumn_getElem?_reach full offset (by omega) inside]
      simp [value, Nat.add_comm 1 i]
    · rw [List.getElem?_eq_none (by simpa using inside),
        List.getElem?_eq_none (by simp [runningColumn]; omega), Option.map_none]

/-- A running sum with any offset has at each group the sum of its metric over the groups in reach.
In words it comes out the same. -/
theorem Metric.totals_of_running [ExactSums ν] (offset : Int64) (keys : GroupKeys) (sums : Tally ν)
    {m : Metric ν} {table : List (List ν)} (evaluated : m.column table count = .ok inner) :
    ∃ outer, (Metric.running offset m keys sums).column table count = .ok outer ∧
      outer.length = count + 1 ∧
      (∀ group, 1 ≤ group → group ≤ count → outer[group]? = some (Numeric.total
        ((keys.reach offset.toInt count group).map (inner.getD · Numeric.zero)))) ∧
      ((count : Int) ≤ Int64.maxValue.toInt →
        runningWords keys offset count inner = .ok outer) := by
  have full := Metric.length_column evaluated
  refine ⟨runningColumn keys offset count inner, by simp [Metric.column, evaluated],
    by simp [runningColumn], fun group hpos hle => ?_, fun fits =>
      runningWords_eq_ok fits full keys offset⟩
  rw [runningColumn_getElem?_reach full offset hpos hle, List.map_reverse, accumulate_reverse]

/-- The cities of two countries in the order in which they were found. -/
def cities : GroupKeys :=
  .level (.level .root [(1, .label "us"), (1, .label "ca")])
    [(2, .label "qc"), (1, .label "tx"), (2, .label "on"), (1, .label "ny"), (1, .label "ca")]

/-- With offset two a running sum reaches to the next city. With the least word it reaches none, and
with the greatest one it reaches all of the country. -/
theorem totals_of_running_cities :
    let clicks : Metric ℚ := .documents ⟨"ads", ["clicks"]⟩ (some 0)
    let table : List (List ℚ) := [[0, 1, 2, 4, 8, 16]]
    clicks.column table 5 = .ok [0, 1, 2, 4, 8, 16] ∧ ((5 : Nat) : Int) ≤ Int64.maxValue.toInt ∧
      runningWords cities 2 5 [(0 : ℚ), 1, 2, 4, 8, 16] = .ok [0, 1, 2, 5, 26, 26] ∧
      runningWords cities Int64.minValue 5 [(0 : ℚ), 1, 2, 4, 8, 16] = .ok [0, 0, 0, 0, 0, 0] ∧
      runningWords cities Int64.maxValue 5 [(0 : ℚ), 1, 2, 4, 8, 16] =
        .ok [0, 5, 26, 5, 26, 26] := by
  intro clicks table
  have evaluated : clicks.column table 5 = .ok [0, 1, 2, 4, 8, 16] := rfl
  have fits : ((5 : Nat) : Int) ≤ Int64.maxValue.toInt := by decide
  have run (offset : Int64) {expected : List ℚ}
      (h : runningColumn cities offset 5 [0, 1, 2, 4, 8, 16] = expected) :
      runningWords cities offset 5 [(0 : ℚ), 1, 2, 4, 8, 16] = .ok expected := by
    obtain ⟨outer, column, -, -, words⟩ :=
      Metric.totals_of_running offset cities [] evaluated
    obtain rfl : runningColumn cities offset 5 [0, 1, 2, 4, 8, 16] = outer := Except.ok.inj column
    rw [words fits, h]
  exact ⟨evaluated, fits, run 2 (by decide +kernel), run _ (by decide +kernel),
    run _ (by decide +kernel)⟩

end Evaluation

end Groupwise
