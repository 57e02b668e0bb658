import Groupwise.Proofs.Evaluation.Exact
import Groupwise.Proofs.Evaluation.Series
import Mathlib.Data.List.Basic
import Mathlib.Data.List.Induction
import Mathlib.Logic.Function.Basic

/-!
# Walks along the children of groups

A walk meets the children of a group one after another, those of other groups in between. What a
metric keeps between visits is told by the children of each group that were visited so far, and so a
visit gives the value of the metric along these children.

The delay of a metric that keeps nothing itself needs no walk in order. It gives in each visit to a
group the value of the metric a number of visits to that group earlier, however visits to other
groups come in between. The last values of each group are enough for this, and no more are kept.
-/
namespace Groupwise.Evaluation

variable {ν : Type}

/-! ## Tallies -/

theorem Tally.find?_insert {α : Type} (tally : Tally α) (group other : Nat) (value : α) :
    (tally.insert group value).find? other =
      if other = group then some value else tally.find? other := by
  by_cases h : other = group
  · simp [Tally.find?, Tally.insert, h]
  · have others : (tally.filter (·.1 != group)).find? (·.1 == other) =
        List.find? (·.1 == other) tally := by
      rw [List.find?_filter]
      congr 1
      funext e
      by_cases he : e.1 = other <;> simp [he, h]
    simp [Tally.find?, Tally.insert, h, Ne.symm h, others]

variable [Numeric ν]

theorem Tally.sum_add (tally : Tally ν) (group other : Nat) (value : ν) :
    (tally.add group value).sum other =
      if other = group then Numeric.add (tally.sum group) value else tally.sum other := by
  unfold Tally.add Tally.sum
  rw [Tally.find?_insert]
  split <;> rfl

/-- A history that holds the last values of each group, the oldest first. -/
def Remembers (distance : Nat) (values : Nat → List ν) (history : Tally (List ν)) : Prop :=
  ∀ group, (history.find? group).getD [] = ((values group).take distance).reverse

/-- A delay gives the value that came the given number of values before, and the history goes on to
hold the last values of each group. -/
theorem delay_of_remembers {distance : Nat} {values : Nat → List ν} {history : Tally (List ν)}
    (h : Remembers distance values history) (group : Nat) (value : ν) :
    ∃ history', delay distance group value history =
        (((value :: values group)[distance]?).getD Numeric.zero, history') ∧
      Remembers distance (Function.update values group (value :: values group)) history' := by
  have seen : (history.find? group).getD [] ++ [value] =
      ((value :: values group).take (distance + 1)).reverse := by
    rw [h group, List.take_succ_cons, List.reverse_cons]
  have remembers : ∀ kept : List ν, kept = ((value :: values group).take distance).reverse →
      Remembers distance (Function.update values group (value :: values group))
        (history.insert group kept) := by
    intro kept hkept other
    rw [Tally.find?_insert]
    by_cases hother : other = group
    · subst hother
      simpa using hkept
    · simp [hother, h other]
  unfold delay
  rw [seen]
  by_cases hlong : distance < (value :: values group).length
  · have full : distance < ((value :: values group).take (distance + 1)).reverse.length := by
      simp only [List.length_reverse, List.length_take]
      omega
    have oldest : ((value :: values group).take (distance + 1)).reverse =
        (value :: values group)[distance] :: ((value :: values group).take distance).reverse := by
      rw [List.take_add_one, List.getElem?_eq_getElem hlong, Option.toList_some,
        List.reverse_append, List.reverse_singleton, List.singleton_append]
    refine ⟨_, ?_, remembers _ rfl⟩
    rw [if_pos full, oldest, List.getElem?_eq_getElem hlong]
    rfl
  · have short : ¬ distance < ((value :: values group).take (distance + 1)).reverse.length := by
      simp only [List.length_reverse, List.length_take]
      omega
    have all : (value :: values group).take (distance + 1) =
        (value :: values group).take distance := by
      rw [List.take_of_length_le (by omega), List.take_of_length_le (by omega)]
    refine ⟨history.insert group ((value :: values group).take distance).reverse, ?_,
      remembers _ rfl⟩
    rw [if_neg short, List.getElem?_eq_none (by omega), all]
    rfl

/-! ## What a metric keeps -/

mutual

/-- What a metric keeps is what it has seen along the children that were visited in each group, the
latest first. -/
def Metric.UpTo (sum : Push → Option Nat → Nat → ν) (placed : Push → Option Nat → Prop)
    (visited : Nat → List Nat) : Metric ν → Prop
  | .constant _ => True
  | .function _ m => m.UpTo sum placed visited
  | .calculate _ l r => l.UpTo sum placed visited ∧ r.UpTo sum placed visited
  | .least ms => Metric.AllUpTo sum placed visited ms
  | .greatest ms => Metric.AllUpTo sum placed visited ms
  | .documents push index => placed push index
  | .running _ m _ sums =>
    m.UpTo sum placed visited ∧
      ∀ group, sums.sum group = accumulate (series (m.valueAlong sum) (visited group))
  | .iterateLag distance m history =>
    m.UpTo sum placed visited ∧
      Remembers distance (fun group => series (m.valueAlong sum) (visited group)) history
  | .lag .. => False
  | .window .. => False
  | .ifThenElse .. => False
  | .lookup _ => False
  | .multiLookup _ => False

def Metric.AllUpTo (sum : Push → Option Nat → Nat → ν) (placed : Push → Option Nat → Prop)
    (visited : Nat → List Nat) : List (Metric ν) → Prop
  | [] => True
  | m :: rest => m.UpTo sum placed visited ∧ Metric.AllUpTo sum placed visited rest

end

theorem Metric.allUpTo_iff {sum : Push → Option Nat → Nat → ν} {placed : Push → Option Nat → Prop}
    {visited : Nat → List Nat} {ms : List (Metric ν)} :
    Metric.AllUpTo sum placed visited ms ↔ ∀ m ∈ ms, m.UpTo sum placed visited := by
  induction ms with
  | nil => simp [Metric.AllUpTo]
  | cons m rest ih => rw [Metric.AllUpTo, ih, List.forall_mem_cons]

section Register

variable {sum : Push → Option Nat → Nat → ν} {placed : Push → Option Nat → Prop}
  {visited : Nat → List Nat} {index : Push → Option Nat}

mutual

/-- Registration gives every program that is read its place, and nothing else changes. -/
theorem Metric.upTo_of_register {m m' : Metric ν}
    (upTo : m.UpTo (fun push _ => sum push (index push)) anyPlace visited)
    (read : ∀ push ∈ m.reads, placed push (index push)) (h : m.register index = .ok m') :
    m'.UpTo sum placed visited := by
  match m with
  | .constant _ =>
    cases h
    trivial
  | .documents push _ =>
    have here := read push List.mem_cons_self
    simp only [Metric.register] at h
    split at h <;> cases h
    simp_all [Metric.UpTo]
  | .function f m =>
    simp only [Metric.register, bind_eq_ok, pure_eq_ok] at h
    obtain ⟨m', hm, rfl⟩ := h
    rw [Metric.UpTo] at upTo ⊢
    rw [Metric.reads] at read
    exact Metric.upTo_of_register upTo read hm
  | .iterateLag _ m _ | .running _ m _ _ =>
    simp only [Metric.register, bind_eq_ok, pure_eq_ok] at h
    obtain ⟨m', hm, rfl⟩ := h
    refine ⟨Metric.upTo_of_register upTo.1 read hm, ?_⟩
    rw [Metric.valueAlong_of_register hm]
    exact upTo.2
  | .calculate op l r =>
    simp only [Metric.register, bind_eq_ok, pure_eq_ok] at h
    obtain ⟨l', hl, r', hr, rfl⟩ := h
    obtain ⟨readLeft, readRight⟩ := List.forall_mem_append.mp read
    exact ⟨Metric.upTo_of_register upTo.1 readLeft hl,
      Metric.upTo_of_register upTo.2 readRight hr⟩
  | .least ms | .greatest ms =>
    simp only [Metric.register, bind_eq_ok, pure_eq_ok] at h
    obtain ⟨ms', hms, rfl⟩ := h
    exact Metric.allUpTo_of_registerAll upTo read hms
  | .window .. | .lag .. | .ifThenElse .. | .lookup _ | .multiLookup _ => exact upTo.elim

theorem Metric.allUpTo_of_registerAll {ms ms' : List (Metric ν)}
    (upTo : Metric.AllUpTo (fun push _ => sum push (index push)) anyPlace visited ms)
    (read : ∀ push ∈ Metric.readsOfAll ms, placed push (index push))
    (h : Metric.registerAll index ms = .ok ms') : Metric.AllUpTo sum placed visited ms' := by
  match ms with
  | [] =>
    cases h
    trivial
  | m :: rest =>
    simp only [Metric.registerAll, bind_eq_ok, pure_eq_ok] at h
    obtain ⟨m', hm, rest', hrest, rfl⟩ := h
    obtain ⟨readFirst, readRest⟩ := List.forall_mem_append.mp read
    exact ⟨Metric.upTo_of_register upTo.1 readFirst hm,
      Metric.allUpTo_of_registerAll upTo.2 readRest hrest⟩

end

end Register

/-- The children visited in each group when one more has been visited. -/
def visitNext (visited : Nat → List Nat) (group child : Nat) : Nat → List Nat :=
  Function.update visited group (child :: visited group)

omit [Numeric ν] in
theorem series_visitNext (f : List Nat → ν) (visited : Nat → List Nat) (group child : Nat) :
    (fun other => series f (visitNext visited group child other)) =
      Function.update (fun other => series f (visited other)) group
        (f (child :: visited group) :: series f (visited group)) := by
  funext other
  by_cases h : other = group
  · subst h
    simp [visitNext, series]
  · simp [visitNext, h]

section Visit

variable {sum : Push → Option Nat → Nat → ν} {placed : Push → Option Nat → Prop}
  {visited : Nat → List Nat} {v : Visit ν} {child : Nat}

mutual

/-- A visit of a child gives the value along the children visited in its group, and what is kept is
then up to that child. -/
theorem Metric.visit_of_upTo
    (summed : ∀ push index, placed push index →
      index.bind (v.sums[·]?) = some (sum push index child))
    {m : Metric ν} (h : m.UpTo sum placed visited) :
    ∃ m', m.visit v = (.ok (m.valueAlong sum (child :: visited v.group)), m') ∧
      m'.UpTo sum placed (visitNext visited v.group child) ∧
      m'.valueAlong sum = m.valueAlong sum := by
  match m with
  | .constant x => exact ⟨_, rfl, trivial, rfl⟩
  | .documents push index =>
    exact ⟨.documents push index, by simp [Metric.visit, summed push index h, Metric.valueAlong], h,
      rfl⟩
  | .function f m =>
    obtain ⟨m', hm, upTo, same⟩ := Metric.visit_of_upTo summed (m := m) h
    exact ⟨.function f m', by simp [Metric.visit, hm, Metric.valueAlong], upTo, by
      funext past
      simp [Metric.valueAlong, same]⟩
  | .calculate op l r =>
    obtain ⟨l', hl, upToLeft, sameLeft⟩ := Metric.visit_of_upTo summed h.1
    obtain ⟨r', hr, upToRight, sameRight⟩ := Metric.visit_of_upTo summed h.2
    exact ⟨.calculate op l' r', by simp [Metric.visit, hl, hr, Metric.valueAlong],
      ⟨upToLeft, upToRight⟩, by
        funext past
        simp [Metric.valueAlong, sameLeft, sameRight]⟩
  | .least ms =>
    obtain ⟨ms', hms, upTo, same⟩ :=
      Metric.visitAll_of_upTo summed Numeric.least none h
    exact ⟨.least ms', by simp [Metric.visit, hms, Metric.valueAlong], upTo, by
      funext past
      simp [Metric.valueAlong, same]⟩
  | .greatest ms =>
    obtain ⟨ms', hms, upTo, same⟩ :=
      Metric.visitAll_of_upTo summed Numeric.greatest none h
    exact ⟨.greatest ms', by simp [Metric.visit, hms, Metric.valueAlong], upTo, by
      funext past
      simp [Metric.valueAlong, same]⟩
  | .running offset m keys sums =>
    obtain ⟨m', hm, upTo, same⟩ := Metric.visit_of_upTo summed h.1
    refine ⟨.running offset m' keys
      (sums.add v.group (m.valueAlong sum (child :: visited v.group))), ?_,
      ⟨upTo, fun group => ?_⟩, ?_⟩
    · simp [Metric.visit, hm, Tally.sum_add, h.2, Metric.valueAlong, series, accumulate]
    · rw [Tally.sum_add, same, congrFun (series_visitNext ..) group]
      by_cases hgroup : group = v.group
      · subst hgroup
        simp [h.2, accumulate]
      · simp [hgroup, h.2]
    · funext past
      simp [Metric.valueAlong, same]
  | .iterateLag distance m history =>
    obtain ⟨m', hm, upTo, same⟩ := Metric.visit_of_upTo summed h.1
    obtain ⟨history', hdelay, remembers⟩ :=
      delay_of_remembers h.2 v.group (m.valueAlong sum (child :: visited v.group))
    refine ⟨.iterateLag distance m' history', ?_, ⟨upTo, ?_⟩, ?_⟩
    · simp [Metric.visit, hm, hdelay, Metric.valueAlong, series]
    · rwa [same, series_visitNext]
    · funext past
      simp [Metric.valueAlong, same]
  | .lag .. | .window .. | .ifThenElse .. | .lookup _ | .multiLookup _ => exact h.elim

theorem Metric.visitAll_of_upTo
    (summed : ∀ push index, placed push index →
      index.bind (v.sums[·]?) = some (sum push index child))
    (combine : ν → ν → ν) (found : Option ν) {ms : List (Metric ν)}
    (h : Metric.AllUpTo sum placed visited ms) :
    ∃ ms', Metric.visitAll combine v found ms =
        (.ok (combineValues combine
          (found.toList ++ Metric.valuesAlong sum ms (child :: visited v.group))), ms') ∧
      Metric.AllUpTo sum placed (visitNext visited v.group child) ms' ∧
      Metric.valuesAlong sum ms' = Metric.valuesAlong sum ms := by
  match ms with
  | [] => exact ⟨[], by cases found <;> rfl, trivial, rfl⟩
  | m :: rest =>
    obtain ⟨m', hm, upTo, same⟩ := Metric.visit_of_upTo summed h.1
    obtain ⟨rest', hrest, upToRest, sameRest⟩ := Metric.visitAll_of_upTo summed combine
      (some (found.elim (m.valueAlong sum (child :: visited v.group))
        (combine · (m.valueAlong sum (child :: visited v.group))))) h.2
    exact ⟨m' :: rest',
      by simp [Metric.visitAll, hm, hrest, Metric.valuesAlong, combineValues_elim],
      ⟨upTo, upToRest⟩, by
        funext past
        simp [Metric.valuesAlong, same, sameRest]⟩

end

end Visit

/-! ## Runs -/

/-- The values that a metric gives along a walk. -/
def Metric.walk : Metric ν → List (Visit ν) → List (EvaluationM ν)
  | _, [] => []
  | m, v :: rest => (m.visit v).1 :: (m.visit v).2.walk rest

/-- What a walk over children gives when some were visited before: at each child the value along
those of its group. -/
def valuesAfter (group : Nat → Nat) (f : List Nat → ν) (visited : Nat → List Nat) :
    List Nat → List ν
  | [] => []
  | child :: rest =>
    f (child :: visited (group child)) ::
      valuesAfter group f (visitNext visited (group child) child) rest

/-- A walk over children gives the values along the children of each group. -/
theorem Metric.walk_of_upTo {sum : Push → Option Nat → Nat → ν} {placed : Push → Option Nat → Prop}
    (visit : Nat → Visit ν) {visited : Nat → List Nat} {children : List Nat}
    (summed : ∀ child ∈ children, ∀ push index, placed push index →
      index.bind ((visit child).sums[·]?) = some (sum push index child))
    {m : Metric ν} (h : m.UpTo sum placed visited) :
    m.walk (children.map visit) =
      (valuesAfter (fun child => (visit child).group) (m.valueAlong sum) visited children).map
        .ok := by
  induction children generalizing m visited with
  | nil => rfl
  | cons child rest ih =>
    obtain ⟨summed, summedRest⟩ := List.forall_mem_cons.mp summed
    obtain ⟨m', hm, upTo, same⟩ := Metric.visit_of_upTo summed h
    simp only [List.map_cons, Metric.walk, hm, valuesAfter, ih summedRest upTo, same]

/-! ## Order -/

/-- Every group is visited once, and the children of each parent are visited in order. -/
def InOrder (keys : GroupKeys) (order : List Nat) : Prop :=
  ∀ parent, order.filter (keys.parent · == parent) =
    (List.range' 1 keys.size).filter (keys.parent · == parent)

variable {keys : GroupKeys}

theorem InOrder.mem {order : List Nat} (h : InOrder keys order) {child : Nat}
    (hmem : child ∈ order) : 1 ≤ child ∧ child ≤ keys.size := by
  have : child ∈ order.filter (keys.parent · == keys.parent child) := by simpa using hmem
  rw [h, List.mem_filter, List.mem_range'_1] at this
  omega

/-- When a child is visited, the children visited before it in its group are its earlier
siblings. -/
theorem InOrder.visited {before after : List Nat} {child : Nat}
    (h : InOrder keys (before ++ child :: after)) :
    (before.filter (keys.parent · == keys.parent child)).reverse =
      keys.upTo (keys.parent child) (child - 1) := by
  obtain ⟨hpos, hle⟩ : 1 ≤ child ∧ child ≤ keys.size := h.mem (by simp)
  have split : List.range' 1 keys.size =
      List.range' 1 (child - 1) ++ child :: List.range' (child + 1) (keys.size - child) := by
    rw [show keys.size = (child - 1) + (keys.size - child + 1) by omega, ← List.range'_append_1,
      List.range'_succ]
    congr 3 <;> omega
  have same := h (keys.parent child)
  rw [split, List.filter_append, List.filter_append, List.filter_cons_of_pos (by simp),
    List.filter_cons_of_pos (by simp)] at same
  have key := (List.append_cons_inj_of_notMem (by grind) (by grind)).mp same.symm
  rw [GroupKeys.upTo_eq_filter, key.1]

omit [Numeric ν] in
/-- A walk in order gives at each child the value along its siblings. -/
theorem valuesAfter_of_inOrder (f : List Nat → ν) {order : List Nat} (h : InOrder keys order) :
    valuesAfter keys.parent f (fun _ => []) order =
      order.map fun child => f (keys.siblings child) := by
  suffices general : ∀ before after, before ++ after = order →
      valuesAfter keys.parent f
          (fun parent => (before.filter (keys.parent · == parent)).reverse) after =
        after.map fun child => f (keys.siblings child) from general [] order rfl
  intro before after
  induction after generalizing before with
  | nil => intro _; rfl
  | cons child rest ih =>
    intro horder
    have hvisited := InOrder.visited (horder ▸ h)
    have hpos : 1 ≤ child := (h.mem (by simp [← horder])).1
    have next : visitNext (fun parent => (before.filter (keys.parent · == parent)).reverse)
        (keys.parent child) child =
          fun parent => ((before ++ [child]).filter (keys.parent · == parent)).reverse := by
      funext parent
      by_cases hparent : parent = keys.parent child
      · subst hparent
        simp [visitNext]
      · simp [visitNext, hparent, Ne.symm hparent]
    rw [valuesAfter, next, ih (before ++ [child]) (by simpa using horder), hvisited,
      ← GroupKeys.siblings_eq_cons hpos, List.map_cons]

/-! ## Metrics that keep nothing -/

mutual

/-- A metric that may see the terms in any order is the same after a visit. -/
theorem Metric.visit_snd {m : Metric ν} (h : m.needsSorted = false) (v : Visit ν) :
    (m.visit v).2 = m := by
  match m with
  | .constant _ | .documents .. | .lookup _ | .multiLookup _ | .lag .. => rfl
  | .function f m => exact congrArg (Metric.function f) (Metric.visit_snd (m := m) h v)
  | .calculate op l r =>
    obtain ⟨hl, hr⟩ := Bool.or_eq_false_iff.mp h
    have left := Metric.visit_snd hl v
    have right := Metric.visit_snd hr v
    simp only [Metric.visit]
    split <;> simp_all
  | .least ms | .greatest ms =>
    have parts : Metric.someNeedSorted ms = false := h
    simp only [Metric.visit, Metric.visitAll_snd parts]
  | .ifThenElse c y n =>
    obtain ⟨hcy, hn⟩ := Bool.or_eq_false_iff.mp h
    obtain ⟨hc, hy⟩ := Bool.or_eq_false_iff.mp hcy
    have condition := Filter.visit_snd hc v
    have yes := Metric.visit_snd hy v
    have no := Metric.visit_snd hn v
    simp only [Metric.visit]
    split
    · simp_all
    · split <;> simp_all
  | .window .. | .running .. | .iterateLag .. => cases h

theorem Metric.visitAll_snd {ms : List (Metric ν)} (h : Metric.someNeedSorted ms = false)
    (combine : ν → ν → ν) (found : Option ν) (v : Visit ν) :
    (Metric.visitAll combine v found ms).2 = ms := by
  match ms with
  | [] => rfl
  | m :: rest =>
    obtain ⟨hm, hrest⟩ := Bool.or_eq_false_iff.mp h
    have first := Metric.visit_snd hm v
    simp only [Metric.visitAll]
    split
    · simp_all
    · simp_all [Metric.visitAll_snd hrest]

theorem Filter.visit_snd {f : Filter ν} (h : f.needsSorted = false) (v : Visit ν) :
    (f.visit v).2 = f := by
  match f with
  | .constant _ | .termEquals _ | .termMatches _ | .isDefaultGroup _ => rfl
  | .compare op l r =>
    obtain ⟨hl, hr⟩ := Bool.or_eq_false_iff.mp h
    have left := Metric.visit_snd hl v
    have right := Metric.visit_snd hr v
    simp only [Filter.visit]
    split <;> simp_all
  | .and l r | .or l r =>
    obtain ⟨hl, hr⟩ := Bool.or_eq_false_iff.mp h
    have left := Filter.visit_snd hl v
    have right := Filter.visit_snd hr v
    simp only [Filter.visit]
    split <;> simp_all
  | .not f => exact congrArg Filter.not (Filter.visit_snd (f := f) h v)

end

/-! ## Delays -/

/-- A metric after some visits. -/
def Metric.after (m : Metric ν) (visits : List (Visit ν)) : Metric ν :=
  visits.foldl (fun m v => (m.visit v).2) m

theorem Metric.after_concat (m : Metric ν) (visits : List (Visit ν)) (v : Visit ν) :
    m.after (visits ++ [v]) = ((m.after visits).visit v).2 := by
  simp [Metric.after]

/-- The values that a metric gives in the visits to a group, the first one first. Visits where it
has no value are passed over. -/
def Metric.valuesIn (m : Metric ν) (group : Nat) (visits : List (Visit ν)) : List ν :=
  (visits.filter (·.group == group)).filterMap fun v => (m.visit v).1.toOption

variable {m : Metric ν} {distance : Nat} {before : List (Visit ν)} {v : Visit ν}

theorem Metric.valuesIn_concat (m : Metric ν) (group : Nat) (before : List (Visit ν))
    (v : Visit ν) : m.valuesIn group (before ++ [v]) =
      m.valuesIn group before ++ if v.group = group then (m.visit v).1.toOption.toList else [] := by
  simp only [Metric.valuesIn, List.filter_append, List.filterMap_append]
  split
  · rename_i same
    cases h : (m.visit v).1 <;> simp [same, h, Except.toOption]
  · rename_i other
    simp [other]

/-- The history of a delay holds the last values of each group. -/
abbrev Metric.Keeps (m : Metric ν) (distance : Nat) (before : List (Visit ν))
    (history : Tally (List ν)) : Prop :=
  Remembers distance (fun group => (m.valuesIn group before).reverse) history

/-- The value that came the given number of values before the last one, and zero if there are not as
many. -/
def delayed (distance : Nat) (values : List ν) : ν :=
  if values.length ≤ distance then Numeric.zero
  else values.getD (values.length - distance - 1) Numeric.zero

theorem delayed_eq_reverse (distance : Nat) (values : List ν) :
    delayed distance values = (values.reverse[distance]?).getD Numeric.zero := by
  unfold delayed
  split
  · rename_i short
    rw [List.getElem?_eq_none (by simpa using short), Option.getD_none]
  · rename_i long
    rw [List.getElem?_reverse (by omega), List.getD_eq_getElem?_getD, Nat.sub_right_comm]

/-- One visit gives the delayed value of the visited group, and what is kept is then up to this
visit. -/
theorem Metric.visit_of_keeps (unsorted : m.needsSorted = false) {history : Tally (List ν)}
    (keeps : m.Keeps distance before history) (v : Visit ν) :
    ∃ history', (Metric.iterateLag distance m history).visit v =
        ((fun _ => delayed distance (m.valuesIn v.group (before ++ [v]))) <$> (m.visit v).1,
          .iterateLag distance m history') ∧
      m.Keeps distance (before ++ [v]) history' := by
  have same := Metric.visit_snd unsorted v
  cases value : (m.visit v).1 with
  | error e =>
    have visit : m.visit v = (.error e, m) := Prod.ext value same
    have unchanged (group : Nat) :
        m.valuesIn group (before ++ [v]) = m.valuesIn group before := by
      simp [Metric.valuesIn_concat, value, Except.toOption]
    refine ⟨history, by simp [Metric.visit, visit], ?_⟩
    simpa only [Metric.Keeps, unchanged] using keeps
  | ok x =>
    have visit : m.visit v = (.ok x, m) := Prod.ext value same
    obtain ⟨history', hdelay, next⟩ := delay_of_remembers keeps v.group x
    have own : m.valuesIn v.group (before ++ [v]) = m.valuesIn v.group before ++ [x] := by
      simp [Metric.valuesIn_concat, value, Except.toOption]
    refine ⟨history', ?_, fun group => ?_⟩
    · simp [Metric.visit, visit, hdelay, own, delayed_eq_reverse]
    · rw [next group]
      by_cases here : group = v.group
      · subst here
        simp [own]
      · simp [Metric.valuesIn_concat, here, Ne.symm here]

/-- Whatever groups are visited, a fresh delay then keeps the last values of each of them. -/
theorem Metric.keeps_after (unsorted : m.needsSorted = false) (distance : Nat)
    (visits : List (Visit ν)) :
    ∃ history, (Metric.iterateLag distance m []).after visits = .iterateLag distance m history ∧
      m.Keeps distance visits history := by
  induction visits using List.reverseRecOn with
  | nil => exact ⟨[], rfl, fun group => by simp [Metric.valuesIn, Tally.find?]⟩
  | append_singleton before v ih =>
    obtain ⟨history, run, keeps⟩ := ih
    obtain ⟨history', visit, next⟩ := Metric.visit_of_keeps unsorted keeps v
    exact ⟨history', by rw [Metric.after_concat, run, visit], next⟩

/-- After any visits to any groups, the next visit to a group gives the value that the metric had in
the visit to this group that lies the given number of visits back, or zero if there were not as
many. The visits to other groups play no part. Of each group no more values are kept than the delay
is long. -/
theorem Metric.delays_by_group (unsorted : m.needsSorted = false) (distance : Nat)
    (visits : List (Visit ν)) :
    (∀ v : Visit ν, (((Metric.iterateLag distance m []).after visits).visit v).1 =
      (fun _ => delayed distance (m.valuesIn v.group (visits ++ [v]))) <$> (m.visit v).1) ∧
    ∃ history, (Metric.iterateLag distance m []).after visits = .iterateLag distance m history ∧
      ∀ group kept, history.find? group = some kept → kept.length ≤ distance := by
  obtain ⟨history, run, keeps⟩ := Metric.keeps_after unsorted distance visits
  refine ⟨fun v => ?_, history, run, fun group kept found => ?_⟩
  · obtain ⟨_, visit, -⟩ := Metric.visit_of_keeps unsorted keeps v
    rw [run, visit]
  · have last := keeps group
    rw [found, Option.getD_some] at last
    rw [last, List.length_reverse]
    exact List.length_take_le ..

/-- Two terms are visited in the first group and one in the second. -/
theorem Metric.delays_by_group_clicks :
    let clicks : Metric ℚ := .documents ⟨"ads", ["clicks"]⟩ (some 0)
    let visits : List (Visit ℚ) := [⟨.string "a", 1, [5]⟩, ⟨.string "a", 2, [9]⟩]
    clicks.needsSorted = false ∧
      (((Metric.iterateLag 1 clicks []).after visits).visit ⟨.string "b", 1, [7]⟩).1 = .ok 5 ∧
      (((Metric.iterateLag 1 clicks []).after visits).visit ⟨.string "b", 3, [7]⟩).1 = .ok 0 := by
  intro clicks visits
  have unsorted : clicks.needsSorted = false := rfl
  obtain ⟨delays, -⟩ := Metric.delays_by_group unsorted 1 visits
  exact ⟨unsorted, (delays ⟨.string "b", 1, [7]⟩).trans rfl,
    (delays ⟨.string "b", 3, [7]⟩).trans rfl⟩

end Groupwise.Evaluation
