import Groupwise.Evaluation.Columns
import Groupwise.Evaluation.Walk
import Groupwise.Proofs.Outcome
import Mathlib.Data.List.Basic

/-!
# Values that one group determines

A metric without parts that look back, and without filters on terms, has its value at a group from
what stands at that group alone. A walk and a column both give that value, and nothing is noted for
later visits.
-/
namespace Groupwise.Evaluation

variable {ν : Type}

/-! ## Registration -/

mutual

/-- A metric can be registered when each program that it reads has a place. -/
theorem Metric.exists_register {index : Push → Option Nat} {m : Metric ν}
    (h : ∀ push ∈ m.reads, (index push).isSome) : ∃ m', m.register index = .ok m' := by
  match m with
  | .constant _ | .lookup _ | .multiLookup _ => exact ⟨_, rfl⟩
  | .documents push _ =>
    obtain ⟨i, hi⟩ := Option.isSome_iff_exists.mp (h push List.mem_cons_self)
    exact ⟨.documents push (some i), by simp [Metric.register, hi]⟩
  | .function _ m | .lag _ m _ | .window _ m _ _ | .running _ m _ _ | .iterateLag _ m _ =>
    obtain ⟨m', hm⟩ := Metric.exists_register (m := m) h
    simp [Metric.register, hm]
  | .calculate _ l r =>
    simp only [Metric.reads, List.mem_append, or_imp, forall_and] at h
    obtain ⟨l', hl⟩ := Metric.exists_register h.1
    obtain ⟨r', hr⟩ := Metric.exists_register h.2
    simp [Metric.register, bind_eq_ok, hl, hr]
  | .least ms | .greatest ms =>
    obtain ⟨ms', hms⟩ := Metric.exists_registerAll h
    simp [Metric.register, hms]
  | .ifThenElse c y n =>
    simp only [Metric.reads, List.mem_append, or_imp, forall_and] at h
    obtain ⟨c', hc⟩ := Filter.exists_register h.1.1
    obtain ⟨y', hy⟩ := Metric.exists_register h.1.2
    obtain ⟨n', hn⟩ := Metric.exists_register h.2
    simp [Metric.register, bind_eq_ok, hc, hy, hn]

theorem Metric.exists_registerAll {index : Push → Option Nat} {ms : List (Metric ν)}
    (h : ∀ push ∈ Metric.readsOfAll ms, (index push).isSome) :
    ∃ ms', Metric.registerAll index ms = .ok ms' := by
  match ms with
  | [] => exact ⟨_, rfl⟩
  | m :: rest =>
    simp only [Metric.readsOfAll, List.mem_append, or_imp, forall_and] at h
    obtain ⟨m', hm⟩ := Metric.exists_register h.1
    obtain ⟨rest', hrest⟩ := Metric.exists_registerAll h.2
    simp [Metric.registerAll, bind_eq_ok, hm, hrest]

theorem Filter.exists_register {index : Push → Option Nat} {f : Filter ν}
    (h : ∀ push ∈ f.reads, (index push).isSome) : ∃ f', f.register index = .ok f' := by
  match f with
  | .constant _ | .termEquals _ | .termMatches _ | .isDefaultGroup _ => exact ⟨_, rfl⟩
  | .compare _ l r =>
    simp only [Filter.reads, List.mem_append, or_imp, forall_and] at h
    obtain ⟨l', hl⟩ := Metric.exists_register h.1
    obtain ⟨r', hr⟩ := Metric.exists_register h.2
    simp [Filter.register, bind_eq_ok, hl, hr]
  | .and l r | .or l r =>
    simp only [Filter.reads, List.mem_append, or_imp, forall_and] at h
    obtain ⟨l', hl⟩ := Filter.exists_register h.1
    obtain ⟨r', hr⟩ := Filter.exists_register h.2
    simp [Filter.register, bind_eq_ok, hl, hr]
  | .not f =>
    obtain ⟨f', hf⟩ := Filter.exists_register (f := f) h
    simp [Filter.register, hf]

end

/-- A program stands at its place in a list of programs. -/
theorem exists_indexIn {pushes : List Push} {push : Push} (h : push ∈ pushes) :
    ∃ i, indexIn pushes push = some i ∧ pushes[i]? = some push := by
  obtain ⟨i, hi⟩ : ∃ i, indexIn pushes push = some i := by
    rw [← Option.isSome_iff_exists]
    simpa [indexIn] using h
  refine ⟨i, hi, ?_⟩
  simp only [indexIn, List.idxOf?_eq_some_iff] at hi
  obtain ⟨hlt, heq, -⟩ := hi
  rw [List.getElem?_eq_getElem hlt, heq]

/-! ## Values -/

variable [Numeric ν]

/-- The values of several metrics in one; none at all give zero. -/
def combineValues (combine : ν → ν → ν) : List ν → ν
  | [] => Numeric.zero
  | first :: rest => rest.foldl combine first

mutual

/-- The value of a metric at a group, if that group determines it. The sum of a program is taken
from the program or from its place. -/
def Metric.valueAt (sum : Push → Option Nat → Option ν) (group : Nat) : Metric ν → Option ν
  | .constant v => some v
  | .function f m => (m.valueAt sum group).map (Numeric.apply f)
  | .calculate op l r => do
    pure (Numeric.calculate op (← l.valueAt sum group) (← r.valueAt sum group))
  | .least ms => (Metric.valuesAt sum group ms).map (combineValues Numeric.least)
  | .greatest ms => (Metric.valuesAt sum group ms).map (combineValues Numeric.greatest)
  | .ifThenElse c y n => do
    let y ← y.valueAt sum group
    let n ← n.valueAt sum group
    pure (if ← c.holdsAt sum group then y else n)
  | .documents push index => sum push index
  | .lookup values => some (values.getD group Numeric.zero)
  | .multiLookup columns => some ((columns.headD []).getD group Numeric.zero)
  | .lag .. => none
  | .window .. => none
  | .running .. => none
  | .iterateLag .. => none

def Metric.valuesAt (sum : Push → Option Nat → Option ν) (group : Nat) :
    List (Metric ν) → Option (List ν)
  | [] => some []
  | m :: rest => do pure ((← m.valueAt sum group) :: (← Metric.valuesAt sum group rest))

/-- Whether a filter holds at a group, if that group determines it. -/
def Filter.holdsAt (sum : Push → Option Nat → Option ν) (group : Nat) : Filter ν → Option Bool
  | .constant b => some b
  | .compare op l r => do
    pure (Numeric.compare op (← l.valueAt sum group) (← r.valueAt sum group))
  | .and l r => do pure ((← l.holdsAt sum group) && (← r.holdsAt sum group))
  | .or l r => do pure ((← l.holdsAt sum group) || (← r.holdsAt sum group))
  | .not f => (f.holdsAt sum group).map (!·)
  | .termEquals _ => none
  | .termMatches _ => none
  | .isDefaultGroup keys => some (keys.isDefault group)

end

/-! ## In a walk -/

/-- The sum of a program at its place among the sums of a visit. -/
def atPlace (sums : List ν) (_ : Push) (index : Option Nat) : Option ν := index.bind (sums[·]?)

/-- A value found so far, combined with those that follow. -/
theorem combineValues_elim (combine : ν → ν → ν) (found : Option ν) (x : ν) (rest : List ν) :
    combineValues combine (found.elim x (combine · x) :: rest) =
      combineValues combine (found.toList ++ x :: rest) := by
  cases found <;> rfl

mutual

/-- A visit gives the value that the group determines, and leaves the metric as it was. -/
theorem Metric.visit_of_valueAt {v : Visit ν} {m : Metric ν} {x : ν}
    (h : m.valueAt (atPlace v.sums) v.group = some x) : m.visit v = (.ok x, m) := by
  match m with
  | .constant _ => simpa [Metric.valueAt, Metric.visit] using h
  | .function f m =>
    obtain ⟨a, ha, rfl⟩ := Option.map_eq_some_iff.mp h
    simp [Metric.visit, Metric.visit_of_valueAt ha]
  | .calculate op l r =>
    simp only [Metric.valueAt, Option.bind_eq_bind, Option.bind_eq_some_iff] at h
    obtain ⟨a, ha, b, hb, ⟨⟩⟩ := h
    simp [Metric.visit, Metric.visit_of_valueAt ha, Metric.visit_of_valueAt hb]
  | .least ms | .greatest ms =>
    obtain ⟨xs, hxs, rfl⟩ := Option.map_eq_some_iff.mp h
    simp [Metric.visit, Metric.visitAll_of_valuesAt hxs]
  | .ifThenElse c y n =>
    simp only [Metric.valueAt, Option.bind_eq_bind, Option.bind_eq_some_iff] at h
    obtain ⟨a, ha, b, hb, t, ht, ⟨⟩⟩ := h
    simp [Metric.visit, Metric.visit_of_valueAt ha, Metric.visit_of_valueAt hb,
      Filter.visit_of_holdsAt ht]
  | .documents push index =>
    simp only [Metric.valueAt, atPlace] at h
    simp [Metric.visit, h]
  | .lookup values => simpa [Metric.valueAt, Metric.visit] using h
  | .multiLookup columns => simpa [Metric.valueAt, Metric.visit] using h
  | .lag .. | .window .. | .running .. | .iterateLag .. => cases h

theorem Metric.visitAll_of_valuesAt {combine : ν → ν → ν} {v : Visit ν} {found : Option ν}
    {ms : List (Metric ν)} {xs : List ν}
    (h : Metric.valuesAt (atPlace v.sums) v.group ms = some xs) :
    Metric.visitAll combine v found ms =
      (.ok (combineValues combine (found.toList ++ xs)), ms) := by
  match ms with
  | [] =>
    cases h
    cases found <;> rfl
  | m :: rest =>
    simp only [Metric.valuesAt, Option.bind_eq_bind, Option.bind_eq_some_iff] at h
    obtain ⟨x, hx, others, hothers, ⟨⟩⟩ := h
    simp [Metric.visitAll, Metric.visit_of_valueAt hx, Metric.visitAll_of_valuesAt hothers,
      combineValues_elim]

theorem Filter.visit_of_holdsAt {v : Visit ν} {f : Filter ν} {b : Bool}
    (h : f.holdsAt (atPlace v.sums) v.group = some b) : f.visit v = (.ok b, f) := by
  match f with
  | .constant _ => simpa [Filter.holdsAt, Filter.visit] using h
  | .compare op l r =>
    simp only [Filter.holdsAt, Option.bind_eq_bind, Option.bind_eq_some_iff] at h
    obtain ⟨x, hx, y, hy, ⟨⟩⟩ := h
    simp [Filter.visit, Metric.visit_of_valueAt hx, Metric.visit_of_valueAt hy]
  | .and l r | .or l r =>
    simp only [Filter.holdsAt, Option.bind_eq_bind, Option.bind_eq_some_iff] at h
    obtain ⟨x, hx, y, hy, ⟨⟩⟩ := h
    simp [Filter.visit, Filter.visit_of_holdsAt hx, Filter.visit_of_holdsAt hy]
  | .not f =>
    obtain ⟨a, ha, rfl⟩ := Option.map_eq_some_iff.mp h
    simp [Filter.visit, Filter.visit_of_holdsAt ha]
  | .isDefaultGroup keys => simpa [Filter.holdsAt, Filter.visit] using h
  | .termEquals _ | .termMatches _ => cases h

end

/-! ## In a column -/

theorem column_getElem? {group count : Nat} (hg : group ≤ count) (values : List ν) :
    (column count values)[group]? = some (values.getD group Numeric.zero) := by
  have : group < count + 1 := by omega
  simp [column, this]

/-- Columns that are combined have, at each group, the combination of their values there. -/
theorem combineColumns_getElem? {combine : ν → ν → ν} {group count : Nat} (hg : group ≤ count)
    {columns : List (List ν)} {xs : List ν}
    (h : List.Forall₂ (fun values x => values[group]? = some x) columns xs) :
    (combineColumns combine count columns)[group]? = some (combineValues combine xs) := by
  cases h with
  | nil => simpa [combineColumns, combineValues] using column_getElem? hg []
  | @cons first x rest others hfirst hrest =>
    show (rest.foldl (List.zipWith combine) first)[group]? = some (others.foldl combine x)
    induction hrest generalizing first x with
    | nil => simpa using hfirst
    | cons hnext _ ih => exact ih (by simp [List.getElem?_zipWith, hfirst, hnext])

mutual

/-- A column has at a group the value that the group determines. -/
theorem Metric.column_of_valueAt {table : List (List ν)} {group count : Nat} (hg : group ≤ count)
    {m : Metric ν} {x : ν}
    (h : m.valueAt (atPlace (table.map (·.getD group Numeric.zero))) group = some x) :
    ∃ values, m.column table count = .ok values ∧ values[group]? = some x := by
  match m with
  | .constant v =>
    cases h
    exact ⟨_, rfl, by simp [List.getElem?_replicate]; omega⟩
  | .function f m =>
    obtain ⟨a, ha, rfl⟩ := Option.map_eq_some_iff.mp h
    obtain ⟨values, hvalues, hat⟩ := Metric.column_of_valueAt hg ha
    exact ⟨values.map (Numeric.apply f), by simp [Metric.column, hvalues], by simp [hat]⟩
  | .calculate op l r =>
    simp only [Metric.valueAt, Option.bind_eq_bind, Option.bind_eq_some_iff] at h
    obtain ⟨a, ha, b, hb, ⟨⟩⟩ := h
    obtain ⟨left, hleft, hatLeft⟩ := Metric.column_of_valueAt hg ha
    obtain ⟨right, hright, hatRight⟩ := Metric.column_of_valueAt hg hb
    exact ⟨List.zipWith (Numeric.calculate op) left right,
      by simp [Metric.column, bind_eq_ok, hleft, hright],
      by simp [List.getElem?_zipWith, hatLeft, hatRight]⟩
  | .least ms | .greatest ms =>
    obtain ⟨xs, hxs, rfl⟩ := Option.map_eq_some_iff.mp h
    obtain ⟨columns, hcolumns, hat⟩ := Metric.columns_of_valuesAt hg hxs
    exact ⟨_, by simp [Metric.column, hcolumns], combineColumns_getElem? hg hat⟩
  | .ifThenElse c y n =>
    simp only [Metric.valueAt, Option.bind_eq_bind, Option.bind_eq_some_iff] at h
    obtain ⟨a, ha, b, hb, t, ht, ⟨⟩⟩ := h
    obtain ⟨yes, hyes, hatYes⟩ := Metric.column_of_valueAt hg ha
    obtain ⟨no, hno, hatNo⟩ := Metric.column_of_valueAt hg hb
    obtain ⟨flags, hflags, hatFlags⟩ := Filter.column_of_holdsAt hg ht
    refine ⟨List.zipWith (fun b v => if b then v.1 else v.2) flags (yes.zip no),
      by simp [Metric.column, bind_eq_ok, hyes, hno, hflags], ?_⟩
    simp [List.getElem?_zipWith, List.zip, hatYes, hatNo, hatFlags]
  | .documents push index =>
    obtain ⟨i, rfl, hi⟩ := Option.bind_eq_some_iff.mp h
    obtain ⟨sums, hsums, rfl⟩ := Option.map_eq_some_iff.mp ((List.getElem?_map ..).symm.trans hi)
    exact ⟨_, by simp [Metric.column, hsums], column_getElem? hg sums⟩
  | .lookup values =>
    cases h
    exact ⟨_, rfl, column_getElem? hg values⟩
  | .multiLookup columns =>
    cases h
    exact ⟨_, rfl, column_getElem? hg _⟩
  | .lag .. | .window .. | .running .. | .iterateLag .. => cases h

theorem Metric.columns_of_valuesAt {table : List (List ν)} {group count : Nat}
    (hg : group ≤ count) {ms : List (Metric ν)} {xs : List ν}
    (h : Metric.valuesAt (atPlace (table.map (·.getD group Numeric.zero))) group ms = some xs) :
    ∃ columns, Metric.columns table count ms = .ok columns ∧
      List.Forall₂ (fun values x => values[group]? = some x) columns xs := by
  match ms with
  | [] =>
    cases h
    exact ⟨_, rfl, .nil⟩
  | m :: rest =>
    simp only [Metric.valuesAt, Option.bind_eq_bind, Option.bind_eq_some_iff] at h
    obtain ⟨x, hx, others, hothers, ⟨⟩⟩ := h
    obtain ⟨values, hvalues, hat⟩ := Metric.column_of_valueAt hg hx
    obtain ⟨columns, hcolumns, hatRest⟩ := Metric.columns_of_valuesAt hg hothers
    exact ⟨values :: columns, by simp [Metric.columns, bind_eq_ok, hvalues, hcolumns],
      .cons hat hatRest⟩

theorem Filter.column_of_holdsAt {table : List (List ν)} {group count : Nat} (hg : group ≤ count)
    {f : Filter ν} {b : Bool}
    (h : f.holdsAt (atPlace (table.map (·.getD group Numeric.zero))) group = some b) :
    ∃ flags, f.column table count = .ok flags ∧ flags[group]? = some b := by
  match f with
  | .constant b =>
    cases h
    exact ⟨_, rfl, by simp [List.getElem?_replicate]; omega⟩
  | .compare op l r =>
    simp only [Filter.holdsAt, Option.bind_eq_bind, Option.bind_eq_some_iff] at h
    obtain ⟨a, ha, b, hb, ⟨⟩⟩ := h
    obtain ⟨left, hleft, hatLeft⟩ := Metric.column_of_valueAt hg ha
    obtain ⟨right, hright, hatRight⟩ := Metric.column_of_valueAt hg hb
    exact ⟨List.zipWith (Numeric.compare op) left right,
      by simp [Filter.column, bind_eq_ok, hleft, hright],
      by simp [List.getElem?_zipWith, hatLeft, hatRight]⟩
  | .and l r =>
    simp only [Filter.holdsAt, Option.bind_eq_bind, Option.bind_eq_some_iff] at h
    obtain ⟨a, ha, b, hb, ⟨⟩⟩ := h
    obtain ⟨left, hleft, hatLeft⟩ := Filter.column_of_holdsAt hg ha
    obtain ⟨right, hright, hatRight⟩ := Filter.column_of_holdsAt hg hb
    exact ⟨List.zipWith (· && ·) left right,
      by simp [Filter.column, bind_eq_ok, hleft, hright],
      by simp [List.getElem?_zipWith, hatLeft, hatRight]⟩
  | .or l r =>
    simp only [Filter.holdsAt, Option.bind_eq_bind, Option.bind_eq_some_iff] at h
    obtain ⟨a, ha, b, hb, ⟨⟩⟩ := h
    obtain ⟨left, hleft, hatLeft⟩ := Filter.column_of_holdsAt hg ha
    obtain ⟨right, hright, hatRight⟩ := Filter.column_of_holdsAt hg hb
    exact ⟨List.zipWith (· || ·) left right,
      by simp [Filter.column, bind_eq_ok, hleft, hright],
      by simp [List.getElem?_zipWith, hatLeft, hatRight]⟩
  | .not f =>
    obtain ⟨a, ha, rfl⟩ := Option.map_eq_some_iff.mp h
    obtain ⟨flags, hflags, hat⟩ := Filter.column_of_holdsAt hg ha
    exact ⟨flags.map (!·), by simp [Filter.column, hflags], by simp [hat]⟩
  | .isDefaultGroup keys =>
    cases h
    have : group < count + 1 := by omega
    exact ⟨_, rfl, by simp [this]⟩
  | .termEquals _ | .termMatches _ => cases h

end

/-! ## After registration -/

mutual

/-- A metric that was registered takes each sum from the place of its program. -/
theorem Metric.valueAt_of_register {index : Push → Option Nat}
    {sum : Push → Option Nat → Option ν} {group : Nat} {m m' : Metric ν}
    (h : m.register index = .ok m') :
    m'.valueAt sum group = m.valueAt (fun push _ => sum push (index push)) group := by
  match m with
  | .constant _ | .lookup _ | .multiLookup _ =>
    cases h
    rfl
  | .documents push _ =>
    simp only [Metric.register] at h
    split at h <;> cases h
    simp_all [Metric.valueAt]
  | .function f m =>
    simp only [Metric.register, bind_eq_ok, pure_eq_ok] at h
    obtain ⟨m', hm, rfl⟩ := h
    simp only [Metric.valueAt, Metric.valueAt_of_register hm]
  | .lag .. | .window .. | .running .. | .iterateLag .. =>
    simp only [Metric.register, bind_eq_ok, pure_eq_ok] at h
    obtain ⟨m', hm, rfl⟩ := h
    rfl
  | .calculate op l r =>
    simp only [Metric.register, bind_eq_ok, pure_eq_ok] at h
    obtain ⟨l', hl, r', hr, rfl⟩ := h
    simp only [Metric.valueAt, Metric.valueAt_of_register hl, Metric.valueAt_of_register hr]
  | .least ms | .greatest ms =>
    simp only [Metric.register, bind_eq_ok, pure_eq_ok] at h
    obtain ⟨ms', hms, rfl⟩ := h
    simp only [Metric.valueAt, Metric.valuesAt_of_registerAll hms]
  | .ifThenElse c y n =>
    simp only [Metric.register, bind_eq_ok, pure_eq_ok] at h
    obtain ⟨c', hc, y', hy, n', hn, rfl⟩ := h
    simp only [Metric.valueAt, Metric.valueAt_of_register hy, Metric.valueAt_of_register hn,
      Filter.holdsAt_of_register hc]

theorem Metric.valuesAt_of_registerAll {index : Push → Option Nat}
    {sum : Push → Option Nat → Option ν} {group : Nat} {ms ms' : List (Metric ν)}
    (h : Metric.registerAll index ms = .ok ms') :
    Metric.valuesAt sum group ms' =
      Metric.valuesAt (fun push _ => sum push (index push)) group ms := by
  match ms with
  | [] =>
    cases h
    rfl
  | m :: rest =>
    simp only [Metric.registerAll, bind_eq_ok, pure_eq_ok] at h
    obtain ⟨m', hm, rest', hrest, rfl⟩ := h
    simp only [Metric.valuesAt, Metric.valueAt_of_register hm,
      Metric.valuesAt_of_registerAll hrest]

theorem Filter.holdsAt_of_register {index : Push → Option Nat}
    {sum : Push → Option Nat → Option ν} {group : Nat} {f f' : Filter ν}
    (h : f.register index = .ok f') :
    f'.holdsAt sum group = f.holdsAt (fun push _ => sum push (index push)) group := by
  match f with
  | .constant _ | .termEquals _ | .termMatches _ | .isDefaultGroup _ =>
    cases h
    rfl
  | .compare op l r =>
    simp only [Filter.register, bind_eq_ok, pure_eq_ok] at h
    obtain ⟨l', hl, r', hr, rfl⟩ := h
    simp only [Filter.holdsAt, Metric.valueAt_of_register hl, Metric.valueAt_of_register hr]
  | .and l r | .or l r =>
    simp only [Filter.register, bind_eq_ok, pure_eq_ok] at h
    obtain ⟨l', hl, r', hr, rfl⟩ := h
    simp only [Filter.holdsAt, Filter.holdsAt_of_register hl, Filter.holdsAt_of_register hr]
  | .not f =>
    simp only [Filter.register, bind_eq_ok, pure_eq_ok] at h
    obtain ⟨f', hf, rfl⟩ := h
    simp only [Filter.holdsAt, Filter.holdsAt_of_register hf]

end

end Groupwise.Evaluation
