import Groupwise.Proofs.Evaluation.Series

/-!
# Columns along the children of a group

The column of a metric that only lags and runs along the children of each group has at every child
the value of the metric along the children up to it. A lag counts groups and not children, so for it
the children of each group must stand together.
-/
namespace Groupwise.Evaluation

variable {ν : Type} {keys : GroupKeys}

mutual

/-- The metrics that only lag and run along the children of each group, and whose programs are
placed. -/
def Metric.Columnar (keys : GroupKeys) (placed : Push → Option Nat → Prop) : Metric ν → Prop
  | .constant _ => True
  | .function _ m => m.Columnar keys placed
  | .calculate _ l r => l.Columnar keys placed ∧ r.Columnar keys placed
  | .least ms => Metric.AllColumnar keys placed ms
  | .greatest ms => Metric.AllColumnar keys placed ms
  | .documents push index => placed push index
  | .lag _ m own => own = keys ∧ m.Columnar keys placed
  | .running offset m own _ => offset = 1 ∧ own = keys ∧ m.Columnar keys placed
  | .window .. => False
  | .iterateLag .. => False
  | .ifThenElse .. => False
  | .lookup _ => False
  | .multiLookup _ => False

def Metric.AllColumnar (keys : GroupKeys) (placed : Push → Option Nat → Prop) :
    List (Metric ν) → Prop
  | [] => True
  | m :: rest => m.Columnar keys placed ∧ Metric.AllColumnar keys placed rest

end

theorem Metric.allColumnar_iff {placed : Push → Option Nat → Prop} {ms : List (Metric ν)} :
    Metric.AllColumnar keys placed ms ↔ ∀ m ∈ ms, m.Columnar keys placed := by
  induction ms with
  | nil => simp [Metric.AllColumnar]
  | cons m rest ih => rw [Metric.AllColumnar, ih, List.forall_mem_cons]

mutual

/-- Registration gives every program that is read its place. -/
theorem Metric.columnar_of_register {index : Push → Option Nat}
    {placed : Push → Option Nat → Prop} {m m' : Metric ν} (columnar : m.Columnar keys anyPlace)
    (read : ∀ push ∈ m.reads, placed push (index push)) (h : m.register index = .ok m') :
    m'.Columnar keys placed := by
  match m with
  | .constant _ =>
    cases h
    trivial
  | .documents push _ =>
    have here := read push List.mem_cons_self
    simp only [Metric.register] at h
    split at h <;> cases h
    simp_all [Metric.Columnar]
  | .function f m =>
    simp only [Metric.register, bind_eq_ok, pure_eq_ok] at h
    obtain ⟨m', hm, rfl⟩ := h
    rw [Metric.Columnar] at columnar ⊢
    rw [Metric.reads] at read
    exact Metric.columnar_of_register columnar read hm
  | .lag _ m _ =>
    simp only [Metric.register, bind_eq_ok, pure_eq_ok] at h
    obtain ⟨m', hm, rfl⟩ := h
    exact ⟨columnar.1, Metric.columnar_of_register columnar.2 read hm⟩
  | .running _ m _ _ =>
    simp only [Metric.register, bind_eq_ok, pure_eq_ok] at h
    obtain ⟨m', hm, rfl⟩ := h
    exact ⟨columnar.1, columnar.2.1, Metric.columnar_of_register columnar.2.2 read hm⟩
  | .calculate op l r =>
    simp only [Metric.register, bind_eq_ok, pure_eq_ok] at h
    obtain ⟨l', hl, r', hr, rfl⟩ := h
    obtain ⟨readLeft, readRight⟩ := List.forall_mem_append.mp read
    exact ⟨Metric.columnar_of_register columnar.1 readLeft hl,
      Metric.columnar_of_register columnar.2 readRight hr⟩
  | .least ms | .greatest ms =>
    simp only [Metric.register, bind_eq_ok, pure_eq_ok] at h
    obtain ⟨ms', hms, rfl⟩ := h
    exact Metric.allColumnar_of_registerAll columnar read hms
  | .window .. | .iterateLag .. | .ifThenElse .. | .lookup _ | .multiLookup _ =>
    exact columnar.elim

theorem Metric.allColumnar_of_registerAll {index : Push → Option Nat}
    {placed : Push → Option Nat → Prop} {ms ms' : List (Metric ν)}
    (columnar : Metric.AllColumnar keys anyPlace ms)
    (read : ∀ push ∈ Metric.readsOfAll ms, placed push (index push))
    (h : Metric.registerAll index ms = .ok ms') : Metric.AllColumnar keys placed ms' := by
  match ms with
  | [] =>
    cases h
    trivial
  | m :: rest =>
    simp only [Metric.registerAll, bind_eq_ok, pure_eq_ok] at h
    obtain ⟨m', hm, rest', hrest, rfl⟩ := h
    obtain ⟨readFirst, readRest⟩ := List.forall_mem_append.mp read
    exact ⟨Metric.columnar_of_register columnar.1 readFirst hm,
      Metric.allColumnar_of_registerAll columnar.2 readRest hrest⟩

end

variable [Numeric ν]

/-! ## Lags -/

/-- Counting back along the children of a parent is counting back groups, as long as the parent
stays the same. -/
theorem getElem?_series_siblings {β : Type} (contiguous : keys.Contiguous) (f : List Nat → β)
    {distance group : Nat} (hpos : 1 ≤ group) (hle : group ≤ keys.size) :
    (series f (keys.siblings group))[distance]? =
      if distance < group ∧ keys.parent (group - distance) = keys.parent group then
        some (f (keys.siblings (group - distance)))
      else none := by
  induction distance generalizing group with
  | zero => simp [GroupKeys.siblings_eq_cons hpos, series, show 0 < group by omega]
  | succ distance ih =>
    rw [GroupKeys.siblings_eq_cons hpos, series, List.getElem?_cons_succ]
    by_cases hprev : 1 ≤ group - 1 ∧ keys.parent (group - 1) = keys.parent group
    · rw [← hprev.2, ih hprev.1 (by omega), hprev.2]
      simp only [Nat.sub_sub, Nat.add_comm 1 distance, Nat.lt_sub_iff_add_lt]
    · have none : keys.upTo (keys.parent group) (group - 1) = [] := by
        refine (GroupKeys.upTo_eq_nil_or_siblings ..).resolve_right ?_
        rintro ⟨earlier, hearlier, hbefore, hparent, -⟩
        exact hprev ⟨by omega, contiguous earlier (group - 1) group hearlier hbefore (by omega) hle
          hparent⟩
      rw [none, series, List.getElem?_nil, if_neg]
      rintro ⟨hlt, hparent⟩
      exact hprev ⟨by omega, contiguous (group - (distance + 1)) (group - 1) group (by omega)
        (by omega) (by omega) hle hparent⟩

/-- A column that has at each group the value along its siblings. -/
def Along (keys : GroupKeys) (f : List Nat → ν) (values : List ν) : Prop :=
  values.length = keys.size + 1 ∧
    ∀ group, 1 ≤ group → group ≤ keys.size → values[group]? = some (f (keys.siblings group))

theorem Along.getD {f : List Nat → ν} {values : List ν} (h : Along keys f values) {group : Nat}
    (hpos : 1 ≤ group) (hle : group ≤ keys.size) :
    values.getD group Numeric.zero = f (keys.siblings group) := by
  simp [h.2 group hpos hle]

theorem along_lagColumn (contiguous : keys.Contiguous) {f : List Nat → ν} {inner : List ν}
    (h : Along keys f inner) (distance : Nat) :
    Along keys (fun past => ((series f past)[distance]?).getD Numeric.zero)
      (lagColumn keys distance keys.size inner) := by
  refine ⟨by simp [lagColumn], fun group hpos hle => ?_⟩
  have hlt : group < keys.size + 1 := by omega
  simp only [lagColumn, List.getElem?_map, List.getElem?_range hlt, Option.map_some,
    Bool.and_eq_true, decide_eq_true_eq, beq_iff_eq, Option.some.injEq,
    getElem?_series_siblings contiguous f hpos hle]
  split
  · rw [h.getD (by omega) (by omega), Option.getD_some]
  · rfl

/-! ## Running sums -/

/-- The sums up to each of the first groups, the last one first. -/
def partials (keys : GroupKeys) (f : List Nat → ν) : Nat → List (Partial ν)
  | 0 => []
  | n + 1 =>
    ⟨n + 1, keys.parent (n + 1), accumulate (series f (keys.siblings (n + 1)))⟩ ::
      partials keys f n

/-- The latest sum under a parent is the one over all its children so far. -/
theorem find?_partials (f : List Nat → ν) (parent n : Nat) :
    ((partials keys f n).find? (·.parent == parent)).elim Numeric.zero (·.sum) =
      accumulate (series f (keys.upTo parent n)) := by
  induction n with
  | zero => rfl
  | succ n ih =>
    by_cases hparent : keys.parent (n + 1) = parent
    · simp [partials, hparent, GroupKeys.siblings]
    · simpa [partials, hparent, GroupKeys.upTo] using ih

/-- To look only at the sums up to some group is to look at those that stood there then. -/
theorem find?_partials_le (f : List Nat → ν) (parent n : Nat) (last : Int) :
    (partials keys f n).find? (fun s => s.parent == parent && decide ((s.group : Int) ≤ last)) =
      (partials keys f (min n last.toNat)).find? (·.parent == parent) := by
  induction n with
  | zero => simp [partials]
  | succ n ih =>
    by_cases hlast : ((n + 1 : Nat) : Int) ≤ last
    · rw [show min n last.toNat = n by omega] at ih
      rw [show min (n + 1) last.toNat = n + 1 by omega, partials, List.find?_cons, List.find?_cons,
        ih]
      simp only [hlast, decide_true, Bool.and_true]
    · rw [show min (n + 1) last.toNat = min n last.toNat by omega, partials, List.find?_cons, ih]
      simp only [hlast, decide_false, Bool.and_false]

theorem partialSums_eq_partials {f : List Nat → ν} (n : Nat) (values : List ν)
    (h : ∀ i, i < values.length → values[i]? = some (f (keys.siblings (n + 1 + i)))) :
    partialSums keys (n + 1) values (partials keys f n) = partials keys f (n + values.length) := by
  induction values generalizing n with
  | nil => rfl
  | cons value rest ih =>
    have hvalue : value = f (keys.siblings (n + 1)) := by simpa using h 0 (by simp)
    have hrest : ∀ i, i < rest.length → rest[i]? = some (f (keys.siblings (n + 1 + 1 + i))) := by
      intro i hi
      have := h (i + 1) (by simpa using hi)
      rwa [List.getElem?_cons_succ, ← Nat.add_assoc, Nat.add_right_comm (n + 1)] at this
    have here : (⟨n + 1, keys.parent (n + 1), Numeric.add (((partials keys f n).find?
        (·.parent == keys.parent (n + 1))).elim Numeric.zero (·.sum)) value⟩ : Partial ν) ::
          partials keys f n = partials keys f (n + 1) := by
      rw [find?_partials, hvalue, partials, GroupKeys.siblings_eq_cons (Nat.succ_pos n), series]
      rfl
    rw [partialSums, here, ih (n + 1) hrest, List.length_cons, Nat.add_right_comm, Nat.add_assoc]

/-- The column of a running sum, for any offset: at each group the sum over the children of its
parent up to the group that many places ahead, less one. -/
theorem runningColumn_getElem? {f : List Nat → ν} {inner : List ν} {count : Nat}
    (full : inner.length = count + 1)
    (h : ∀ group, 1 ≤ group → group ≤ count → inner[group]? = some (f (keys.siblings group)))
    (offset : Int64) {group : Nat} (hpos : 1 ≤ group) (hle : group ≤ count) :
    (runningColumn keys offset count inner)[group]? =
      some (accumulate (series f (keys.upTo (keys.parent group)
        (min count ((group : Int) + offset.toInt - 1).toNat)))) := by
  have sums : partialSums keys 1 inner.tail [] = partials keys f count := by
    have := partialSums_eq_partials (f := f) 0 inner.tail fun i hi => by
      rw [List.getElem?_tail]
      rw [List.length_tail, full] at hi
      rw [Nat.zero_add, Nat.add_comm 1 i]
      exact h (i + 1) (by omega) (by omega)
    rw [List.length_tail, full] at this
    simpa [partials] using this
  obtain ⟨i, rfl⟩ := Nat.exists_eq_add_of_le' hpos
  have hi : i < count := by omega
  simp only [runningColumn, sums, List.getElem?_cons_succ, List.getElem?_map,
    List.getElem?_range hi, Option.map_some, find?_partials_le, find?_partials]

theorem along_runningColumn {f : List Nat → ν} {inner : List ν} (h : Along keys f inner) :
    Along keys (fun past => accumulate (series f past))
      (runningColumn keys 1 keys.size inner) := by
  refine ⟨by simp [runningColumn], fun group hpos hle => ?_⟩
  have last : min keys.size ((group : Int) + (1 : Int64).toInt - 1).toNat = group := by
    have : (1 : Int64).toInt = 1 := rfl
    omega
  rw [runningColumn_getElem? h.1 h.2 1 hpos hle, last]

/-! ## Metrics -/

/-- The sum of a program in a table, by its place. -/
def tableSum (table : List (List ν)) (_ : Push) (index : Option Nat) (group : Nat) : ν :=
  (index.bind (table[·]?)).elim Numeric.zero (·.getD group Numeric.zero)

/-- A program has a place in a table of the given width. -/
def PlacedWithin (width : Nat) (_ : Push) (index : Option Nat) : Prop := ∃ i ∈ index, i < width

theorem along_column (values : List ν) :
    Along keys (fun past => values.getD (past.headD 0) Numeric.zero) (column keys.size values) := by
  refine ⟨by simp [column], fun group hpos hle => ?_⟩
  simp [column_getElem? hle, GroupKeys.siblings_eq_cons hpos]

theorem length_combineColumns (combine : ν → ν → ν) {count : Nat} {columns : List (List ν)}
    (h : ∀ values ∈ columns, values.length = count + 1) :
    (combineColumns combine count columns).length = count + 1 := by
  match columns with
  | [] => simp [combineColumns, column]
  | first :: rest =>
    obtain ⟨hfirst, hrest⟩ := List.forall_mem_cons.mp h
    show (rest.foldl (List.zipWith combine) first).length = count + 1
    clear h
    induction rest generalizing first with
    | nil => exact hfirst
    | cons next rest ih =>
      obtain ⟨hnext, hrest⟩ := List.forall_mem_cons.mp hrest
      exact ih (List.zipWith combine first next) (by simp [hfirst, hnext]) hrest

mutual

/-- The column of a metric that only lags and runs along the children of each group. -/
theorem Metric.along_column_of_columnar (contiguous : keys.Contiguous) {table : List (List ν)}
    {m : Metric ν} (columnar : m.Columnar keys (PlacedWithin table.length)) :
    ∃ values, m.column table keys.size = .ok values ∧
      Along keys (m.valueAlong (tableSum table)) values := by
  match m with
  | .constant v =>
    refine ⟨_, rfl, by simp, fun group hpos hle => ?_⟩
    simp only [List.getElem?_replicate, Metric.valueAlong]
    exact if_pos (by omega)
  | .documents push index =>
    obtain ⟨i, rfl, hi⟩ := columnar
    refine ⟨Evaluation.column keys.size table[i], by simp [Metric.column, hi], ?_⟩
    have : Along keys (fun past => table[i].getD (past.headD 0) Numeric.zero) _ :=
      along_column table[i]
    simpa [Metric.valueAlong, tableSum, hi, Along] using this
  | .function f m =>
    obtain ⟨values, hvalues, along⟩ := Metric.along_column_of_columnar contiguous (m := m) columnar
    refine ⟨values.map (Numeric.apply f), by simp [Metric.column, hvalues], by simp [along.1],
      fun group hpos hle => ?_⟩
    simp [along.2 group hpos hle, Metric.valueAlong]
  | .calculate op l r =>
    obtain ⟨left, hleft, alongLeft⟩ := Metric.along_column_of_columnar contiguous columnar.1
    obtain ⟨right, hright, alongRight⟩ := Metric.along_column_of_columnar contiguous columnar.2
    refine ⟨List.zipWith (Numeric.calculate op) left right,
      by simp [Metric.column, bind_eq_ok, hleft, hright], by simp [alongLeft.1, alongRight.1],
      fun group hpos hle => ?_⟩
    simp [List.getElem?_zipWith, alongLeft.2 group hpos hle, alongRight.2 group hpos hle,
      Metric.valueAlong]
  | .least ms =>
    obtain ⟨columns, hcolumns, hlength, along⟩ :=
      Metric.along_columns_of_columnar contiguous columnar
    exact ⟨combineColumns Numeric.least keys.size columns, by simp [Metric.column, hcolumns],
      length_combineColumns _ hlength,
      fun group hpos hle => combineColumns_getElem? hle (along group hpos hle)⟩
  | .greatest ms =>
    obtain ⟨columns, hcolumns, hlength, along⟩ :=
      Metric.along_columns_of_columnar contiguous columnar
    exact ⟨combineColumns Numeric.greatest keys.size columns, by simp [Metric.column, hcolumns],
      length_combineColumns _ hlength,
      fun group hpos hle => combineColumns_getElem? hle (along group hpos hle)⟩
  | .lag distance m own =>
    obtain ⟨hown, columnar⟩ := columnar
    obtain ⟨values, hvalues, along⟩ := Metric.along_column_of_columnar contiguous columnar
    exact ⟨lagColumn keys distance keys.size values, by simp [Metric.column, hvalues, hown],
      along_lagColumn contiguous along distance⟩
  | .running offset m own sums =>
    obtain ⟨hoffset, hown, columnar⟩ := columnar
    obtain ⟨values, hvalues, along⟩ := Metric.along_column_of_columnar contiguous columnar
    exact ⟨runningColumn keys 1 keys.size values,
      by simp [Metric.column, hvalues, hown, hoffset], along_runningColumn along⟩
  | .window .. | .iterateLag .. | .ifThenElse .. | .lookup _ | .multiLookup _ =>
    exact columnar.elim

theorem Metric.along_columns_of_columnar (contiguous : keys.Contiguous) {table : List (List ν)}
    {ms : List (Metric ν)} (columnar : Metric.AllColumnar keys (PlacedWithin table.length) ms) :
    ∃ columns, Metric.columns table keys.size ms = .ok columns ∧
      (∀ values ∈ columns, values.length = keys.size + 1) ∧
      ∀ group, 1 ≤ group → group ≤ keys.size →
        List.Forall₂ (fun values x => values[group]? = some x) columns
          (Metric.valuesAlong (tableSum table) ms (keys.siblings group)) := by
  match ms with
  | [] => exact ⟨[], rfl, by simp, fun _ _ _ => .nil⟩
  | m :: rest =>
    obtain ⟨values, hvalues, along⟩ := Metric.along_column_of_columnar contiguous columnar.1
    obtain ⟨columns, hcolumns, hlength, alongRest⟩ :=
      Metric.along_columns_of_columnar contiguous columnar.2
    exact ⟨values :: columns, by simp [Metric.columns, bind_eq_ok, hvalues, hcolumns],
      List.forall_mem_cons.mpr ⟨along.1, hlength⟩,
      fun group hpos hle => .cons (along.2 group hpos hle) (alongRest group hpos hle)⟩

end

end Groupwise.Evaluation
