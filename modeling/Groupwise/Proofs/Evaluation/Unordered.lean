import Groupwise.Proofs.Evaluation.Agreement
import Groupwise.Proofs.Evaluation.Questions

/-!
# Columns of metrics that do not look around

A column that is given at all is full. If nothing in its metric looks at other groups or at earlier
visits, then a visit to a group with the sums of that group yields what the column has there.
-/
namespace Groupwise.Evaluation

variable {ν : Type}

/-- A node whose value at a group depends on other groups or on earlier visits. -/
def Node.LooksAround : Node ν → Prop
  | .metric (.lag ..) => True
  | .metric (.window ..) => True
  | .metric (.running ..) => True
  | .metric (.iterateLag ..) => True
  | _ => False

/-- Nothing in a node looks around. -/
def Node.Unordered (whole : Node ν) : Prop :=
  ∀ part, Node.Within part whole → ¬part.LooksAround

theorem Node.Unordered.below {part whole : Node ν} (h : whole.Unordered)
    (below : Node.Below part whole) : part.Unordered :=
  fun inner within => h inner (within.tail below)

theorem Node.unordered_documents (push : Push) (index : Option Nat) :
    (Node.metric (.documents push index : Metric ν)).Unordered := by
  intro part within
  rcases within.cases_tail with rfl | ⟨_, -, ⟨⟩⟩
  exact id

variable [Numeric ν] {table : List (List ν)} {count group : Nat}

/-! ## Full columns -/

theorem length_windowColumn (keys : GroupKeys) (size : Nat) (inner : List ν) :
    (windowColumn keys size inner).length = inner.length := by
  cases inner with
  | nil => rfl
  | cons first rest => simp [windowColumn, length_slidingSums]

mutual

/-- A column has a place for each group and one in front. -/
theorem Metric.length_column {m : Metric ν} {values : List ν}
    (h : m.column table count = .ok values) : values.length = count + 1 := by
  match m with
  | .constant _ =>
    cases h
    exact List.length_replicate
  | .lookup _ | .multiLookup _ =>
    cases h
    exact column_full ..
  | .documents _ _ =>
    simp only [Metric.column] at h
    split at h <;> cases h
    exact column_full ..
  | .function _ m =>
    simp only [Metric.column, bind_eq_ok, pure_eq_ok] at h
    obtain ⟨inner, hm, rfl⟩ := h
    simpa using Metric.length_column hm
  | .lag .. | .running .. =>
    simp only [Metric.column, bind_eq_ok, pure_eq_ok] at h
    obtain ⟨inner, -, rfl⟩ := h
    simp [lagColumn, runningColumn]
  | .window _ m _ _ =>
    simp only [Metric.column, bind_eq_ok, pure_eq_ok] at h
    obtain ⟨inner, hm, rfl⟩ := h
    rw [length_windowColumn, Metric.length_column hm]
  | .calculate _ l r =>
    simp only [Metric.column, bind_eq_ok, pure_eq_ok] at h
    obtain ⟨left, hl, right, hr, rfl⟩ := h
    simp [Metric.length_column hl, Metric.length_column hr]
  | .least ms | .greatest ms =>
    simp only [Metric.column, bind_eq_ok, pure_eq_ok] at h
    obtain ⟨columns, hms, rfl⟩ := h
    exact length_combineColumns _ (Metric.length_columns hms)
  | .ifThenElse c y n =>
    simp only [Metric.column, bind_eq_ok, pure_eq_ok] at h
    obtain ⟨flags, hc, yes, hy, no, hn, rfl⟩ := h
    simp [Filter.length_column hc, Metric.length_column hy, Metric.length_column hn]
  | .iterateLag .. => cases h

theorem Metric.length_columns {ms : List (Metric ν)} {columns : List (List ν)}
    (h : Metric.columns table count ms = .ok columns) :
    ∀ values ∈ columns, values.length = count + 1 := by
  match ms with
  | [] =>
    cases h
    nofun
  | m :: rest =>
    simp only [Metric.columns, bind_eq_ok, pure_eq_ok] at h
    obtain ⟨first, hm, others, hrest, rfl⟩ := h
    exact List.forall_mem_cons.mpr ⟨Metric.length_column hm, Metric.length_columns hrest⟩

theorem Filter.length_column {f : Filter ν} {flags : List Bool}
    (h : f.column table count = .ok flags) : flags.length = count + 1 := by
  match f with
  | .constant _ | .isDefaultGroup _ =>
    cases h
    simp
  | .compare _ l r =>
    simp only [Filter.column, bind_eq_ok, pure_eq_ok] at h
    obtain ⟨left, hl, right, hr, rfl⟩ := h
    simp [Metric.length_column hl, Metric.length_column hr]
  | .and l r | .or l r =>
    simp only [Filter.column, bind_eq_ok, pure_eq_ok] at h
    obtain ⟨left, hl, right, hr, rfl⟩ := h
    simp [Filter.length_column hl, Filter.length_column hr]
  | .not f =>
    simp only [Filter.column, bind_eq_ok, pure_eq_ok] at h
    obtain ⟨flags, hf, rfl⟩ := h
    simpa using Filter.length_column hf
  | .termEquals _ | .termMatches _ => cases h

end

/-! ## Visits -/

section

variable {sum : Push → Option Nat → Option ν}

mutual

/-- A group determines the value of a metric that does not look around, if it has a column. -/
theorem Metric.exists_valueAt
    (summed : ∀ push index, (index.bind (table[·]?)).isSome → (sum push index).isSome)
    {m : Metric ν} (unordered : (Node.metric m).Unordered)
    {values : List ν} (h : m.column table count = .ok values) :
    ∃ x, m.valueAt sum group = some x := by
  match m with
  | .constant _ | .lookup _ | .multiLookup _ => exact ⟨_, rfl⟩
  | .documents push index =>
    simp only [Metric.column] at h
    split at h
    · rename_i sums found
      exact Option.isSome_iff_exists.mp (summed push index (by rw [found, Option.isSome_some]))
    · cases h
  | .function f m =>
    simp only [Metric.column, bind_eq_ok] at h
    obtain ⟨inner, hm, -⟩ := h
    obtain ⟨x, hx⟩ := Metric.exists_valueAt summed (unordered.below .function) hm
    exact ⟨Numeric.apply f x, by simp [Metric.valueAt, hx]⟩
  | .calculate op l r =>
    simp only [Metric.column, bind_eq_ok] at h
    obtain ⟨left, hl, right, hr, -⟩ := h
    obtain ⟨x, hx⟩ := Metric.exists_valueAt summed (unordered.below .calculateLeft) hl
    obtain ⟨y, hy⟩ := Metric.exists_valueAt summed (unordered.below .calculateRight) hr
    exact ⟨Numeric.calculate op x y, by simp [Metric.valueAt, hx, hy]⟩
  | .least ms =>
    simp only [Metric.column, bind_eq_ok] at h
    obtain ⟨columns, hms, -⟩ := h
    obtain ⟨xs, hxs⟩ :=
      Metric.exists_valuesAt summed (fun _ mem => unordered.below (.least mem)) hms
    exact ⟨combineValues Numeric.least xs, by simp [Metric.valueAt, hxs]⟩
  | .greatest ms =>
    simp only [Metric.column, bind_eq_ok] at h
    obtain ⟨columns, hms, -⟩ := h
    obtain ⟨xs, hxs⟩ :=
      Metric.exists_valuesAt summed (fun _ mem => unordered.below (.greatest mem)) hms
    exact ⟨combineValues Numeric.greatest xs, by simp [Metric.valueAt, hxs]⟩
  | .ifThenElse c y n =>
    simp only [Metric.column, bind_eq_ok] at h
    obtain ⟨flags, hc, yes, hy, no, hn, -⟩ := h
    obtain ⟨b, hb⟩ := Filter.exists_holdsAt summed (unordered.below .condition) hc
    obtain ⟨x, hx⟩ := Metric.exists_valueAt summed (unordered.below .yes) hy
    obtain ⟨z, hz⟩ := Metric.exists_valueAt summed (unordered.below .no) hn
    exact ⟨if b then x else z, by simp [Metric.valueAt, hb, hx, hz]⟩
  | .lag .. | .window .. | .running .. | .iterateLag .. => exact absurd trivial (unordered _ .refl)

theorem Metric.exists_valuesAt
    (summed : ∀ push index, (index.bind (table[·]?)).isSome → (sum push index).isSome)
    {ms : List (Metric ν)}
    (unordered : ∀ m ∈ ms, (Node.metric m).Unordered) {columns : List (List ν)}
    (h : Metric.columns table count ms = .ok columns) :
    ∃ xs, Metric.valuesAt sum group ms = some xs := by
  match ms with
  | [] => exact ⟨[], rfl⟩
  | m :: rest =>
    simp only [Metric.columns, bind_eq_ok] at h
    obtain ⟨first, hm, others, hrest, -⟩ := h
    obtain ⟨here, later⟩ := List.forall_mem_cons.mp unordered
    obtain ⟨x, hx⟩ := Metric.exists_valueAt summed here hm
    obtain ⟨xs, hxs⟩ := Metric.exists_valuesAt summed later hrest
    exact ⟨x :: xs, by simp [Metric.valuesAt, hx, hxs]⟩

theorem Filter.exists_holdsAt
    (summed : ∀ push index, (index.bind (table[·]?)).isSome → (sum push index).isSome)
    {f : Filter ν} (unordered : (Node.filter f).Unordered)
    {flags : List Bool} (h : f.column table count = .ok flags) :
    ∃ b, f.holdsAt sum group = some b := by
  match f with
  | .constant _ | .isDefaultGroup _ => exact ⟨_, rfl⟩
  | .compare op l r =>
    simp only [Filter.column, bind_eq_ok] at h
    obtain ⟨left, hl, right, hr, -⟩ := h
    obtain ⟨x, hx⟩ := Metric.exists_valueAt summed (unordered.below .compareLeft) hl
    obtain ⟨y, hy⟩ := Metric.exists_valueAt summed (unordered.below .compareRight) hr
    exact ⟨Numeric.compare op x y, by simp [Filter.holdsAt, hx, hy]⟩
  | .and l r =>
    simp only [Filter.column, bind_eq_ok] at h
    obtain ⟨left, hl, right, hr, -⟩ := h
    obtain ⟨x, hx⟩ := Filter.exists_holdsAt summed (unordered.below .andLeft) hl
    obtain ⟨y, hy⟩ := Filter.exists_holdsAt summed (unordered.below .andRight) hr
    exact ⟨x && y, by simp [Filter.holdsAt, hx, hy]⟩
  | .or l r =>
    simp only [Filter.column, bind_eq_ok] at h
    obtain ⟨left, hl, right, hr, -⟩ := h
    obtain ⟨x, hx⟩ := Filter.exists_holdsAt summed (unordered.below .orLeft) hl
    obtain ⟨y, hy⟩ := Filter.exists_holdsAt summed (unordered.below .orRight) hr
    exact ⟨x || y, by simp [Filter.holdsAt, hx, hy]⟩
  | .not f =>
    simp only [Filter.column, bind_eq_ok] at h
    obtain ⟨flags, hf, -⟩ := h
    obtain ⟨b, hb⟩ := Filter.exists_holdsAt summed (unordered.below .not) hf
    exact ⟨!b, by simp [Filter.holdsAt, hb]⟩
  | .termEquals _ | .termMatches _ => cases h

end

end

omit [Numeric ν] in
/-- A program with a column in a table has a sum in each row. -/
theorem isSome_atPlace_row (group : Nat) (default : ν) (push : Push) (index : Option Nat)
    (h : (index.bind (table[·]?)).isSome) :
    (atPlace (table.map (·.getD group default)) push index).isSome := by
  cases index with
  | none => cases h
  | some i => simpa [atPlace] using h

/-- A metric that does not look around yields at each group what its column has there. -/
theorem Metric.yields_of_column {m : Metric ν} (unordered : (Node.metric m).Unordered)
    {values : List ν} (h : m.column table count = .ok values) (hg : group ≤ count) :
    m.Yields table count group (values.getD group Numeric.zero) := by
  let row := table.map (·.getD group Numeric.zero)
  obtain ⟨x, hx⟩ : ∃ x, m.valueAt (atPlace row) group = some x :=
    Metric.exists_valueAt (isSome_atPlace_row group Numeric.zero) unordered h
  obtain ⟨values', h', found⟩ := Metric.column_of_valueAt hg hx
  obtain rfl := Except.ok.inj (h.symm.trans h')
  have same : values.getD group Numeric.zero = x := by simp [found]
  rw [same]
  exact ⟨⟨values, h, found⟩, fun _ => Metric.visit_of_valueAt hx⟩

end Groupwise.Evaluation
