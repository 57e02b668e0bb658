import Groupwise.Proofs.Plan.Timing

/-!
# Timetables of plans

The schedule of a plan is a timetable of its tasks and stages: every task and every stage stands in
it once, in the order of their moments, and the tasks of one moment stand in the order in which they
were noted. So computations in front of a depth come behind the stages above it and before those
from it on, and computations behind a stage come between the stage and the filter of its groups.
-/
namespace Groupwise

variable {ν : Type}

/-! ## Entries -/

/-- A step of a schedule with what it comes from: a task, or a stage with its place among the
stages. -/
inductive Entry (ν : Type) where
  | computed (task : Task ν)
  | regrouped (stage : Nat) (regrouping : Regrouping ν)
  | filtered (stage : Nat) (filter : Aggregate.Filter ν)

namespace Entry

def step : Entry ν → Step ν
  | .computed t => .compute t.scope t.computation t.name
  | .regrouped _ r => .regroup r
  | .filtered _ f => .filterGroups f

def task? : Entry ν → Option (Task ν)
  | .computed t => some t
  | .regrouped .. => none
  | .filtered .. => none

/-- The place of the stage that an entry belongs to. -/
def stage? : Entry ν → Option Nat
  | .computed _ => none
  | .regrouped i _ => some i
  | .filtered i _ => some i

/-- The moment of an entry: a stage and the filter of its groups each come one moment after the
computations in front of them. -/
def moment : Entry ν → Int
  | .computed t => t.moment
  | .regrouped i _ => 4 * i + 1
  | .filtered i _ => 4 * i + 3

@[simp] theorem task?_computed (t : Task ν) : (computed t).task? = some t := rfl

@[simp] theorem task?_regrouped (i : Nat) (r : Regrouping ν) : (regrouped i r).task? = none := rfl

@[simp] theorem task?_filtered (i : Nat) (f : Aggregate.Filter ν) : (filtered i f).task? = none :=
  rfl

end Entry

/-- The tasks of one phase and depth. -/
def tasksAt (tasks : List (Task ν)) (phase : Phase) (depth : Nat) : List (Task ν) :=
  tasks.filter fun t => t.phase == phase && t.depth == depth

/-- The entries of a depth, at which there may be a stage. -/
def level (tasks : List (Task ν)) (depth : Nat)
    (stage : Option (Regrouping ν × Option (Aggregate.Filter ν))) : List (Entry ν) :=
  (tasksAt tasks .pre depth).map .computed ++ (stage.map fun s => .regrouped depth s.1).toList ++
    (tasksAt tasks .post depth).map .computed ++
      ((stage.bind (·.2)).map (.filtered depth)).toList

variable {tasks : List (Task ν)} {phase : Phase} {depth count i : Nat}
  {stage : Option (Regrouping ν × Option (Aggregate.Filter ν))}
  {stages : List (Regrouping ν × Option (Aggregate.Filter ν))}

/-- The entries stand in the order of their moments, which lie between two bounds. -/
structure Chronological (start stop : Int) (entries : List (Entry ν)) : Prop where
  within : ∀ a ∈ entries, start ≤ a.moment ∧ a.moment < stop
  ordered : entries.Pairwise fun a b => a.moment ≤ b.moment

namespace Chronological

variable {start middle stop : Int} {entries front back : List (Entry ν)}

theorem nil : Chronological start stop ([] : List (Entry ν)) :=
  ⟨List.forall_mem_nil _, .nil⟩

theorem append (first : Chronological start middle front) (later : Chronological middle stop back)
    (low : start ≤ middle) (high : middle ≤ stop) : Chronological start stop (front ++ back) where
  within := List.forall_mem_append.mpr
    ⟨fun a ha => by have := first.within a ha; omega,
      fun b hb => by have := later.within b hb; omega⟩
  ordered := List.pairwise_append.mpr ⟨first.ordered, later.ordered, fun a ha b hb => by
    have := first.within a ha
    have := later.within b hb
    omega⟩

/-- Of two entries of different moments that of the earlier one stands in front. -/
theorem lt_of_moment_lt (h : Chronological start stop entries) {a b : Entry ν} {p q : Nat}
    (ha : entries[p]? = some a) (hb : entries[q]? = some b) (early : a.moment < b.moment) :
    p < q := by
  obtain ⟨hp, rfl⟩ := List.getElem?_eq_some_iff.mp ha
  obtain ⟨hq, rfl⟩ := List.getElem?_eq_some_iff.mp hb
  by_contra late
  rcases Nat.eq_or_lt_of_le (Nat.not_lt.mp late) with rfl | late
  · exact absurd early (lt_irrefl _)
  · have := List.pairwise_iff_getElem.mp h.ordered q p hq hp late
    omega

end Chronological

/-- The entries of a stage come between the computations in front of its depth and those in front of
the next one. -/
theorem Entry.moment_of_stage? {entry : Entry ν} (own : entry.stage? = some i) :
    4 * (i : Int) < entry.moment ∧ entry.moment < 4 * (i + 1 : Int) := by
  cases entry with
  | computed => cases own
  | regrouped | filtered =>
    obtain rfl := Option.some.inj own
    simp only [moment]
    omega

theorem Chronological.front {start stop : Int} {order : List (Entry ν)}
    (inOrder : Chronological start stop order) {p q : Nat} {t : Task ν} {entry : Entry ν}
    (hp : order[p]? = some (.computed t)) (pre : t.phase = .pre) (hq : order[q]? = some entry)
    (own : entry.stage? = some i) : (i < t.depth → q < p) ∧ (t.depth ≤ i → p < q) := by
  have moment : (Entry.computed t).moment = 4 * t.depth := Task.moment_eq_iff.mpr ⟨pre, rfl⟩
  have bounds := Entry.moment_of_stage? own
  exact ⟨fun deeper => inOrder.lt_of_moment_lt hq hp (by omega),
    fun front => inOrder.lt_of_moment_lt hp hq (by omega)⟩

end Groupwise
