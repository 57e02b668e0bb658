import Groupwise.Doc.Routing
import Groupwise.Proofs.Outcome

/-!
# Filters are lowered to few actions

Each leaf of a filter is lowered to one action. A conjunction or a disjunction adds the two actions
by which it empties its groups, if it has to set documents aside, and nothing otherwise. So the
number of actions is linear in the size of the filter, however its parts are nested and whichever
groups coincide.
-/
namespace Groupwise.Doc

namespace Filter

/-! ## Leaves and combinations -/

/-- Whether a filter is a leaf: it has no operands, be it for want of them. -/
def isSingle : Filter → Bool
  | .not _ | .qualified .. => false
  | .and fs | .or fs => fs.isEmpty
  | _ => true

mutual

/-- The number of leaves of a filter. -/
def leafCount : Filter → Nat
  | .not f => f.leafCount
  | .qualified _ f => f.leafCount
  | .and fs => if fs.isEmpty then 1 else leafCountOfAll fs
  | .or fs => if fs.isEmpty then 1 else leafCountOfAll fs
  | _ => 1

def leafCountOfAll : List Filter → Nat
  | [] => 0
  | f :: rest => f.leafCount + leafCountOfAll rest

end

mutual

/-- The number of conjunctions and disjunctions of a filter that have operands. -/
def combinationCount : Filter → Nat
  | .not f => f.combinationCount
  | .qualified _ f => f.combinationCount
  | .and fs => if fs.isEmpty then 0 else combinationCountOfAll fs + 1
  | .or fs => if fs.isEmpty then 0 else combinationCountOfAll fs + 1
  | _ => 0

def combinationCountOfAll : List Filter → Nat
  | [] => 0
  | f :: rest => f.combinationCount + combinationCountOfAll rest

end

theorem leafCount_of_isSingle {f : Filter} (single : f.isSingle) : f.leafCount = 1 := by
  cases f with
  | not | qualified => exact absurd single Bool.false_ne_true
  | and fs | or fs => exact if_pos single
  | _ => rfl

theorem combinationCount_of_isSingle {f : Filter} (single : f.isSingle) :
    f.combinationCount = 0 := by
  cases f with
  | not | qualified => exact absurd single Bool.false_ne_true
  | and fs | or fs => exact if_pos single
  | _ => rfl

theorem leafCountOfAll_of_isSingle {fs : List Filter} (single : ∀ f ∈ fs, f.isSingle) :
    leafCountOfAll fs = fs.length := by
  induction fs with
  | nil => rfl
  | cons f rest ih =>
    obtain ⟨here, later⟩ := List.forall_mem_cons.mp single
    rw [leafCountOfAll, leafCount_of_isSingle here, ih later, List.length_cons, Nat.add_comm]

theorem combinationCountOfAll_of_isSingle {fs : List Filter} (single : ∀ f ∈ fs, f.isSingle) :
    combinationCountOfAll fs = 0 := by
  induction fs with
  | nil => rfl
  | cons f rest ih =>
    obtain ⟨here, later⟩ := List.forall_mem_cons.mp single
    rw [combinationCountOfAll, combinationCount_of_isSingle here, ih later]

/-! ## Counting actions -/

/-- There is an action for each leaf, and there are two more at most for each combination. -/
structure Counted (leaves combinations : Nat) (actions : List Action) : Prop where
  least : leaves ≤ actions.length
  most : actions.length ≤ leaves + 2 * combinations

namespace Counted

variable {leaves leaves' combinations combinations' : Nat} {actions more : List Action}

theorem nil : Counted 0 0 [] := ⟨Nat.le_refl 0, Nat.le_refl 0⟩

theorem single (a : Action) : Counted 1 0 [a] := ⟨Nat.le_refl 1, Nat.le_refl 1⟩

theorem append (h : Counted leaves combinations actions)
    (h' : Counted leaves' combinations' more) :
    Counted (leaves + leaves') (combinations + combinations') (actions ++ more) := by
  obtain ⟨least, most⟩ := h
  obtain ⟨least', most'⟩ := h'
  constructor <;> rw [List.length_append] <;> omega

/-- A combination may do without actions of its own. -/
theorem combined (h : Counted leaves combinations actions) :
    Counted leaves (combinations + 1) actions :=
  ⟨h.least, Nat.le_trans h.most (by omega)⟩

/-- A combination may have two actions of its own. -/
theorem emptied (h : Counted leaves combinations actions) (held moved : Action) :
    Counted leaves (combinations + 1) (actions ++ [held, moved]) := by
  obtain ⟨least, most⟩ := h
  constructor <;> rw [List.length_append, List.length_cons, List.length_singleton] <;> omega

end Counted

/-! ## Lowering -/

mutual

theorem counted_actions (f : Filter) {scope : Names} {r : Route} {pool pool' : GroupPool}
    {actions : List Action} (lowered : f.actions scope r pool = .ok (actions, pool')) :
    Counted f.leafCount f.combinationCount actions := by
  match f with
  | .fieldIsnt .. | .notRegex .. =>
    simp only [Filter.actions, bind_eq_ok, pure_eq_ok, Prod.mk.injEq] at lowered
    obtain ⟨a, -, rfl, -⟩ := lowered
    exact .single a
  | .not f =>
    rw [Filter.actions] at lowered
    exact counted_actions f lowered
  | .qualified datasets f =>
    rw [Filter.actions] at lowered
    split at lowered
    · exact counted_actions f lowered
    · exact absurd lowered nofun
  | .and fs | .or fs =>
    simp only [Filter.actions] at lowered
    rw [leafCount, combinationCount]
    split at lowered
    · rename_i none
      obtain ⟨rfl, -⟩ := Prod.mk.inj (Except.ok.inj lowered)
      rw [if_pos none, if_pos none]
      exact .single _
    rename_i some
    rw [if_neg some, if_neg some]
    -- Where the groups differ the last operand decides, and nothing has to be set aside.
    split at lowered
    · exact (counted_actionsUpTo fs lowered).combined
    · split at lowered
      · exact absurd lowered nofun
      · rename_i inner _ hi
        obtain ⟨rfl, -⟩ := Prod.mk.inj (Except.ok.inj lowered)
        exact (counted_actionsOfAll fs hi).emptied _ _
  | .fieldIs .. | .between .. | .compare .. | .regex .. | .fieldEqual .. | .lucene ..
  | .sample .. | .sampleMetric .. | .stringIn .. | .intIn .. | .inQuery .. | .always | .never =>
    simp only [Filter.actions, bind_eq_ok, pure_eq_ok, Prod.mk.injEq] at lowered
    obtain ⟨a, -, rfl, -⟩ := lowered
    exact .single a

theorem counted_actionsOfAll (fs : List Filter) {scope : Names} {r : Route}
    {pool pool' : GroupPool} {actions : List Action}
    (lowered : actionsOfAll scope r fs pool = .ok (actions, pool')) :
    Counted (leafCountOfAll fs) (combinationCountOfAll fs) actions := by
  match fs with
  | [] =>
    obtain ⟨rfl, -⟩ := Prod.mk.inj (Except.ok.inj lowered)
    exact .nil
  | f :: rest =>
    rw [actionsOfAll] at lowered
    split at lowered
    · exact absurd lowered nofun
    · rename_i first _ hf
      split at lowered
      · exact absurd lowered nofun
      · rename_i more _ hm
        obtain ⟨rfl, -⟩ := Prod.mk.inj (Except.ok.inj lowered)
        exact (counted_actions f hf).append (counted_actionsOfAll rest hm)

theorem counted_actionsUpTo (fs : List Filter) {scope : Names} {r last : Route}
    {pool pool' : GroupPool} {actions : List Action}
    (lowered : actionsUpTo scope r last fs pool = .ok (actions, pool')) :
    Counted (leafCountOfAll fs) (combinationCountOfAll fs) actions := by
  match fs with
  | [] =>
    obtain ⟨rfl, -⟩ := Prod.mk.inj (Except.ok.inj lowered)
    exact .nil
  | f :: rest =>
    rw [actionsUpTo] at lowered
    split at lowered
    · rename_i alone
      obtain rfl := List.isEmpty_iff.mp alone
      exact counted_actions f lowered
    · split at lowered
      · exact absurd lowered nofun
      · rename_i first _ hf
        split at lowered
        · exact absurd lowered nofun
        · rename_i more _ hm
          obtain ⟨rfl, -⟩ := Prod.mk.inj (Except.ok.inj lowered)
          exact (counted_actions f hf).append (counted_actionsUpTo rest hm)

end

/-- A filter is lowered to an action for each of its leaves and at most two more for each
conjunction or disjunction that has operands. A single one of these over some leaves has at most two
actions more than operands. -/
theorem length_actions_linear {f : Filter} {scope : Names} {r : Route} {pool pool' : GroupPool}
    {actions : List Action} (lowered : f.actions scope r pool = .ok (actions, pool')) :
    (f.leafCount ≤ actions.length ∧ actions.length ≤ f.leafCount + 2 * f.combinationCount) ∧
      ∀ fs, (∀ g ∈ fs, g.isSingle) → f = .and fs ∨ f = .or fs →
        actions.length ≤ fs.length + 2 := by
  have counted := counted_actions f lowered
  refine ⟨⟨counted.least, counted.most⟩, fun fs single shape => ?_⟩
  have most := counted.most
  have leaves : f.leafCount ≤ max 1 fs.length := by
    rcases shape with rfl | rfl <;> rw [Filter.leafCount, leafCountOfAll_of_isSingle single] <;>
      split <;> omega
  have combinations : f.combinationCount ≤ min 1 fs.length := by
    rcases shape with rfl | rfl <;>
      rw [Filter.combinationCount, combinationCountOfAll_of_isSingle single] <;>
      cases fs <;> simp
  omega

/-- The conjunction sets documents aside and the disjunction in it does not: the four leaves are
lowered to six actions. -/
theorem length_actions_linear_nested :
    let clicks : FieldSet := .single "ads" "clicks"
    let f : Filter := .and [.intIn clicks [3], .not (.or [.intIn clicks [5], .and []]),
      .qualified ["ads"] .always]
    ∃ actions pool, f.actions ["ads"] ⟨1, 1, 1⟩ (.startingAt 2) = .ok (actions, pool) ∧
      f.leafCount = 4 ∧ f.combinationCount = 2 ∧ actions.length = 6 ∧
      4 ≤ actions.length ∧ actions.length ≤ 4 + 2 * 2 := by
  intro clicks f
  have lowered : ∃ actions pool, f.actions ["ads"] ⟨1, 1, 1⟩ (.startingAt 2) =
      .ok (actions, pool) ∧ actions.length = 6 := ⟨_, _, by cbv, rfl⟩
  obtain ⟨actions, pool, h, six⟩ := lowered
  exact ⟨actions, pool, h, rfl, rfl, six, (length_actions_linear h).1⟩

end Filter

end Groupwise.Doc
