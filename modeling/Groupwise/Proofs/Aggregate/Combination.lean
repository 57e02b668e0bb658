import Groupwise.Proofs.Aggregate.Search
import Mathlib.Data.Fintype.Option

/-!
# Combinations of group filters

A conjunction and a disjunction of filters are built alike. Their nested combinations are merged, a
neutral constant is dropped, and an absorbing one takes the place of the whole combination, so that
nothing is looked up any more.
-/
namespace Groupwise.Aggregate

variable {ν : Type}

/-! ## Names that are looked up -/

/-- The names that are looked up anywhere in a metric. -/
abbrev Metric.lookups (m : Metric ν) : List String := m.collect Metric.lookedUp

abbrev Metric.lookupsOfAll (ms : List (Metric ν)) : List String :=
  Metric.collectAll Metric.lookedUp ms

abbrev Metric.lookupsOption (m : Option (Metric ν)) : List String :=
  Metric.collectOption Metric.lookedUp m

abbrev Filter.lookups (f : Filter ν) : List String := f.collect Metric.lookedUp

abbrev Filter.lookupsOfAll (fs : List (Filter ν)) : List String :=
  Filter.collectAll Metric.lookedUp fs

abbrev Filter.lookupsOption (f : Option (Filter ν)) : List String :=
  Filter.collectOption Metric.lookedUp f

abbrev Grouping.lookups (g : Grouping ν) : List String := g.collect Metric.lookedUp

theorem Metric.shallow_lookedUp : Shallow (@Metric.lookedUp ν) where
  hull m := by cases m <;> rfl
  sum := rfl
  constant _ := rfl

/-- A sum looks up what its terms look up. -/
theorem Metric.mem_lookups_sum [Numeric ν] {ms : List (Metric ν)} {name : String} :
    name ∈ (Metric.sum ms).lookups ↔ name ∈ lookupsOfAll ms :=
  shallow_lookedUp.mem_collect_sum

/-! ## Merged combinations -/

namespace Filter

/-- The truth value of a filter that is a constant. -/
def fixed? : Filter ν → Option Bool
  | .always => some true
  | .never => some false
  | _ => none

/-- A combination has at least two operands, and none of them is a constant. -/
def Merged : Filter ν → Prop
  | .and fs => 2 ≤ fs.length ∧ ∀ f ∈ fs, f.fixed? = none
  | .or fs => 2 ≤ fs.length ∧ ∀ f ∈ fs, f.fixed? = none
  | _ => True

end Filter

/-- A way of combining filters. -/
inductive Connective where
  | and | or

namespace Connective

/-- The truth value of a combination of no filters. -/
def unit : Connective → Bool
  | .and => true
  | .or => false

/-- The truth value of a combination of filters of which some are constants. -/
def fixed (c : Connective) (values : List (Option Bool)) : Option Bool :=
  if some (!c.unit) ∈ values then some (!c.unit)
  else if ∀ v ∈ values, v = some c.unit then some c.unit else none

/-- The combination in which nested ones are merged and constants are absorbed. -/
def merge : Connective → List (Filter ν) → Filter ν
  | .and => Filter.all
  | .or => Filter.any

def node : Connective → List (Filter ν) → Filter ν
  | .and => .and
  | .or => .or

/-- The filter that a combination of no filters is. -/
def neutral : Connective → Filter ν
  | .and => .always
  | .or => .never

/-- The filter that absorbs the others in a combination. -/
def absorbing : Connective → Filter ν
  | .and => .never
  | .or => .always

/-- The operands that a filter adds to a combination. -/
def operands : Connective → Filter ν → List (Filter ν)
  | .and, .and inner => inner
  | .and, .always => []
  | .or, .or inner => inner
  | .or, .never => []
  | _, f => [f]

/-- The combination of operands that are not opened up any more. -/
def build (c : Connective) : List (Filter ν) → Filter ν
  | [] => c.neutral
  | [f] => f
  | fs => c.node fs

variable {α : Type} {c : Connective} {f : Filter ν} {fs : List (Filter ν)}

theorem merge_of_absorbing (h : c.absorbing ∈ fs) : c.merge fs = c.absorbing := by
  cases c with
  | and =>
    have none : Filter.conjuncts? fs = none := by
      fun_induction Filter.conjuncts? fs <;> grind [absorbing]
    simp [merge, Filter.all, none, absorbing]
  | or =>
    have none : Filter.disjuncts? fs = none := by
      fun_induction Filter.disjuncts? fs <;> grind [absorbing]
    simp [merge, Filter.any, none, absorbing]

theorem merge_of_not_absorbing (h : c.absorbing ∉ fs) :
    c.merge fs = c.build (fs.flatMap c.operands) := by
  cases c with
  | and =>
    have opened : Filter.conjuncts? fs = some (fs.flatMap Connective.and.operands) := by
      fun_induction Filter.conjuncts? fs <;> simp_all [absorbing, operands]
    rw [merge, Filter.all, opened]
    generalize fs.flatMap Connective.and.operands = gs
    rcases gs with _ | ⟨_, _ | _⟩ <;> rfl
  | or =>
    have opened : Filter.disjuncts? fs = some (fs.flatMap Connective.or.operands) := by
      fun_induction Filter.disjuncts? fs <;> simp_all [absorbing, operands]
    rw [merge, Filter.any, opened]
    generalize fs.flatMap Connective.or.operands = gs
    rcases gs with _ | ⟨_, _ | _⟩ <;> rfl

theorem forall_mem_operands {P : Filter ν → Prop} (inner : ∀ fs, P (c.node fs) → ∀ f ∈ fs, P f)
    (hf : P f) : ∀ g ∈ c.operands f, P g := by
  cases c with
  | and =>
    cases f with
    | and fs => exact inner fs hf
    | always => nofun
    | _ => exact List.forall_mem_singleton.mpr hf
  | or =>
    cases f with
    | or fs => exact inner fs hf
    | never => nofun
    | _ => exact List.forall_mem_singleton.mpr hf

/-- A property of both constants that passes from combinations to their operands and back is one of
a merged combination if it is one of what is combined. -/
theorem property_merge {P : Filter ν → Prop} (neutral : P c.neutral) (absorbing : P c.absorbing)
    (inner : ∀ fs, P (c.node fs) → ∀ f ∈ fs, P f)
    (node : ∀ fs, (∀ f ∈ fs, P f) → P (c.node fs)) (h : ∀ f ∈ fs, P f) : P (c.merge fs) := by
  by_cases absorbed : c.absorbing ∈ fs
  · rwa [merge_of_absorbing absorbed]
  rw [merge_of_not_absorbing absorbed]
  have opened : ∀ g ∈ fs.flatMap c.operands, P g :=
    List.forall_mem_flatMap.mpr fun f hf => forall_mem_operands inner (h f hf)
  match hgs : fs.flatMap c.operands with
  | [] => exact neutral
  | [g] => exact opened g (hgs ▸ List.mem_singleton_self g)
  | g :: k :: rest => exact node _ (hgs ▸ opened)

theorem collectAll_operands (find : Metric ν → List α) (c : Connective) (f : Filter ν) :
    Filter.collectAll find (c.operands f) = f.collect find := by
  cases c <;> cases f <;> simp [operands, Filter.collect, Filter.collectAll]

theorem collect_build (find : Metric ν → List α) (c : Connective) (fs : List (Filter ν)) :
    (c.build fs).collect find = Filter.collectAll find fs := by
  match fs with
  | [] => cases c <;> rfl
  | [f] => simp [build, Filter.collectAll]
  | f :: g :: rest => cases c <;> rfl

/-- In a combination is found what is found in its operands, unless one of them absorbs the
others. -/
theorem mem_collect_merge {find : Metric ν → List α} {a : α} : a ∈ (c.merge fs).collect find ↔
    c.absorbing ∉ fs ∧ a ∈ Filter.collectAll find fs := by
  by_cases h : c.absorbing ∈ fs
  · rw [merge_of_absorbing h]
    cases c <;> simp_all [absorbing, Filter.collect]
  · rw [merge_of_not_absorbing h, collect_build]
    simp only [h, not_false_eq_true, true_and, Filter.collectAll_eq_flatMap, List.flatMap_assoc]
    simp only [← Filter.collectAll_eq_flatMap, collectAll_operands]

theorem collect_merge_subset (find : Metric ν → List α) (c : Connective) (fs : List (Filter ν)) :
    (c.merge fs).collect find ⊆ Filter.collectAll find fs :=
  fun _ h => (mem_collect_merge.mp h).2

/-! What is left of merged operands is a constant exactly if no proper operand is left. -/

theorem neutral_of_operands_eq_nil (merged : f.Merged) (h : c.operands f = []) : f = c.neutral := by
  cases c <;> cases f <;> simp_all [operands, neutral, Filter.Merged]

theorem eq_of_operands_eq_singleton {g : Filter ν} (merged : f.Merged) (h : c.operands f = [g]) :
    f = g := by
  cases c <;> cases f <;> simp_all [operands, Filter.Merged]

theorem fixed?_of_mem_operands {g : Filter ν} (merged : f.Merged) (h : f ≠ c.absorbing)
    (hg : g ∈ c.operands f) : g.fixed? = none := by
  cases c <;> cases f <;> simp_all [operands, absorbing, Filter.fixed?, Filter.Merged]

theorem flatMap_operands_eq_nil (merged : ∀ f ∈ fs, f.Merged) :
    fs.flatMap c.operands = [] ↔ ∀ f ∈ fs, f = c.neutral := by
  rw [List.flatMap_eq_nil_iff]
  constructor
  · intro h f hf
    exact neutral_of_operands_eq_nil (merged f hf) (h f hf)
  · intro h f hf
    rw [h f hf]
    cases c <;> rfl

theorem mem_of_flatMap_operands_eq_singleton {g : Filter ν} (merged : ∀ f ∈ fs, f.Merged)
    (h : fs.flatMap c.operands = [g]) : g ∈ fs := by
  induction fs with
  | nil => simp at h
  | cons f rest ih =>
    rw [List.forall_mem_cons] at merged
    rw [List.flatMap_cons] at h
    rcases List.append_eq_singleton_iff.mp h with ⟨_, h⟩ | ⟨h, _⟩
    · exact List.mem_cons_of_mem f (ih merged.2 h)
    · rw [eq_of_operands_eq_singleton merged.1 h]
      exact List.mem_cons_self ..

theorem fixed?_of_mem_flatMap_operands {g : Filter ν} (merged : ∀ f ∈ fs, f.Merged)
    (h : c.absorbing ∉ fs) (hg : g ∈ fs.flatMap c.operands) : g.fixed? = none := by
  obtain ⟨f, hf, hg⟩ := List.mem_flatMap.mp hg
  exact fixed?_of_mem_operands (merged f hf) (fun he => h (he ▸ hf)) hg

theorem merged_merge (merged : ∀ f ∈ fs, f.Merged) : (c.merge fs).Merged := by
  by_cases h : c.absorbing ∈ fs
  · rw [merge_of_absorbing h]
    cases c <;> trivial
  · rw [merge_of_not_absorbing h]
    have proper := fun g => fixed?_of_mem_flatMap_operands (g := g) merged h
    match hgs : fs.flatMap c.operands with
    | [] => cases c <;> trivial
    | [g] => exact merged g (mem_of_flatMap_operands_eq_singleton merged hgs)
    | g :: k :: rest =>
      rw [hgs] at proper
      cases c <;> exact ⟨by simp, proper⟩

theorem fixed?_eq_absorbing : f.fixed? = some (!c.unit) ↔ f = c.absorbing := by
  cases c <;> cases f <;> simp [Filter.fixed?, unit, absorbing]

theorem fixed?_eq_neutral : f.fixed? = some c.unit ↔ f = c.neutral := by
  cases c <;> cases f <;> simp [Filter.fixed?, unit, neutral]

theorem absorbing_mem : some (!c.unit) ∈ fs.map Filter.fixed? ↔ c.absorbing ∈ fs := by
  simp only [List.mem_map, fixed?_eq_absorbing, exists_eq_right]

/-- The constant that a combination of merged filters is. -/
theorem fixed?_merge (merged : ∀ f ∈ fs, f.Merged) :
    (c.merge fs).fixed? = c.fixed (fs.map Filter.fixed?) := by
  rw [fixed]
  by_cases h : c.absorbing ∈ fs
  · rw [if_pos (absorbing_mem.mpr h), merge_of_absorbing h, fixed?_eq_absorbing]
  · rw [if_neg (mt absorbing_mem.mp h), merge_of_not_absorbing h]
    have proper := fun g => fixed?_of_mem_flatMap_operands (g := g) merged h
    have empty := flatMap_operands_eq_nil (c := c) merged
    simp only [List.forall_mem_map, fixed?_eq_neutral, ← empty]
    match hgs : fs.flatMap c.operands with
    | [] => exact fixed?_eq_neutral.mpr rfl
    | [g] => simpa [build, hgs] using proper g
    | g :: k :: rest => cases c <;> simp [build, node, Filter.fixed?]

end Connective

end Groupwise.Aggregate
