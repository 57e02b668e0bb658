import Groupwise.Names
import Mathlib.Data.List.Basic

/-!
# Members of sets of names and of dictionaries

Sets and dictionaries are sorted lists, but only their members matter: what was put in is in them,
and what a dictionary has under a name is what was put there last.
-/
namespace Groupwise

namespace Names

theorem mem_insert {d name : String} {names : Names} :
    d ∈ insert name names ↔ d = name ∨ d ∈ names := by
  induction names with
  | nil => simp [insert, orderedInsert]
  | cons b rest ih =>
    simp only [insert, orderedInsert] at ih ⊢
    split
    · simp
    split
    · rw [List.mem_cons, ih, List.mem_cons, or_left_comm]
    · rename_i notLess notGreater
      simp only [decide_eq_true_eq, String.not_lt] at notLess notGreater
      simp [String.le_antisymm notGreater notLess]

theorem mem_foldl_insert {d : String} (items : List String) (names : Names) :
    d ∈ items.foldl (fun names name => insert name names) names ↔ d ∈ names ∨ d ∈ items := by
  induction items generalizing names with
  | nil => simp
  | cons a rest ih =>
    rw [List.foldl_cons, ih, mem_insert, List.mem_cons, or_assoc, or_left_comm]

theorem mem_ofList {d : String} {items : List String} : d ∈ ofList items ↔ d ∈ items :=
  (mem_foldl_insert items []).trans (by simp)

theorem mem_union {d : String} {a b : Names} : d ∈ union a b ↔ d ∈ a ∨ d ∈ b :=
  mem_foldl_insert b a

end Names

namespace Dictionary

variable {α : Type} {d : Dictionary α} {name : String} {value : α}

theorem mem_insert {e : String × α} (h : e ∈ d.insert name value) : e = (name, value) ∨ e ∈ d := by
  fun_induction Dictionary.insert name value d <;> grind

theorem mem_of_find? (h : d.find? name = some value) : (name, value) ∈ d := by
  fun_induction Dictionary.find? name d <;> grind

theorem mem_keys : name ∈ d.keys ↔ (d.find? name).isSome := by
  fun_induction Dictionary.find? name d <;> grind [keys]

theorem find?_insert (other : String) :
    (d.insert name value).find? other = if name = other then some value else d.find? other := by
  fun_induction Dictionary.insert name value d <;> grind [find?]

theorem mem_keys_insert {other : String} :
    other ∈ (d.insert name value).keys ↔ other = name ∨ other ∈ d.keys := by
  rw [mem_keys, mem_keys, find?_insert]
  by_cases same : name = other
  · rw [if_pos same]
    exact iff_of_true rfl (.inl same.symm)
  · rw [if_neg same, or_iff_right (Ne.symm same)]

theorem keys_map {β : Type} (f : String → α → β) (d : Dictionary α) :
    keys (d.map fun e => (e.1, f e.1 e.2)) = d.keys :=
  List.map_map

theorem find?_map {β : Type} (f : String → α → β) (d : Dictionary α) (name : String) :
    Dictionary.find? name (d.map fun e => (e.1, f e.1 e.2)) = (d.find? name).map (f name) := by
  fun_induction Dictionary.find? name d with
  | case1 => rfl
  | case2 key value rest same =>
    obtain rfl := eq_of_beq same
    rw [List.map_cons, find?, if_pos same, Option.map_some]
  | case3 key value rest differ ih => rw [List.map_cons, find?, if_neg differ, ih]

end Dictionary

end Groupwise
