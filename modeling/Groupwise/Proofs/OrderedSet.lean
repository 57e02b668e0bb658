import Groupwise.Evaluation.Metric
import Groupwise.Proofs.Names
import Mathlib.Data.List.Sort
import Mathlib.Data.String.Basic
import Mathlib.Order.Basic

/-!
# Ordered sets

What is put into an increasing list one by one stays increasing, so that a set holds every member
once and does not depend on the order in which its members came.
-/
namespace Groupwise

variable {α : Type} {less : α → α → Bool}

/-- A strict order in which any two elements can be compared. -/
structure Orders (less : α → α → Bool) : Prop where
  irrefl : ∀ a, ¬less a a
  trans : ∀ {a b c}, less a b → less b c → less a c
  eq_of_not : ∀ {a b}, ¬less a b → ¬less b a → a = b

/-- A list in increasing order without repetition. -/
def Increasing (less : α → α → Bool) (items : List α) : Prop := items.Pairwise (less · ·)

namespace Orders

theorem mem_orderedInsert (order : Orders less) {a b : α} {items : List α} :
    b ∈ orderedInsert less a items ↔ b = a ∨ b ∈ items := by
  induction items with
  | nil => simp [orderedInsert]
  | cons c rest ih =>
    rw [orderedInsert]
    split
    · simp
    · split
      · rw [List.mem_cons, ih, List.mem_cons, or_left_comm]
      · rename_i below above
        simp [order.eq_of_not below above]

theorem increasing_orderedInsert (order : Orders less) (a : α) {items : List α}
    (increasing : Increasing less items) : Increasing less (orderedInsert less a items) := by
  induction items with
  | nil => simp [orderedInsert, Increasing]
  | cons c rest ih =>
    obtain ⟨least, later⟩ := List.pairwise_cons.mp increasing
    rw [orderedInsert]
    split
    · rename_i below
      refine List.pairwise_cons.mpr ⟨fun b hb => ?_, increasing⟩
      rcases List.mem_cons.mp hb with rfl | hb
      · exact below
      · exact order.trans below (least b hb)
    · split
      · rename_i above
        refine List.pairwise_cons.mpr ⟨fun b hb => ?_, ih later⟩
        rcases order.mem_orderedInsert.mp hb with rfl | hb
        · exact above
        · exact least b hb
      · exact increasing

theorem mem_orderedSet (order : Orders less) {b : α} {items : List α} :
    b ∈ orderedSet less items ↔ b ∈ items := by
  have fold (set : List α) :
      b ∈ items.foldl (fun set a => orderedInsert less a set) set ↔ b ∈ set ∨ b ∈ items := by
    induction items generalizing set with
    | nil => simp
    | cons a rest ih =>
      rw [List.foldl_cons, ih, order.mem_orderedInsert, List.mem_cons, or_assoc, or_left_comm]
  exact (fold []).trans (by simp)

theorem increasing_orderedSet (order : Orders less) (items : List α) :
    Increasing less (orderedSet less items) := by
  have fold (set : List α) (increasing : Increasing less set) :
      Increasing less (items.foldl (fun set a => orderedInsert less a set) set) := by
    induction items generalizing set with
    | nil => exact increasing
    | cons a rest ih => exact ih _ (order.increasing_orderedInsert a increasing)
  exact fold [] .nil

theorem nodup (order : Orders less) {items : List α} (increasing : Increasing less items) :
    items.Nodup :=
  increasing.imp fun {a b} below => by
    rintro rfl
    exact order.irrefl a below

/-- Increasing lists with the same members are equal. -/
theorem eq_of_mem_iff (order : Orders less) {first second : List α}
    (increasing : Increasing less first) (increasing' : Increasing less second)
    (same : ∀ a, a ∈ first ↔ a ∈ second) : first = second := by
  have perm : first.Perm second :=
    (List.perm_ext_iff_of_nodup (order.nodup increasing) (order.nodup increasing')).mpr same
  refine perm.eq_of_pairwise (fun a b _ _ below above => ?_) increasing increasing'
  exact absurd (order.trans below above) (order.irrefl a)

theorem orderedSet_eq_of_perm (order : Orders less) {first second : List α}
    (perm : first.Perm second) : orderedSet less first = orderedSet less second := by
  refine order.eq_of_mem_iff (order.increasing_orderedSet _) (order.increasing_orderedSet _)
    fun a => ?_
  rw [order.mem_orderedSet, order.mem_orderedSet, perm.mem_iff]

end Orders

/-- Any linear order can be decided. -/
theorem orders_lt {β : Type} [LinearOrder β] : Orders fun a b : β => decide (a < b) where
  irrefl a := by simp
  trans := by
    intro a b c below above
    simp only [decide_eq_true_eq] at below above ⊢
    exact lt_trans below above
  eq_of_not := by
    intro a b below above
    simp only [decide_eq_true_eq, not_lt] at below above
    exact le_antisymm above below

theorem Names.orders : Orders fun a b : String => decide (a < b) := orders_lt

theorem Names.ofList_eq_of_perm {first second : List String} (perm : first.Perm second) :
    Names.ofList first = Names.ofList second :=
  Names.orders.orderedSet_eq_of_perm perm

namespace Dictionary

/-- Values under different names can be set in either order. -/
theorem insert_comm {a b : String} (differ : a ≠ b) (x y : α) (d : Dictionary α) :
    (d.insert a x).insert b y = (d.insert b y).insert a x := by
  induction d with
  | nil =>
    rcases lt_or_gt_of_ne differ with below | above
    · simp [insert, below, below.not_gt, differ.symm]
    · simp [insert, above, above.not_gt, differ]
  | cons e rest ih =>
    rcases lt_or_gt_of_ne differ with below | above
    · grind [insert]
    · grind [insert]

/-- What is entered under different names can be entered in any order. -/
theorem foldl_insert_eq_of_perm {β : Type} {name : β → String} {value : β → α}
    {first second : List β} (perm : first.Perm second) (distinct : (first.map name).Nodup)
    (d : Dictionary α) :
    first.foldl (fun d e => d.insert (name e) (value e)) d =
      second.foldl (fun d e => d.insert (name e) (value e)) d := by
  apply perm.foldl_eq'
  intro e he e' he' d
  by_cases same : e = e'
  · rw [same]
  · apply insert_comm
    intro equal
    exact same (List.inj_on_of_nodup_map distinct he he' equal)

end Dictionary

theorem Evaluation.Push.orders : Orders Evaluation.Push.less where
  irrefl a := by simp [Push.less]
  trans := by
    intro a b c
    simp only [Push.less, Bool.or_eq_true, decide_eq_true_eq, Bool.and_eq_true, beq_iff_eq]
    rintro (below | ⟨same, below⟩) (above | ⟨same', above⟩)
    · exact .inl (lt_trans below above)
    · exact .inl (same' ▸ below)
    · exact .inl (same ▸ above)
    · exact .inr ⟨same.trans same', lt_trans below above⟩
  eq_of_not := by
    rintro ⟨a, as⟩ ⟨b, bs⟩ below above
    simp only [Push.less, Bool.or_eq_true, decide_eq_true_eq, Bool.and_eq_true, beq_iff_eq,
      not_or, not_and, not_lt] at below above
    obtain rfl := le_antisymm above.1 below.1
    obtain rfl := le_antisymm (above.2 rfl) (below.2 rfl)
    rfl

end Groupwise
