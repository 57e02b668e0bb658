import Groupwise.GroupPool

/-!
# Groups that a pool can lend

A pool lends the groups that were given back and then those that were never lent, one after the
other. So it is a stack: borrowing takes the first group off, and giving back puts a group on. As
long as it is given back only what it lent, no group stands in this stack twice.
-/
namespace Groupwise.GroupPool

/-- The groups that a pool can lend: those given back, and from the next one upwards. -/
def supply (pool : GroupPool) : List Nat :=
  pool.released ++ List.range' pool.next.toNat (UInt32.size - pool.next.toNat)

/-- No group can be lent twice at a time. -/
def Sound (pool : GroupPool) : Prop := pool.supply.Nodup

/-- A pool lends the given groups, in this order. Once the greatest group was lent, `fresh` is not
the next word, which is zero, but the number of all words. -/
def Lends (pool : GroupPool) (groups : List Nat) : Prop :=
  ∃ fresh ≤ UInt32.size, pool.next = .ofNat fresh ∧
    groups = pool.released ++ List.range' fresh (UInt32.size - fresh)

variable {pool : GroupPool} {g : Nat} {groups : List Nat}

theorem lends_supply (pool : GroupPool) : pool.Lends pool.supply :=
  ⟨pool.next.toNat, Nat.le_of_lt pool.next.toNat_lt_size, UInt32.ofNat_toNat.symm, rfl⟩

theorem mem_supply :
    g ∈ pool.supply ↔ g ∈ pool.released ∨ pool.next.toNat ≤ g ∧ g < UInt32.size := by
  have word := pool.next.toNat_lt_size
  rw [supply, List.mem_append, List.mem_range'_1, Nat.add_sub_cancel' (Nat.le_of_lt word)]

theorem length_supply (pool : GroupPool) :
    pool.supply.length = pool.released.length + (UInt32.size - pool.next.toNat) := by
  rw [supply, List.length_append, List.length_range']

theorem supply_startingAt {first : Nat} (word : first < UInt32.size) :
    (startingAt first).supply = List.range' first (UInt32.size - first) := by
  simp only [supply, startingAt, UInt32.toNat_ofNat_of_lt' word, List.nil_append]

/-- Borrowing takes the first group off. -/
theorem Lends.acquire (h : pool.Lends (g :: groups)) :
    pool.acquire.1 = g ∧ pool.acquire.2.Lends groups := by
  obtain ⟨fresh, word, next, same⟩ := h
  cases given : pool.released with
  | cons first rest =>
    rw [given, List.cons_append, List.cons.injEq] at same
    simp only [GroupPool.acquire, given]
    exact ⟨same.1.symm, fresh, word, next, same.2⟩
  | nil =>
    rw [given, List.nil_append] at same
    have below : fresh < UInt32.size := by
      refine Nat.lt_of_le_of_ne word fun last => ?_
      rw [last, Nat.sub_self, List.range'_zero] at same
      exact absurd same (List.cons_ne_nil _ _)
    rw [show UInt32.size - fresh = UInt32.size - (fresh + 1) + 1 by omega, List.range'_succ,
      List.cons.injEq] at same
    simp only [GroupPool.acquire, given, next, UInt32.toNat_ofNat_of_lt' below]
    exact ⟨same.1.symm, fresh + 1, below, (UInt32.ofNat_add fresh 1).symm, same.2⟩

/-- Giving back puts a group on. -/
theorem Lends.release (h : pool.Lends groups) (g : Nat) : (pool.release g).Lends (g :: groups) := by
  obtain ⟨fresh, word, next, rfl⟩ := h
  exact ⟨fresh, word, next, rfl⟩

theorem supply_release (pool : GroupPool) (g : Nat) :
    (pool.release g).supply = g :: pool.supply := rfl

theorem supply_acquire (room : pool.released = [] → pool.next.toNat + 1 < UInt32.size) :
    pool.supply = pool.acquire.1 :: pool.acquire.2.supply := by
  cases given : pool.released with
  | cons first rest => simp only [acquire, supply, given, List.cons_append]
  | nil =>
    have below := room given
    have next : (pool.next + 1).toNat = pool.next.toNat + 1 := by
      rw [UInt32.toNat_add, UInt32.toNat_one, Nat.mod_eq_of_lt below]
    simp only [acquire, supply, given, next, List.nil_append]
    rw [show UInt32.size - pool.next.toNat = UInt32.size - (pool.next.toNat + 1) + 1 by omega,
      List.range'_succ]

/-! ## Pools that are given back what they lent -/

/-- The pools that borrowing, and giving back what is lent, can lead to as long as the count of
groups does not run over, with the groups lent. -/
inductive Reached : GroupPool → List Nat → Prop where
  | start {first : Nat} (word : first < UInt32.size) : Reached (startingAt first) []
  | acquire {pool : GroupPool} {lent : List Nat} (reached : Reached pool lent)
      (room : pool.released = [] → pool.next.toNat + 1 < UInt32.size) :
      Reached pool.acquire.2 (pool.acquire.1 :: lent)
  | release {pool : GroupPool} {lent : List Nat} {group : Nat} (reached : Reached pool lent)
      (isLent : group ∈ lent) : Reached (pool.release group) (lent.erase group)

/-- What is lent is lent once and cannot be lent again before it is given back. -/
theorem Reached.nodup {lent : List Nat} (h : Reached pool lent) : (lent ++ pool.supply).Nodup := by
  induction h with
  | start word =>
    rw [supply_startingAt word]
    exact List.nodup_range'
  | acquire _ room ih =>
    rw [supply_acquire room] at ih
    exact List.perm_middle.nodup ih
  | release _ isLent ih =>
    rw [supply_release]
    exact (List.perm_middle.trans ((List.perm_cons_erase isLent).symm.append_right _)).symm.nodup ih

theorem Reached.sound {lent : List Nat} (h : Reached pool lent) : pool.Sound :=
  (List.nodup_append.mp h.nodup).2.1

end Groupwise.GroupPool
