import Groupwise.Proofs.Doc.Routing

/-!
# Scratch groups are given back

Lowering a filter borrows and gives back scratch groups like a stack: while `lent` groups are lent,
these are the first ones of the pool, and those that were lent before lie above them in order. So
every borrowed group is given back once, and as many groups are needed at most as conjunctions and
disjunctions are nested. There have to be that many groups: when the count of words starts again at
zero, a pool lends groups below its first one.

The calls by which a lowering borrows and gives back are put on record by `recordedActions`, which
is the lowering itself with a ledger in place of the pool.
-/
namespace Groupwise

/-! ## Pools that are used like a stack -/

namespace GroupPool

variable {first lent made : Nat}

/-- The pool that has made `made` groups from `first` on and lends the first `lent` of them. -/
def stacked (first lent made : Nat) : GroupPool where
  next := .ofNat (first + made)
  released := List.range' (first + lent) (made - lent)
  outstanding := lent
  highWater := first - 1 + made

/-- The next group to be lent is the one above those that are lent. -/
theorem acquire_stacked (positive : 1 ≤ first) (within : lent ≤ made)
    (room : first + lent < UInt32.size) :
    (stacked first lent made).acquire =
      (first + lent, stacked first (lent + 1) (max made (lent + 1))) := by
  rcases Nat.eq_or_lt_of_le within with rfl | below
  · have none : (stacked first lent lent).released = [] := by simp [stacked]
    have next : (stacked first lent lent).next.toNat = first + lent := UInt32.toNat_ofNat_of_lt' room
    simp only [acquire, none, next]
    simp only [stacked, Prod.mk.injEq, GroupPool.mk.injEq, true_and]
    refine ⟨?_, ?_, by omega⟩
    · rw [Nat.max_eq_right (Nat.le_succ lent)]
      exact (UInt32.ofNat_add (first + lent) 1).symm
    · rw [Nat.sub_eq_zero_of_le (by omega), List.range'_zero]
  · have some : (stacked first lent made).released =
        (first + lent) :: List.range' (first + (lent + 1)) (made - (lent + 1)) := by
      rw [stacked, show made - lent = made - (lent + 1) + 1 by omega, List.range'_succ,
        Nat.add_assoc]
    simp only [acquire, some, Nat.max_eq_left below]
    rfl

/-- Giving back the group lent last undoes the lending. -/
theorem release_stacked (below : lent < made) :
    (stacked first (lent + 1) made).release (first + lent) = stacked first lent made := by
  simp only [release, stacked, GroupPool.mk.injEq, true_and, and_true, Nat.add_sub_cancel]
  rw [show made - lent = made - (lent + 1) + 1 by omega, List.range'_succ, Nat.add_assoc]

end GroupPool

/-! ## Ledgers -/

/-- What was asked of a pool. -/
inductive PoolCall where
  /-- The group was lent. -/
  | acquired (group : Nat)
  /-- The group was given back to the pool. -/
  | released (pool : GroupPool) (group : Nat)

/-- A pool with the calls that it has answered, the latest first. -/
structure PoolLedger where
  pool : GroupPool
  calls : List PoolCall := []

namespace PoolLedger

def startingAt (first : Nat) : PoolLedger := { pool := .startingAt first }

def acquire (l : PoolLedger) : Nat × PoolLedger :=
  (l.pool.acquire.1, ⟨l.pool.acquire.2, .acquired l.pool.acquire.1 :: l.calls⟩)

def release (l : PoolLedger) (group : Nat) : PoolLedger :=
  ⟨l.pool.release group, .released l.pool group :: l.calls⟩

/-- A group may be given back to a pool that lends groups and does not have this one. -/
def Allowed : PoolCall → Prop
  | .acquired _ => True
  | .released pool group => 0 < pool.outstanding ∧ group ∉ pool.released

/-- The pool was used like a stack from `first` on: it has made `made` groups, each of which was
lent at some time, and lends `lent` of them. -/
structure Stacked (first lent made : Nat) (l : PoolLedger) : Prop where
  pool : l.pool = .stacked first lent made
  within : lent ≤ made
  acquired : ∀ g, .acquired g ∈ l.calls ↔ first ≤ g ∧ g < first + made
  allowed : ∀ call ∈ l.calls, Allowed call

variable {first lent made : Nat} {l : PoolLedger}

theorem Stacked.acquire_fst (h : l.Stacked first lent made) (positive : 1 ≤ first)
    (room : first + lent < UInt32.size) : l.acquire.1 = first + lent := by
  rw [acquire, h.pool, GroupPool.acquire_stacked positive h.within room]

theorem Stacked.acquire (h : l.Stacked first lent made) (positive : 1 ≤ first)
    (room : first + lent < UInt32.size) :
    l.acquire.2.Stacked first (lent + 1) (max made (lent + 1)) where
  pool := by rw [PoolLedger.acquire, h.pool, GroupPool.acquire_stacked positive h.within room]
  within := by omega
  acquired g := by
    have within := h.within
    simp only [PoolLedger.acquire, List.mem_cons, h.acquired, PoolCall.acquired.injEq]
    rw [h.pool, GroupPool.acquire_stacked positive within room]
    omega
  allowed := List.forall_mem_cons.mpr ⟨trivial, h.allowed⟩

theorem Stacked.release (h : l.Stacked first (lent + 1) made) :
    (l.release (first + lent)).Stacked first lent made where
  pool := by rw [PoolLedger.release, h.pool, GroupPool.release_stacked h.within]
  within := Nat.le_of_succ_le h.within
  acquired g := by simp [PoolLedger.release, h.acquired]
  allowed := by
    refine List.forall_mem_cons.mpr ⟨?_, h.allowed⟩
    rw [h.pool]
    exact ⟨Nat.succ_pos lent, by simp [GroupPool.stacked, Nat.add_assoc]⟩

end PoolLedger

/-- The groups of a route. -/
def Route.groups (r : Route) : List Nat := [r.target, r.positive, r.negative]

namespace Doc.Filter

/-! ## Lowering on record -/

mutual

/-- The actions of a filter, with the ledger of the pool of scratch groups after them. -/
def recordedActions (scope : Names) (r : Route) : Filter → PoolLedger →
    CompileM (List Action × PoolLedger)
  | .fieldIsnt field term, l => do
    let action ← leafAction scope ⟨r.target, r.negative, r.positive⟩ (.fieldIs field term)
    pure ([action], l)
  | .notRegex field pattern, l => do
    let action ← leafAction scope ⟨r.target, r.negative, r.positive⟩ (.regex field pattern)
    pure ([action], l)
  | .not f, l => f.recordedActions scope ⟨r.target, r.negative, r.positive⟩ l
  | .qualified datasets f, l =>
    if datasets.subset scope then f.recordedActions datasets r l
    else .error (.invalid ("Qualified scope not subset of outer scope! qualified = " ++
      datasets.outline.compact ++ ", scope = " ++ scope.outline.compact))
  | .and fs, l =>
    if fs.isEmpty then .ok ([.unconditional scope r.target r.positive], l)
    else if r.target != r.negative && r.positive != r.negative then
      recordedActionsUpTo scope ⟨r.target, r.target, r.negative⟩ r fs l
    else
      let (scratch, l) := l.acquire
      match recordedActionsOfAll scope ⟨r.target, r.target, scratch⟩ fs l with
      | .error e => .error e
      | .ok (actions, l) =>
        .ok (actions ++ [.unconditional scope r.target r.positive,
          .unconditional scope scratch r.negative], l.release scratch)
  | .or fs, l =>
    if fs.isEmpty then .ok ([.unconditional scope r.target r.negative], l)
    else if r.target != r.positive && r.positive != r.negative then
      recordedActionsUpTo scope ⟨r.target, r.positive, r.target⟩ r fs l
    else
      let (scratch, l) := l.acquire
      match recordedActionsOfAll scope ⟨r.target, scratch, r.target⟩ fs l with
      | .error e => .error e
      | .ok (actions, l) =>
        .ok (actions ++ [.unconditional scope r.target r.negative,
          .unconditional scope scratch r.positive], l.release scratch)
  | f, l => do pure ([← f.leafAction scope r], l)

def recordedActionsOfAll (scope : Names) (r : Route) : List Filter → PoolLedger →
    CompileM (List Action × PoolLedger)
  | [], l => .ok ([], l)
  | f :: rest, l =>
    match f.recordedActions scope r l with
    | .error e => .error e
    | .ok (actions, l) =>
      match recordedActionsOfAll scope r rest l with
      | .error e => .error e
      | .ok (more, l) => .ok (actions ++ more, l)

def recordedActionsUpTo (scope : Names) (r last : Route) : List Filter → PoolLedger →
    CompileM (List Action × PoolLedger)
  | [], l => .ok ([], l)
  | f :: rest, l =>
    if rest.isEmpty then f.recordedActions scope last l
    else
      match f.recordedActions scope r l with
      | .error e => .error e
      | .ok (actions, l) =>
        match recordedActionsUpTo scope r last rest l with
        | .error e => .error e
        | .ok (more, l) => .ok (actions ++ more, l)

end

/-- A result with the pool in place of its ledger. -/
def withPool (result : CompileM (List Action × PoolLedger)) : CompileM (List Action × GroupPool) :=
  result.map fun x => (x.1, x.2.pool)

theorem withPool_recordedActions_of_isLeaf {f : Filter} (leaf : f.isLeaf) (scope : Names)
    (r : Route) (l : PoolLedger) :
    withPool (f.recordedActions scope r l) = f.actions scope r l.pool := by
  cases f with
  | fieldIsnt | notRegex | and | or | not | qualified => exact absurd leaf (by simp [isLeaf])
  | _ =>
    simp only [recordedActions, Filter.actions]
    cases leafAction scope r _ <;> rfl

mutual

/-- Keeping a record changes nothing about the lowering. -/
theorem withPool_recordedActions (f : Filter) (scope : Names) (r : Route) (l : PoolLedger) :
    withPool (f.recordedActions scope r l) = f.actions scope r l.pool := by
  match f with
  | .fieldIsnt field term =>
    rw [recordedActions, Filter.actions]
    cases leafAction scope ⟨r.target, r.negative, r.positive⟩ (.fieldIs field term) <;> rfl
  | .notRegex field pattern =>
    rw [recordedActions, Filter.actions]
    cases leafAction scope ⟨r.target, r.negative, r.positive⟩ (.regex field pattern) <;> rfl
  | .not f => exact withPool_recordedActions f scope _ l
  | .qualified datasets f =>
    rw [recordedActions, Filter.actions]
    split
    · exact withPool_recordedActions f datasets r l
    · rfl
  | .and fs | .or fs =>
    rw [recordedActions, Filter.actions]
    split
    · rfl
    split
    · exact withPool_recordedActionsUpTo fs scope _ r l
    -- The two kinds differ only in the routes of their operands.
    · have inner (r' : Route) := withPool_recordedActionsOfAll fs scope r' l.acquire.2
      simp only [PoolLedger.acquire] at inner ⊢
      rw [← inner]
      cases recordedActionsOfAll scope _ fs _ <;> rfl
  | .fieldIs .. | .between .. | .compare .. | .regex .. | .fieldEqual .. | .lucene ..
  | .sample .. | .sampleMetric .. | .stringIn .. | .intIn .. | .inQuery .. | .always | .never =>
    exact withPool_recordedActions_of_isLeaf rfl scope r l

theorem withPool_recordedActionsOfAll (fs : List Filter) (scope : Names) (r : Route)
    (l : PoolLedger) :
    withPool (recordedActionsOfAll scope r fs l) = actionsOfAll scope r fs l.pool := by
  match fs with
  | [] => rfl
  | f :: rest =>
    rw [recordedActionsOfAll, actionsOfAll, ← withPool_recordedActions f]
    rcases f.recordedActions scope r l with e | ⟨first, l₁⟩
    · rfl
    · have others := withPool_recordedActionsOfAll rest scope r l₁
      simp only [withPool, Except.map] at others ⊢
      rw [← others]
      cases recordedActionsOfAll scope r rest l₁ <;> rfl

theorem withPool_recordedActionsUpTo (fs : List Filter) (scope : Names) (r last : Route)
    (l : PoolLedger) :
    withPool (recordedActionsUpTo scope r last fs l) = actionsUpTo scope r last fs l.pool := by
  match fs with
  | [] => rfl
  | f :: rest =>
    rw [recordedActionsUpTo, actionsUpTo]
    split
    · exact withPool_recordedActions f scope last l
    rw [← withPool_recordedActions f]
    rcases f.recordedActions scope r l with e | ⟨first, l₁⟩
    · rfl
    · have others := withPool_recordedActionsUpTo rest scope r last l₁
      simp only [withPool, Except.map] at others ⊢
      rw [← others]
      cases recordedActionsUpTo scope r last rest l₁ <;> rfl

end

/-- The action of a leaf has the groups of its route. -/
theorem groups_leafAction {f : Filter} {scope : Names} {r : Route} {a : Action}
    (h : f.leafAction scope r = .ok a) : a.route.groups ⊆ r.groups := by
  cases f with
  | fieldIs | between | lucene | sampleMetric | regex | sample | stringIn | intIn =>
    simp only [leafAction, bind_eq_ok, pure_eq_ok] at h
    grind [Action.route]
  | compare | fieldEqual =>
    simp only [leafAction, metricAction, bind_eq_ok, pure_eq_ok] at h
    grind [Action.route]
  | _ =>
    simp only [leafAction, Except.ok.injEq] at h
    rw [← h]
    simp [Action.route, Route.groups]

/-- Between two states of a pool that is used like a stack no more groups were made than a nesting
needs, and the actions in between have no groups but those of a route and of the pool. -/
structure Balanced (first lent made made' depth : Nat) (r : Route) (actions : List Action)
    (l : PoolLedger) : Prop where
  grown : made ≤ made'
  bound : made' ≤ max made (lent + depth)
  stacked : l.Stacked first lent made'
  groups : ∀ a ∈ actions, ∀ g ∈ a.route.groups, g ∈ r.groups ∨ first ≤ g ∧ g < first + made'

namespace Balanced

variable {first lent made made' made'' depth depth' : Nat} {scope : Names} {r r' : Route}
  {actions more : List Action} {l l' : PoolLedger}

theorem nil (h : l.Stacked first lent made) : Balanced first lent made made depth r [] l where
  grown := Nat.le_refl made
  bound := Nat.le_max_left ..
  stacked := h
  groups := List.forall_mem_nil _

theorem single (h : l.Stacked first lent made) {a : Action} (own : a.route.groups ⊆ r.groups) :
    Balanced first lent made made depth r [a] l where
  grown := Nat.le_refl made
  bound := Nat.le_max_left ..
  stacked := h
  groups := List.forall_mem_singleton.mpr fun _ hg => .inl (own hg)

theorem mono (h : Balanced first lent made made' depth r actions l) (deeper : depth ≤ depth')
    (own : r.groups ⊆ r'.groups) : Balanced first lent made made' depth' r' actions l where
  grown := h.grown
  bound := Nat.le_trans h.bound (by omega)
  stacked := h.stacked
  groups a ha g hg := (h.groups a ha g hg).imp_left (own ·)

theorem append (h : Balanced first lent made made' depth r actions l)
    (h' : Balanced first lent made' made'' depth' r more l') :
    Balanced first lent made made'' (max depth depth') r (actions ++ more) l' where
  grown := Nat.le_trans h.grown h'.grown
  bound := by
    have first := h.bound
    have second := h'.bound
    omega
  stacked := h'.stacked
  groups a ha g hg := by
    have grown := h'.grown
    rcases List.mem_append.mp ha with ha | ha
    · exact (h.groups a ha g hg).imp_right fun inside => ⟨inside.1, by omega⟩
    · exact h'.groups a ha g hg

/-- A group may be borrowed for some actions, emptied and given back. -/
theorem scratch (h : Balanced first (lent + 1) (max made (lent + 1)) made' depth r' actions l)
    (own : ∀ g ∈ r'.groups, g ∈ r.groups ∨ g = first + lent) {held moved : Nat}
    (hheld : held ∈ r.groups) (hmoved : moved ∈ r.groups) :
    Balanced first lent made made' (depth + 1) r (actions ++
      [.unconditional scope r.target held, .unconditional scope (first + lent) moved])
      (l.release (first + lent)) where
  grown := Nat.le_trans (Nat.le_max_left ..) h.grown
  bound := by
    have bound := h.bound
    omega
  stacked := h.stacked.release
  groups a ha g hg := by
    have grown := h.grown
    have borrowed : first ≤ first + lent ∧ first + lent < first + made' := by omega
    have htarget : r.target ∈ r.groups := List.mem_cons_self ..
    rcases List.mem_append.mp ha with ha | ha
    · rcases h.groups a ha g hg with inside | inside
      · exact (own g inside).imp_right fun (same : g = first + lent) => same ▸ borrowed
      · exact .inr inside
    · simp only [List.mem_cons, List.not_mem_nil, or_false] at ha
      rcases ha with rfl | rfl <;>
        simp only [Action.route, Route.groups, List.mem_cons, List.not_mem_nil, or_false,
          or_self] at hg <;>
        rcases hg with rfl | rfl
      · exact .inl htarget
      · exact .inl hheld
      · exact .inr borrowed
      · exact .inl hmoved

end Balanced

mutual

/-- Lowering a filter gives back what it borrows, and borrows no more groups at a time than
conjunctions and disjunctions are nested. -/
theorem balanced_recordedActions (f : Filter) {first lent made : Nat} {scope : Names} {r : Route}
    {l l' : PoolLedger} {actions : List Action} (positive : 1 ≤ first)
    (room : first + lent + f.nesting ≤ UInt32.size) (h : l.Stacked first lent made)
    (lowered : f.recordedActions scope r l = .ok (actions, l')) :
    ∃ made', Balanced first lent made made' f.nesting r actions l' := by
  match f with
  | .fieldIsnt field term | .notRegex field pattern =>
    simp only [recordedActions, bind_eq_ok, pure_eq_ok, Prod.mk.injEq] at lowered
    obtain ⟨a, ha, rfl, rfl⟩ := lowered
    refine ⟨made, .single h (List.Subset.trans (groups_leafAction ha) ?_)⟩
    simp [Route.groups]
  | .not f =>
    rw [recordedActions] at lowered
    obtain ⟨made', balanced⟩ := balanced_recordedActions f positive room h lowered
    exact ⟨made', balanced.mono (Nat.le_refl _) (by simp [Route.groups])⟩
  | .qualified datasets f =>
    rw [recordedActions] at lowered
    split at lowered
    · exact balanced_recordedActions f positive room h lowered
    · exact absurd lowered nofun
  | .and fs | .or fs =>
    rw [recordedActions] at lowered
    rw [nesting] at room
    split at lowered
    · obtain ⟨rfl, rfl⟩ := Prod.mk.inj (Except.ok.inj lowered)
      exact ⟨made, .single h (by simp [Action.route, Route.groups])⟩
    split at lowered
    · obtain ⟨made', balanced⟩ := balanced_recordedActionsUpTo fs positive
        (Nat.le_of_succ_le room) h (by simp [Route.groups]) lowered
      exact ⟨made', balanced.mono (Nat.le_succ _) (List.Subset.refl _)⟩
    · have below : first + lent < UInt32.size := by omega
      simp only [h.acquire_fst positive below] at lowered
      split at lowered
      · exact absurd lowered nofun
      · rename_i inner l₁ hi
        obtain ⟨rfl, rfl⟩ := Prod.mk.inj (Except.ok.inj lowered)
        obtain ⟨made', balanced⟩ :=
          balanced_recordedActionsOfAll fs positive (by omega) (h.acquire positive below) hi
        exact ⟨made', balanced.scratch (by simp [Route.groups]) (by simp [Route.groups])
          (by simp [Route.groups])⟩
  | .fieldIs .. | .between .. | .compare .. | .regex .. | .fieldEqual .. | .lucene ..
  | .sample .. | .sampleMetric .. | .stringIn .. | .intIn .. | .inQuery .. | .always | .never =>
    simp only [recordedActions, bind_eq_ok, pure_eq_ok, Prod.mk.injEq] at lowered
    obtain ⟨a, ha, rfl, rfl⟩ := lowered
    exact ⟨made, .single h (groups_leafAction ha)⟩

theorem balanced_recordedActionsOfAll (fs : List Filter) {first lent made : Nat} {scope : Names}
    {r : Route} {l l' : PoolLedger} {actions : List Action} (positive : 1 ≤ first)
    (room : first + lent + nestingOfAll fs ≤ UInt32.size) (h : l.Stacked first lent made)
    (lowered : recordedActionsOfAll scope r fs l = .ok (actions, l')) :
    ∃ made', Balanced first lent made made' (nestingOfAll fs) r actions l' := by
  match fs with
  | [] =>
    obtain ⟨rfl, rfl⟩ := Prod.mk.inj (Except.ok.inj lowered)
    exact ⟨made, .nil h⟩
  | f :: rest =>
    rw [recordedActionsOfAll] at lowered
    rw [nestingOfAll] at room
    split at lowered
    · exact absurd lowered nofun
    · rename_i as l₁ hf
      split at lowered
      · exact absurd lowered nofun
      · rename_i more l₂ hm
        obtain ⟨rfl, rfl⟩ := Prod.mk.inj (Except.ok.inj lowered)
        obtain ⟨between, one⟩ := balanced_recordedActions f positive (by omega) h hf
        obtain ⟨made', others⟩ :=
          balanced_recordedActionsOfAll rest positive (by omega) one.stacked hm
        exact ⟨made', one.append others⟩

theorem balanced_recordedActionsUpTo (fs : List Filter) {first lent made : Nat} {scope : Names}
    {r last : Route} {l l' : PoolLedger} {actions : List Action} (positive : 1 ≤ first)
    (room : first + lent + nestingOfAll fs ≤ UInt32.size) (h : l.Stacked first lent made)
    (own : r.groups ⊆ last.groups)
    (lowered : recordedActionsUpTo scope r last fs l = .ok (actions, l')) :
    ∃ made', Balanced first lent made made' (nestingOfAll fs) last actions l' := by
  match fs with
  | [] =>
    obtain ⟨rfl, rfl⟩ := Prod.mk.inj (Except.ok.inj lowered)
    exact ⟨made, .nil h⟩
  | f :: rest =>
    rw [recordedActionsUpTo] at lowered
    rw [nestingOfAll] at room
    split at lowered
    · obtain ⟨made', balanced⟩ := balanced_recordedActions f positive (by omega) h lowered
      exact ⟨made', balanced.mono (Nat.le_max_left ..) (List.Subset.refl _)⟩
    · split at lowered
      · exact absurd lowered nofun
      · rename_i as l₁ hf
        split at lowered
        · exact absurd lowered nofun
        · rename_i more l₂ hm
          obtain ⟨rfl, rfl⟩ := Prod.mk.inj (Except.ok.inj lowered)
          obtain ⟨between, one⟩ := balanced_recordedActions f positive (by omega) h hf
          obtain ⟨made', others⟩ :=
            balanced_recordedActionsUpTo rest positive (by omega) one.stacked own hm
          exact ⟨made', (one.mono (Nat.le_refl _) own).append others⟩

end

end Doc.Filter

end Groupwise
