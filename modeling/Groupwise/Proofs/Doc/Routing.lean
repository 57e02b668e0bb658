import Groupwise.Doc.Routing
import Groupwise.Proofs.Action
import Groupwise.Proofs.GroupPool
import Groupwise.Proofs.Outcome
import Mathlib.Data.List.Permutation

/-!
# Filters route documents

The actions of a filter lead every document of the target group to the positive group where the
filter holds and to the negative group where it fails, whichever of the three groups coincide. On
the way they move nothing but what is in the target group or in a scratch group, and every scratch
group is given back.
-/
namespace Groupwise.Doc

variable {doc : Document} {evaluate : List String → Int64}
variable {scope : Names} {r last : Route} {pool pool' : GroupPool} {actions : List Action}
variable {groups : List Nat} {group : Nat}

/-- No group of a route is one of the given. -/
structure Avoids (groups : List Nat) (r : Route) : Prop where
  target : r.target ∉ groups
  positive : r.positive ∉ groups
  negative : r.negative ∉ groups

theorem Avoids.swap (h : Avoids groups r) : Avoids groups r.swap :=
  ⟨h.target, h.negative, h.positive⟩

theorem Avoids.toward (h : Avoids groups r) (passed : Bool) : r.toward passed ∉ groups := by
  cases passed
  · exact h.negative
  · exact h.positive

/-- The group that is lent next is none of the route. -/
theorem Avoids.ne (h : Avoids (group :: groups) r) :
    r.target ≠ group ∧ r.positive ≠ group ∧ r.negative ≠ group :=
  ⟨List.ne_of_not_mem_cons h.target, List.ne_of_not_mem_cons h.positive,
    List.ne_of_not_mem_cons h.negative⟩

theorem Avoids.held (h : Avoids (group :: groups) r) : r.target ∉ groups :=
  List.not_mem_of_not_mem_cons h.target

/-- The group that was lent may take the place of a group of the route. -/
theorem Avoids.borrow (h : Avoids (group :: groups) r) {first second : Nat}
    (hf : first ∉ groups) (hs : second ∉ groups) : Avoids groups ⟨r.target, first, second⟩ :=
  ⟨h.held, hf, hs⟩

namespace Filter

/-! ## Nesting -/

mutual

/-- How deep conjunctions and disjunctions are nested in a filter. -/
def nesting : Filter → Nat
  | .and fs => nestingOfAll fs + 1
  | .or fs => nestingOfAll fs + 1
  | .not f => f.nesting
  | .qualified _ f => f.nesting
  | _ => 0

def nestingOfAll : List Filter → Nat
  | [] => 0
  | f :: rest => max f.nesting (nestingOfAll rest)

end

/-! ## Which groups are touched -/

/-- Actions with the pool after them touch only one group and the groups that could be lent, and
these can be lent again. -/
structure Confined (target : Nat) (groups : List Nat) (pool' : GroupPool) (actions : List Action) :
    Prop where
  lends : pool'.Lends groups
  targets : ∀ a ∈ actions, a.route.target = target ∨ a.route.target ∈ groups

namespace Confined

variable {target : Nat} {more : List Action} {pool'' : GroupPool}

theorem nil (lends : pool.Lends groups) : Confined target groups pool [] where
  lends := lends
  targets := by simp

theorem single (lends : pool.Lends groups) {a : Action} (h : a.route.target = target) :
    Confined target groups pool [a] where
  lends := lends
  targets := by simp [h]

theorem append (h : Confined target groups pool' actions)
    (h' : Confined target groups pool'' more) : Confined target groups pool'' (actions ++ more) where
  lends := h'.lends
  targets := List.forall_mem_append.mpr ⟨h.targets, h'.targets⟩

/-- A borrowed group may be emptied before it is given back. -/
theorem scratch (h : Confined target groups pool' actions) (group held moved : Nat) :
    Confined target (group :: groups) (pool'.release group) (actions ++
      [.unconditional scope target held, .unconditional scope group moved]) where
  lends := h.lends.release group
  targets a ha := by
    rcases List.mem_append.mp ha with ha | ha
    · exact (h.targets a ha).imp_right (List.mem_cons_of_mem _)
    · simp only [List.mem_cons, List.not_mem_nil, or_false] at ha
      rcases ha with rfl | rfl
      · exact .inl rfl
      · exact .inr (List.mem_cons_self ..)

/-- What is in none of the touched groups stays where it is. -/
theorem run_eq (h : Confined target groups pool' actions) (hne : group ≠ target)
    (hnot : group ∉ groups) : Action.run doc evaluate actions group = group := by
  refine Action.run_untargeted fun a ha he => ?_
  rcases h.targets a ha with ht | ho
  · exact hne (he.symm.trans ht)
  · exact hnot (he ▸ ho)

end Confined

/-- The action of a leaf has the target group of its route. -/
theorem target_leafAction {f : Filter} {a : Action} (h : f.leafAction scope r = .ok a) :
    a.route.target = r.target := by
  cases f with
  | fieldIs | between | lucene | sampleMetric | regex | sample | stringIn | intIn =>
    simp only [leafAction, bind_eq_ok, pure_eq_ok] at h
    grind [Action.route]
  | compare | fieldEqual =>
    simp only [leafAction, metricAction, bind_eq_ok, pure_eq_ok] at h
    grind [Action.route]
  | _ =>
    simp only [leafAction, Except.ok.injEq] at h
    rw [← h]
    rfl

/-- Whether a filter is lowered to a single action of its own. -/
def isLeaf : Filter → Bool
  | .fieldIsnt .. => false
  | .notRegex .. => false
  | .and _ => false
  | .or _ => false
  | .not _ => false
  | .qualified .. => false
  | _ => true

theorem actions_of_isLeaf {f : Filter} (leaf : f.isLeaf) :
    f.actions scope r pool = .ok (actions, pool') ↔
      pool' = pool ∧ ∃ a, f.leafAction scope r = .ok a ∧ actions = [a] := by
  cases f with
  | fieldIsnt | notRegex | and | or | not | qualified => exact absurd leaf (by simp [isLeaf])
  | _ =>
    simp only [Filter.actions, bind_eq_ok, pure_eq_ok, Prod.mk.injEq]
    grind

theorem confined_leaf {f : Filter} (lends : pool.Lends groups) (leaf : f.isLeaf)
    (h : f.actions scope r pool = .ok (actions, pool')) :
    Confined r.target groups pool' actions := by
  obtain ⟨rfl, a, ha, rfl⟩ := (actions_of_isLeaf leaf).mp h
  exact .single lends (target_leafAction ha)

mutual

/-- Lowering a filter touches its target group and scratch groups only, and gives these back. -/
theorem confined_actions (f : Filter) {scope : Names} {r : Route} {pool pool' : GroupPool}
    {actions : List Action} {groups : List Nat} (lends : pool.Lends groups)
    (room : f.nesting ≤ groups.length) (h : f.actions scope r pool = .ok (actions, pool')) :
    Confined r.target groups pool' actions := by
  match f with
  | .fieldIsnt .. | .notRegex .. =>
    simp only [Filter.actions, bind_eq_ok, pure_eq_ok, Prod.mk.injEq] at h
    obtain ⟨a, ha, rfl, rfl⟩ := h
    have ht := target_leafAction ha
    exact .single lends ht
  | .not f =>
    rw [Filter.actions] at h
    have hf := confined_actions f lends room h
    exact hf
  | .qualified datasets f =>
    simp only [Filter.actions] at h
    split at h
    · exact confined_actions f lends room h
    · simp at h
  | .and fs | .or fs =>
    simp only [Filter.actions] at h
    split at h
    · obtain ⟨rfl, rfl⟩ := Prod.mk.inj (Except.ok.inj h)
      exact .single lends rfl
    split at h
    · exact confined_actionsUpTo fs lends (Nat.le_of_succ_le room) h rfl
    · obtain ⟨scratch, rest, rfl⟩ := List.exists_cons_of_length_pos (Nat.zero_lt_of_lt room)
      obtain ⟨lent, lends⟩ := lends.acquire
      simp only [lent] at h
      split at h
      · simp at h
      · rename_i inner pool₂ hi
        obtain ⟨rfl, rfl⟩ := Prod.mk.inj (Except.ok.inj h)
        exact (confined_actionsOfAll fs lends (Nat.le_of_succ_le_succ room) hi).scratch scratch _ _
  | .fieldIs .. | .between .. | .compare .. | .regex .. | .fieldEqual .. | .lucene ..
  | .sample .. | .sampleMetric .. | .stringIn .. | .intIn .. | .inQuery .. | .always | .never =>
    exact confined_leaf lends rfl h

theorem confined_actionsOfAll (fs : List Filter) {scope : Names} {r : Route}
    {pool pool' : GroupPool} {actions : List Action} {groups : List Nat}
    (lends : pool.Lends groups) (room : nestingOfAll fs ≤ groups.length)
    (h : Filter.actionsOfAll scope r fs pool = .ok (actions, pool')) :
    Confined r.target groups pool' actions := by
  match fs with
  | [] =>
    obtain ⟨rfl, rfl⟩ := Prod.mk.inj (Except.ok.inj h)
    exact .nil lends
  | f :: rest =>
    simp only [Filter.actionsOfAll] at h
    split at h
    · simp at h
    · rename_i first pool₁ hf
      split at h
      · simp at h
      · rename_i more pool₂ hm
        obtain ⟨rfl, rfl⟩ := Prod.mk.inj (Except.ok.inj h)
        have room := Nat.max_le.mp room
        have hfirst := confined_actions f lends room.1 hf
        exact hfirst.append (confined_actionsOfAll rest hfirst.lends room.2 hm)

theorem confined_actionsUpTo (fs : List Filter) {scope : Names} {r last : Route}
    {pool pool' : GroupPool} {actions : List Action} {groups : List Nat}
    (lends : pool.Lends groups) (room : nestingOfAll fs ≤ groups.length)
    (h : Filter.actionsUpTo scope r last fs pool = .ok (actions, pool'))
    (same : r.target = last.target) :
    Confined last.target groups pool' actions := by
  match fs with
  | [] =>
    obtain ⟨rfl, rfl⟩ := Prod.mk.inj (Except.ok.inj h)
    exact .nil lends
  | f :: rest =>
    have room := Nat.max_le.mp room
    simp only [Filter.actionsUpTo] at h
    split at h
    · exact confined_actions f lends room.1 h
    · split at h
      · simp at h
      · rename_i first pool₁ hf
        split at h
        · simp at h
        · rename_i more pool₂ hm
          obtain ⟨rfl, rfl⟩ := Prod.mk.inj (Except.ok.inj h)
          have hfirst := same ▸ confined_actions f lends room.1 hf
          exact hfirst.append (confined_actionsUpTo rest hfirst.lends room.2 hm same)

end

/-! ## What leaves have in common -/

/-- A property of actions in a scope that the action of every leaf has, and that an action keeps in
a wider scope. -/
structure LeafProperty (P : Names → Action → Prop) : Prop where
  leaf : ∀ {scope : Names} {r : Route} {f : Filter} {a : Action},
    f.leafAction scope r = .ok a → P scope a
  widen : ∀ {inner outer : Names} {a : Action}, inner ⊆ outer → P inner a → P outer a

section Leaves

variable {P : Names → Action → Prop}

mutual

/-- All actions of a filter have what the actions of leaves have. -/
theorem forall_actions (holds : LeafProperty P) (f : Filter) {scope : Names} {r : Route}
    {pool pool' : GroupPool} {actions : List Action}
    (h : f.actions scope r pool = .ok (actions, pool')) :
    ∀ a ∈ actions, P scope a := by
  have moves (scope : Names) (target newGroup : Nat) :
      P scope (.unconditional scope target newGroup) :=
    holds.leaf (r := ⟨target, newGroup, newGroup⟩) (f := .always) rfl
  match f with
  | .fieldIsnt .. | .notRegex .. =>
    simp only [Filter.actions, bind_eq_ok, pure_eq_ok, Prod.mk.injEq] at h
    obtain ⟨a, ha, rfl, rfl⟩ := h
    simpa using holds.leaf ha
  | .not f =>
    rw [Filter.actions] at h
    exact forall_actions holds f h
  | .qualified datasets f =>
    simp only [Filter.actions] at h
    split at h
    · rename_i within
      simp only [Names.subset, List.all_eq_true, List.contains_iff_mem] at within
      exact fun a ha => holds.widen within (forall_actions holds f h a ha)
    · simp at h
  | .and fs | .or fs =>
    simp only [Filter.actions] at h
    split at h
    · obtain ⟨rfl, rfl⟩ := Prod.mk.inj (Except.ok.inj h)
      simpa using moves ..
    split at h
    · exact forall_actionsUpTo holds fs h
    · split at h
      · simp at h
      · rename_i inner pool₂ hi
        obtain ⟨rfl, rfl⟩ := Prod.mk.inj (Except.ok.inj h)
        simpa [or_imp, forall_and, moves] using forall_actionsOfAll holds fs hi
  | .fieldIs .. | .between .. | .compare .. | .regex .. | .fieldEqual .. | .lucene ..
  | .sample .. | .sampleMetric .. | .stringIn .. | .intIn .. | .inQuery .. | .always | .never =>
    obtain ⟨-, a, ha, rfl⟩ := (actions_of_isLeaf rfl).mp h
    simpa using holds.leaf ha

theorem forall_actionsOfAll (holds : LeafProperty P) (fs : List Filter) {scope : Names} {r : Route}
    {pool pool' : GroupPool} {actions : List Action}
    (h : Filter.actionsOfAll scope r fs pool = .ok (actions, pool')) : ∀ a ∈ actions, P scope a := by
  match fs with
  | [] =>
    obtain ⟨rfl, rfl⟩ := Prod.mk.inj (Except.ok.inj h)
    exact nofun
  | f :: rest =>
    simp only [Filter.actionsOfAll] at h
    split at h
    · simp at h
    · rename_i first pool₁ hf
      split at h
      · simp at h
      · rename_i more pool₂ hm
        obtain ⟨rfl, rfl⟩ := Prod.mk.inj (Except.ok.inj h)
        exact List.forall_mem_append.mpr
          ⟨forall_actions holds f hf, forall_actionsOfAll holds rest hm⟩

theorem forall_actionsUpTo (holds : LeafProperty P) (fs : List Filter) {scope : Names}
    {r last : Route} {pool pool' : GroupPool} {actions : List Action}
    (h : Filter.actionsUpTo scope r last fs pool = .ok (actions, pool')) :
    ∀ a ∈ actions, P scope a := by
  match fs with
  | [] =>
    obtain ⟨rfl, rfl⟩ := Prod.mk.inj (Except.ok.inj h)
    exact nofun
  | f :: rest =>
    simp only [Filter.actionsUpTo] at h
    split at h
    · exact forall_actions holds f h
    · split at h
      · simp at h
      · rename_i first pool₁ hf
        split at h
        · simp at h
        · rename_i more pool₂ hm
          obtain ⟨rfl, rfl⟩ := Prod.mk.inj (Except.ok.inj h)
          exact List.forall_mem_append.mpr
            ⟨forall_actions holds f hf, forall_actionsUpTo holds rest hm⟩

end

end Leaves

/-! ## Where documents end -/

mutual

/-- Whether no dataset is named: neither by the filter or an operand of it, nor by a metric that is
compared. -/
def unqualified : Filter → Bool
  | .qualified .. => false
  | .compare _ l r => l.qualifiedNames.isEmpty && r.qualifiedNames.isEmpty
  | .and fs => allUnqualified fs
  | .or fs => allUnqualified fs
  | .not f => f.unqualified
  | _ => true

def allUnqualified : List Filter → Bool
  | [] => true
  | f :: rest => f.unqualified && allUnqualified rest

end

mutual

/-- The metrics whose programs the actions of a filter evaluate. -/
def measured : Filter → List Metric
  | .compare op l r => [.compare op l r]
  | .fieldEqual l r => [.fieldEqual l r]
  | .sampleMetric m _ _ _ => [m]
  | .and fs => measuredByAll fs
  | .or fs => measuredByAll fs
  | .not f => f.measured
  | .qualified _ f => f.measured
  | _ => []

def measuredByAll : List Filter → List Metric
  | [] => []
  | f :: rest => f.measured ++ measuredByAll rest

end

/-- Programs of some metrics come to the values of the metrics. -/
def Evaluates (doc : Document) (evaluate : List String → Int64) (ms : List Metric) : Prop :=
  ∀ m ∈ ms, ∀ program, m.pushes doc.dataset = .ok program → evaluate program = m.value doc

theorem bit_beq_one (b : Bool) : (bit b == 1) = b := by cases b <;> rfl

/-- The metric action of a truth metric tests whether the filter holds. -/
theorem accepts_metricAction {f : Filter} {m : Metric} {a : Action}
    (inScope : doc.dataset ∈ scope) (truth : f.truth doc.dataset = .ok m)
    (evaluates : Evaluates doc evaluate [m]) (value : m.value doc = bit (f.holds doc))
    (h : f.metricAction scope r = .ok a) :
    a.scope = scope ∧ a.route = r ∧ a.accepts doc evaluate = f.holds doc := by
  simp only [metricAction, bind_eq_ok, pure_eq_ok] at h
  obtain ⟨programs, hp, rfl⟩ := h
  obtain ⟨program, hprogram, hfind⟩ := Dictionary.find?_of_collect hp inScope
  simp only [Filter.pushes, truth, bind_eq_ok, Except.ok.injEq, exists_eq_left'] at hprogram
  refine ⟨rfl, rfl, ?_⟩
  rw [Action.accepts, Action.measured, hfind, Option.getD_some,
    evaluates m (List.mem_singleton_self m) program hprogram, value, bit_beq_one]

theorem comparisonScope_unqualified {left right : Metric} {datasets : Names}
    (h : comparisonScope scope left right = .ok datasets)
    (hl : left.qualifiedNames = []) (hr : right.qualifiedNames = []) : datasets = scope := by
  simp only [comparisonScope, Metric.qualifications, hl, hr] at h
  exact (Except.ok.inj h).symm

/-- The action of a leaf leads a document of its target group where the filter says. -/
theorem leafAction_accepts {f : Filter} {a : Action} (leaf : f.isLeaf) (plain : f.unqualified)
    (inScope : doc.dataset ∈ scope) (evaluates : Evaluates doc evaluate f.measured)
    (h : f.leafAction scope r = .ok a) :
    a.scope = scope ∧ a.route.toward (a.accepts doc evaluate) = r.toward (f.holds doc) := by
  cases f with
  | fieldIsnt | notRegex | and | or | not | qualified => exact absurd leaf (by simp [isLeaf])
  | fieldIs field term =>
    simp only [leafAction, bind_eq_ok, pure_eq_ok] at h
    obtain ⟨_, _, queries, hq, rfl⟩ := h
    obtain ⟨q, hname, hfind⟩ := Dictionary.find?_of_collect hq inScope
    simp only [bind_eq_ok, pure_eq_ok] at hname
    obtain ⟨name, hn, rfl⟩ := hname
    refine ⟨rfl, ?_⟩
    rw [Action.accepts, Action.route, Document.selectedBy_of_find hfind, Query.holds,
      Document.hasTerm_ofTerm, holds, Document.name_eq hn]
  | between field lower upper inclusive =>
    simp only [leafAction, bind_eq_ok, pure_eq_ok] at h
    obtain ⟨_, _, queries, hq, rfl⟩ := h
    obtain ⟨q, hname, hfind⟩ := Dictionary.find?_of_collect hq inScope
    simp only [bind_eq_ok, pure_eq_ok] at hname
    obtain ⟨name, hn, rfl⟩ := hname
    refine ⟨rfl, ?_⟩
    rw [Action.accepts, Action.route, Document.selectedBy_of_find hfind, holds, Document.int,
      Document.name_eq hn]
    rfl
  | compare op left right =>
    simp only [unqualified, Bool.and_eq_true, List.isEmpty_iff] at plain
    obtain ⟨datasets, hd, ha⟩ := bind_eq_ok.mp h
    obtain rfl := comparisonScope_unqualified hd plain.1 plain.2
    obtain ⟨hs, hr, haccept⟩ := accepts_metricAction inScope rfl evaluates rfl ha
    exact ⟨hs, by rw [hr, haccept]⟩
  | fieldEqual left right =>
    obtain ⟨hs, hr, haccept⟩ := accepts_metricAction inScope rfl evaluates rfl h
    exact ⟨hs, by rw [hr, haccept]⟩
  | lucene text queries =>
    simp only [leafAction, bind_eq_ok, pure_eq_ok] at h
    obtain ⟨given, hq, rfl⟩ := h
    obtain ⟨q, hgiven, hfind⟩ := Dictionary.find?_of_collect hq inScope
    refine ⟨rfl, ?_⟩
    have hq : Dictionary.find? doc.dataset queries = some q := by
      split at hgiven
      · rename_i found hf
        rw [hf, Except.ok.inj hgiven]
      · simp at hgiven
    rw [Action.accepts, Action.route, Document.selectedBy_of_find hfind, holds,
      Document.selectedBy_of_find hq]
  | sampleMetric m n d seed =>
    simp only [leafAction, bind_eq_ok, pure_eq_ok] at h
    obtain ⟨programs, hp, rfl⟩ := h
    obtain ⟨program, hprogram, hfind⟩ := Dictionary.find?_of_collect hp inScope
    refine ⟨rfl, ?_⟩
    rw [Action.accepts, Action.route, Action.measured, hfind, Option.getD_some,
      evaluates m (List.mem_singleton_self m) program hprogram]
    rfl
  | regex | sample | stringIn | intIn =>
    simp only [leafAction, bind_eq_ok, pure_eq_ok] at h
    obtain ⟨_, _, rfl⟩ := h
    exact ⟨rfl, rfl⟩
  | inQuery | always | never =>
    obtain rfl := Except.ok.inj h
    exact ⟨rfl, rfl⟩

theorem run_leafAction {f : Filter} {a : Action} (leaf : f.isLeaf) (plain : f.unqualified)
    (inScope : doc.dataset ∈ scope) (evaluates : Evaluates doc evaluate f.measured)
    (h : f.leafAction scope r = .ok a) :
    Action.run doc evaluate [a] r.target = r.toward (f.holds doc) := by
  obtain ⟨hs, hgoal⟩ := leafAction_accepts leaf plain inScope evaluates h
  rw [Action.run_cons, Action.run_nil, ← target_leafAction h, Action.move_target (hs ▸ inScope),
    hgoal]

theorem run_leaf {f : Filter} (leaf : f.isLeaf) (plain : f.unqualified)
    (inScope : doc.dataset ∈ scope) (evaluates : Evaluates doc evaluate f.measured)
    (h : f.actions scope r pool = .ok (actions, pool')) :
    Action.run doc evaluate actions r.target = r.toward (f.holds doc) := by
  obtain ⟨rfl, a, ha, rfl⟩ := (actions_of_isLeaf leaf).mp h
  exact run_leafAction leaf plain inScope evaluates ha

theorem all_holds_beq_true (doc : Document) (fs : List Filter) :
    fs.all (·.holds doc == true) = holdAll doc fs := by
  simp only [beq_true, holdAll_eq_all]

theorem all_holds_beq_false (doc : Document) (fs : List Filter) :
    fs.all (·.holds doc == false) = !holdSome doc fs := by
  simp only [beq_false, holdSome_eq_any, List.not_any_eq_all_not]

/-- The last two actions of a combination take the documents that were kept and those that were set
aside where they belong. -/
theorem run_settle {scratch held moved : Nat} (inScope : doc.dataset ∈ scope)
    (hs : r.target ≠ scratch) (hh : held ≠ scratch) (kept : Bool) :
    Action.run doc evaluate [.unconditional scope r.target held,
      .unconditional scope scratch moved] (if kept then r.target else scratch) =
      if kept then held else moved := by
  rw [Action.run_cons, Action.run_cons, Action.run_nil, Action.move_unconditional inScope,
    Action.move_unconditional inScope]
  cases kept <;> simp [hs.symm, hh]

mutual

/-- The actions of a filter lead a document of the target group where the filter says. -/
theorem run_actions_target (f : Filter) {scope : Names} {r : Route} {pool pool' : GroupPool}
    {actions : List Action} {groups : List Nat} (plain : f.unqualified)
    (inScope : doc.dataset ∈ scope) (evaluates : Evaluates doc evaluate f.measured)
    (lends : pool.Lends groups) (apart : groups.Nodup) (room : f.nesting ≤ groups.length)
    (avoids : Avoids groups r) (h : f.actions scope r pool = .ok (actions, pool')) :
    Action.run doc evaluate actions r.target = r.toward (f.holds doc) := by
  match f with
  | .fieldIsnt .. | .notRegex .. =>
    simp only [Filter.actions, bind_eq_ok, pure_eq_ok, Prod.mk.injEq] at h
    obtain ⟨a, ha, rfl, rfl⟩ := h
    exact (run_leafAction rfl rfl inScope (by simp [measured, Evaluates]) ha).trans
      (r.toward_swap _)
  | .not f =>
    rw [Filter.actions] at h
    exact (run_actions_target f plain inScope evaluates lends apart room avoids.swap h).trans
      (r.toward_swap _)
  | .qualified datasets f => exact absurd plain (by simp [unqualified])
  | .and fs =>
    simp only [Filter.actions] at h
    rw [holds, ← all_holds_beq_true]
    split at h
    · rename_i empty
      obtain ⟨rfl, rfl⟩ := Prod.mk.inj (Except.ok.inj h)
      rw [List.isEmpty_iff.mp empty, Action.run_cons, Action.run_nil,
        Action.move_unconditional inScope, if_pos rfl]
      rfl
    rename_i some
    have some := mt List.isEmpty_iff.mpr some
    split at h
    · rename_i distinct
      simp only [Bool.and_eq_true, bne_iff_ne] at distinct
      rw [run_actionsUpTo fs plain inScope evaluates lends apart (Nat.le_of_succ_le room) h
        ⟨avoids.target, avoids.target, avoids.negative⟩ avoids true rfl rfl rfl
        distinct.1.symm some]
      grind
    · obtain ⟨scratch, rest, rfl⟩ := List.exists_cons_of_length_pos (Nat.zero_lt_of_lt room)
      obtain ⟨lent, lends⟩ := lends.acquire
      simp only [lent] at h
      split at h
      · simp at h
      · rename_i inner pool₂ hi
        obtain ⟨rfl, rfl⟩ := Prod.mk.inj (Except.ok.inj h)
        have apart := List.nodup_cons.mp apart
        have hne := avoids.ne
        have hall : Action.run doc evaluate inner r.target =
            if fs.all (·.holds doc == true) then r.target else scratch :=
          run_actionsOfAll fs plain inScope evaluates lends apart.2 (Nat.le_of_succ_le_succ room)
            (avoids.borrow avoids.held apart.1) true rfl hne.1.symm hi
        rw [Action.run_append, hall, run_settle inScope hne.1 hne.2.1]
        rfl
  | .or fs =>
    simp only [Filter.actions] at h
    rw [holds, ← Bool.not_not (holdSome doc fs), ← all_holds_beq_false]
    split at h
    · rename_i empty
      obtain ⟨rfl, rfl⟩ := Prod.mk.inj (Except.ok.inj h)
      rw [List.isEmpty_iff.mp empty, Action.run_cons, Action.run_nil,
        Action.move_unconditional inScope, if_pos rfl]
      rfl
    rename_i some
    have some := mt List.isEmpty_iff.mpr some
    split at h
    · rename_i distinct
      simp only [Bool.and_eq_true, bne_iff_ne] at distinct
      rw [run_actionsUpTo fs plain inScope evaluates lends apart (Nat.le_of_succ_le room) h
        ⟨avoids.target, avoids.positive, avoids.target⟩ avoids false rfl rfl rfl
        distinct.1.symm some]
      grind
    · obtain ⟨scratch, rest, rfl⟩ := List.exists_cons_of_length_pos (Nat.zero_lt_of_lt room)
      obtain ⟨lent, lends⟩ := lends.acquire
      simp only [lent] at h
      split at h
      · simp at h
      · rename_i inner pool₂ hi
        obtain ⟨rfl, rfl⟩ := Prod.mk.inj (Except.ok.inj h)
        have apart := List.nodup_cons.mp apart
        have hne := avoids.ne
        have hall : Action.run doc evaluate inner r.target =
            if fs.all (·.holds doc == false) then r.target else scratch :=
          run_actionsOfAll fs plain inScope evaluates lends apart.2 (Nat.le_of_succ_le_succ room)
            (avoids.borrow apart.1 avoids.held) false rfl hne.1.symm hi
        rw [Action.run_append, hall, run_settle inScope hne.1 hne.2.2]
        grind [Route.toward]
  | .fieldIs .. | .between .. | .compare .. | .regex .. | .fieldEqual .. | .lucene ..
  | .sample .. | .sampleMetric .. | .stringIn .. | .intIn .. | .inQuery .. | .always | .never =>
    exact run_leaf rfl plain inScope evaluates h

/-- Filters along one route keep a document in the target group as long as each of them says `keep`,
and lead it out otherwise. -/
theorem run_actionsOfAll (fs : List Filter) {scope : Names} {r : Route} {pool pool' : GroupPool}
    {actions : List Action} {groups : List Nat} (plain : allUnqualified fs)
    (inScope : doc.dataset ∈ scope) (evaluates : Evaluates doc evaluate (measuredByAll fs))
    (lends : pool.Lends groups) (apart : groups.Nodup) (room : nestingOfAll fs ≤ groups.length)
    (avoids : Avoids groups r) (keep : Bool) (stay : r.toward keep = r.target)
    (leave : r.toward (!keep) ≠ r.target)
    (h : Filter.actionsOfAll scope r fs pool = .ok (actions, pool')) :
    Action.run doc evaluate actions r.target =
      if fs.all (·.holds doc == keep) then r.target else r.toward (!keep) := by
  match fs with
  | [] =>
    obtain ⟨rfl, rfl⟩ := Prod.mk.inj (Except.ok.inj h)
    rfl
  | f :: rest =>
    simp only [Filter.actionsOfAll] at h
    split at h
    · simp at h
    · rename_i first pool₁ hf
      split at h
      · simp at h
      · rename_i more pool₂ hm
        obtain ⟨rfl, rfl⟩ := Prod.mk.inj (Except.ok.inj h)
        simp only [allUnqualified, Bool.and_eq_true] at plain
        have room := Nat.max_le.mp room
        have hc := confined_actions f lends room.1 hf
        have hfirst := run_actions_target f plain.1 inScope
          (fun m hm => evaluates m (List.mem_append_left _ hm)) lends apart room.1 avoids hf
        have hrest := run_actionsOfAll rest plain.2 inScope
          (fun m hm => evaluates m (List.mem_append_right _ hm)) hc.lends apart room.2 avoids keep
          stay leave hm
        rw [Action.run_append, hfirst, List.all_cons]
        by_cases hk : f.holds doc = keep
        · rw [hk, stay, hrest, beq_self_eq_true, Bool.true_and]
        · have hout : f.holds doc = !keep := by grind
          have hmore := confined_actionsOfAll rest hc.lends room.2 hm
          rw [hout, hmore.run_eq leave (avoids.toward _)]
          simp

/-- The same with a route of its own for the last filter, which is the place for the documents that
were kept. -/
theorem run_actionsUpTo (fs : List Filter) {scope : Names} {r last : Route}
    {pool pool' : GroupPool} {actions : List Action} {groups : List Nat}
    (plain : allUnqualified fs) (inScope : doc.dataset ∈ scope)
    (evaluates : Evaluates doc evaluate (measuredByAll fs)) (lends : pool.Lends groups)
    (apart : groups.Nodup) (room : nestingOfAll fs ≤ groups.length)
    (h : Filter.actionsUpTo scope r last fs pool = .ok (actions, pool'))
    (avoids : Avoids groups r) (avoids' : Avoids groups last) (keep : Bool)
    (same : r.target = last.target) (stay : r.toward keep = r.target)
    (exits : r.toward (!keep) = last.toward (!keep)) (leave : r.toward (!keep) ≠ r.target)
    (some : fs ≠ []) :
    Action.run doc evaluate actions last.target =
      last.toward (if fs.all (·.holds doc == keep) then keep else !keep) := by
  match fs with
  | [] => exact absurd rfl some
  | f :: rest =>
    have room := Nat.max_le.mp room
    simp only [allUnqualified, Bool.and_eq_true] at plain
    simp only [Filter.actionsUpTo] at h
    split at h
    · rename_i single
      obtain rfl := List.isEmpty_iff.mp single
      rw [run_actions_target f plain.1 inScope
        (fun m hm => evaluates m (List.mem_append_left _ hm)) lends apart room.1 avoids' h,
        List.all_cons, List.all_nil, Bool.and_true]
      cases f.holds doc <;> cases keep <;> rfl
    · rename_i several
      split at h
      · simp at h
      · rename_i first pool₁ hf
        split at h
        · simp at h
        · rename_i more pool₂ hm
          obtain ⟨rfl, rfl⟩ := Prod.mk.inj (Except.ok.inj h)
          have hc := confined_actions f lends room.1 hf
          have hfirst := run_actions_target f plain.1 inScope
            (fun m hm => evaluates m (List.mem_append_left _ hm)) lends apart room.1 avoids hf
          have hrest := run_actionsUpTo rest plain.2 inScope
            (fun m hm => evaluates m (List.mem_append_right _ hm)) hc.lends apart room.2 hm
            avoids avoids' keep same stay exits leave (mt List.isEmpty_iff.mpr several)
          rw [Action.run_append, ← same, hfirst, List.all_cons]
          by_cases hk : f.holds doc = keep
          · rw [hk, stay, same, hrest, beq_self_eq_true, Bool.true_and]
          · have hout : f.holds doc = !keep := by grind
            have hmore := confined_actionsUpTo rest hc.lends room.2 hm same
            rw [hout, hmore.run_eq (same ▸ leave) (avoids.toward _), exits]
            simp

end

/-- With a pool that lends no group twice and has a group for every level of conjunctions and
disjunctions, running the actions of a filter takes a document from the target group to the positive
group where the filter holds and to the negative one where it fails, and leaves alone what is
neither in the target group nor in a group that the pool can lend. -/
theorem actions_route_documents {f : Filter} (plain : f.unqualified)
    (inScope : doc.dataset ∈ scope) (evaluates : Evaluates doc evaluate f.measured)
    (sound : pool.Sound) (room : f.nesting ≤ pool.supply.length) (avoids : Avoids pool.supply r)
    (h : f.actions scope r pool = .ok (actions, pool')) :
    Action.run doc evaluate actions r.target =
        (if f.holds doc then r.positive else r.negative) ∧
      ∀ (other : Document) (evaluate' : List String → Int64) (group : Nat),
        group ≠ r.target → group ∉ pool.supply →
          Action.run other evaluate' actions group = group :=
  ⟨run_actions_target f plain inScope evaluates pool.lends_supply sound room avoids h,
    fun _ _ _ hne hnot => (confined_actions f pool.lends_supply room h).run_eq hne hnot⟩

/-- A conjunction of combinations with the target group as its negative group, and a pool that has
lent two groups and was given back the first. -/
theorem actions_route_documents_nested :
    let clicks : FieldSet := .single "ads" "clicks"
    let f : Filter := .and [.or [.fieldIs clicks (.ofInt 3), .compare .gt (.field clicks)
      (.constant 5)], .not (.or [.intIn clicks [7], .not (.and [])])]
    let pool := (GroupPool.startingAt 4).acquire.2.acquire.2.release 4
    ∃ actions pool', f.actions ["ads"] ⟨1, 0, 1⟩ pool = .ok (actions, pool') ∧
      Action.run (.uniform "ads" false 9) (fun _ => 1) actions 1 = 0 := by
  intro clicks f pool
  have reached : pool.Reached [5] :=
    (((GroupPool.Reached.start (by decide)).acquire (by decide)).acquire (by decide)).release
      (by decide)
  have lowered : ∃ actions, f.actions ["ads"] ⟨1, 0, 1⟩ ⟨6, [4], 1, 5⟩ =
      .ok (actions, ⟨7, [4, 6], 1, 6⟩) := ⟨_, by cbv⟩
  obtain ⟨actions, h⟩ := lowered
  have inScope : (Document.uniform "ads" false 9).dataset ∈ ["ads"] := List.mem_singleton_self _
  refine ⟨actions, _, h, ?_⟩
  refine (actions_route_documents rfl inScope (fun m hm program _ => ?_) reached.sound ?_
    ⟨?_, ?_, ?_⟩ h).1
  · obtain rfl := List.mem_singleton.mp hm
    rfl
  · rw [GroupPool.length_supply]
    decide
  all_goals
    rw [GroupPool.mem_supply]
    decide

/-- A group that is lent twice leads documents astray. The first pool was given back a group that it
had not lent, which is its third group again: the document ends in the negative group of a
disjunction that holds. The second pool has one word left, and its count goes on at zero: a document
that waits in that group is taken to the negative group. -/
theorem actions_lead_astray :
    let doc : Document := .uniform "ads" false 9
    let f : Filter := .or [.always, .and [.or [.never], .never]]
    let g : Filter := .or [.and [.always]]
    let given := (GroupPool.startingAt 10).acquire.2.release 12
    let last := GroupPool.startingAt 4294967295
    (Avoids given.supply ⟨1, 1, 0⟩ ∧ ∃ actions pool',
      f.actions ["ads"] ⟨1, 1, 0⟩ given = .ok (actions, pool') ∧ f.holds doc = true ∧
        Action.run doc (fun _ => 0) actions 1 = 0) ∧
    Avoids last.supply ⟨1, 1, 2⟩ ∧ 0 ∉ last.supply ∧ ∃ actions pool',
      g.actions ["ads"] ⟨1, 1, 2⟩ last = .ok (actions, pool') ∧
        Action.run doc (fun _ => 0) actions 0 = 2 := by
  intro doc f g given last
  refine ⟨⟨⟨?_, ?_, ?_⟩, _, _, by cbv, rfl, by cbv⟩, ⟨?_, ?_, ?_⟩, ?_, _, _, by cbv, by cbv⟩
  all_goals
    rw [GroupPool.mem_supply]
    decide

end Filter

end Groupwise.Doc
