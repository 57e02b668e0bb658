import Groupwise.Proofs.Doc.Pushes
import Groupwise.Proofs.Doc.Routing
import Groupwise.Proofs.Doc.Truth
import Groupwise.Proofs.Names

/-!
# Filters that name datasets

The actions of a filter that names datasets leave the documents of all other datasets where they
are, while its truth metric is one on them. Staying counts as holding where the documents on which
the filter holds stay in the target group, and as failing where those stay on which it fails: which
of the two it is changes with every negation, and inside a conjunction the former are kept, inside a
disjunction the latter. So the actions and the truth metric agree on a document if every part that
names other datasets only stands where staying counts as holding.
-/
namespace Groupwise.Doc

variable {doc : Document} {evaluate : List String → Int64}
variable {scope : Names} {r : Route} {pool pool' : GroupPool} {actions : List Action}

namespace Filter

/-! ## Datasets that are not moved -/

theorem subset_comparisonScope {left right : Metric} {datasets : Names}
    (h : comparisonScope scope left right = .ok datasets) : datasets ⊆ scope := by
  simp only [comparisonScope] at h
  split at h
  · simp at h
  split at h
  · simp at h
  · rename_i within
    obtain rfl := Except.ok.inj h
    split
    · exact List.Subset.refl _
    · intro d hd
      simp only [Bool.not_eq_true', Bool.not_eq_false, Names.subset, List.all_eq_true,
        List.contains_iff_mem] at within
      exact within d hd

/-- The action of a leaf moves documents of its scope only. -/
theorem scope_leafAction {f : Filter} {a : Action} (h : f.leafAction scope r = .ok a) :
    a.scope ⊆ scope := by
  cases f with
  | compare op left right =>
    obtain ⟨datasets, hd, ha⟩ := bind_eq_ok.mp h
    simp only [metricAction, bind_eq_ok, pure_eq_ok] at ha
    obtain ⟨programs, -, rfl⟩ := ha
    exact subset_comparisonScope hd
  | fieldEqual =>
    simp only [leafAction, metricAction, bind_eq_ok, pure_eq_ok] at h
    obtain ⟨programs, -, rfl⟩ := h
    exact List.Subset.refl _
  | fieldIs | between | lucene | sampleMetric | regex | sample | stringIn | intIn =>
    simp only [leafAction, bind_eq_ok, pure_eq_ok] at h
    grind [Action.scope, List.Subset.refl]
  | _ =>
    obtain rfl := Except.ok.inj h
    exact List.Subset.refl _

/-- Actions move documents of some datasets only. -/
def Within (scope : Names) (actions : List Action) : Prop := ∀ a ∈ actions, a.scope ⊆ scope

theorem Within.run_eq (h : Within scope actions) (outside : doc.dataset ∉ scope) (group : Nat) :
    Action.run doc evaluate actions group = group := by
  induction actions with
  | nil => rfl
  | cons a rest ih =>
    have unlisted : doc.dataset ∉ a.scope := fun ha => outside (h a (List.mem_cons_self ..) ha)
    rw [Action.run_cons, Action.move, if_neg (by simp [unlisted])]
    exact ih fun b hb => h b (List.mem_cons_of_mem _ hb)

/-- A filter is lowered to actions on its scope. -/
theorem within_actions {f : Filter} (h : f.actions scope r pool = .ok (actions, pool')) :
    Within scope actions :=
  forall_actions ⟨scope_leafAction, fun inside here => List.Subset.trans here inside⟩ f h

/-- A route of its own for the last filter makes no difference if it is that of the others. -/
theorem actionsUpTo_self (scope : Names) (r : Route) (fs : List Filter) (pool : GroupPool) :
    Filter.actionsUpTo scope r r fs pool = Filter.actionsOfAll scope r fs pool := by
  induction fs generalizing pool with
  | nil => rfl
  | cons f rest ih =>
    simp only [Filter.actionsUpTo, Filter.actionsOfAll, ih]
    split
    · rename_i single
      obtain rfl := List.isEmpty_iff.mp single
      cases f.actions scope r pool with
      | error e => rfl
      | ok result => simp [Filter.actionsOfAll]
    · rfl

/-! ## What staying counts as -/

/-- Whether a comparison is made on the documents of a dataset: its metrics name no other one. -/
def comparesIn (dataset : String) (left right : Metric) : Bool :=
  (left.qualifiedNames ++ right.qualifiedNames).all (· == dataset)

mutual

/-- What the actions of a filter take a document for: one on which the filter holds or one on which
it fails. A document that they leave alone is taken for the kind that stays in the target group,
which is the second argument. -/
def keeps (doc : Document) : Filter → Bool → Bool
  | .compare op l r, staying =>
    if comparesIn doc.dataset l r then op.holds (l.value doc) (r.value doc) else staying
  | .and fs, _ => keepsAll doc fs
  | .or fs, _ => keepsSome doc fs
  | .not f, staying => !f.keeps doc (!staying)
  | .qualified datasets f, staying =>
    if datasets.contains doc.dataset then f.keeps doc staying else staying
  | f, _ => f.holds doc

/-- A conjunction keeps in the target group what none of its operands leads out. -/
def keepsAll (doc : Document) : List Filter → Bool
  | [] => true
  | f :: rest => f.keeps doc true && keepsAll doc rest

/-- A disjunction keeps in the target group what none of its operands leads out. -/
def keepsSome (doc : Document) : List Filter → Bool
  | [] => false
  | f :: rest => f.keeps doc false || keepsSome doc rest

end

mutual

/-- Whether each part that names other datasets than the given one stands where staying counts as
holding, and each comparison is made in the dataset. -/
def settled (dataset : String) : Filter → Bool → Bool
  | .compare _ l r, _ => comparesIn dataset l r
  | .and fs, _ => allSettled dataset fs true
  | .or fs, _ => allSettled dataset fs false
  | .not f, staying => f.settled dataset (!staying)
  | .qualified datasets f, staying =>
    if datasets.contains dataset then f.settled dataset staying else staying
  | _, _ => true

def allSettled (dataset : String) : List Filter → Bool → Bool
  | [], _ => true
  | f :: rest, staying => f.settled dataset staying && allSettled dataset rest staying

end

theorem keepsAll_eq_all (doc : Document) (fs : List Filter) :
    keepsAll doc fs = fs.all (·.keeps doc true) := by
  induction fs with
  | nil => rfl
  | cons f fs ih => rw [keepsAll, ih, List.all_cons]

theorem keepsSome_eq_any (doc : Document) (fs : List Filter) :
    keepsSome doc fs = fs.any (·.keeps doc false) := by
  induction fs with
  | nil => rfl
  | cons f fs ih => rw [keepsSome, ih, List.any_cons]

mutual

/-- Where the parts that name other datasets are in place, the actions take a document for what it
is. -/
theorem keeps_of_settled (f : Filter) (staying : Bool) (h : f.settled doc.dataset staying) :
    f.keeps doc staying = f.holds doc := by
  match f with
  | .compare op l r =>
    rw [settled] at h
    rw [keeps, if_pos h, holds]
  | .and fs =>
    rw [settled] at h
    rw [keeps, holds, keepsAll_of_settled fs h]
  | .or fs =>
    rw [settled] at h
    rw [keeps, holds, keepsSome_of_settled fs h]
  | .not f =>
    rw [settled] at h
    rw [keeps, holds, keeps_of_settled f (!staying) h]
  | .qualified datasets f =>
    rw [settled] at h
    rw [keeps, holds]
    cases listed : datasets.contains doc.dataset with
    | true =>
      rw [listed, if_pos rfl] at h
      rw [if_pos rfl, keeps_of_settled f staying h]
      rfl
    | false =>
      rw [listed, if_neg Bool.false_ne_true] at h
      rw [if_neg Bool.false_ne_true, h]
      rfl
  | .fieldIs .. | .fieldIsnt .. | .between .. | .regex .. | .notRegex .. | .fieldEqual ..
  | .lucene .. | .sample .. | .sampleMetric .. | .stringIn .. | .intIn .. | .inQuery ..
  | .always | .never => rfl

theorem keepsAll_of_settled (fs : List Filter) (h : allSettled doc.dataset fs true) :
    keepsAll doc fs = holdAll doc fs := by
  match fs with
  | [] => rfl
  | f :: rest =>
    simp only [allSettled, Bool.and_eq_true] at h
    rw [keepsAll, holdAll, keeps_of_settled f true h.1, keepsAll_of_settled rest h.2]

theorem keepsSome_of_settled (fs : List Filter) (h : allSettled doc.dataset fs false) :
    keepsSome doc fs = holdSome doc fs := by
  match fs with
  | [] => rfl
  | f :: rest =>
    simp only [allSettled, Bool.and_eq_true] at h
    rw [keepsSome, holdSome, keeps_of_settled f false h.1, keepsSome_of_settled rest h.2]

end

/-! ## Where documents end -/

/-- The documents that a comparison moves are those of the dataset that its metrics name. -/
theorem mem_comparisonScope {left right : Metric} {datasets : Names} (inScope : doc.dataset ∈ scope)
    (h : comparisonScope scope left right = .ok datasets) :
    doc.dataset ∈ datasets ↔ comparesIn doc.dataset left right := by
  have mem (d : String) : d ∈ left.qualifications.union right.qualifications ↔
      d ∈ left.qualifiedNames ++ right.qualifiedNames := by
    rw [Names.mem_union, Metric.qualifications, Metric.qualifications, Names.mem_ofList,
      Names.mem_ofList, List.mem_append]
  simp only [comparisonScope] at h
  split at h
  · simp at h
  rename_i few
  split at h
  · simp at h
  obtain rfl := Except.ok.inj h
  rw [comparesIn, List.all_eq_true]
  simp only [← mem, beq_iff_eq]
  rcases named : left.qualifications.union right.qualifications with _ | ⟨d, _ | ⟨e, rest⟩⟩
  · simpa using inScope
  · simp [eq_comm]
  · simp [named] at few

/-- The action of a leaf leads a document of the target group to the place of what it is taken
for. -/
theorem run_leafAction_keeps {f : Filter} {a : Action} (leaf : f.isLeaf)
    (inScope : doc.dataset ∈ scope) (evaluates : Evaluates doc evaluate f.measured)
    {staying : Bool} (stay : r.toward staying = r.target) (h : f.leafAction scope r = .ok a) :
    Action.run doc evaluate [a] r.target = r.toward (f.keeps doc staying) := by
  cases f with
  | compare op left right =>
    obtain ⟨datasets, hd, ha⟩ := bind_eq_ok.mp h
    have listed := mem_comparisonScope inScope hd
    rw [keeps]
    split
    · rename_i compared
      obtain ⟨hs, hr, haccept⟩ :=
        accepts_metricAction (listed.mpr compared) rfl evaluates rfl ha
      rw [Action.run_cons, Action.run_nil, ← target_leafAction h,
        Action.move_target (hs ▸ listed.mpr compared), hr, haccept, holds]
    · rename_i elsewhere
      simp only [metricAction, bind_eq_ok, pure_eq_ok] at ha
      obtain ⟨programs, -, rfl⟩ := ha
      rw [stay, Action.run_cons, Action.run_nil, Action.move,
        if_neg (by simp [Action.scope, mt listed.mp elsewhere])]
  | fieldIsnt | notRegex | and | or | not | qualified => exact absurd leaf (by simp [isLeaf])
  | _ => exact run_leafAction leaf rfl inScope evaluates h

mutual

/-- The actions of a filter lead a document of the target group to the place of what they take it
for, where that group is the place of what is left alone. -/
theorem run_actions_keeps (f : Filter) {scope : Names} {r : Route} {pool pool' : GroupPool}
    {actions : List Action} {groups : List Nat} (inScope : doc.dataset ∈ scope)
    (evaluates : Evaluates doc evaluate f.measured) (lends : pool.Lends groups)
    (apart : groups.Nodup) (room : f.nesting ≤ groups.length) (avoids : Avoids groups r)
    (staying : Bool) (stay : r.toward staying = r.target) (leave : r.toward (!staying) ≠ r.target)
    (h : f.actions scope r pool = .ok (actions, pool')) :
    Action.run doc evaluate actions r.target = r.toward (f.keeps doc staying) := by
  match f with
  | .fieldIsnt .. | .notRegex .. =>
    simp only [Filter.actions, bind_eq_ok, pure_eq_ok, Prod.mk.injEq] at h
    obtain ⟨a, ha, rfl, -⟩ := h
    exact (run_leafAction rfl rfl inScope (by simp [measured, Evaluates]) ha).trans
      (r.toward_swap _)
  | .not f =>
    rw [Filter.actions] at h
    exact (run_actions_keeps f inScope evaluates lends apart room avoids.swap (!staying)
      (by rwa [r.toward_swap, Bool.not_not]) (by rwa [r.toward_swap, Bool.not_not]) h).trans
        (r.toward_swap _)
  | .qualified datasets f =>
    simp only [Filter.actions] at h
    split at h
    · rw [keeps]
      split
      · rename_i listed
        exact run_actions_keeps f (List.contains_iff_mem.mp listed) evaluates lends apart room
          avoids staying stay leave h
      · rename_i unlisted
        rw [stay, (within_actions h).run_eq (mt List.contains_iff_mem.mpr unlisted)]
    · simp at h
  | .and fs =>
    simp only [Filter.actions] at h
    rw [keeps]
    split at h
    · rename_i empty
      obtain ⟨rfl, -⟩ := Prod.mk.inj (Except.ok.inj h)
      rw [List.isEmpty_iff.mp empty, Action.run_cons, Action.run_nil,
        Action.move_unconditional inScope, if_pos rfl]
      rfl
    split at h
    · rename_i distinct
      simp only [Bool.and_eq_true, bne_iff_ne] at distinct
      obtain ⟨target, positive, negative⟩ := r
      obtain rfl : staying = true := by cases staying <;> grind [Route.toward]
      obtain rfl : positive = target := stay
      rw [actionsUpTo_self] at h
      rw [run_actionsOfAll_keeps fs inScope evaluates lends apart (Nat.le_of_succ_le room) avoids
        true rfl leave h]
      simp only [beq_true, ← keepsAll_eq_all]
      rfl
    · obtain ⟨scratch, rest, rfl⟩ := List.exists_cons_of_length_pos (Nat.zero_lt_of_lt room)
      obtain ⟨lent, lends⟩ := lends.acquire
      simp only [lent] at h
      split at h
      · simp at h
      · rename_i inner pool₂ hi
        obtain ⟨rfl, -⟩ := Prod.mk.inj (Except.ok.inj h)
        have apart := List.nodup_cons.mp apart
        have hne := avoids.ne
        have hall : Action.run doc evaluate inner r.target =
            if fs.all (·.keeps doc true == true) then r.target else scratch :=
          run_actionsOfAll_keeps fs inScope evaluates lends apart.2 (Nat.le_of_succ_le_succ room)
            (avoids.borrow avoids.held apart.1) true rfl hne.1.symm hi
        rw [Action.run_append, hall, run_settle inScope hne.1 hne.2.1]
        simp only [beq_true, ← keepsAll_eq_all]
        rfl
  | .or fs =>
    simp only [Filter.actions] at h
    rw [keeps, ← Bool.not_not (keepsSome doc fs), keepsSome_eq_any, List.not_any_eq_all_not]
    split at h
    · rename_i empty
      obtain ⟨rfl, -⟩ := Prod.mk.inj (Except.ok.inj h)
      rw [List.isEmpty_iff.mp empty, Action.run_cons, Action.run_nil,
        Action.move_unconditional inScope, if_pos rfl]
      rfl
    split at h
    · rename_i distinct
      simp only [Bool.and_eq_true, bne_iff_ne] at distinct
      obtain ⟨target, positive, negative⟩ := r
      obtain rfl : staying = false := by cases staying <;> grind [Route.toward]
      obtain rfl : negative = target := stay
      rw [actionsUpTo_self] at h
      rw [run_actionsOfAll_keeps fs inScope evaluates lends apart (Nat.le_of_succ_le room) avoids
        false rfl leave h]
      simp only [beq_false]
      grind [Route.toward]
    · obtain ⟨scratch, rest, rfl⟩ := List.exists_cons_of_length_pos (Nat.zero_lt_of_lt room)
      obtain ⟨lent, lends⟩ := lends.acquire
      simp only [lent] at h
      split at h
      · simp at h
      · rename_i inner pool₂ hi
        obtain ⟨rfl, -⟩ := Prod.mk.inj (Except.ok.inj h)
        have apart := List.nodup_cons.mp apart
        have hne := avoids.ne
        have hall : Action.run doc evaluate inner r.target =
            if fs.all (·.keeps doc false == false) then r.target else scratch :=
          run_actionsOfAll_keeps fs inScope evaluates lends apart.2 (Nat.le_of_succ_le_succ room)
            (avoids.borrow apart.1 avoids.held) false rfl hne.1.symm hi
        rw [Action.run_append, hall, run_settle inScope hne.1 hne.2.2]
        simp only [beq_false]
        grind [Route.toward]
  | .fieldIs .. | .between .. | .compare .. | .regex .. | .fieldEqual .. | .lucene ..
  | .sample .. | .sampleMetric .. | .stringIn .. | .intIn .. | .inQuery .. | .always | .never =>
    obtain ⟨-, a, ha, rfl⟩ := (actions_of_isLeaf rfl).mp h
    exact run_leafAction_keeps rfl inScope evaluates stay ha

/-- Filters along one route keep a document in the target group unless one of them takes it for the
other kind than what stays there, and lead it out otherwise. -/
theorem run_actionsOfAll_keeps (fs : List Filter) {scope : Names} {r : Route}
    {pool pool' : GroupPool} {actions : List Action} {groups : List Nat}
    (inScope : doc.dataset ∈ scope) (evaluates : Evaluates doc evaluate (measuredByAll fs))
    (lends : pool.Lends groups) (apart : groups.Nodup) (room : nestingOfAll fs ≤ groups.length)
    (avoids : Avoids groups r) (staying : Bool) (stay : r.toward staying = r.target)
    (leave : r.toward (!staying) ≠ r.target)
    (h : Filter.actionsOfAll scope r fs pool = .ok (actions, pool')) :
    Action.run doc evaluate actions r.target =
      if fs.all (·.keeps doc staying == staying) then r.target else r.toward (!staying) := by
  match fs with
  | [] =>
    obtain ⟨rfl, -⟩ := Prod.mk.inj (Except.ok.inj h)
    rfl
  | f :: rest =>
    simp only [Filter.actionsOfAll] at h
    split at h
    · simp at h
    · rename_i first pool₁ hf
      split at h
      · simp at h
      · rename_i more pool₂ hm
        obtain ⟨rfl, rfl⟩ := Prod.mk.inj (Except.ok.inj h)
        have room := Nat.max_le.mp room
        have hc := confined_actions f lends room.1 hf
        have hfirst := run_actions_keeps f inScope
          (fun m hm => evaluates m (List.mem_append_left _ hm)) lends apart room.1 avoids staying
          stay leave hf
        have hrest := run_actionsOfAll_keeps rest inScope
          (fun m hm => evaluates m (List.mem_append_right _ hm)) hc.lends apart room.2 avoids
          staying stay leave hm
        rw [Action.run_append, hfirst, List.all_cons]
        by_cases hk : f.keeps doc staying = staying
        · rw [hk, stay, hrest, beq_self_eq_true, Bool.true_and]
        · have hout : f.keeps doc staying = !staying := by grind
          have hmore := confined_actionsOfAll rest hc.lends room.2 hm
          rw [hout, hmore.run_eq leave (avoids.toward _)]
          simp

end

/-- A document of the first group stays there under the actions that keep what a filter holds on if
these take it for such a document, and the program of the truth metric comes to one if the filter
holds. The two agree where the parts that name other datasets only are in place. Conjunctions and
disjunctions are not nested deeper than there are groups. -/
theorem stays_iff_evaluates_to_one {f : Filter} {truth : Metric} {program : List String}
    (inScope : doc.dataset ∈ scope) (room : 2 + f.nesting ≤ UInt32.size)
    (lowered : f.actions scope ⟨1, 1, 0⟩ (.startingAt 2) = .ok (actions, pool'))
    (tested : f.truth doc.dataset = .ok truth)
    (compiled : truth.pushes doc.dataset = .ok program)
    (evaluates : Evaluates doc evaluate (truth :: f.measured)) (short : f.Short doc.dataset) :
    (Action.run doc evaluate actions 1 = 1 ↔ f.keeps doc true) ∧
      (evaluate program = 1 ↔ f.holds doc) ∧
      (f.settled doc.dataset true →
        (Action.run doc evaluate actions 1 = 1 ↔ evaluate program = 1)) := by
  have lends := GroupPool.lends_supply (.startingAt 2)
  rw [GroupPool.supply_startingAt (by decide)] at lends
  have avoids : Avoids (List.range' 2 (UInt32.size - 2)) ⟨1, 1, 0⟩ := by
    constructor <;> simp [List.mem_range'_1]
  -- Neither group of the route is lent: the pool lends from group two on.
  have moved : Action.run doc evaluate actions 1 = Route.toward ⟨1, 1, 0⟩ (f.keeps doc true) :=
    run_actions_keeps f inScope (fun m hm => evaluates m (List.mem_cons_of_mem _ hm)) lends
      List.nodup_range' (by rw [List.length_range']; omega) avoids true rfl (by decide) lowered
  have value : evaluate program = bit (f.holds doc) :=
    (evaluates truth (List.mem_cons_self ..) program compiled).trans (value_truth short tested)
  have stays : Action.run doc evaluate actions 1 = 1 ↔ f.keeps doc true := by
    rw [moved]
    cases f.keeps doc true <;> decide
  have one : evaluate program = 1 ↔ f.holds doc := by
    rw [value, ← beq_iff_eq, bit_beq_one]
  refine ⟨stays, one, fun settled => ?_⟩
  rw [stays, one, keeps_of_settled f true settled]

/-- News filters in a conjunction and, negated, in a disjunction that is negated itself, beside a
comparison in the dataset of the document. -/
theorem stays_iff_evaluates_to_one_nested :
    let clicks : FieldSet := .single "ads" "clicks"
    let news : Filter := .qualified ["news"] (.fieldIs (.single "news" "q") (.string "x"))
    let f : Filter := .and [news, .qualified ["ads"] (.not (.or [.fieldIs clicks (.ofInt 3),
      .not (.qualified [] .never)])), .compare .gt (.qualified "ads" (.field clicks)) (.constant 5)]
    ∃ actions pool truth program,
      f.actions ["ads", "news"] ⟨1, 1, 0⟩ (.startingAt 2) = .ok (actions, pool) ∧
      f.truth "ads" = .ok truth ∧ truth.pushes "ads" = .ok program ∧
      (Action.run (.uniform "ads" false 9) (fun _ => 1) actions 1 = 1 ↔
        (fun _ : List String => (1 : Int64)) program = 1) := by
  intro clicks news f
  have lowered : ∃ actions pool,
      f.actions ["ads", "news"] ⟨1, 1, 0⟩ (.startingAt 2) = .ok (actions, pool) := ⟨_, _, by cbv⟩
  let truth : Metric := .compare .eq (.add [.subtract (.constant 1) (.compare .gt
    (.add [.hasInt clicks 3, .subtract (.constant 1) (.constant 1)]) (.constant 0)),
    .compare .gt (.qualified "ads" (.field clicks)) (.constant 5), .constant 1]) (.constant 3)
  have ht : f.truth "ads" = .ok truth := rfl
  have compiled : ∃ program, truth.pushes "ads" = .ok program := by
    simp only [truth, Metric.subtract, Metric.pushes, Metric.pushesOfAll]
    exact ⟨_, rfl⟩
  obtain ⟨actions, pool, ha⟩ := lowered
  obtain ⟨program, hp⟩ := compiled
  have short : f.Short "ads" :=
    ⟨by simp, trivial, ⟨by simp, trivial, trivial, trivial⟩, trivial, trivial⟩
  have value : truth.value (.uniform "ads" false 9) = 1 :=
    (value_truth short ht).trans (by cbv)
  refine ⟨actions, pool, truth, program, ha, ht, hp, ?_⟩
  refine (stays_iff_evaluates_to_one (List.mem_cons_self ..) (by decide) ha ht hp
    (fun m hm program _ => ?_) short).2.2 (by cbv)
  rcases List.mem_cons.mp hm with rfl | hm
  · exact value.symm
  · obtain rfl := List.mem_singleton.mp hm
    cbv

/-- A document of another dataset than the one that is named under a negation stays where the
documents are kept on which the filter holds, but the program of the truth metric comes to zero. -/
theorem not_qualified_stays :
    let f : Filter := .not (.qualified ["news"] (.fieldIs (.single "news" "q") (.string "x")))
    let machine : Machine := ⟨.standard, fun _ => 0⟩
    ∃ actions pool truth program,
      f.actions ["ads", "news"] ⟨1, 1, 0⟩ (.startingAt 2) = .ok (actions, pool) ∧
      f.truth "ads" = .ok truth ∧ truth.pushes "ads" = .ok program ∧
      (∀ evaluate, Action.run (machine.document "ads") evaluate actions 1 = 1) ∧
      machine.run program [] = some [0] := by
  intro f machine
  have lowered : ∃ actions pool,
      f.actions ["ads", "news"] ⟨1, 1, 0⟩ (.startingAt 2) = .ok (actions, pool) ∧
        ∀ evaluate, Action.run (machine.document "ads") evaluate actions 1 = 1 :=
    ⟨_, _, by cbv, fun _ => by cbv⟩
  have tested : ∃ truth program, f.truth "ads" = .ok truth ∧ truth.pushes "ads" = .ok program :=
    ⟨_, _, by cbv, by cbv⟩
  obtain ⟨actions, pool, ha, stays⟩ := lowered
  obtain ⟨truth, program, ht, hp⟩ := tested
  have serves : machine.Serves (machine.document "ads") :=
    machine.serves_document "ads" fun _ => .inl rfl
  have value : truth.value (machine.document "ads") = 0 :=
    (value_truth (f := f) trivial ht).trans (by cbv)
  have runnable : truth.Runnable machine (machine.document "ads") :=
    runnable_truth (f := f) trivial ht
  refine ⟨actions, pool, truth, program, ha, ht, hp, stays, ?_⟩
  rw [Metric.computes_pushes truth serves runnable hp, value]

end Filter

end Groupwise.Doc
