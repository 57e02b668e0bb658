import Groupwise.Proofs.Action
import Groupwise.Proofs.Names

/-!
# Joined queries

Two query actions of which the first leaves in the target what the second is to test are one action
with a joined query: by "or" when a failed test leaves a document there, by "and" when a passed one
does. Joining the actions of a list in this way leads every document to the same group as before.
-/
namespace Groupwise

open Doc (Document)

variable {doc : Document} {evaluate : List String → Int64}

namespace Action

/-- A query action fits its scope: it has a query for every dataset of it and for no other. -/
def Fits : Action → Prop
  | .query scope queries _ => ∀ dataset, dataset ∈ queries.keys ↔ dataset ∈ scope
  | _ => True

/-! ## Two actions -/

section Pair

variable {first second joined : Action} {scope : Names} {queries next : Dictionary Doc.Query}
  {r : Route}

/-- A query joined with the one that a dictionary has for the same dataset. -/
def joinWith (operator : Doc.Connective) (next : Dictionary Doc.Query) (dataset : String)
    (q : Doc.Query) : Doc.Query :=
  match next.find? dataset with
  | some other => .boolean operator [q, other]
  | none => q

theorem joinQueries_eq_map (operator : Doc.Connective) (queries next : Dictionary Doc.Query) :
    joinQueries operator queries next =
      queries.map fun e => (e.1, joinWith operator next e.1 e.2) := by
  refine List.map_congr_left fun (dataset, q) _ => ?_
  cases found : next.find? dataset <;> simp [joinWith, found]

theorem keys_joinQueries (operator : Doc.Connective) :
    (joinQueries operator queries next).keys = queries.keys := by
  rw [joinQueries_eq_map, Dictionary.keys_map]

/-- A joined query holds if one of both does, or if both do. -/
theorem selectedBy_joinQueries (given : doc.dataset ∈ queries.keys)
    (given' : doc.dataset ∈ next.keys) :
    doc.selectedBy (joinQueries .or queries next) =
        (doc.selectedBy queries || doc.selectedBy next) ∧
      doc.selectedBy (joinQueries .and queries next) =
        (doc.selectedBy queries && doc.selectedBy next) := by
  obtain ⟨q, found⟩ := Option.isSome_iff_exists.mp (Dictionary.mem_keys.mp given)
  obtain ⟨q', found'⟩ := Option.isSome_iff_exists.mp (Dictionary.mem_keys.mp given')
  have joined (operator : Doc.Connective) :
      (joinQueries operator queries next).find? doc.dataset = some (.boolean operator [q, q']) := by
    rw [joinQueries_eq_map, Dictionary.find?_map, found, Option.map_some, joinWith, found']
  rw [Document.selectedBy_of_find found, Document.selectedBy_of_find found',
    Document.selectedBy_of_find (joined .or), Document.selectedBy_of_find (joined .and)]
  simp [Doc.Query.holds, Doc.Query.holdAll, Doc.Query.holdSome]

/-- What can be joined are query actions with the same scope and groups, one of which is the target
again. -/
theorem merge?_eq_some (h : merge? first second = some joined) :
    ∃ (scope : Names) (queries next : Dictionary Doc.Query) (r : Route) (operator : Doc.Connective),
      first = .query scope queries r ∧ second = .query scope next r ∧
        joined = .query scope (joinQueries operator queries next) r ∧
          (r.target = r.negative ∧ operator = .or ∨ r.target = r.positive ∧ operator = .and) := by
  unfold merge? at h
  split at h
  · split at h
    · rename_i scope queries r scope' next r' same
      simp only [Bool.and_eq_true, Bool.or_eq_true, beq_iff_eq] at same
      obtain ⟨⟨rfl, rfl⟩, kept⟩ := same
      refine ⟨scope, queries, next, r, _, rfl, rfl, (Option.some.inj h).symm, ?_⟩
      by_cases failed : r.target = r.negative
      · exact .inl ⟨failed, by simp [failed]⟩
      · exact .inr ⟨kept.resolve_left failed, by simp [failed]⟩
    · cases h
  · cases h

theorem fits_merge? (fits : first.Fits) (h : merge? first second = some joined) : joined.Fits := by
  obtain ⟨scope, queries, next, r, operator, rfl, rfl, rfl, -⟩ := merge?_eq_some h
  exact fun dataset => by rw [keys_joinQueries, fits dataset]

theorem move_query (group : Nat) :
    (query scope queries r).move doc evaluate group =
      if doc.dataset ∈ scope ∧ r.target = group then r.toward (doc.selectedBy queries)
      else group := by
  simp [move, Action.scope, route, accepts]

/-- Two queries with one route lead where their joined query does. -/
theorem toward_join (passed passed' : Bool) (whole : Bool)
    (kept : r.target = r.negative ∧ whole = (passed || passed') ∨
      r.target = r.positive ∧ whole = (passed && passed')) :
    (if r.target = r.toward passed then r.toward passed' else r.toward passed) =
      r.toward whole := by
  rcases kept with ⟨stays, rfl⟩ | ⟨stays, rfl⟩ <;> cases passed <;> cases passed' <;>
    simp [Route.toward, stays]

/-- A joined action does what the two do one after the other. -/
theorem move_merge? (fits : first.Fits) (fits' : second.Fits)
    (h : merge? first second = some joined) (group : Nat) :
    joined.move doc evaluate group =
      second.move doc evaluate (first.move doc evaluate group) := by
  obtain ⟨scope, queries, next, r, operator, rfl, rfl, rfl, kept⟩ := merge?_eq_some h
  by_cases inScope : doc.dataset ∈ scope
  · have given := (fits doc.dataset).mpr inScope
    have given' := (fits' doc.dataset).mpr inScope
    obtain ⟨anyOf, bothOf⟩ := selectedBy_joinQueries given given'
    by_cases here : r.target = group
    · subst here
      simp only [move_query, inScope, true_and, if_true]
      refine (toward_join _ _ _ (kept.imp ?_ ?_)).symm
      · exact fun ⟨stays, either⟩ => ⟨stays, either ▸ anyOf⟩
      · exact fun ⟨stays, both⟩ => ⟨stays, both ▸ bothOf⟩
    · simp [move_query, here]
  · simp [move_query, inScope]

end Pair

/-! ## A list of actions -/

theorem run_mergeInto {pending : Action} {rest : List Action} (fits : pending.Fits)
    (others : ∀ a ∈ rest, a.Fits) (group : Nat) :
    run doc evaluate (mergeInto pending rest) group =
      run doc evaluate rest (pending.move doc evaluate group) := by
  fun_induction mergeInto pending rest generalizing group with
  | case1 pending => rfl
  | case2 pending next rest joined merged ih =>
    obtain ⟨fits', others⟩ := List.forall_mem_cons.mp others
    rw [ih (fits_merge? fits merged) others, move_merge? fits fits' merged, run_cons]
  | case3 pending next rest apart ih =>
    obtain ⟨fits', others⟩ := List.forall_mem_cons.mp others
    rw [run_cons, ih fits' others, run_cons]

/-- Documents end in the same group whether queries are joined or not. -/
theorem run_mergeQueries {actions : List Action} (fits : ∀ a ∈ actions, a.Fits) (group : Nat) :
    run doc evaluate (mergeQueries actions) group = run doc evaluate actions group := by
  cases actions with
  | nil => rfl
  | cons first rest =>
    obtain ⟨fits, others⟩ := List.forall_mem_cons.mp fits
    exact run_mergeInto fits others group

theorem length_mergeInto (pending : Action) (rest : List Action) :
    (mergeInto pending rest).length ≤ rest.length + 1 := by
  fun_induction mergeInto pending rest with
  | case1 => exact Nat.le_refl 1
  | case2 pending next rest joined merged ih => exact Nat.le_succ_of_le ih
  | case3 pending next rest apart ih => exact Nat.succ_le_succ ih

theorem length_mergeQueries (actions : List Action) :
    (mergeQueries actions).length ≤ actions.length := by
  cases actions with
  | nil => exact Nat.le_refl 0
  | cons first rest => exact length_mergeInto first rest

/-- Whether an action can be joined with the one before it is decided by kind, scope and groups,
which joining keeps. -/
theorem merge?_joined_eq_none (h : merge? first second = some joined) (before : Action) :
    merge? before joined = none ↔ merge? before first = none := by
  obtain ⟨scope, queries, next, r, operator, rfl, rfl, rfl, -⟩ := merge?_eq_some h
  cases before <;> simp [merge?]

theorem mergeInto_eq_cons (pending : Action) (rest : List Action) :
    ∃ head tail, mergeInto pending rest = head :: tail ∧
      ∀ before, merge? before head = none ↔ merge? before pending = none := by
  fun_induction mergeInto pending rest with
  | case1 pending => exact ⟨pending, [], rfl, fun _ => Iff.rfl⟩
  | case2 pending next rest joined merged ih =>
    obtain ⟨head, tail, whole, alike⟩ := ih
    exact ⟨head, tail, whole, fun before =>
      (alike before).trans (merge?_joined_eq_none merged before)⟩
  | case3 pending next rest apart ih => exact ⟨pending, _, rfl, fun _ => Iff.rfl⟩

/-- No two neighbours of what is left can be joined. -/
theorem isChain_mergeQueries (actions : List Action) :
    (mergeQueries actions).IsChain (merge? · · = none) := by
  have into (pending : Action) (rest : List Action) :
      (mergeInto pending rest).IsChain (merge? · · = none) := by
    fun_induction mergeInto pending rest with
    | case1 pending => exact List.IsChain.singleton _
    | case2 pending next rest joined merged ih => exact ih
    | case3 pending next rest apart ih =>
      obtain ⟨head, tail, whole, alike⟩ := mergeInto_eq_cons next rest
      rw [whole] at ih ⊢
      exact List.isChain_cons_cons.mpr ⟨(alike pending).mpr apart, ih⟩
  cases actions with
  | nil => exact List.IsChain.nil
  | cons first rest => exact into first rest

/-- Joining query actions wherever two neighbours can be joined leads every document to the same
group in no more actions. -/
theorem mergeQueries_keeps_routing {actions : List Action} (fits : ∀ a ∈ actions, a.Fits) :
    (∀ (doc : Document) (evaluate : List String → Int64) (group : Nat),
        run doc evaluate (mergeQueries actions) group = run doc evaluate actions group) ∧
      (mergeQueries actions).length ≤ actions.length ∧
      (mergeQueries actions).IsChain (merge? · · = none) :=
  ⟨fun _ _ => run_mergeQueries fits, length_mergeQueries actions, isChain_mergeQueries actions⟩

/-- Two queries that a document must pass both, two of which one is enough and a fifth one behind an
action without a test: six actions become four. -/
theorem mergeQueries_keeps_routing_interrupted :
    let asks (term : Int64) (r : Route) : Action :=
      .query ["ads"] [("ads", .term (.int "clicks" term))] r
    let actions := [asks 1 ⟨1, 1, 0⟩, asks 2 ⟨1, 1, 0⟩, asks 3 ⟨1, 2, 1⟩, asks 4 ⟨1, 2, 1⟩,
      .unconditional ["ads"] 1 0, asks 5 ⟨1, 2, 1⟩]
    (∀ a ∈ actions, a.Fits) ∧ (mergeQueries actions).length = 4 ∧
      run (.uniform "ads" true 0) (fun _ => 0) (mergeQueries actions) 1 = 2 := by
  intro asks actions
  have fits : ∀ a ∈ actions, a.Fits := by simp [actions, asks, Fits, Dictionary.keys]
  refine ⟨fits, rfl, ?_⟩
  rw [(mergeQueries_keeps_routing fits).1]
  rfl

end Action

end Groupwise
