import Groupwise.Action
import Groupwise.Proofs.Doc.Meaning

/-!
# What actions do to a document

An action moves a document of its scope that is in its target group, and leaves every other one
where it is. A run of actions moves a document from group to group. What the programs of metrics
come to on a document is a parameter here.
-/
namespace Groupwise

open Doc (Document)

/-- Where a route leads documents that pass the test, and where those that fail it. -/
def Route.toward (r : Route) (passed : Bool) : Nat := if passed then r.positive else r.negative

/-- The route that treats what passes the test as the other one treats what fails it. -/
def Route.swap (r : Route) : Route := ⟨r.target, r.negative, r.positive⟩

theorem Route.toward_swap (r : Route) (passed : Bool) :
    r.swap.toward passed = r.toward (!passed) := by
  cases passed <;> rfl

namespace Action

variable {doc : Document} {evaluate : List String → Int64}

/-- The datasets whose documents an action may move. -/
def scope : Action → Names
  | .query scope .. => scope
  | .metric scope .. => scope
  | .regex scope .. => scope
  | .intOr scope .. => scope
  | .stringOr scope .. => scope
  | .sample scope .. => scope
  | .sampleMetric scope .. => scope
  | .unconditional scope .. => scope
  | .inQuery scope .. => scope

/-- The groups of an action. Without a test both ways lead to the same group. -/
def route : Action → Route
  | .query _ _ r => r
  | .metric _ _ r => r
  | .regex _ _ _ r => r
  | .intOr _ _ _ r => r
  | .stringOr _ _ _ r => r
  | .sample _ _ _ _ r => r
  | .sampleMetric _ _ _ _ r => r
  | .unconditional _ target newGroup => ⟨target, newGroup, newGroup⟩
  | .inQuery _ _ _ _ r => r

/-- What the program that is given for the document's dataset comes to. -/
def measured (doc : Document) (evaluate : List String → Int64)
    (programs : Dictionary (List String)) : Int64 :=
  evaluate ((programs.find? doc.dataset).getD [])

/-- Whether a document passes the test of an action. -/
def accepts (doc : Document) (evaluate : List String → Int64) : Action → Bool
  | .query _ queries _ => doc.selectedBy queries
  | .metric _ programs _ => measured doc evaluate programs == 1
  | .regex _ field pattern _ => doc.passes (.regex (doc.name field) pattern)
  | .intOr _ field terms _ => terms.any fun t => doc.passes (.hasInt (doc.name field) t)
  | .stringOr _ field terms _ => terms.any fun t => doc.passes (.hasString (doc.name field) t)
  | .sample _ field share seed _ => doc.sampled (doc.name field) share seed
  | .sampleMetric _ programs share seed _ =>
    doc.engine.sampled share seed (measured doc evaluate programs)
  | .unconditional .. => true
  | .inQuery _ field text isNegated _ => doc.foundBy (doc.name field) text != isNegated

/-- The group of a document after an action. -/
def move (doc : Document) (evaluate : List String → Int64) (a : Action) (group : Nat) : Nat :=
  if a.scope.contains doc.dataset && a.route.target == group then
    a.route.toward (a.accepts doc evaluate)
  else group

/-- The group of a document after some actions. -/
def run (doc : Document) (evaluate : List String → Int64) (actions : List Action) (group : Nat) :
    Nat :=
  actions.foldl (fun group a => a.move doc evaluate group) group

@[simp] theorem run_nil (group : Nat) : run doc evaluate [] group = group := rfl

@[simp] theorem run_cons (a : Action) (rest : List Action) (group : Nat) :
    run doc evaluate (a :: rest) group = run doc evaluate rest (a.move doc evaluate group) := rfl

@[simp] theorem run_append (first second : List Action) (group : Nat) :
    run doc evaluate (first ++ second) group =
      run doc evaluate second (run doc evaluate first group) :=
  List.foldl_append

theorem move_of_ne {a : Action} {group : Nat} (h : a.route.target ≠ group) :
    a.move doc evaluate group = group := by
  simp [move, h]

theorem move_target {a : Action} (h : doc.dataset ∈ a.scope) :
    a.move doc evaluate a.route.target = a.route.toward (a.accepts doc evaluate) := by
  simp [move, h]

theorem move_unconditional {datasets : Names} (h : doc.dataset ∈ datasets)
    (target newGroup group : Nat) :
    (unconditional datasets target newGroup).move doc evaluate group =
      if group = target then newGroup else group := by
  by_cases hg : group = target
  · subst hg
    rw [if_pos rfl]
    exact (move_target h).trans (ite_self _)
  · rw [if_neg hg]
    exact move_of_ne (Ne.symm hg)

/-- Documents stay in a group that no action has as its target. -/
theorem run_untargeted {actions : List Action} {group : Nat}
    (h : ∀ a ∈ actions, a.route.target ≠ group) : run doc evaluate actions group = group := by
  induction actions with
  | nil => rfl
  | cons a rest ih =>
    rw [run_cons, move_of_ne (h a (List.mem_cons_self ..))]
    exact ih fun b hb => h b (List.mem_cons_of_mem _ hb)

end Action

end Groupwise
