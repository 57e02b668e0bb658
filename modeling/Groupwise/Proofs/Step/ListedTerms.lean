import Groupwise.Plan.Schedule
import Groupwise.Proofs.OrderedSet
import Groupwise.Proofs.Step.Readiness
import Groupwise.Proofs.Step.TermWalk

/-!
# Walks over listed terms

A last regrouping by a list of terms becomes a walk that keeps to the terms of the list. The walk
has the list as two sets of which one that is absent restricts nothing. A list without terms leaves
both of them out, and then the walk visits every term, although the regrouping would make no group.
-/
namespace Groupwise

open Aggregate (Metric)

variable {ν : Type}

/-- A term is in a list of integers and strings, however it is spelt. -/
def Term.ListedIn (ints : List Int64) (strings : List String) : Term → Prop
  | .int v _ => v ∈ ints
  | .string s => s ∈ strings

/-- A walk visits a term that is in one of the sets that it keeps to, and any term if there are no
such sets. -/
def TermStats.Visits (walk : TermStats ν) (t : Term) : Prop :=
  t.ListedIn (walk.intTerms.getD []) (walk.stringTerms.getD []) ∨
    walk.intTerms = none ∧ walk.stringTerms = none

namespace Step

/-- A set of terms is left out if there are none. -/
theorem termSet_eq_none {α : Type} {less : α → α → Bool} {terms : List α} :
    termSet less terms = none ↔ terms = [] := by
  cases terms <;> simp [termSet]

theorem mem_termSet {α : Type} {less : α → α → Bool} (order : Orders less) {a : α}
    {terms : List α} : a ∈ (termSet less terms).getD [] ↔ a ∈ terms := by
  rw [termSet]
  split
  · rename_i none
    rw [List.isEmpty_iff.mp none, Option.getD_none]
  · rw [Option.getD_some, order.mem_orderedSet]

/-- Integer terms are put in order as numbers. -/
theorem orders_intTerms : Orders fun a b : Int64 => decide (a < b) where
  irrefl a := by simp
  trans := by
    intro a b c below above
    simp only [decide_eq_true_eq] at below above ⊢
    exact Int64.lt_trans below above
  eq_of_not := by
    intro a b below above
    simp only [decide_eq_true_eq, Int64.not_lt] at below above
    exact Int64.le_antisymm above below

/-- The sets that a walk keeps to have the terms of the lists. -/
theorem listedIn_termSets (ints : List Int64) (strings : List String) (t : Term) :
    t.ListedIn ((termSet (fun a b => decide (a < b)) ints).getD [])
        ((termSet (fun a b => decide (a < b)) strings).getD []) ↔
      t.ListedIn ints strings := by
  cases t with
  | int v => exact mem_termSet orders_intTerms
  | string s => exact mem_termSet Names.orders

/-- A walk at the end joins no computations and closes the batch that is open. -/
theorem mergeInto_iterate (batch : Option (Batch ν)) (before : List (Step ν))
    (walk : TermStats ν) :
    mergeInto batch (before ++ [.iterate walk]) = mergeInto batch before ++ [.iterate walk] := by
  fun_induction mergeInto batch before with
  | case1 batch => rfl
  | case2 scope c name rest ih => exact ih
  | case3 scope c name rest b admitted ih =>
    rw [List.cons_append, mergeInto, if_pos admitted, ih]
  | case4 scope c name rest b refused ih =>
    rw [List.cons_append, mergeInto, if_neg refused, ih, List.cons_append]
  | case5 batch step rest other ih =>
    rw [List.cons_append, mergeInto, ih, List.append_assoc, List.cons_append]
    exact other

variable [Numeric ν]

/-- The walk in place of a last regrouping by a list of terms visits the terms of the list, and any
term if the list has none. -/
theorem visits_iff_listed (rowLimit : Option Nat) (before : List (Step ν)) (field : FieldSet)
    (ints : List Int64) (strings : List String) (isInt : Bool) (stats : List (Metric ν))
    (formats : List (Option String)) :
    ∃ walk : TermStats ν,
      merge rowLimit
          (before ++ [.regroup (.termsIn field ints strings isInt false), .stats stats formats]) =
        mergeComputations before ++ [.iterate walk] ∧
      walk.field = field ∧
      ∀ t : Term, walk.Visits t ↔ t.ListedIn ints strings ∨ ints = [] ∧ strings = [] := by
  have walked := iterateLast_termsIn rowLimit before field ints strings isInt stats formats
  refine ⟨_, (congrArg mergeComputations walked).trans (mergeInto_iterate none before _), rfl,
    fun t => ?_⟩
  exact or_congr (listedIn_termSets ints strings t) (and_congr termSet_eq_none termSet_eq_none)

end Step

/-- A walk over the terms of a list that has none visits every country, where the regrouping that it
stands for makes no group. -/
theorem Plan.no_terms_visit_all :
    let country : FieldSet := .single "ads" "country"
    let p : Plan Float :=
      { sources := [{ dataset := "ads" }]
        stages := [⟨.termsIn country [] [] false, none, none⟩]
        selects := [.docStats .count]
        formats := [none] }
    ∃ program walk, p.program = .ok program ∧ program.steps = [.iterate walk] ∧
      Regrouping.command (.termsIn country [] [] true false : Regrouping Float) =
        .ok (.explodeGroups country (some []) none none) ∧
      walk.Visits (.string "us") ∧ ¬Term.ListedIn [] [] (.string "us") := by
  intro country p
  exact ⟨_, _, rfl, rfl, rfl, .inr ⟨rfl, rfl⟩, List.not_mem_nil⟩

end Groupwise
