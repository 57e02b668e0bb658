import Groupwise.Step

/-!
# Merging steps

The last regrouping by terms and the numbers selected after it become one walk over the terms,
which does not build the groups. Neighbouring computations that do not look up each other's results
become one step.
-/
namespace Groupwise.Step

open Aggregate (Metric Revision)

variable {ν : Type} [Numeric ν]

def pred (n : Int64) : Int64 := if n == Int64.minValue then n else n - 1

/-- In a walk over terms one term is visited at a time, so a lag reads the terms before and a
running sum starts one step earlier. -/
def alongTerms (m : Metric ν) : Metric ν :=
  m.revise { metric := fun
    | .running offset m => .running (pred offset) m
    | .lag distance m => .iterateLag distance m
    | m => m }

/-- The terms of a list as a set, if there are any. -/
def termSet {α : Type} (less : α → α → Bool) (terms : List α) : Option (List α) :=
  if terms.isEmpty then none else some (orderedSet less terms)

def walkOf? (rowLimit : Option Nat) (stats : List (Metric ν)) (formats : List (Option String)) :
    Regrouping ν → Option (TermStats ν)
  | .terms field filter limit metric false => some { field, filter, limit, rowLimit, metric, stats, formats }
  -- A walk for which no terms are listed visits all of them.
  | .termsIn field ints strings _ false =>
    some { field, rowLimit, stats, formats
           stringTerms := termSet (fun a b => decide (a < b)) strings
           intTerms := termSet (fun a b => decide (a < b)) ints }
  | _ => none

/-- Whether the numbers selected after a regrouping can be taken along the walk over its terms. A
list of terms fixes their order, so then even numbers that depend on the neighbours can. -/
def allowsWalk (metrics : List (Metric ν)) : Regrouping ν → Bool
  | .terms .. => !metrics.any Metric.isOrdered
  | _ => true

/-- A last regrouping by all terms, or one together with the selected numbers, as a walk. -/
def iterateLast (rowLimit : Option Nat) : List (Step ν) → List (Step ν)
  | [] => []
  | [.regroup (.terms field filter limit metric false)] =>
    [.iterate { field, filter, limit, rowLimit, metric }]
  | [.regroup r, .stats metrics formats] =>
    match if allowsWalk metrics r then walkOf? rowLimit (metrics.map alongTerms) formats r else none with
    | some walk => [.iterate walk]
    | none => [.regroup r, .stats metrics formats]
  | step :: rest => step :: iterateLast rowLimit rest

/-- Computations under their names that are done in one step. -/
structure Batch (ν : Type) where
  scope : Names
  members : List (Computation ν × String)

namespace Batch

/-- Whether a computation can join: it has the same scope and looks up none of the results. -/
def admits (b : Batch ν) (scope : Names) (c : Computation ν) : Bool :=
  b.scope == scope &&
    !b.members.any fun e => (e.1.outputs e.2).any c.lookedUp.contains

def toStep (b : Batch ν) : Step ν :=
  match b.members with
  | [(c, name)] => .compute b.scope c name
  | members => .computeAll b.scope members

end Batch

def mergeInto (batch : Option (Batch ν)) : List (Step ν) → List (Step ν)
  | [] => (batch.map Batch.toStep).toList
  | .compute scope c name :: rest =>
    match batch with
    | none => mergeInto (some ⟨scope, [(c, name)]⟩) rest
    | some b =>
      if b.admits scope c then mergeInto (some ⟨b.scope, b.members ++ [(c, name)]⟩) rest
      else b.toStep :: mergeInto (some ⟨scope, [(c, name)]⟩) rest
  | step :: rest => (batch.map Batch.toStep).toList ++ step :: mergeInto none rest

def mergeComputations (steps : List (Step ν)) : List (Step ν) := mergeInto none steps

def merge (rowLimit : Option Nat) (steps : List (Step ν)) : List (Step ν) :=
  mergeComputations (iterateLast rowLimit steps)

end Groupwise.Step
