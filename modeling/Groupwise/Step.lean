import Groupwise.Aggregate.Nature
import Groupwise.Computation

/-!
# Steps

The schedule of a query is a list of steps: computations ahead of their use, regroupings, filters
of groups, and the selected numbers at the end.
-/
namespace Groupwise

open Aggregate (Metric)

/-- A walk over the terms of a field that gives numbers at once. -/
structure TermStats (ν : Type) where
  field : FieldSet
  filter : Option (Aggregate.Filter ν) := none
  limit : Option Nat := none
  rowLimit : Option Nat
  metric : Option (Metric ν) := none
  stringTerms : Option Names := none
  intTerms : Option (List Int64) := none
  stats : List (Metric ν) := []
  formats : List (Option String) := []

/-- What is run one after another. Filtering the documents is no step: it comes before all others,
and a program holds its actions in front of its steps. -/
inductive Step (ν : Type) where
  | compute (scope : Names) (computation : Computation ν) (name : String)
  | computeAll (scope : Names) (computations : List (Computation ν × String))
  | regroup (regrouping : Regrouping ν)
  | iterate (terms : TermStats ν)
  | stats (metrics : List (Metric ν)) (formats : List (Option String))
  | filterGroups (filter : Aggregate.Filter ν)

variable {ν : Type}

namespace TermStats

def command (t : TermStats ν) : Command ν :=
  .iterate t.field
    { Regrouping.walk t.filter t.limit t.metric with
      rowLimit := t.rowLimit
      intTerms := t.intTerms
      stringTerms := t.stringTerms }
    t.stats t.formats

def traverse {M : Type → Type} [Monad M] (visit : Metric ν → M (Metric ν)) (t : TermStats ν) :
    M (TermStats ν) := do
  let filter ← Aggregate.traverseOption (Aggregate.Filter.traverse visit) t.filter
  let metric ← Aggregate.traverseOption visit t.metric
  let stats ← t.stats.mapM visit
  pure { t with filter, metric, stats }

end TermStats

def formatsOutline (formats : List (Option String)) : Outline :=
  .list (formats.map (.option .text))

def TermStats.outline [Numeric ν] (t : TermStats ν) : Outline :=
  .record "IterateStats" [("field", t.field.outline),
    ("filter", .option Aggregate.Filter.outline t.filter), ("limit", .option .nat t.limit),
    ("query_limit", .option .nat t.rowLimit), ("metric", .option Metric.outline t.metric),
    ("string_term_subset", .option Names.outline t.stringTerms),
    ("int_term_subset", .option (fun ts => .set (ts.map .int64)) t.intTerms),
    ("stats", .list (t.stats.map Metric.outline)), ("format_strings", formatsOutline t.formats)]

namespace Step

/-- The commands of a computation by itself. -/
def keepCommands (recipe : Computation.Recipe ν) (name : String) : List (Command ν) :=
  recipe.before ++ [.keep recipe.measurement name] ++ recipe.after

/-- The recipes of several computations under their names. -/
def recipes [Numeric ν] (scope : Names) (computations : List (Computation ν × String)) :
    CompileM (List (Computation.Recipe ν × String)) :=
  computations.mapM fun e => do pure (← e.1.recipe scope, e.2)

/-- The commands of a step. Several computations share one command unless some of them regroup. -/
def commands [Numeric ν] : Step ν → CompileM (List (Command ν))
  | .compute scope computation name => do pure (keepCommands (← computation.recipe scope) name)
  | .computeAll scope computations => do
    let rs ← recipes scope computations
    if rs.any (·.1.regroups) then pure (rs.flatMap fun e => keepCommands e.1 e.2)
    else pure [.keepAll (rs.map fun e => (e.1.measurement, e.2))]
  | .regroup regrouping => do pure [← regrouping.command]
  | .iterate terms => .ok [terms.command]
  | .stats metrics formats => .ok [.measure (.stats metrics formats true)]
  | .filterGroups filter => .ok [.filterGroups filter]

/-- Visit the metrics of a step, those that filters compare included. -/
def traverse {M : Type → Type} [Monad M] (visit : Metric ν → M (Metric ν)) :
    Step ν → M (Step ν)
  | .compute scope computation name => do
    pure (.compute scope (← computation.traverse visit) name)
  | .computeAll scope computations => do
    pure (.computeAll scope (← computations.mapM fun e => do pure (← e.1.traverse visit, e.2)))
  | .regroup regrouping => do pure (.regroup (← regrouping.traverse visit))
  | .iterate terms => do pure (.iterate (← terms.traverse visit))
  | .stats metrics formats => do pure (.stats (← metrics.mapM visit) formats)
  | .filterGroups filter => do pure (.filterGroups (← filter.traverse visit))

def outline [Numeric ν] : Step ν → Outline
  | .compute scope computation name =>
    .record "ComputePrecomputed" [("scope", scope.outline),
      ("computation", computation.outline), ("name", .text name)]
  | .computeAll scope computations =>
    .record "ComputeManyPrecomputed" [("scope", scope.outline),
      ("computations", .list (computations.map fun e => .tuple "" [e.1.outline, .text e.2]))]
  | .regroup regrouping => regrouping.outline
  | .iterate terms => terms.outline
  | .stats metrics formats =>
    .record "GetGroupStats" [("stats", .list (metrics.map Metric.outline)),
      ("format_strings", formatsOutline formats)]
  | .filterGroups filter => .tuple "FilterGroups" [filter.outline]

end Step

end Groupwise
