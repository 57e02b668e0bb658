import Groupwise.Doc.Routing
import Groupwise.Plan.Extraction
import Groupwise.Plan.Substitution
import Groupwise.Plan
import Groupwise.Step.Merging

/-!
# Schedules

The schedule of a plan interleaves the computations that were taken out of it with its stages. At
each depth come first the computations in front of the stage, then the stage, the computations
behind it, and the filter of its groups; at the end come the selected numbers. The first terms of a
field are the first among those that pass the filter of their groups, so the filter of such a stage
belongs into its grouping.
-/
namespace Groupwise

open Aggregate (Metric)

variable {ν : Type}

/-- Move the filter of a limited grouping by terms into the grouping. -/
def Stage.filterTopTerms (s : Stage ν) : Stage ν :=
  match s.grouping, s.having with
  | .terms field none (some limit) metric withDefault, some having =>
    { s with grouping := .terms field (some having) (some limit) metric withDefault, having := none }
  | _, _ => s

def Plan.filterTopTerms (p : Plan ν) : Plan ν :=
  { p with stages := p.stages.map Stage.filterTopTerms }

variable [Numeric ν]

omit [Numeric ν] in
def computedAt (tasks : List (Task ν)) (phase : Phase) (depth : Nat) : List (Step ν) :=
  (tasks.filter fun t => t.phase == phase && t.depth == depth).map fun t =>
    .compute t.scope t.computation t.name

omit [Numeric ν] in
/-- The steps of the given number of levels from a depth on, with the stages that are left. -/
def levels (tasks : List (Task ν)) :
    Nat → Nat → List (Regrouping ν × Option (Aggregate.Filter ν)) → List (Step ν)
  | _, 0, _ => []
  | depth, count + 1, [] =>
    computedAt tasks .pre depth ++ computedAt tasks .post depth ++
      levels tasks (depth + 1) count []
  | depth, count + 1, (regrouping, having) :: stages =>
    computedAt tasks .pre depth ++ [.regroup regrouping] ++ computedAt tasks .post depth ++
      (having.map .filterGroups).toList ++ levels tasks (depth + 1) count stages

omit [Numeric ν] in
def Extracted.steps (e : Extracted ν) : CompileM (List (Step ν)) := do
  let stages ← e.plan.stages.mapM fun s => do
    pure (← s.grouping.regrouping e.plan.scope, s.having)
  let count := e.tasks.foldl (fun n t => max n (t.depth + 1)) stages.length
  pure (levels e.tasks 0 count stages ++ [.stats e.plan.selects e.plan.formats])

/-- What the engine runs: the filter of the documents, if there is one, and then the steps. -/
structure Program (ν : Type) where
  filter : Option (List Action)
  steps : List (Step ν)

namespace Program

omit [Numeric ν] in
/-- The number of steps with the filter as the first one. -/
def size (p : Program ν) : Nat := p.filter.toList.length + p.steps.length

def commands (p : Program ν) : CompileM (List (Command ν)) := do
  let steps ← p.steps.mapM Step.commands
  pure ((p.filter.map Command.filterDocuments).toList ++ steps.flatten)

end Program

/-- The actions of a document filter. All documents start in group 1, and those that fail go to
group 0. -/
def Doc.Filter.documentActions (scope : Names) : Option Doc.Filter → CompileM (Option (List Action))
  | none => .ok none
  | some .always => .ok none
  | some f => do
    let (actions, _) ← f.actions scope ⟨1, 1, 0⟩ (.startingAt 2)
    pure (some (Action.mergeQueries actions))

def Plan.program (p : Plan ν) : CompileM (Program ν) := do
  let extracted ← (← p.substitute).simplify.filterTopTerms.extract
  let filter ← Doc.Filter.documentActions extracted.plan.scope extracted.plan.filter
  let steps ← extracted.steps
  pure { filter, steps := Step.merge extracted.plan.rowLimit steps }

end Groupwise
