import Groupwise.Aggregate.Listing
import Groupwise.Error
import Groupwise.Evaluation.Metric
import Groupwise.Pattern.Acceptance

/-!
# From group expressions to their evaluation

An expression can be evaluated when everything that has to be computed ahead was taken out of it
and the results of those computations are known.
-/
namespace Groupwise

variable {ν : Type} [Numeric ν]

/-- Results of earlier computations under their names, one value for each group. -/
abbrev Lookups (ν : Type) := Dictionary (List ν)

namespace Lookups

omit [Numeric ν] in
def get (lookups : Lookups ν) (name : String) : CompileM (List ν) :=
  match lookups.find? name with
  | some values => .ok values
  | none => .error (.execution (EvaluationError.unknownLookup name).message)

end Lookups

namespace Aggregate

/-- Join lowered parts from the left; no parts at all give a constant. -/
def joinAll {α : Type} (join : α → α → α) (empty : α) : List α → α
  | [] => empty
  | first :: rest => rest.foldl join first

def notLowered {α : Type} (m : Metric ν) : CompileM α :=
  .error (.internal ("Should be extracted by ExtractPrecomputed: " ++ m.display))

def lowerPattern (pattern : String) : CompileM (Evaluation.Filter ν) :=
  match Pattern.read pattern with
  | .ok p => .ok (.termMatches p)
  | .error refusal => .error (.invalid (Pattern.refusalMessage pattern refusal))

mutual

/-- The metric ready for evaluation over the given groups. -/
def Metric.lower (lookups : Lookups ν) (keys : GroupKeys) :
    Metric ν → CompileM (Evaluation.Metric ν)
  | .add ms => do
    pure (joinAll (.calculate .add) (.constant Numeric.zero) (← Metric.lowerAll lookups keys ms))
  | .calculate op l r => do
    let l ← l.lower lookups keys
    pure (.calculate op l (← r.lower lookups keys))
  | .function .negate m => do
    pure (.calculate .subtract (.constant Numeric.zero) (← m.lower lookups keys))
  | .function f m => do pure (.function f (← m.lower lookups keys))
  | .docStatsIn dataset m => do pure (.documents ⟨dataset, ← m.pushes dataset⟩ none)
  | .lag n m => do pure (.lag n (← m.lower lookups keys) keys)
  | .iterateLag n m => do pure (.iterateLag n (← m.lower lookups keys) [])
  | .window n m => do pure (.window n (← m.lower lookups keys) keys [])
  | .running n m => do pure (.running n (← m.lower lookups keys) keys [])
  | .lookup name => do pure (.lookup (← lookups.get name))
  | .multiLookup names => do pure (.multiLookup (← names.mapM lookups.get))
  | .ifThenElse c y n => do
    let c ← c.lower lookups keys
    let y ← y.lower lookups keys
    pure (.ifThenElse c y (← n.lower lookups keys))
  | .least ms => do pure (.least (← Metric.lowerAll lookups keys ms))
  | .greatest ms => do pure (.greatest (← Metric.lowerAll lookups keys ms))
  | .constant v => .ok (.constant v)
  | .reference name => .error (.internal ("Unsubstituted metric reference: " ++ name))
  | .docStats m => notLowered (ν := ν) (.docStats m)
  | .parent m => notLowered (.parent m)
  | .distinct f x w => notLowered (.distinct f x w)
  | .percentile f p => notLowered (ν := ν) (.percentile f p)
  | .fieldMin f m x => notLowered (.fieldMin f m x)
  | .fieldMax f m x => notLowered (.fieldMax f m x)
  | .sumAcross g m => notLowered (.sumAcross g m)
  | .qualified ds m => notLowered (.qualified ds m)
  | .named m name => notLowered (.named m name)
  | .bootstrap f x s m n o => notLowered (.bootstrap f x s m n o)
  | .average m => notLowered (.average m)

def Metric.lowerAll (lookups : Lookups ν) (keys : GroupKeys) :
    List (Metric ν) → CompileM (List (Evaluation.Metric ν))
  | [] => .ok []
  | m :: rest => do
    let m ← m.lower lookups keys
    pure (m :: (← Metric.lowerAll lookups keys rest))

/-- The filter ready for evaluation over the given groups. -/
def Filter.lower (lookups : Lookups ν) (keys : GroupKeys) :
    Filter ν → CompileM (Evaluation.Filter ν)
  | .termIs t => .ok (.termEquals t)
  | .termRegex p => lowerPattern p
  | .regex _ p => lowerPattern p
  | .compare op l r => do
    let l ← l.lower lookups keys
    pure (.compare op l (← r.lower lookups keys))
  | .and fs => do pure (joinAll .and (.constant true) (← Filter.lowerAll lookups keys fs))
  | .or fs => do pure (joinAll .or (.constant false) (← Filter.lowerAll lookups keys fs))
  | .not f => do pure (.not (← f.lower lookups keys))
  | .always => .ok (.constant true)
  | .never => .ok (.constant false)
  | .isDefaultGroup => .ok (.isDefaultGroup keys)

def Filter.lowerAll (lookups : Lookups ν) (keys : GroupKeys) :
    List (Filter ν) → CompileM (List (Evaluation.Filter ν))
  | [] => .ok []
  | f :: rest => do
    let f ← f.lower lookups keys
    pure (f :: (← Filter.lowerAll lookups keys rest))

end

end Aggregate

end Groupwise
