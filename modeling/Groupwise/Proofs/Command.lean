import Groupwise.Command
import Groupwise.Proofs.Aggregate.Nodes

/-!
# The metrics of commands

A command compares and measures metrics of groups. When they are settled, checking the command is
never at fault.
-/
namespace Groupwise

open Aggregate

variable {ν : Type}

/-- The metrics in the filter and the order of a walk. -/
def TermWalk.nodes (w : TermWalk ν) : List (Metric ν) :=
  Filter.nodesOption w.filter ++ Metric.nodesOption (w.top.bind (·.metric))

/-- The metrics in the expressions of a measurement. -/
def Measurement.nodes : Measurement ν → List (Metric ν)
  | .stats metrics _ _ => Metric.nodesOfAll metrics
  | .distinct _ filter _ => Filter.nodesOption filter
  | .percentiles .. => []
  | .extreme _ m filter => m.nodes ++ Filter.nodesOption filter
  | .sumAcross _ m filter => m.nodes ++ Filter.nodesOption filter
  | .bootstrap _ filter _ m _ _ => m.nodes ++ Filter.nodesOption filter

/-- The metrics in the expressions of a command. -/
def Command.nodes : Command ν → List (Metric ν)
  | .filterGroups filter => filter.nodes
  | .explodeTerms _ walk _ => walk.nodes
  | .iterate _ walk metrics _ => walk.nodes ++ Metric.nodesOfAll metrics
  | .measure m => m.nodes
  | .keep m _ => m.nodes
  | .keepAll ms => ms.flatMap (·.1.nodes)
  | _ => []

section Faults

variable [Numeric ν] {schema : Schema} {scope : Names}

theorem Aggregate.faultless_checkOption {filter : Option (Filter ν)} (found : Findings)
    (settled : Settled (Filter.nodesOption filter)) :
    Faultless (checkOption (Filter.check schema scope) filter found) := by
  cases filter with
  | none => exact .ok _
  | some f => exact f.faultless_check found settled

theorem faultless_checkEachMetric {metrics : List (Metric ν)} (found : Findings)
    (settled : Settled (Metric.nodesOfAll metrics)) :
    Faultless (checkEachMetric schema scope metrics found) := by
  refine Faultless.foldlM (fun found m hm => m.faultless_check found fun n hn => ?_) found
  rw [Metric.nodesOfAll, Metric.collectAll_eq_flatMap] at settled
  exact settled n (List.mem_flatMap.mpr ⟨m, hm, hn⟩)

theorem TermWalk.faultless_check {w : TermWalk ν} (found : Findings) (settled : Settled w.nodes) :
    Faultless (w.check schema scope found) := by
  rw [TermWalk.nodes, settled_append] at settled
  refine (faultless_checkOption found settled.1).bind fun found => ?_
  cases h : w.top.bind (·.metric) with
  | none => exact .ok _
  | some m => exact m.faultless_check found (by rw [h] at settled; exact settled.2)

theorem faultless_checkWalk {field : FieldSet} {m : Metric ν}
    {filter : Option (Aggregate.Filter ν)}
    (context : String) (found : Findings)
    (settled : Settled (m.nodes ++ Filter.nodesOption filter)) :
    Faultless (checkWalk schema context field m filter found) := by
  rw [settled_append] at settled
  exact (m.faultless_check _ settled.1).bind fun found => faultless_checkOption found settled.2

theorem Measurement.faultless_check {m : Measurement ν} (found : Findings)
    (settled : Settled m.nodes) : Faultless (m.check schema scope found) := by
  cases m with
  | stats => exact faultless_checkEachMetric found settled
  | distinct => exact faultless_checkOption _ settled
  | percentiles => exact .ok _
  | extreme | sumAcross | bootstrap => exact faultless_checkWalk _ found settled

/-- Checking a command whose metrics are settled is never at fault. -/
theorem Command.faultless_check {c : Command ν} (found : Findings) (settled : Settled c.nodes) :
    Faultless (c.check schema scope found) := by
  have time (context : String) (field : Option FieldSet) :
      Faultless (Command.checkTimeField schema context field found) := by
    cases field <;> exact .ok _
  cases c with
  | filterDocuments actions =>
    refine Faultless.foldlM (fun found a _ => ?_) found
    have fields (check) (scope : Names) (field : FieldSet) :
        Faultless (Action.checkFieldIn check scope field found) :=
      .foldlM (fun _ d _ => (field.faultless_nameIn d).bind fun _ => .pure _) found
    cases a <;> first | exact .ok _ | exact fields _ _ _
  | filterGroups filter => exact filter.faultless_check found settled
  | explodeTerms _ walk => exact walk.faultless_check _ settled
  | iterate _ walk metrics =>
    rw [nodes, settled_append] at settled
    exact (walk.faultless_check _ settled.1).bind fun found =>
      faultless_checkEachMetric found settled.2
  | measure m | keep m => exact m.faultless_check found settled
  | keepAll ms =>
    exact .foldlM (fun found e he => e.1.faultless_check found fun n hn =>
      settled n (List.mem_flatMap.mpr ⟨e, he, hn⟩)) found
  | regroupByTime | explodeTimeBuckets | explodeMonth => exact time _ _
  | _ => exact .ok _

end Faults

end Groupwise
