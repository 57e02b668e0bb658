import Groupwise.Plan

/-!
# Named metrics

A selected metric may define a name, and other metrics may refer to it. Every reference is replaced
by the metric that its name stands for, and the definitions lose their names.
-/
namespace Groupwise

open Aggregate (Metric Grouping)

variable {ν : Type} [Numeric ν]

namespace Aggregate

mutual

/-- Replace the references of a metric and drop the names that it defines. -/
def Metric.expand (refer : String → CompileM (Metric ν)) : Metric ν → CompileM (Metric ν)
  | .reference name => refer name
  | .named m _ => m.expand refer
  | .add ms => do pure (Metric.sum (← Metric.expandAll refer ms))
  | .calculate op l r => do
    let l ← l.expand refer
    pure (.calculate op l (← r.expand refer))
  | .function f m => do pure (.function f (← m.expand refer))
  | .parent m => do pure (.parent (← m.expand refer))
  | .lag n m => do pure (.lag n (← m.expand refer))
  | .iterateLag n m => do pure (.iterateLag n (← m.expand refer))
  | .window n m => do pure (.window n (← m.expand refer))
  | .running n m => do pure (.running n (← m.expand refer))
  | .distinct f x w => do pure (.distinct f (← Filter.expandOption refer x) w)
  | .fieldMin f m x => do
    let m ← Metric.expandOption refer m
    pure (.fieldMin f m (← Filter.expandOption refer x))
  | .fieldMax f m x => do
    let m ← Metric.expandOption refer m
    pure (.fieldMax f m (← Filter.expandOption refer x))
  | .sumAcross g m => do
    let g ← g.expand refer
    pure (.sumAcross g (← m.expand refer))
  | .ifThenElse c y n => do
    let c ← c.expand refer
    let y ← y.expand refer
    pure (.ifThenElse c y (← n.expand refer))
  | .least ms => do pure (.least (← Metric.expandAll refer ms))
  | .greatest ms => do pure (.greatest (← Metric.expandAll refer ms))
  | .qualified ds m => do pure (.qualified ds (← m.expand refer))
  | .bootstrap f x seed m n outputs => do
    let x ← Filter.expandOption refer x
    pure (.bootstrap f x seed (← m.expand refer) n outputs)
  | .average m => do pure (.average (← m.expand refer))
  | .docStats m => .ok (.docStats m)
  | .docStatsIn d m => .ok (.docStatsIn d m)
  | .percentile f p => .ok (.percentile f p)
  | .lookup name => .ok (.lookup name)
  | .multiLookup names => .ok (.multiLookup names)
  | .constant v => .ok (.constant v)

def Metric.expandAll (refer : String → CompileM (Metric ν)) :
    List (Metric ν) → CompileM (List (Metric ν))
  | [] => .ok []
  | m :: rest => do
    let m ← m.expand refer
    pure (m :: (← Metric.expandAll refer rest))

def Metric.expandOption (refer : String → CompileM (Metric ν)) :
    Option (Metric ν) → CompileM (Option (Metric ν))
  | none => .ok none
  | some m => do pure (some (← m.expand refer))

def Filter.expand (refer : String → CompileM (Metric ν)) : Filter ν → CompileM (Filter ν)
  | .compare op l r => do
    let l ← l.expand refer
    pure (.compare op l (← r.expand refer))
  | .and fs => do pure (Filter.all (← Filter.expandAll refer fs))
  | .or fs => do pure (Filter.any (← Filter.expandAll refer fs))
  | .not f => do pure (.not (← f.expand refer))
  | .termIs t => .ok (.termIs t)
  | .termRegex p => .ok (.termRegex p)
  | .regex f p => .ok (.regex f p)
  | .always => .ok .always
  | .never => .ok .never
  | .isDefaultGroup => .ok .isDefaultGroup

def Filter.expandAll (refer : String → CompileM (Metric ν)) :
    List (Filter ν) → CompileM (List (Filter ν))
  | [] => .ok []
  | f :: rest => do
    let f ← f.expand refer
    pure (f :: (← Filter.expandAll refer rest))

def Filter.expandOption (refer : String → CompileM (Metric ν)) :
    Option (Filter ν) → CompileM (Option (Filter ν))
  | none => .ok none
  | some f => do pure (some (← f.expand refer))

def Grouping.expand (refer : String → CompileM (Metric ν)) : Grouping ν → CompileM (Grouping ν)
  | .terms f x limit m withDefault => do
    let x ← Filter.expandOption refer x
    pure (.terms f x limit (← Metric.expandOption refer m) withDefault)
  | .buckets m min max interval excludeGutters withDefault =>
    .ok (.buckets m min max interval excludeGutters withDefault)
  | .time p f t relative => .ok (.time p f t relative)
  | .timeBuckets n f t => .ok (.timeBuckets n f t)
  | .month f t => .ok (.month f t)
  | .termsIn f ints strings withDefault => .ok (.termsIn f ints strings withDefault)
  | .dayOfWeek => .ok .dayOfWeek
  | .sessionName => .ok .sessionName
  | .quantiles f n => .ok (.quantiles f n)
  | .predicate f => .ok (.predicate f)
  | .random f i k salt => .ok (.random f i k salt)
  | .randomMetric m k salt => .ok (.randomMetric m k salt)

end

end Aggregate

/-- The metrics that define names. -/
abbrev Definitions (ν : Type) := Dictionary (Metric ν)

namespace Definitions

omit [Numeric ν] in
/-- Enter the definitions among some metrics, each under a name of its own. -/
def enter (definitions : Definitions ν) : List (Metric ν) → CompileM (Definitions ν)
  | [] => .ok definitions
  | .named m name :: rest =>
    if (definitions.find? name).isSome then
      .error (.invalid ("Metric name defined twice: " ++ name))
    else enter (definitions.insert name m) rest
  | _ :: rest => enter definitions rest

def cycle {α : Type} (names : List String) : CompileM α :=
  .error (.invalid ("Hit cycle when doing name replacement: [" ++ " -> ".intercalate names ++ "]"))

/-- The metric that a name stands for, with its own references replaced. The names whose definitions
are being expanded differ, so there are never more of them than definitions, which is the fuel
needed. -/
def refer (definitions : Definitions ν) : Nat → List String → String → CompileM (Metric ν)
  | 0, names, name => cycle (names ++ [name])
  | fuel + 1, names, name =>
    match definitions.find? name with
    | none => .error (.invalid ("Unknown metric name: " ++ name))
    | some m =>
      if names.contains name then cycle (names ++ [name])
      else m.expand (refer definitions fuel (names ++ [name]))

/-- Replace all references in a metric. -/
def substitute (definitions : Definitions ν) (m : Metric ν) : CompileM (Metric ν) :=
  m.expand (definitions.refer (definitions.length + 1) [])

end Definitions

/-- Replace all references to named metrics in a plan. -/
def Plan.substitute (p : Plan ν) : CompileM (Plan ν) := do
  let definitions ← Definitions.enter [] p.selects
  p.traverse definitions.substitute

end Groupwise
