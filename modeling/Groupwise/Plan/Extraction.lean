import Groupwise.Aggregate.Nature
import Groupwise.Aggregate.Stats
import Groupwise.Computation
import Groupwise.Plan

/-!
# Extraction of computations

A metric that the engine cannot take from sums over the documents of a group is replaced by a
look-up, and its computation is noted with the depth of grouping at which the value is needed:
depth 0 is before the first stage, depth 1 after it, and so on. A computation for the filter of a
stage runs right behind the stage, every other one in front of the stage of its depth.
-/
namespace Groupwise

open Aggregate (Metric Grouping)

/-- Whether a computation runs in front of the stage of its depth or right behind it. -/
inductive Phase where
  | pre | post
  deriving Repr, DecidableEq, Inhabited

def Phase.label : Phase → String
  | .pre => "Pre"
  | .post => "Post"

structure Task (ν : Type) where
  phase : Phase
  depth : Nat
  scope : Names
  computation : Computation ν
  name : String

namespace Task

variable {ν : Type}

def outputs (t : Task ν) : List String := t.computation.outputs t.name

def outline [Numeric ν] (t : Task ν) : Outline :=
  .record "Computation" [("phase", .atom t.phase.label), ("depth", .nat t.depth),
    ("scope", t.scope.outline), ("precomputed", t.computation.outline), ("name", .text t.name)]

end Task

/-- Where an expression stands that computations are taken out of. -/
structure Place where
  /-- The depth of the groups for which the value is needed. -/
  depth : Int
  /-- The depth of the groups for which the whole expression is computed. -/
  startDepth : Int
  /-- The greatest depth at which a computation may be needed. -/
  maxDepth : Int
  scope : Names
  phase : Phase

abbrev ExtractM (ν : Type) := StateT (List (Task ν)) CompileM

variable {ν : Type} [Numeric ν]

def Place.scheduleDepth (p : Place) (c : Computation ν) : CompileM Nat :=
  let depth := match p.phase with
    | .pre => p.depth
    | .post => p.depth - 1
  if depth < 0 then
    .error (.invalid ("Depth reached negative when processing metric: " ++ c.outline.compact))
  else if depth > p.maxDepth then
    .error (.internal ("Required computation in the future: " ++ c.outline.compact))
  else .ok depth.toNat

def Task.does (t : Task ν) (p : Place) (depth : Nat) (c : Computation ν) : Bool :=
  t.phase == p.phase && t.depth == depth && t.scope == p.scope && t.computation == c

/-- Note a computation, unless there is the same one already, and look up its results. -/
def schedule (p : Place) (c : Computation ν) : ExtractM ν (Metric ν) := do
  let depth ← p.scheduleDepth c
  let tasks ← get
  match tasks.find? (·.does p depth c) with
  | some t => pure (c.result t.name)
  | none =>
    let name := "v" ++ toString tasks.length
    set (tasks ++ [{ phase := p.phase, depth, scope := p.scope, computation := c, name }])
    pure (c.result name)

/-- The datasets whose documents a metric is computed from, where tasks stand for their scopes. -/
def countedDatasets (tasks : List (Task ν)) (m : Metric ν) : Names :=
  Names.ofList (m.collect fun
    | .docStatsIn dataset _ => [dataset]
    | m => (tasks.filter fun t => m.lookedUp.any t.outputs.contains).flatMap (·.scope))

/-- The quotient of a metric and the number of documents that it is computed from. -/
def averaged (m : Metric ν) : ExtractM ν (Metric ν) := do
  match countedDatasets (← get) m with
  | [] => throw (.invalid "Averaging over no documents is undefined")
  | datasets =>
    pure (m.divide (Metric.sum (datasets.map fun d => .docStatsIn d (.qualified d .count))))

/-- The order of the terms of a field by default: by the average of the field. -/
def averageOfField (field : FieldSet) : ExtractM ν (Metric ν) :=
  averaged (Metric.summedIn field.datasets (.field field))

def narrowingError (outer inner : Names) : CompileError :=
  .invalid ("Cannot have a sub-scope that is not a subset of the outer scope. oldScope = [" ++
    outer.outline.compact ++ "], newScope = [" ++ inner.outline.compact ++ "]")

def guttersError : CompileError :=
  .invalid ("SUM_OVER(BUCKET(), metric) with gutters is very likely not what you want. " ++
    "It will sum over all documents.")

/-- The metric of a sum across a grouping that was made total, zero in the group of all documents
that the grouping would have dropped. -/
def outsideDefault (isTotal : Bool) (m : Metric ν) : Metric ν :=
  if isTotal then m else .ifThenElse .isDefaultGroup (.constant Numeric.zero) m

namespace Aggregate

mutual

/-- Replace what has to be computed ahead in a metric by look-ups. -/
def Metric.extract (p : Place) : Metric ν → ExtractM ν (Metric ν)
  | .parent m => m.extract { p with depth := p.depth - 1 }
  | .distinct f x w => do
    let x ← Filter.extractOption { p with depth := p.depth + 1, startDepth := p.depth + 1 } x
    schedule p (.distinct f x w)
  | .percentile f level => schedule p (.percentile f level)
  | .qualified ds m =>
    if ds.subset p.scope then m.extract { p with scope := ds }
    else throw (narrowingError p.scope ds)
  | .docStats m =>
    if p.startDepth = p.depth then Metric.stats p.scope m else schedule p (.rawStats m)
  | .sumAcross (.buckets _ _ _ _ false _) _ => throw guttersError
  | .sumAcross (.terms f x none _ _) m => do
    let m ← m.extract p
    schedule p (.sumAcross f m (← Filter.extractOption p x))
  | .sumAcross g m => do
    let total := g.isTotal
    let g ← g.extract p
    let m ← m.extract p
    schedule p (.sumAcrossGrouping g.makeTotal (outsideDefault total m))
  | .fieldMin f m x => do
    let m ← Metric.extractOr p f m
    let x ← Filter.extractOption p x
    schedule p (.extreme f (.function .negate m) x)
  | .fieldMax f m x => do
    let m ← Metric.extractOr p f m
    let x ← Filter.extractOption p x
    schedule p (.extreme f m x)
  | .bootstrap f x seed m n outputs => do
    let m ← m.extract p
    let x ← Filter.extractOption p x
    schedule p (.bootstrap f x seed m n outputs)
  | .average m => do averaged (← m.extract p)
  | .add ms => do pure (Metric.sum (← Metric.extractAll p ms))
  | .calculate op l r => do
    let l ← l.extract p
    pure (.calculate op l (← r.extract p))
  | .function f m => do pure (.function f (← m.extract p))
  | .lag n m => do pure (.lag n (← m.extract p))
  | .iterateLag n m => do pure (.iterateLag n (← m.extract p))
  | .window n m => do pure (.window n (← m.extract p))
  | .running n m => do pure (.running n (← m.extract p))
  | .ifThenElse c y n => do
    let c ← c.extract p
    let y ← y.extract p
    pure (.ifThenElse c y (← n.extract p))
  | .least ms => do pure (.least (← Metric.extractAll p ms))
  | .greatest ms => do pure (.greatest (← Metric.extractAll p ms))
  | .named m name => do pure (.named (← m.extract p) name)
  | .docStatsIn d m => pure (.docStatsIn d m)
  | .lookup name => pure (.lookup name)
  | .multiLookup names => pure (.multiLookup names)
  | .reference name => pure (.reference name)
  | .constant v => pure (.constant v)

def Metric.extractAll (p : Place) : List (Metric ν) → ExtractM ν (List (Metric ν))
  | [] => pure []
  | m :: rest => do
    let m ← m.extract p
    pure (m :: (← Metric.extractAll p rest))

def Metric.extractOption (p : Place) : Option (Metric ν) → ExtractM ν (Option (Metric ν))
  | none => pure none
  | some m => do pure (some (← m.extract p))

def Metric.extractOr (p : Place) (field : FieldSet) :
    Option (Metric ν) → ExtractM ν (Metric ν)
  | none => averageOfField field
  | some m => m.extract p

def Filter.extract (p : Place) : Filter ν → ExtractM ν (Filter ν)
  | .compare op l r => do
    let l ← l.extract p
    pure (.compare op l (← r.extract p))
  | .and fs => do pure (Filter.all (← Filter.extractAll p fs))
  | .or fs => do pure (Filter.any (← Filter.extractAll p fs))
  | .not f => do pure (.not (← f.extract p))
  | .termIs t => pure (.termIs t)
  | .termRegex pattern => pure (.termRegex pattern)
  | .regex f pattern => pure (.regex f pattern)
  | .always => pure .always
  | .never => pure .never
  | .isDefaultGroup => pure .isDefaultGroup

def Filter.extractAll (p : Place) : List (Filter ν) → ExtractM ν (List (Filter ν))
  | [] => pure []
  | f :: rest => do
    let f ← f.extract p
    pure (f :: (← Filter.extractAll p rest))

def Filter.extractOption (p : Place) : Option (Filter ν) → ExtractM ν (Option (Filter ν))
  | none => pure none
  | some f => do pure (some (← f.extract p))

def Grouping.extract (p : Place) : Grouping ν → ExtractM ν (Grouping ν)
  | .terms f x limit m withDefault => do
    let x ← Filter.extractOption p x
    pure (.terms f x limit (← Metric.extractOption p m) withDefault)
  | .buckets m min max interval excludeGutters withDefault =>
    pure (.buckets m min max interval excludeGutters withDefault)
  | .time period f t relative => pure (.time period f t relative)
  | .timeBuckets n f t => pure (.timeBuckets n f t)
  | .month f t => pure (.month f t)
  | .termsIn f ints strings withDefault => pure (.termsIn f ints strings withDefault)
  | .dayOfWeek => pure .dayOfWeek
  | .sessionName => pure .sessionName
  | .quantiles f n => pure (.quantiles f n)
  | .predicate f => pure (.predicate f)
  | .random f i k salt => pure (.random f i k salt)
  | .randomMetric m k salt => pure (.randomMetric m k salt)

end

end Aggregate

/-- A plan whose expressions only look up what the tasks compute. -/
structure Extracted (ν : Type) where
  plan : Plan ν
  /-- In the order in which they were met. -/
  tasks : List (Task ν)

omit [Numeric ν] in
/-- The filter of a stage: that of a grouping by terms itself, or else of its groups. -/
def Stage.filter? (s : Stage ν) : Option (Aggregate.Filter ν) :=
  match s.grouping with
  | .terms _ filter _ _ _ => filter
  | _ => s.having

/-- Extraction from a stage whose filter needs no walk over terms. -/
def Stage.extractBefore (p : Place) (s : Stage ν) : ExtractM ν (Stage ν) := do
  let grouping ← s.grouping.extract p
  let having ← Aggregate.Filter.extractOption p s.having
  pure { s with grouping, having }

/-- Extraction from a stage whose filter needs a walk over terms. The computations come behind the
stage, and so does the filter. -/
def Stage.extractBehind (p : Place) (s : Stage ν) : ExtractM ν (Stage ν) :=
  let p := { p with phase := .post }
  match s.grouping with
  | .terms f (some filter) limit m withDefault => do
    let filter ← filter.extract p
    let m ← Metric.extractOption p m
    pure { s with grouping := .terms f none limit m withDefault, having := some filter }
  | grouping => do
    let having ← Aggregate.Filter.extractOption p s.having
    let grouping ← grouping.extract p
    pure { s with grouping, having }

def Stage.extract (scope : Names) (depth : Nat) (s : Stage ν) : ExtractM ν (Stage ν) :=
  let p : Place := { depth, startDepth := depth, maxDepth := depth, scope, phase := .pre }
  -- For a grouping by terms this is its own filter, whatever that of the groups needs.
  if s.filter?.any Aggregate.Filter.needsTerms then s.extractBehind p else s.extractBefore p

def Stage.extractAll (scope : Names) : Nat → List (Stage ν) → ExtractM ν (List (Stage ν))
  | _, [] => pure []
  | depth, s :: rest => do
    let s ← s.extract scope depth
    pure (s :: (← Stage.extractAll scope (depth + 1) rest))

def Plan.extractM (p : Plan ν) : ExtractM ν (Plan ν) := do
  let stages ← Stage.extractAll p.scope 1 p.stages
  let depth := p.stages.length
  let place : Place :=
    { depth, startDepth := depth, maxDepth := depth + 1, scope := p.scope, phase := .pre }
  let selects ← Metric.extractAll place p.selects
  pure { p with stages, selects }

def Plan.extract (p : Plan ν) : CompileM (Extracted ν) := do
  let (plan, tasks) ← p.extractM.run []
  pure { plan, tasks }

end Groupwise
