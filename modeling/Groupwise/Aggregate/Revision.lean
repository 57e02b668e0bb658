import Groupwise.Aggregate.Expression
import Groupwise.Doc.Revision

/-!
# Revisions of expressions over groups

A revision visits the parts of an expression first and then the node that was rebuilt from them,
through all kinds of expressions. A traversal only visits the metrics directly below a node.
-/
namespace Groupwise.Aggregate

variable {ν : Type}

/-- One revision for each kind of expression. -/
structure Revision (ν : Type) where
  metric : Metric ν → Metric ν := id
  docMetric : Doc.Metric → Doc.Metric := id
  filter : Filter ν → Filter ν := id
  docFilter : Doc.Filter → Doc.Filter := id
  grouping : Grouping ν → Grouping ν := id

mutual

def Metric.revise [Numeric ν] (r : Revision ν) : Metric ν → Metric ν
  | .add ms => r.metric (Metric.sum (Metric.reviseAll r ms))
  | .calculate op a b => r.metric (.calculate op (a.revise r) (b.revise r))
  | .function f m => r.metric (.function f (m.revise r))
  | .docStats m => r.metric (.docStats (m.revise r.docMetric r.docFilter))
  | .docStatsIn d m => r.metric (.docStatsIn d (m.revise r.docMetric r.docFilter))
  | .parent m => r.metric (.parent (m.revise r))
  | .lag n m => r.metric (.lag n (m.revise r))
  | .iterateLag n m => r.metric (.iterateLag n (m.revise r))
  | .window n m => r.metric (.window n (m.revise r))
  | .running n m => r.metric (.running n (m.revise r))
  | .distinct f x w => r.metric (.distinct f (Filter.reviseOption r x) w)
  | .percentile f p => r.metric (.percentile f p)
  | .fieldMin f m x =>
    r.metric (.fieldMin f (Metric.reviseOption r m) (Filter.reviseOption r x))
  | .fieldMax f m x =>
    r.metric (.fieldMax f (Metric.reviseOption r m) (Filter.reviseOption r x))
  | .sumAcross g m => r.metric (.sumAcross (g.revise r) (m.revise r))
  | .lookup name => r.metric (.lookup name)
  | .multiLookup names => r.metric (.multiLookup names)
  | .ifThenElse c y n => r.metric (.ifThenElse (c.revise r) (y.revise r) (n.revise r))
  | .least ms => r.metric (.least (Metric.reviseAll r ms))
  | .greatest ms => r.metric (.greatest (Metric.reviseAll r ms))
  | .qualified ds m => r.metric (.qualified ds (m.revise r))
  | .named m name => r.metric (.named (m.revise r) name)
  | .reference name => r.metric (.reference name)
  | .bootstrap f x seed m n outputs =>
    r.metric (.bootstrap f (Filter.reviseOption r x) seed (m.revise r) n outputs)
  | .constant v => r.metric (.constant v)
  | .average m => r.metric (.average (m.revise r))

def Metric.reviseAll [Numeric ν] (r : Revision ν) : List (Metric ν) → List (Metric ν)
  | [] => []
  | m :: rest => m.revise r :: Metric.reviseAll r rest

def Metric.reviseOption [Numeric ν] (r : Revision ν) : Option (Metric ν) → Option (Metric ν)
  | none => none
  | some m => some (m.revise r)

def Filter.revise [Numeric ν] (r : Revision ν) : Filter ν → Filter ν
  | .compare op a b => r.filter (.compare op (a.revise r) (b.revise r))
  | .and fs => r.filter (Filter.all (Filter.reviseAll r fs))
  | .or fs => r.filter (Filter.any (Filter.reviseAll r fs))
  | .not f => r.filter (.not (f.revise r))
  | .termIs t => r.filter (.termIs t)
  | .termRegex p => r.filter (.termRegex p)
  | .regex f p => r.filter (.regex f p)
  | .always => r.filter .always
  | .never => r.filter .never
  | .isDefaultGroup => r.filter .isDefaultGroup

def Filter.reviseAll [Numeric ν] (r : Revision ν) : List (Filter ν) → List (Filter ν)
  | [] => []
  | f :: rest => f.revise r :: Filter.reviseAll r rest

def Filter.reviseOption [Numeric ν] (r : Revision ν) : Option (Filter ν) → Option (Filter ν)
  | none => none
  | some f => some (f.revise r)

def Grouping.revise [Numeric ν] (r : Revision ν) : Grouping ν → Grouping ν
  | .buckets m min max interval excludeGutters withDefault =>
    r.grouping (.buckets (m.revise r.docMetric r.docFilter) min max interval excludeGutters
      withDefault)
  | .terms f x limit m withDefault =>
    r.grouping (.terms f (Filter.reviseOption r x) limit (Metric.reviseOption r m) withDefault)
  | .predicate f => r.grouping (.predicate (f.revise r.docMetric r.docFilter))
  | .randomMetric m k salt =>
    r.grouping (.randomMetric (m.revise r.docMetric r.docFilter) k salt)
  | .time p f t relative => r.grouping (.time p f t relative)
  | .timeBuckets n f t => r.grouping (.timeBuckets n f t)
  | .month f t => r.grouping (.month f t)
  | .termsIn f ints strings withDefault => r.grouping (.termsIn f ints strings withDefault)
  | .dayOfWeek => r.grouping .dayOfWeek
  | .sessionName => r.grouping .sessionName
  | .quantiles f n => r.grouping (.quantiles f n)
  | .random f i k salt => r.grouping (.random f i k salt)

end

/-! ## Traversals -/

section Traversal

variable {M : Type → Type} [Monad M]

mutual

/-- Visit the metrics that a filter compares. -/
def Filter.traverse (visit : Metric ν → M (Metric ν)) : Filter ν → M (Filter ν)
  | .compare op l r => do pure (.compare op (← visit l) (← visit r))
  | .and fs => do pure (Filter.all (← Filter.traverseAll visit fs))
  | .or fs => do pure (Filter.any (← Filter.traverseAll visit fs))
  | .not f => do pure (.not (← f.traverse visit))
  | f => pure f

def Filter.traverseAll (visit : Metric ν → M (Metric ν)) : List (Filter ν) → M (List (Filter ν))
  | [] => pure []
  | f :: rest => do
    let first ← f.traverse visit
    let others ← Filter.traverseAll visit rest
    pure (first :: others)

end

/-- Visit the value of an option. -/
def traverseOption {α : Type} (visit : α → M α) : Option α → M (Option α)
  | none => pure none
  | some a => do pure (some (← visit a))

/-- Visit the filter and the metric of a grouping by terms. -/
def Grouping.traverse (visit : Metric ν → M (Metric ν)) : Grouping ν → M (Grouping ν)
  | .terms f x limit m withDefault => do
    let x ← traverseOption (Filter.traverse visit) x
    let m ← traverseOption visit m
    pure (.terms f x limit m withDefault)
  | g => pure g

/-- Visit the metrics directly below a metric, those in filters and groupings included. -/
def Metric.traverse [Numeric ν] (visit : Metric ν → M (Metric ν)) : Metric ν → M (Metric ν)
  | .add ms => do pure (Metric.sum (← ms.mapM visit))
  | .calculate op l r => do pure (.calculate op (← visit l) (← visit r))
  | .function f m => do pure (.function f (← visit m))
  | .parent m => do pure (.parent (← visit m))
  | .lag n m => do pure (.lag n (← visit m))
  | .iterateLag n m => do pure (.iterateLag n (← visit m))
  | .window n m => do pure (.window n (← visit m))
  | .running n m => do pure (.running n (← visit m))
  | .distinct f x w => do pure (.distinct f (← traverseOption (Filter.traverse visit) x) w)
  | .fieldMin f m x => do
    let m ← traverseOption visit m
    pure (.fieldMin f m (← traverseOption (Filter.traverse visit) x))
  | .fieldMax f m x => do
    let m ← traverseOption visit m
    pure (.fieldMax f m (← traverseOption (Filter.traverse visit) x))
  | .sumAcross g m => do
    let g ← g.traverse visit
    pure (.sumAcross g (← visit m))
  | .ifThenElse c y n => do
    let c ← c.traverse visit
    pure (.ifThenElse c (← visit y) (← visit n))
  | .least ms => do pure (.least (← ms.mapM visit))
  | .greatest ms => do pure (.greatest (← ms.mapM visit))
  | .qualified ds m => do pure (.qualified ds (← visit m))
  | .named m name => do pure (.named (← visit m) name)
  | .bootstrap f x seed m n outputs => do
    let x ← traverseOption (Filter.traverse visit) x
    pure (.bootstrap f x seed (← visit m) n outputs)
  | .average m => do pure (.average (← visit m))
  | m => pure m

end Traversal

/-! ## Collecting -/

mutual

/-- What a function finds in the metrics of an expression, innermost first. -/
def Metric.collect {α : Type} (find : Metric ν → List α) : Metric ν → List α
  | .add ms => Metric.collectAll find ms ++ find (.add ms)
  | .calculate op l r => l.collect find ++ r.collect find ++ find (.calculate op l r)
  | .function f m => m.collect find ++ find (.function f m)
  | .parent m => m.collect find ++ find (.parent m)
  | .lag n m => m.collect find ++ find (.lag n m)
  | .iterateLag n m => m.collect find ++ find (.iterateLag n m)
  | .window n m => m.collect find ++ find (.window n m)
  | .running n m => m.collect find ++ find (.running n m)
  | .distinct f x w => Filter.collectOption find x ++ find (.distinct f x w)
  | .fieldMin f m x =>
    Metric.collectOption find m ++ Filter.collectOption find x ++ find (.fieldMin f m x)
  | .fieldMax f m x =>
    Metric.collectOption find m ++ Filter.collectOption find x ++ find (.fieldMax f m x)
  | .sumAcross g m => g.collect find ++ m.collect find ++ find (.sumAcross g m)
  | .ifThenElse c y n =>
    c.collect find ++ y.collect find ++ n.collect find ++ find (.ifThenElse c y n)
  | .least ms => Metric.collectAll find ms ++ find (.least ms)
  | .greatest ms => Metric.collectAll find ms ++ find (.greatest ms)
  | .qualified ds m => m.collect find ++ find (.qualified ds m)
  | .named m name => m.collect find ++ find (.named m name)
  | .bootstrap f x seed m n outputs =>
    Filter.collectOption find x ++ m.collect find ++ find (.bootstrap f x seed m n outputs)
  | .average m => m.collect find ++ find (.average m)
  | .docStats m => find (.docStats m)
  | .docStatsIn d m => find (.docStatsIn d m)
  | .percentile f p => find (.percentile f p)
  | .lookup name => find (.lookup name)
  | .multiLookup names => find (.multiLookup names)
  | .reference name => find (.reference name)
  | .constant v => find (.constant v)

def Metric.collectAll {α : Type} (find : Metric ν → List α) : List (Metric ν) → List α
  | [] => []
  | m :: rest => m.collect find ++ Metric.collectAll find rest

def Metric.collectOption {α : Type} (find : Metric ν → List α) : Option (Metric ν) → List α
  | none => []
  | some m => m.collect find

def Filter.collect {α : Type} (find : Metric ν → List α) : Filter ν → List α
  | .compare _ l r => l.collect find ++ r.collect find
  | .and fs => Filter.collectAll find fs
  | .or fs => Filter.collectAll find fs
  | .not f => f.collect find
  | _ => []

def Filter.collectAll {α : Type} (find : Metric ν → List α) : List (Filter ν) → List α
  | [] => []
  | f :: rest => f.collect find ++ Filter.collectAll find rest

def Filter.collectOption {α : Type} (find : Metric ν → List α) : Option (Filter ν) → List α
  | none => []
  | some f => f.collect find

def Grouping.collect {α : Type} (find : Metric ν → List α) : Grouping ν → List α
  | .terms _ x _ m _ => Filter.collectOption find x ++ Metric.collectOption find m
  | _ => []

end

/-- The name or names that a metric looks up. -/
def Metric.lookedUp : Metric ν → List String
  | .lookup name => [name]
  | .multiLookup names => names
  | _ => []

end Groupwise.Aggregate
