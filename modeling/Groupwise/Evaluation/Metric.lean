import Groupwise.Evaluation.GroupKeys
import Groupwise.Names
import Groupwise.Numeric
import Groupwise.Pattern.Basic

/-!
# Metrics and filters ready for evaluation

What is left of a group metric when all look-ups are known: it is computed from sums over the
documents of each group. Over whole columns it gives the values of all groups at once. In a walk
over terms it gives one value at a time, and parts that look back keep what they have seen.
-/
namespace Groupwise.Evaluation

/-- A program whose values are summed over the documents of a dataset. -/
structure Push where
  dataset : String
  program : List String
  deriving Repr, DecidableEq, Inhabited

/-- Pushes are ordered by dataset and then by program. -/
def Push.less (a b : Push) : Bool :=
  decide (a.dataset < b.dataset) || (a.dataset == b.dataset && decide (a.program < b.program))

/-- Sums under the numbers of their groups. -/
abbrev Tally (ν : Type) := List (Nat × ν)

mutual

inductive Metric (ν : Type) where
  | constant (value : ν)
  | function (f : Function) (metric : Metric ν)
  | calculate (op : Calculation) (left right : Metric ν)
  | least (metrics : List (Metric ν))
  | greatest (metrics : List (Metric ν))
  | ifThenElse (condition : Filter ν) (yes no : Metric ν)
  /-- The sum of a program, and where it stands in the table of sums. -/
  | documents (push : Push) (index : Option Nat)
  | lookup (values : List ν)
  | multiLookup (columns : List (List ν))
  | lag (distance : Nat) (metric : Metric ν) (keys : GroupKeys)
  /-- In a walk, the sums are those of the windows that end in each group. -/
  | window (size : Nat) (metric : Metric ν) (keys : GroupKeys) (sums : Tally ν)
  | running (offset : Int64) (metric : Metric ν) (keys : GroupKeys) (sums : Tally ν)
  /-- The history holds the last values of each group, the oldest first. -/
  | iterateLag (distance : Nat) (metric : Metric ν) (history : Tally (List ν))

inductive Filter (ν : Type) where
  | constant (value : Bool)
  | compare (op : Comparison) (left right : Metric ν)
  | and (left right : Filter ν)
  | or (left right : Filter ν)
  | not (filter : Filter ν)
  | termEquals (term : Term)
  | termMatches (pattern : Pattern)
  | isDefaultGroup (keys : GroupKeys)

end

variable {ν : Type}

mutual

def Metric.reads : Metric ν → List Push
  | .documents push _ => [push]
  | .function _ m => m.reads
  | .calculate _ l r => l.reads ++ r.reads
  | .least ms => Metric.readsOfAll ms
  | .greatest ms => Metric.readsOfAll ms
  | .ifThenElse c y n => c.reads ++ y.reads ++ n.reads
  | .lag _ m _ => m.reads
  | .window _ m _ _ => m.reads
  | .running _ m _ _ => m.reads
  | .iterateLag _ m _ => m.reads
  | .constant _ => []
  | .lookup _ => []
  | .multiLookup _ => []

def Metric.readsOfAll : List (Metric ν) → List Push
  | [] => []
  | m :: rest => m.reads ++ Metric.readsOfAll rest

def Filter.reads : Filter ν → List Push
  | .compare _ l r => l.reads ++ r.reads
  | .and l r => l.reads ++ r.reads
  | .or l r => l.reads ++ r.reads
  | .not f => f.reads
  | .constant _ => []
  | .termEquals _ => []
  | .termMatches _ => []
  | .isDefaultGroup _ => []

end

def pushSet (pushes : List Push) : List Push := orderedSet Push.less pushes

mutual

/-- Note for every push where its sums stand. -/
def Metric.register (index : Push → Option Nat) : Metric ν → EvaluationM (Metric ν)
  | .documents push _ =>
    match index push with
    | some i => .ok (.documents push (some i))
    | none => .error (.unregistered push.program)
  | .function f m => do pure (.function f (← m.register index))
  | .calculate op l r => do
    let l ← l.register index
    pure (.calculate op l (← r.register index))
  | .least ms => do pure (.least (← Metric.registerAll index ms))
  | .greatest ms => do pure (.greatest (← Metric.registerAll index ms))
  | .ifThenElse c y n => do
    let c ← c.register index
    let y ← y.register index
    pure (.ifThenElse c y (← n.register index))
  | .lag n m keys => do pure (.lag n (← m.register index) keys)
  | .window n m keys sums => do pure (.window n (← m.register index) keys sums)
  | .running n m keys sums => do pure (.running n (← m.register index) keys sums)
  | .iterateLag n m history => do pure (.iterateLag n (← m.register index) history)
  | .constant v => .ok (.constant v)
  | .lookup values => .ok (.lookup values)
  | .multiLookup columns => .ok (.multiLookup columns)

def Metric.registerAll (index : Push → Option Nat) :
    List (Metric ν) → EvaluationM (List (Metric ν))
  | [] => .ok []
  | m :: rest => do
    let m ← m.register index
    pure (m :: (← Metric.registerAll index rest))

def Filter.register (index : Push → Option Nat) : Filter ν → EvaluationM (Filter ν)
  | .compare op l r => do
    let l ← l.register index
    pure (.compare op l (← r.register index))
  | .and l r => do
    let l ← l.register index
    pure (.and l (← r.register index))
  | .or l r => do
    let l ← l.register index
    pure (.or l (← r.register index))
  | .not f => do pure (.not (← f.register index))
  | .constant b => .ok (.constant b)
  | .termEquals t => .ok (.termEquals t)
  | .termMatches p => .ok (.termMatches p)
  | .isDefaultGroup keys => .ok (.isDefaultGroup keys)

end

mutual

def Metric.needsSorted : Metric ν → Bool
  | .window .. => true
  | .running .. => true
  | .iterateLag .. => true
  | .ifThenElse c y n => c.needsSorted || y.needsSorted || n.needsSorted
  | .function _ m => m.needsSorted
  | .calculate _ l r => l.needsSorted || r.needsSorted
  | .least ms => Metric.someNeedSorted ms
  | .greatest ms => Metric.someNeedSorted ms
  | .lag _ m _ => m.needsSorted
  | .constant _ => false
  | .documents .. => false
  | .lookup _ => false
  | .multiLookup _ => false

def Metric.someNeedSorted : List (Metric ν) → Bool
  | [] => false
  | m :: rest => m.needsSorted || Metric.someNeedSorted rest

def Filter.needsSorted : Filter ν → Bool
  | .compare _ l r => l.needsSorted || r.needsSorted
  | .and l r => l.needsSorted || r.needsSorted
  | .or l r => l.needsSorted || r.needsSorted
  | .not f => f.needsSorted
  | .constant _ => false
  | .termEquals _ => false
  | .termMatches _ => false
  | .isDefaultGroup _ => false

end

/-- The number of columns that a metric gives. -/
def Metric.width : Metric ν → Nat
  | .multiLookup columns => columns.length
  | _ => 1

end Groupwise.Evaluation
