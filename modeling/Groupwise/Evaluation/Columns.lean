import Groupwise.Evaluation.Metric

/-!
# Evaluation of whole columns

A column holds one number for each group, with one unused place in front for group zero. The table
of sums has one column for each push.
-/
namespace Groupwise.Evaluation

variable {ν : Type} [Numeric ν]

/-- A column of the given number of groups; places that the values do not reach are zero. -/
def column (count : Nat) (values : List ν) : List ν :=
  (List.range (count + 1)).map fun g => values.getD g Numeric.zero

/-- The value of each group is that of a group before it, if both have the same parent. -/
def lagColumn (keys : GroupKeys) (distance count : Nat) (inner : List ν) : List ν :=
  (List.range (count + 1)).map fun g =>
    if distance < g && keys.parent (g - distance) == keys.parent g then
      inner.getD (g - distance) Numeric.zero
    else Numeric.zero

/-- The sum over a window of groups that moves along the groups of one parent. -/
structure Sliding (ν : Type) where
  parent : Nat
  sum : ν
  seen : Nat

/-- Move the window on to a group: the value of the group comes in, and the one that is now too far
back goes out. -/
def Sliding.step (keys : GroupKeys) (size : Nat) (inner : List ν) (group : Nat) (value : ν)
    (window : Option (Sliding ν)) : Sliding ν :=
  let parent := keys.parent group
  let (sum, seen) := match window with
    | some w => if w.parent == parent then (w.sum, w.seen) else (Numeric.zero, 0)
    | none => (Numeric.zero, 0)
  let sum := Numeric.add sum value
  let seen := seen + 1
  let sum := if size < seen then Numeric.subtract sum (inner.getD (group - size) Numeric.zero) else sum
  { parent, sum, seen }

def slidingSums (keys : GroupKeys) (size : Nat) (inner : List ν) :
    Nat → Option (Sliding ν) → List ν → List ν
  | _, _, [] => []
  | group, window, value :: rest =>
    let window := Sliding.step keys size inner group value window
    window.sum :: slidingSums keys size inner (group + 1) (some window) rest

def windowColumn (keys : GroupKeys) (size : Nat) : List ν → List ν
  | [] => []
  | first :: rest => Numeric.zero :: slidingSums keys size (first :: rest) 1 none rest

structure Partial (ν : Type) where
  group : Nat
  parent : Nat
  sum : ν

/-- The sums up to each of the groups from the given one on, the last one first. -/
def partialSums (keys : GroupKeys) : Nat → List ν → List (Partial ν) → List (Partial ν)
  | _, [], sums => sums
  | group, value :: rest, sums =>
    let parent := keys.parent group
    let before := (sums.find? (·.parent == parent)).elim Numeric.zero (·.sum)
    partialSums keys (group + 1) rest (⟨group, parent, Numeric.add before value⟩ :: sums)

/-- The value of each group is the sum up to the group that lies `offset - 1` places behind it. -/
def runningColumn (keys : GroupKeys) (offset : Int64) (count : Nat) (inner : List ν) : List ν :=
  let sums := partialSums keys 1 inner.tail []
  Numeric.zero :: (List.range count).map fun i =>
    let group : Nat := i + 1
    let last : Int := (group : Int) + offset.toInt - 1
    (sums.find? fun s => s.parent == keys.parent group && decide ((s.group : Int) ≤ last)).elim
      Numeric.zero (·.sum)

/-- Combine columns place by place; no columns at all give zeros. -/
def combineColumns (combine : ν → ν → ν) (count : Nat) : List (List ν) → List ν
  | [] => column count []
  | first :: rest => rest.foldl (List.zipWith combine) first

mutual

def Metric.column (table : List (List ν)) (count : Nat) : Metric ν → EvaluationM (List ν)
  | .constant v => .ok (List.replicate (count + 1) v)
  | .function f m => do pure ((← m.column table count).map (Numeric.apply f))
  | .calculate op l r => do
    let l ← l.column table count
    pure (List.zipWith (Numeric.calculate op) l (← r.column table count))
  | .least ms => do
    pure (combineColumns Numeric.least count (← Metric.columns table count ms))
  | .greatest ms => do
    pure (combineColumns Numeric.greatest count (← Metric.columns table count ms))
  | .ifThenElse c y n => do
    let c ← c.column table count
    let y ← y.column table count
    let n ← n.column table count
    pure (List.zipWith (fun b v => if b then v.1 else v.2) c (y.zip n))
  | .documents push index =>
    match index.bind (table[·]?) with
    | some sums => .ok (Evaluation.column count sums)
    | none => .error (.unregistered push.program)
  | .lookup values => .ok (Evaluation.column count values)
  | .multiLookup columns => .ok (Evaluation.column count (columns.headD []))
  | .lag distance m keys => do
    pure (lagColumn keys distance count (← m.column table count))
  | .window size m keys _ => do pure (windowColumn keys size (← m.column table count))
  | .running offset m keys _ => do
    pure (runningColumn keys offset count (← m.column table count))
  | .iterateLag .. => .error (.iterationOnly "IterateLag")

def Metric.columns (table : List (List ν)) (count : Nat) :
    List (Metric ν) → EvaluationM (List (List ν))
  | [] => .ok []
  | m :: rest => do
    let m ← m.column table count
    pure (m :: (← Metric.columns table count rest))

def Filter.column (table : List (List ν)) (count : Nat) : Filter ν → EvaluationM (List Bool)
  | .constant b => .ok (List.replicate (count + 1) b)
  | .compare op l r => do
    let l ← l.column table count
    pure (List.zipWith (Numeric.compare op) l (← r.column table count))
  | .and l r => do
    let l ← l.column table count
    pure (List.zipWith (· && ·) l (← r.column table count))
  | .or l r => do
    let l ← l.column table count
    pure (List.zipWith (· || ·) l (← r.column table count))
  | .not f => do pure ((← f.column table count).map (!·))
  | .termEquals _ => .error (.iterationOnly "term filter")
  | .termMatches _ => .error (.iterationOnly "term filter")
  | .isDefaultGroup keys => .ok ((List.range (count + 1)).map keys.isDefault)

end

def indexIn (pushes : List Push) (push : Push) : Option Nat := pushes.idxOf? push

/-- The columns of a metric that was registered: one for each result of a look-up of several. -/
def Metric.output (table : List (List ν)) (count : Nat) : Metric ν → EvaluationM (List (List ν))
  | .multiLookup columns => .ok (columns.map (Evaluation.column count))
  | m => do pure [← m.column table count]

def outputs (pushes : List Push) (table : List (List ν)) (count : Nat) (metrics : List (Metric ν)) :
    EvaluationM (List (List ν)) := do
  let columns ← metrics.mapM fun m => do
    (← m.register (indexIn pushes)).output table count
  pure columns.flatten

/-- The columns of some metrics. Every push is asked for once, even if several metrics read it. What
is asked may keep account of the questions. -/
def evaluate {m : Type → Type} [Monad m] [MonadLiftT EvaluationM m] (metrics : List (Metric ν))
    (ask : Push → m (List ν)) (count : Nat) : m (List (List ν)) := do
  let pushes := pushSet (metrics.flatMap Metric.reads)
  let table ← pushes.mapM ask
  liftM (outputs pushes table count metrics)

end Groupwise.Evaluation
