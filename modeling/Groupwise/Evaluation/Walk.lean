import Groupwise.Evaluation.Metric

/-!
# Evaluation along a walk over terms

A walk visits one term of one group at a time. A visit gives the value of a metric together with the
metric as the next visit will find it, also when the value is an error.
-/
namespace Groupwise.Evaluation

variable {ν : Type} [Numeric ν]

/-- One step of a walk: a term, its group, and the sums of all pushes for that term. -/
structure Visit (ν : Type) where
  term : Term
  group : Nat
  sums : List ν

namespace Tally

variable {α : Type}

def find? (tally : Tally α) (group : Nat) : Option α :=
  (List.find? (·.1 == group) tally).map (·.2)

def insert (tally : Tally α) (group : Nat) (value : α) : Tally α :=
  (group, value) :: tally.filter (·.1 != group)

def sum (tally : Tally ν) (group : Nat) : ν := (tally.find? group).getD Numeric.zero

def add (tally : Tally ν) (group : Nat) (value : ν) : Tally ν :=
  tally.insert group (Numeric.add (tally.sum group) value)

end Tally

/-- Add a value to the windows that contain a group: they end in the groups from it on that have the
same parent. -/
def addToWindows (keys : GroupKeys) (size group : Nat) (value : ν) (sums : Tally ν) : Tally ν :=
  (List.range (keys.size + 1)).foldl (fun sums target =>
    if group ≤ target && target < group + size && keys.parent target == keys.parent group then
      sums.add target value
    else sums) sums

/-- Append a value to the history of a group, and give the one that falls out of it, or zero. -/
def delay (distance group : Nat) (value : ν) (history : Tally (List ν)) : ν × Tally (List ν) :=
  let seen := (history.find? group).getD [] ++ [value]
  if distance < seen.length then
    (seen.headD Numeric.zero, history.insert group seen.tail)
  else (Numeric.zero, history.insert group seen)

/-- Whether a term is the expected one, by number if both are numbers. -/
def sameTerm (expected actual : Term) : Bool :=
  match expected.toInt?, actual.toInt? with
  | some a, some b => a == b
  | _, _ => expected.spell == actual.spell

mutual

def Metric.visit (v : Visit ν) : Metric ν → EvaluationM ν × Metric ν
  | .constant x => (.ok x, .constant x)
  | .function f m =>
    let (x, m) := m.visit v
    (Numeric.apply f <$> x, .function f m)
  | .calculate op l r =>
    match l.visit v with
    | (.error e, l) => (.error e, .calculate op l r)
    | (.ok x, l) =>
      let (y, r) := r.visit v
      (Numeric.calculate op x <$> y, .calculate op l r)
  | .least ms =>
    let (x, ms) := Metric.visitAll Numeric.least v none ms
    (x, .least ms)
  | .greatest ms =>
    let (x, ms) := Metric.visitAll Numeric.greatest v none ms
    (x, .greatest ms)
  | .ifThenElse c y n =>
    match y.visit v with
    | (.error e, y) => (.error e, .ifThenElse c y n)
    | (.ok a, y) =>
      match n.visit v with
      | (.error e, n) => (.error e, .ifThenElse c y n)
      | (.ok b, n) =>
        let (t, c) := c.visit v
        ((fun t => if t then a else b) <$> t, .ifThenElse c y n)
  | .documents push index =>
    (match index.bind (v.sums[·]?) with
      | some x => .ok x
      | none => .error (.unregistered push.program), .documents push index)
  | .lookup values => (.ok (values.getD v.group Numeric.zero), .lookup values)
  | .multiLookup columns =>
    (.ok ((columns.headD []).getD v.group Numeric.zero), .multiLookup columns)
  | .lag distance m keys => (.error (.groupStatsOnly "ParentLag"), .lag distance m keys)
  | .window size m keys sums =>
    match m.visit v with
    | (.error e, m) => (.error e, .window size m keys sums)
    | (.ok x, m) =>
      let sums := addToWindows keys size v.group x sums
      (.ok (sums.sum v.group), .window size m keys sums)
  | .running offset m keys sums =>
    match m.visit v with
    | (.error e, m) => (.error e, .running offset m keys sums)
    | (.ok x, m) =>
      let sums := sums.add v.group x
      (.ok (sums.sum v.group), .running offset m keys sums)
  | .iterateLag distance m history =>
    match m.visit v with
    | (.error e, m) => (.error e, .iterateLag distance m history)
    | (.ok x, m) =>
      let (y, history) := delay distance v.group x history
      (.ok y, .iterateLag distance m history)

/-- Combine the values of some metrics; none at all give zero. -/
def Metric.visitAll (combine : ν → ν → ν) (v : Visit ν) :
    Option ν → List (Metric ν) → EvaluationM ν × List (Metric ν)
  | found, [] => (.ok (found.getD Numeric.zero), [])
  | found, m :: rest =>
    match m.visit v with
    | (.error e, m) => (.error e, m :: rest)
    | (.ok x, m) =>
      let (y, rest) := Metric.visitAll combine v (some (found.elim x (combine · x))) rest
      (y, m :: rest)

def Filter.visit (v : Visit ν) : Filter ν → EvaluationM Bool × Filter ν
  | .constant b => (.ok b, .constant b)
  | .compare op l r =>
    match l.visit v with
    | (.error e, l) => (.error e, .compare op l r)
    | (.ok x, l) =>
      let (y, r) := r.visit v
      (Numeric.compare op x <$> y, .compare op l r)
  | .and l r =>
    match l.visit v with
    | (.error e, l) => (.error e, .and l r)
    | (.ok x, l) =>
      let (y, r) := r.visit v
      ((x && ·) <$> y, .and l r)
  | .or l r =>
    match l.visit v with
    | (.error e, l) => (.error e, .or l r)
    | (.ok x, l) =>
      let (y, r) := r.visit v
      ((x || ·) <$> y, .or l r)
  | .not f =>
    let (x, f) := f.visit v
    ((!·) <$> x, .not f)
  | .termEquals t => (.ok (sameTerm t v.term), .termEquals t)
  | .termMatches p => (.ok (p.isMatch v.term.spell), .termMatches p)
  | .isDefaultGroup keys => (.ok (keys.isDefault v.group), .isDefaultGroup keys)

end

end Groupwise.Evaluation
