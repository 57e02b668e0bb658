import Groupwise.Operator
import Groupwise.Term

/-!
# Queries as they are written

The parts of a query with all names as they were typed. Expressions over documents and expressions
over groups are kept apart, as they are in the language.
-/
namespace Groupwise

structure ScopedName where
  scope : Option String := none
  name : String
  deriving Repr, DecidableEq, Inhabited

def ScopedName.display (n : ScopedName) : String :=
  match n.scope with
  | some scope => scope ++ "." ++ n.name
  | none => n.name

namespace Query

/-- A bound of the time that a query looks at. -/
inductive TimePoint where
  | absolute (text : String)
  /-- An amount of some unit before now. -/
  | ago (amount : Int64) (unit : Char)
  | now
  | today
  | yesterday
  deriving Repr, DecidableEq, Inhabited

inductive DocOperator where
  | add
  | arithmetic (op : Arithmetic)
  deriving Repr, DecidableEq, Inhabited

mutual

inductive DocMetric where
  | name (name : ScopedName)
  | int (value : Int64)
  | count
  | docId
  | negate (metric : DocMetric)
  | binary (op : DocOperator) (left right : DocMetric)
  | abs (metric : DocMetric)
  | signum (metric : DocMetric)
  | log (metric : DocMetric) (scale : Int)
  | exp (metric : DocMetric) (scale : Int)
  | min (metrics : List DocMetric)
  | max (metrics : List DocMetric)
  | hasInt (field : ScopedName) (term : Int64)
  | hasString (field : ScopedName) (term : String)
  | hasIntField (field : ScopedName)
  | hasStringField (field : ScopedName)
  | length (field : ScopedName)
  | intTermCount (field : ScopedName)
  | stringTermCount (field : ScopedName)
  | floatScale (field : ScopedName) (factor summand : Float)
  | extract (field : ScopedName) (pattern : String) (group : Nat)
  | ifThenElse (condition : DocFilter) (yes no : DocMetric)

inductive DocFilter where
  | fieldIs (field : ScopedName) (term : Term) (negated : Bool)
  | regex (field : ScopedName) (pattern : String) (negated : Bool)
  | fieldIn (field : ScopedName) (terms : List Term) (negated : Bool)
  /-- From the lower bound on and short of the upper one. -/
  | between (field : ScopedName) (lower upper : Int64)
  | compare (op : Comparison) (left right : DocMetric)
  | lucene (text : String)
  | sample (field : ScopedName) (numerator : Nat) (denominator : Option Nat)
      (seed : Option String)
  | bool (value : Bool)
  | and (filters : List DocFilter)
  | or (filters : List DocFilter)
  | not (filter : DocFilter)
  | qualified (datasets : List String) (filter : DocFilter)

end

instance : Inhabited DocMetric := ⟨.count⟩

instance : Inhabited DocFilter := ⟨.bool true⟩

mutual

inductive Metric where
  | number (value : Float)
  /-- A field, a dimension, or the name of another metric. -/
  | name (name : ScopedName)
  /-- A document metric summed over each group. -/
  | docSum (metric : DocMetric)
  | negate (metric : Metric)
  | binary (op : Calculation) (left right : Metric)
  | abs (metric : Metric)
  | log (metric : Metric)
  | floor (metric : Metric)
  | ceil (metric : Metric)
  | round (metric : Metric)
  | min (metrics : List Metric)
  | max (metrics : List Metric)
  | average (metric : Metric)
  | distinct (field : ScopedName) (having : Option Filter) (window : Option Nat)
  | percentile (field : ScopedName) (percentile : Float)
  | fieldMin (field : ScopedName) (metric : Option Metric)
  | fieldMax (field : ScopedName) (metric : Option Metric)
  | parent (metric : Metric)
  | lag (distance : Nat) (metric : Metric)
  | running (metric : Metric)
  | window (size : Nat) (metric : Metric)
  | sumAcross (grouping : Grouping) (metric : Metric)
  | ifThenElse (condition : Filter) (yes no : Metric)
  | qualified (datasets : List String) (metric : Metric)

inductive Filter where
  | compare (op : Comparison) (left right : Metric)
  | termIs (term : Term)
  | termRegex (pattern : String)
  | bool (value : Bool)
  | and (filters : List Filter)
  | or (filters : List Filter)
  | not (filter : Filter)

inductive Grouping where
  | field (field : ScopedName) (limit : Option Nat) (metric : Option Metric) (withDefault : Bool)
  | fieldIn (field : ScopedName) (terms : List Term) (withDefault : Bool)
  | bucket (metric : DocMetric) (min max interval : Int64) (excludeGutters withDefault : Bool)
  | time (period : String) (field : Option ScopedName) (format : Option String)
  | dayOfWeek
  | month
  | dataset
  | quantiles (field : ScopedName) (count : Nat)
  | predicate (filter : DocFilter)
  | random (field : ScopedName) (parts : Nat) (salt : Option String)

end

instance : Inhabited Metric := ⟨.number 0⟩

instance : Inhabited Filter := ⟨.bool true⟩

instance : Inhabited Grouping := ⟨.dayOfWeek⟩

structure From where
  name : String
  start : Option TimePoint := none
  finish : Option TimePoint := none
  label : Option String := none
  /-- Fields with other names for them. -/
  fieldAliases : List (String × String) := []
  deriving Inhabited

structure Stage where
  grouping : Grouping
  having : Option Filter := none
  label : Option String := none
  deriving Inhabited

structure Select where
  metric : Metric
  label : Option String := none
  format : Option String := none
  deriving Inhabited

end Query

structure Query where
  sources : List Query.From
  filter : Option Query.DocFilter := none
  stages : List Query.Stage := []
  selects : List Query.Select := []
  limit : Option Nat := none
  deriving Inhabited

end Groupwise
