import Groupwise.Doc.Query
import Groupwise.FieldSet
import Groupwise.Operator

/-!
# Expressions over documents

A document metric gives one integer for each document and a document filter a truth value. Metrics
may test filters and filters may compare metrics, so the two are defined together. Sums, extremes,
conjunctions and disjunctions have constructors that merge nested ones of the same kind and fold
constant operands.
-/
namespace Groupwise.Doc

mutual

/-- An integer for each document. -/
inductive Metric where
  | field (field : FieldSet)
  | constant (value : Int64)
  | count
  | docId
  | log (metric : Metric) (scale : Int)
  | exponentiate (metric : Metric) (scale : Int)
  | negate (metric : Metric)
  | abs (metric : Metric)
  | signum (metric : Metric)
  | add (terms : List Metric)
  | least (terms : List Metric)
  | greatest (terms : List Metric)
  | arithmetic (op : Arithmetic) (left right : Metric)
  /-- One where the comparison holds and zero elsewhere. -/
  | compare (op : Comparison) (left right : Metric)
  | ifThenElse (condition : Filter) (yes no : Metric)
  | regex (field : FieldSet) (pattern : String)
  | extract (field : FieldSet) (pattern : String) (group : Nat)
  | hasInt (field : FieldSet) (term : Int64)
  | hasString (field : FieldSet) (term : String)
  | hasIntField (field : FieldSet)
  | hasStringField (field : FieldSet)
  | fieldEqual (left right : FieldSet)
  | floatScale (field : FieldSet) (factor summand : Float)
  | stringLength (field : FieldSet)
  | intTermCount (field : FieldSet)
  | stringTermCount (field : FieldSet)
  /-- An embedded index query, resolved in each dataset. -/
  | lucene (text : String) (queries : List (String × Query))
  /-- Has a meaning in one dataset only. -/
  | qualified (dataset : String) (metric : Metric)
  | perDataset (metrics : List (String × Metric))
  | sample (field : FieldSet) (isIntField : Bool) (numerator denominator : Nat) (salt : String)
  | sampleMetric (metric : Metric) (numerator denominator : Nat) (salt : String)
  /-- A hash in the range from one to the maximum. -/
  | random (field : FieldSet) (isIntField : Bool) (maximum : Nat) (salt : String)
  | randomMetric (metric : Metric) (maximum : Nat) (salt : String)

inductive Filter where
  | fieldIs (field : FieldSet) (term : Term)
  | fieldIsnt (field : FieldSet) (term : Term)
  /-- From the lower bound on, up to the upper bound or short of it. -/
  | between (field : FieldSet) (lower upper : Int64) (isUpperInclusive : Bool)
  | compare (op : Comparison) (left right : Metric)
  | and (filters : List Filter)
  | or (filters : List Filter)
  | not (filter : Filter)
  | regex (field : FieldSet) (pattern : String)
  | notRegex (field : FieldSet) (pattern : String)
  | fieldEqual (left right : FieldSet)
  | qualified (datasets : Names) (filter : Filter)
  | lucene (text : String) (queries : List (String × Query))
  | sample (field : FieldSet) (isIntField : Bool) (numerator denominator : Nat) (seed : String)
  | sampleMetric (metric : Metric) (numerator denominator : Nat) (seed : String)
  | stringIn (field : FieldSet) (terms : Names)
  | intIn (field : FieldSet) (terms : List Int64)
  /-- Membership in the terms that another query finds. -/
  | inQuery (field : FieldSet) (query : String) (isNegated : Bool)
  | always
  | never

end

instance : Inhabited Metric := ⟨.count⟩

instance : Inhabited Filter := ⟨.always⟩

namespace Metric

def subtract (left right : Metric) : Metric := .arithmetic .subtract left right

def multiply (left right : Metric) : Metric := .arithmetic .multiply left right

/-- The terms of a list with nested sums opened up once. -/
def addends : List Metric → List Metric
  | [] => []
  | .add inner :: rest => inner ++ addends rest
  | m :: rest => m :: addends rest

def constant? : Metric → Option Int64
  | .constant value => some value
  | .count => some 1
  | _ => none

def literal? : Metric → Option Int64
  | .constant value => some value
  | _ => none

/-- Terms joined by additions. No terms give zero, and a single one stands for itself. -/
def ofTerms : List Metric → Metric
  | [] => .constant 0
  | [m] => m
  | terms => .add terms

/-- A sum in which nested sums are merged and constants are added up, wrapping around, behind the
other terms. -/
def sum (metrics : List Metric) : Metric :=
  let terms := addends metrics
  let constant := (terms.filterMap constant?).foldl (· + ·) 0
  let others := terms.filter (·.constant?.isNone)
  ofTerms (others ++ (if constant == 0 then [] else [.constant constant]))

inductive Extreme where
  | min | max
  deriving Repr, DecidableEq

def Extreme.pick : Extreme → Int64 → Int64 → Int64
  | .min, a, b => if a ≤ b then a else b
  | .max, a, b => if a ≤ b then b else a

def Extreme.make : Extreme → List Metric → Metric
  | .min, terms => .least terms
  | .max, terms => .greatest terms

/-- The terms of a list with nested extremes of the same kind opened up once. -/
def operands (kind : Extreme) : List Metric → List Metric
  | [] => []
  | .least inner :: rest =>
    (match kind with | .min => inner | .max => [.least inner]) ++ operands kind rest
  | .greatest inner :: rest =>
    (match kind with | .max => inner | .min => [.greatest inner]) ++ operands kind rest
  | m :: rest => m :: operands kind rest

/-- The extreme of a list of constants, if it has any. -/
def extremeConstant? (kind : Extreme) : List Int64 → Option Int64
  | [] => none
  | v :: rest => some (rest.foldl kind.pick v)

/-- An extreme in which nested ones of the same kind are merged and constants are folded into one
behind the other terms; nothing at all gives zero. -/
def extreme (kind : Extreme) (metrics : List Metric) : Metric :=
  let terms := operands kind metrics
  let others := terms.filter (·.constant?.isNone)
  match others ++ ((extremeConstant? kind (terms.filterMap constant?)).map .constant).toList with
  | [] => .constant 0
  | [m] => m
  | all => kind.make all

def minimum (metrics : List Metric) : Metric := extreme .min metrics

def maximum (metrics : List Metric) : Metric := extreme .max metrics

/-- Whether the metric is a comparison, which is one or zero and has a form as a filter. -/
def isZeroOne : Metric → Bool
  | .compare .. => true
  | _ => false

def toFilter? : Metric → Option Filter
  | .compare op left right => some (.compare op left right)
  | _ => none

/-- The comparison that is one exactly where this one is zero. -/
def invert? : Metric → Option Metric
  | .compare op left right => some (.compare op.negate left right)
  | _ => none

end Metric

namespace Filter

def isAlways : Filter → Bool
  | .always => true
  | _ => false

def isNever : Filter → Bool
  | .never => true
  | _ => false

def conjuncts : List Filter → List Filter
  | [] => []
  | .and inner :: rest => inner ++ conjuncts rest
  | f :: rest => f :: conjuncts rest

def disjuncts : List Filter → List Filter
  | [] => []
  | .or inner :: rest => inner ++ disjuncts rest
  | f :: rest => f :: disjuncts rest

/-- Filters that must all hold. No filters always do, and a single one stands for itself. -/
def ofConjuncts : List Filter → Filter
  | [] => .always
  | [f] => f
  | fs => .and fs

def ofDisjuncts : List Filter → Filter
  | [] => .never
  | [f] => f
  | fs => .or fs

/-- A conjunction in which nested ones are merged and constants are absorbed. -/
def all (filters : List Filter) : Filter :=
  let kept := conjuncts filters
  if kept.any isNever then .never else ofConjuncts (kept.filter (!·.isAlways))

def any (filters : List Filter) : Filter :=
  let kept := disjuncts filters
  if kept.any isAlways then .always else ofDisjuncts (kept.filter (!·.isNever))

/-- The test of a field for a term fitted to the field's type. An integer field never has a term
that is no integer. -/
def isTerm (field : FieldSet) (term : Term) (isIntField : Bool) : Filter :=
  match term.fit? isIntField with
  | some term => .fieldIs field term
  | none => .never

def isntTerm (field : FieldSet) (term : Term) (isIntField : Bool) : Filter :=
  match term.fit? isIntField with
  | some term => .fieldIsnt field term
  | none => .always

end Filter

end Groupwise.Doc
