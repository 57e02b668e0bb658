import Groupwise.Aggregate.Listing
import Groupwise.Doc.Validation

/-!
# Validation of expressions over groups

Validation comes after all computations that need a walk over terms were taken out of an
expression, so what is left of those is a fault of the compilation.
-/
namespace Groupwise.Aggregate

variable {ν : Type} [Numeric ν]

mutual

/-- Whether a metric is a plain sum over documents. -/
def Metric.isSummedStats : Metric ν → Bool
  | .add ms => Metric.allSummedStats ms
  | .docStatsIn .. => true
  | _ => false

def Metric.allSummedStats : List (Metric ν) → Bool
  | [] => true
  | m :: rest => m.isSummedStats && Metric.allSummedStats rest

end

/-- The constant with which a plain sum is compared. -/
def comparedConstant? (left right : Metric ν) : Option ν :=
  match left, right with
  | .constant v, other => if other.isSummedStats then some v else none
  | other, .constant v => if other.isSummedStats then some v else none
  | _, _ => none

/-- Whoever compares a sum with a whole number other than zero mostly means the documents. -/
def warnOfEquality (filter : Filter ν) (left right : Metric ν) (found : Findings) : Findings :=
  match comparedConstant? left right with
  | none => found
  | some v =>
    if !Numeric.isWhole v || Numeric.isZero v then found
    else
      let text := toString (Numeric.truncate v).toInt
      let direction := if Numeric.isPositive v then ">" else "<"
      found.warn ("Comparison of aggregate to constant \"" ++ filter.display ++
        "\" is likely an error. If there are multiple documents with value " ++ text ++
        ", the sum will be " ++ direction ++ text ++ ".")

def notExtracted {α : Type} (m : Metric ν) : CompileM α :=
  .error (.internal ("Should be extracted by ExtractPrecomputed: " ++ m.display))

def notSubstituted {α : Type} (m : Metric ν) : CompileM α :=
  .error (.internal ("Named metrics should be substituted before validation: " ++ m.display))

mutual

/-- Check a metric in the datasets of a scope. -/
def Metric.check (schema : Schema) (scope : Names) : Metric ν → Findings → CompileM Findings
  | .docStats m, found => .ok (scope.foldl (fun found d => m.check schema d found) found)
  | .docStatsIn d m, found => .ok (m.check schema d found)
  | .ifThenElse c y n, found => do
    let found ← c.check schema scope found
    let found ← y.check schema scope found
    n.check schema scope found
  | .lag n m, found =>
    m.check schema scope (if n == 0 then found.error "Lag must be at least 1" else found)
  | .iterateLag n m, found =>
    m.check schema scope (if n == 0 then found.error "Lag must be at least 1" else found)
  | .window n m, found =>
    m.check schema scope (if n == 0 then found.error "Window size must be at least 1" else found)
  | .running _ m, found => m.check schema scope found
  | .add ms, found => Metric.checkAll schema scope ms found
  | .least ms, found => Metric.checkAll schema scope ms found
  | .greatest ms, found => Metric.checkAll schema scope ms found
  | .calculate _ l r, found => do r.check schema scope (← l.check schema scope found)
  | .function _ m, found => m.check schema scope found
  | .lookup _, found => .ok found
  | .multiLookup _, found => .ok found
  | .constant _, found => .ok found
  | .named m name, _ => notSubstituted (.named m name)
  | .reference name, _ => notSubstituted (ν := ν) (.reference name)
  | .distinct f x w, _ => notExtracted (.distinct f x w)
  | .percentile f p, _ => notExtracted (ν := ν) (.percentile f p)
  | .fieldMin f m x, _ => notExtracted (.fieldMin f m x)
  | .fieldMax f m x, _ => notExtracted (.fieldMax f m x)
  | .sumAcross g m, _ => notExtracted (.sumAcross g m)
  | .bootstrap f x s m n o, _ => notExtracted (.bootstrap f x s m n o)
  | .parent m, _ => notExtracted (.parent m)
  | .qualified ds m, _ => notExtracted (.qualified ds m)
  | .average m, _ => notExtracted (.average m)

def Metric.checkAll (schema : Schema) (scope : Names) :
    List (Metric ν) → Findings → CompileM Findings
  | [], found => .ok found
  | m :: rest, found => do Metric.checkAll schema scope rest (← m.check schema scope found)

/-- Check a filter in the datasets of a scope. -/
def Filter.check (schema : Schema) (scope : Names) : Filter ν → Findings → CompileM Findings
  | .termRegex p, found => .ok (Pattern.check p found)
  | .regex f p, found =>
    scope.foldlM (fun found d => do
      pure (schema.checkField d (← f.nameIn d) (Filter.regex (ν := ν) f p).display found))
      (Pattern.check p found)
  | .compare op l r, found => do
    let found := match op with
      | .eq => warnOfEquality (.compare op l r) l r found
      | .ne => warnOfEquality (.compare op l r) l r found
      | _ => found
    r.check schema scope (← l.check schema scope found)
  | .and fs, found => Filter.checkAll schema scope fs found
  | .or fs, found => Filter.checkAll schema scope fs found
  | .not f, found => f.check schema scope found
  | .termIs _, found => .ok found
  | .always, found => .ok found
  | .never, found => .ok found
  | .isDefaultGroup, found => .ok found

def Filter.checkAll (schema : Schema) (scope : Names) :
    List (Filter ν) → Findings → CompileM Findings
  | [], found => .ok found
  | f :: rest, found => do Filter.checkAll schema scope rest (← f.check schema scope found)

end

end Groupwise.Aggregate
