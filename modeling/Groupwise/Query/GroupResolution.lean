import Groupwise.Aggregate.Stats
import Groupwise.Query.DocumentResolution

/-!
# Resolving expressions over groups

A bare name is another metric of the query if there is one, and the sum of a field or dimension
otherwise.
-/
namespace Groupwise

/-- A metric of a field, for the dataset that the field's name gives. -/
def ScopedName.qualifyAggregate {ν : Type} (n : ScopedName) (field : FieldSet)
    (m : Aggregate.Metric ν) : Aggregate.Metric ν :=
  if n.scope.isSome then m.qualify field else m

namespace Query

/-- Note a grouping that makes too many groups. -/
def checkGroupCount (r : Resolution) (groups : Nat) (what : String) : Reporting Unit := do
  if groups > r.settings.groupLimit then
    report (what ++ " would create " ++ toString groups ++ " groups, more than the limit of " ++
      toString r.settings.groupLimit)

def checkBuckets (r : Resolution) (min max interval : Int64) : Reporting Unit :=
  if interval ≤ 0 || max ≤ min then
    report ("Invalid bucket range: [" ++ toString min.toInt ++ ", " ++ toString max.toInt ++
      ") by " ++ toString interval.toInt)
  else
    checkGroupCount r
      (((max.toInt - min.toInt + interval.toInt - 1) / interval.toInt).toNat) "Bucketing"

def checkPercentile (percentile : Float) : Reporting Unit := do
  if !(0.0 ≤ percentile && percentile ≤ 100.0) then
    report ("Percentile must be between 0 and 100: " ++ Decimal.Layout.plain.write percentile)

/-- The amount and the unit of a period. An amount that is missing or too large counts as zero. -/
def splitPeriod (period : String) : Int64 × String :=
  let digits := period.toList.takeWhile Char.isDigit
  ((Decimal.readInt64? (String.ofList digits)).getD 0,
    String.ofList (period.toList.dropWhile Char.isDigit))

def unitMillis? : String → Option Int64
  | "s" => some 1000
  | "S" => some 1000
  | "m" => some 60000
  | "h" => some 3600000
  | "H" => some 3600000
  | "d" => some 86400000
  | "D" => some 86400000
  | "w" => some 604800000
  | "W" => some 604800000
  | _ => none

/-- A grouping by time: a number of buckets, calendar months, or periods of a fixed length. -/
def timeGrouping {ν : Type} (period : String) (field : Option FieldSet)
    (format : Option String) : Reporting (Aggregate.Grouping ν) := do
  let (amount, unit) := splitPeriod period
  let invalid := report ("Invalid time period: " ++ period)
  if amount ≤ 0 then
    invalid
  if unit == "b" || unit == "B" then
    let count := amount.toInt.toNat
    pure (.timeBuckets (if count < UInt32.size then count else 0) field format)
  else if unit == "M" && amount == 1 then
    pure (.month field format)
  else do
    if (unitMillis? unit).isNone then
      invalid
    pure (.time (max amount 1 * (unitMillis? unit).getD 86400000) field format false)

def termsGrouping {ν : Type} (name : ScopedName) (terms : List Term) (withDefault : Bool)
    (scope : Scope) : Reporting (Aggregate.Grouping ν) := do
  let field ← name.resolveField scope
  if scope.isIntField field then
    pure (.termsIn field (← name.fittingTerms report terms) [] withDefault)
  else
    pure (.termsIn field [] (terms.map (·.spell)) withDefault)

def randomGrouping {ν : Type} (name : ScopedName) (parts : Nat) (salt : Option String)
    (scope : Scope) : Reporting (Aggregate.Grouping ν) := do
  if parts == 0 then
    report "Random grouping needs at least one bucket"
  let field ← name.resolveField scope
  pure (.random field (scope.isIntField field) parts (salt.getD ""))

/-- The sum of a named field or dimension, or a reference to another metric. -/
def resolveName (r : Resolution) (scope : Scope) (name : ScopedName) :
    Reporting (Aggregate.Metric Float) :=
  match if name.scope.isNone then scope.resolver.metricName? name.name else none with
  | some metric => pure (.reference metric)
  | none => do pure (.docStats (← name.resolveMetric r scope))

def operate (op : Calculation) (left right : Aggregate.Metric Float) : Aggregate.Metric Float :=
  match op with
  | .add => .sum [left, right]
  | op => .calculate op left right

/-- Optional fields are resolved when they are given. -/
def resolveOptionalField (scope : Scope) : Option ScopedName → Reporting (Option FieldSet)
  | none => pure none
  | some name => do pure (some (← name.resolveField scope))

mutual

def Metric.resolve (r : Resolution) (scope : Scope) : Metric → Reporting (Aggregate.Metric Float)
  | .number value => pure (.constant value)
  | .name name => resolveName r scope name
  | .docSum m => do pure (.docStats (← m.resolve r scope))
  | .negate m => do pure (.function .negate (← m.resolve r scope))
  | .binary op left right => do
    let left ← left.resolve r scope
    let right ← right.resolve r scope
    pure (operate op left right)
  | .abs m => do pure (.function .abs (← m.resolve r scope))
  | .log m => do pure (.function .log (← m.resolve r scope))
  | .floor m => do pure (.function .floor (← m.resolve r scope))
  | .ceil m => do pure (.function .ceil (← m.resolve r scope))
  | .round m => do pure (.function .round (← m.resolve r scope))
  | .min ms => do pure (.least (← Metric.resolveAll r scope ms))
  | .max ms => do pure (.greatest (← Metric.resolveAll r scope ms))
  | .average m => do pure (.average (← m.resolve r scope))
  | .distinct name having window => do
    let field ← name.resolveField scope
    let having ← Filter.resolveOption r scope having
    pure (name.qualifyAggregate field (.distinct field having window))
  | .percentile name percentile => do
    checkPercentile percentile
    let field ← name.resolveField scope
    pure (name.qualifyAggregate field (.percentile field percentile))
  | .fieldMin name metric => do
    let field ← name.resolveField scope
    let metric ← Metric.resolveOption r scope metric
    pure (name.qualifyAggregate field (.fieldMin field metric none))
  | .fieldMax name metric => do
    let field ← name.resolveField scope
    let metric ← Metric.resolveOption r scope metric
    pure (name.qualifyAggregate field (.fieldMax field metric none))
  | .parent m => do pure (.parent (← m.resolve r scope))
  | .lag distance m => do pure (.lag distance (← m.resolve r scope))
  | .running m => do pure (.running 1 (← m.resolve r scope))
  | .window size m => do
    if size == 0 then
      report "Window size must be positive"
    pure (.window size (← m.resolve r scope))
  | .sumAcross grouping m => do
    let grouping ← grouping.resolve r scope
    pure (.sumAcross grouping (← m.resolve r scope))
  | .ifThenElse condition yes no => do
    let condition ← condition.resolve r scope
    let yes ← yes.resolve r scope
    let no ← no.resolve r scope
    pure (.ifThenElse condition yes no)
  | .qualified datasets m => do
    let names ← resolveDatasets scope datasets
    let inner ← m.resolve r (scope.narrow names)
    pure (if (scope.narrow names).restricted then .qualified names inner else inner)

def Metric.resolveAll (r : Resolution) (scope : Scope) :
    List Metric → Reporting (List (Aggregate.Metric Float))
  | [] => pure []
  | m :: rest => do
    let m ← m.resolve r scope
    pure (m :: (← Metric.resolveAll r scope rest))

def Metric.resolveOption (r : Resolution) (scope : Scope) :
    Option Metric → Reporting (Option (Aggregate.Metric Float))
  | none => pure none
  | some m => do pure (some (← m.resolve r scope))

def Filter.resolve (r : Resolution) (scope : Scope) : Filter → Reporting (Aggregate.Filter Float)
  | .compare op left right => do
    let left ← left.resolve r scope
    let right ← right.resolve r scope
    pure (.compare op left right)
  | .termIs term => pure (.termIs term)
  | .termRegex pattern => do
    checkPattern pattern
    pure (.termRegex pattern)
  | .bool true => pure .always
  | .bool false => pure .never
  | .and fs => do pure (.all (← Filter.resolveAll r scope fs))
  | .or fs => do pure (.any (← Filter.resolveAll r scope fs))
  | .not f => do pure (.not (← f.resolve r scope))

def Filter.resolveAll (r : Resolution) (scope : Scope) :
    List Filter → Reporting (List (Aggregate.Filter Float))
  | [] => pure []
  | f :: rest => do
    let f ← f.resolve r scope
    pure (f :: (← Filter.resolveAll r scope rest))

def Filter.resolveOption (r : Resolution) (scope : Scope) :
    Option Filter → Reporting (Option (Aggregate.Filter Float))
  | none => pure none
  | some f => do pure (some (← f.resolve r scope))

def Grouping.resolve (r : Resolution) (scope : Scope) :
    Grouping → Reporting (Aggregate.Grouping Float)
  | .field name limit metric withDefault => do
    if let some limit := limit then
      checkGroupCount r limit ("Grouping by " ++ name.display)
    let field ← name.resolveField scope
    let metric ← Metric.resolveOption r scope metric
    pure (.topTerms field none limit metric withDefault)
  | .fieldIn name terms withDefault => termsGrouping name terms withDefault scope
  | .bucket m min max interval excludeGutters withDefault => do
    checkBuckets r min max interval
    pure (.buckets (← m.resolve r scope) min max interval excludeGutters withDefault)
  | .time period name format => do
    timeGrouping period (← resolveOptionalField scope name) format
  | .dayOfWeek => pure .dayOfWeek
  | .month => pure (.month none none)
  | .dataset => pure .sessionName
  | .quantiles name count => do pure (.quantiles (← name.resolveField scope) count)
  | .predicate f => do pure (.predicate (← f.resolve r scope))
  | .random name parts salt => randomGrouping name parts salt scope

end

end Query

end Groupwise
