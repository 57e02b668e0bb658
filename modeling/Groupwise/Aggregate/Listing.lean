import Groupwise.Aggregate.Expression
import Groupwise.Doc.Listing
import Groupwise.Doc.Pushes

/-!
# Text of expressions over groups

The listing shows the structure of an expression. The display is its text in commands and messages.
-/
namespace Groupwise.Aggregate

variable {ν : Type} [Numeric ν]

mutual

def Metric.outline : Metric ν → Outline
  | .add ms => .tuple "Add" [.list (Metric.outlineAll ms)]
  | .calculate op l r =>
    .record "Binary" [("op", .atom op.label), ("left", l.outline), ("right", r.outline)]
  | .function f m => .tuple f.label [m.outline]
  | .docStats m => .tuple "DocStats" [m.outline]
  | .docStatsIn d m => .record "DocStatsPushes" [("dataset", .text d), ("metric", m.outline)]
  | .parent m => .tuple "Parent" [m.outline]
  | .lag n m => .record "Lag" [("lag", .nat n), ("metric", m.outline)]
  | .iterateLag n m => .record "IterateLag" [("lag", .nat n), ("metric", m.outline)]
  | .window n m => .record "Window" [("window", .nat n), ("metric", m.outline)]
  | .running n m => .record "Running" [("offset", .int64 n), ("metric", m.outline)]
  | .distinct f x w =>
    .record "Distinct" [("field", f.outline), ("filter", Filter.outlineOption x),
      ("window", .option .nat w)]
  | .percentile f p => .record "Percentile" [("field", f.outline), ("percentile", .float p)]
  | .fieldMin f m x =>
    .record "FieldMin" [("field", f.outline), ("metric", Metric.outlineOption m),
      ("filter", Filter.outlineOption x)]
  | .fieldMax f m x =>
    .record "FieldMax" [("field", f.outline), ("metric", Metric.outlineOption m),
      ("filter", Filter.outlineOption x)]
  | .sumAcross g m => .record "SumAcross" [("group_by", g.outline), ("metric", m.outline)]
  | .lookup name => .tuple "GroupStatsLookup" [.text name]
  | .multiLookup names => .tuple "GroupStatsMultiLookup" [.list (names.map .text)]
  | .ifThenElse c y n =>
    .record "IfThenElse" [("condition", c.outline), ("then", y.outline), ("otherwise", n.outline)]
  | .least ms => .tuple "Min" [.list (Metric.outlineAll ms)]
  | .greatest ms => .tuple "Max" [.list (Metric.outlineAll ms)]
  | .qualified ds m => .record "Qualified" [("datasets", ds.outline), ("metric", m.outline)]
  | .named m name => .record "Named" [("metric", m.outline), ("name", .text name)]
  | .reference name => .tuple "NeedsSubstitution" [.text name]
  | .bootstrap f x seed m n outputs =>
    .record "Bootstrap" [("field", f.outline), ("filter", Filter.outlineOption x),
      ("seed", .text seed), ("metric", m.outline), ("num_bootstraps", .nat n),
      ("varargs", .list (outputs.map .text))]
  | .constant v => .tuple "Constant" [.atom (Numeric.listing v)]
  | .average m => .tuple "DivideByCount" [m.outline]

def Metric.outlineAll : List (Metric ν) → List Outline
  | [] => []
  | m :: rest => m.outline :: Metric.outlineAll rest

def Metric.outlineOption : Option (Metric ν) → Outline
  | none => .atom "None"
  | some m => .tuple "Some" [m.outline]

def Filter.outline : Filter ν → Outline
  | .termIs t => .tuple "TermIs" [t.outline]
  | .termRegex p => .tuple "TermRegex" [.text p]
  | .compare op l r =>
    .record "Compare" [("op", .atom op.label), ("left", l.outline), ("right", r.outline)]
  | .and fs => .tuple "And" [.list (Filter.outlineAll fs)]
  | .or fs => .tuple "Or" [.list (Filter.outlineAll fs)]
  | .not f => .tuple "Not" [f.outline]
  | .regex f p => .record "Regex" [("field", f.outline), ("pattern", .text p)]
  | .always => .atom "Always"
  | .never => .atom "Never"
  | .isDefaultGroup => .atom "IsDefaultGroup"

def Filter.outlineAll : List (Filter ν) → List Outline
  | [] => []
  | f :: rest => f.outline :: Filter.outlineAll rest

def Filter.outlineOption : Option (Filter ν) → Outline
  | none => .atom "None"
  | some f => .tuple "Some" [f.outline]

def Grouping.outline : Grouping ν → Outline
  | .buckets m min max interval excludeGutters withDefault =>
    .record "Metric" [("metric", m.outline), ("min", .int64 min), ("max", .int64 max),
      ("interval", .int64 interval), ("exclude_gutters", .bool excludeGutters),
      ("with_default", .bool withDefault)]
  | .time period f format relative =>
    .record "Time" [("period_millis", .int64 period), ("field", .option FieldSet.outline f),
      ("format", .option .text format), ("relative", .bool relative)]
  | .timeBuckets n f format =>
    .record "TimeBuckets" [("num_buckets", .nat n), ("field", .option FieldSet.outline f),
      ("format", .option .text format)]
  | .month f format =>
    .record "Month" [("field", .option FieldSet.outline f), ("format", .option .text format)]
  | .termsIn f ints strings withDefault =>
    .record "FieldIn" [("field", f.outline), ("int_terms", .list (ints.map .int64)),
      ("string_terms", .list (strings.map .text)), ("with_default", .bool withDefault)]
  | .terms f x limit m withDefault =>
    .record "Field" [("field", f.outline), ("filter", Filter.outlineOption x),
      ("limit", .option .nat limit), ("metric", Metric.outlineOption m),
      ("with_default", .bool withDefault)]
  | .dayOfWeek => .atom "DayOfWeek"
  | .sessionName => .atom "SessionName"
  | .quantiles f n => .record "Quantiles" [("field", f.outline), ("num_buckets", .nat n)]
  | .predicate f => .record "Predicate" [("filter", f.outline)]
  | .random f i k salt =>
    .record "Random" [("field", f.outline), ("is_int_field", .bool i), ("k", .nat k),
      ("salt", .text salt)]
  | .randomMetric m k salt =>
    .record "RandomMetric" [("metric", m.outline), ("k", .nat k), ("salt", .text salt)]

end

/-- The text of a document metric summed in one dataset: its program, or its listing if it has
none. -/
def displayStatsIn (dataset : String) (m : Doc.Metric) : String :=
  match m.pushes dataset with
  | .ok pushes => dataset ++ ".[" ++ " ".intercalate pushes ++ "]"
  | .error _ => dataset ++ ".[" ++ m.outline.compact ++ "]"

mutual

def Metric.display : Metric ν → String
  | .add ms => "(" ++ " + ".intercalate (Metric.displayAll ms) ++ ")"
  | .calculate op l r => "(" ++ l.display ++ " " ++ op.symbol ++ " " ++ r.display ++ ")"
  | .function f m => f.write m.display
  | .docStats m => "[" ++ m.outline.compact ++ "]"
  | .docStatsIn d m => displayStatsIn d m
  | .parent m => "parent(" ++ m.display ++ ")"
  | .lag n m => "lag(" ++ toString n ++ ", " ++ m.display ++ ")"
  | .iterateLag n m => "iterate_lag(" ++ toString n ++ ", " ++ m.display ++ ")"
  | .window n m => "window(" ++ toString n ++ ", " ++ m.display ++ ")"
  | .running n m => "running(" ++ toString n.toInt ++ ", " ++ m.display ++ ")"
  | .distinct f x w =>
    "distinct(" ++ f.display ++ Filter.displayHaving x ++
      (w.elim "" fun n => ", window " ++ toString n) ++ ")"
  | .percentile f p =>
    "percentile(" ++ f.display ++ ", " ++ Decimal.Layout.plain.write p ++ ")"
  | .fieldMin f m _ => "field_min(" ++ f.display ++ Metric.displayBy m ++ ")"
  | .fieldMax f m _ => "field_max(" ++ f.display ++ Metric.displayBy m ++ ")"
  | .sumAcross g m => "sum_across(" ++ g.outline.compact ++ ", " ++ m.display ++ ")"
  | .lookup name => "lookup(" ++ name ++ ")"
  | .multiLookup names => "lookup(" ++ ", ".intercalate names ++ ")"
  | .ifThenElse c y n => "if " ++ c.display ++ " then " ++ y.display ++ " else " ++ n.display
  | .least ms => "min(" ++ ", ".intercalate (Metric.displayAll ms) ++ ")"
  | .greatest ms => "max(" ++ ", ".intercalate (Metric.displayAll ms) ++ ")"
  | .qualified ds m => "[" ++ ", ".intercalate ds ++ "]." ++ m.display
  | .named m name => m.display ++ " as " ++ name
  | .reference name => name
  | .bootstrap f _ seed m n _ =>
    "bootstrap(" ++ f.display ++ ", " ++ m.display ++ ", \"" ++ seed ++ "\", " ++ toString n ++ ")"
  | .constant v => Numeric.plain v
  | .average m => "avg(" ++ m.display ++ ")"

def Metric.displayAll : List (Metric ν) → List String
  | [] => []
  | m :: rest => m.display :: Metric.displayAll rest

def Metric.displayBy : Option (Metric ν) → String
  | none => ""
  | some m => " by " ++ m.display

def Filter.display : Filter ν → String
  | .termIs t => "term() = " ++ t.spell
  | .termRegex p => "term() =~ \"" ++ p ++ "\""
  | .compare op l r => l.display ++ " " ++ op.symbol ++ " " ++ r.display
  | .and fs => "(" ++ " and ".intercalate (Filter.displayAll fs) ++ ")"
  | .or fs => "(" ++ " or ".intercalate (Filter.displayAll fs) ++ ")"
  | .not f => "not(" ++ f.display ++ ")"
  | .regex f p => f.display ++ " =~ \"" ++ p ++ "\""
  | .always => "true"
  | .never => "false"
  | .isDefaultGroup => "is_default_group()"

def Filter.displayAll : List (Filter ν) → List String
  | [] => []
  | f :: rest => f.display :: Filter.displayAll rest

def Filter.displayHaving : Option (Filter ν) → String
  | none => ""
  | some f => " having " ++ f.display

end

end Groupwise.Aggregate
