import Groupwise.Doc.Listing
import Groupwise.Query.Basic

/-!
# Listings of queries
-/
namespace Groupwise

def ScopedName.outline (n : ScopedName) : Outline :=
  .record "ScopedName" [("scope", .option .text n.scope), ("name", .text n.name)]

namespace Query

def TimePoint.outline : TimePoint → Outline
  | .absolute text => .tuple "Absolute" [.text text]
  | .ago amount unit =>
    .record "Ago" [("amount", .int64 amount), ("unit", .atom (Text.quotedSingle unit))]
  | .now => .atom "Now"
  | .today => .atom "Today"
  | .yesterday => .atom "Yesterday"

def DocOperator.label : DocOperator → String
  | .add => "Add"
  | .arithmetic op => op.label

mutual

def DocMetric.outline : DocMetric → Outline
  | .name n => .tuple "Name" [n.outline]
  | .int v => .tuple "Int" [.int64 v]
  | .count => .atom "Count"
  | .docId => .atom "DocId"
  | .negate m => .tuple "Negate" [m.outline]
  | .binary op l r =>
    .record "Binary" [("op", .atom op.label), ("left", l.outline), ("right", r.outline)]
  | .abs m => .tuple "Abs" [m.outline]
  | .signum m => .tuple "Signum" [m.outline]
  | .log m s => .record "Log" [("metric", m.outline), ("scale_factor", .int s)]
  | .exp m s => .record "Exp" [("metric", m.outline), ("scale_factor", .int s)]
  | .min ms => .tuple "Min" [.list (DocMetric.outlineAll ms)]
  | .max ms => .tuple "Max" [.list (DocMetric.outlineAll ms)]
  | .hasInt f t => .record "HasInt" [("field", f.outline), ("term", .int64 t)]
  | .hasString f t => .record "HasStr" [("field", f.outline), ("term", .text t)]
  | .hasIntField f => .tuple "HasIntField" [f.outline]
  | .hasStringField f => .tuple "HasStrField" [f.outline]
  | .length f => .tuple "Len" [f.outline]
  | .intTermCount f => .tuple "IntTermCount" [f.outline]
  | .stringTermCount f => .tuple "StrTermCount" [f.outline]
  | .floatScale f a b =>
    .record "FloatScale" [("field", f.outline), ("mult", .float a), ("add", .float b)]
  | .extract f p n =>
    .record "Extract" [("field", f.outline), ("pattern", .text p), ("group_number", .nat n)]
  | .ifThenElse c y n =>
    .record "IfThenElse" [("condition", c.outline), ("then", y.outline), ("otherwise", n.outline)]

def DocMetric.outlineAll : List DocMetric → List Outline
  | [] => []
  | m :: rest => m.outline :: DocMetric.outlineAll rest

def DocFilter.outline : DocFilter → Outline
  | .fieldIs f t negated =>
    .record "FieldIs" [("field", f.outline), ("term", t.outline), ("negated", .bool negated)]
  | .regex f p negated =>
    .record "Regex" [("field", f.outline), ("pattern", .text p), ("negated", .bool negated)]
  | .fieldIn f ts negated =>
    .record "FieldIn" [("field", f.outline), ("terms", .list (ts.map Term.outline)),
      ("negated", .bool negated)]
  | .between f a b =>
    .record "Between" [("field", f.outline), ("lower", .int64 a), ("upper", .int64 b)]
  | .compare op l r =>
    .record "Compare" [("op", .atom op.label), ("left", l.outline), ("right", r.outline)]
  | .lucene text => .tuple "Lucene" [.text text]
  | .sample f n d seed =>
    .record "Sample" [("field", f.outline), ("numerator", .nat n),
      ("denominator", .option .nat d), ("seed", .option .text seed)]
  | .bool b => .tuple "Bool" [.bool b]
  | .and fs => .tuple "And" [.list (DocFilter.outlineAll fs)]
  | .or fs => .tuple "Or" [.list (DocFilter.outlineAll fs)]
  | .not f => .tuple "Not" [f.outline]
  | .qualified ds f =>
    .record "Qualified" [("datasets", .list (ds.map .text)), ("filter", f.outline)]

def DocFilter.outlineAll : List DocFilter → List Outline
  | [] => []
  | f :: rest => f.outline :: DocFilter.outlineAll rest

end

mutual

def Metric.outline : Metric → Outline
  | .number v => .tuple "Number" [.float v]
  | .name n => .tuple "Name" [n.outline]
  | .docSum m => .tuple "DocSum" [m.outline]
  | .negate m => .tuple "Negate" [m.outline]
  | .binary op l r =>
    .record "Binary" [("op", .atom op.label), ("left", l.outline), ("right", r.outline)]
  | .abs m => .tuple "Abs" [m.outline]
  | .log m => .tuple "Log" [m.outline]
  | .floor m => .tuple "Floor" [m.outline]
  | .ceil m => .tuple "Ceil" [m.outline]
  | .round m => .tuple "Round" [m.outline]
  | .min ms => .tuple "Min" [.list (Metric.outlineAll ms)]
  | .max ms => .tuple "Max" [.list (Metric.outlineAll ms)]
  | .average m => .tuple "Avg" [m.outline]
  | .distinct f having window =>
    .record "Distinct" [("field", f.outline), ("having", Filter.outlineOption having),
      ("window", .option .nat window)]
  | .percentile f p => .record "Percentile" [("field", f.outline), ("percentile", .float p)]
  | .fieldMin f m =>
    .record "FieldMin" [("field", f.outline), ("metric", Metric.outlineOption m)]
  | .fieldMax f m =>
    .record "FieldMax" [("field", f.outline), ("metric", Metric.outlineOption m)]
  | .parent m => .tuple "Parent" [m.outline]
  | .lag n m => .record "Lag" [("lag", .nat n), ("metric", m.outline)]
  | .running m => .tuple "Running" [m.outline]
  | .window n m => .record "Window" [("window", .nat n), ("metric", m.outline)]
  | .sumAcross g m => .record "SumAcross" [("group_by", g.outline), ("metric", m.outline)]
  | .ifThenElse c y n =>
    .record "IfThenElse" [("condition", c.outline), ("then", y.outline), ("otherwise", n.outline)]
  | .qualified ds m =>
    .record "Qualified" [("datasets", .list (ds.map .text)), ("metric", m.outline)]

def Metric.outlineAll : List Metric → List Outline
  | [] => []
  | m :: rest => m.outline :: Metric.outlineAll rest

def Metric.outlineOption : Option Metric → Outline
  | none => .atom "None"
  | some m => .tuple "Some" [m.outline]

def Filter.outline : Filter → Outline
  | .compare op l r =>
    .record "Compare" [("op", .atom op.label), ("left", l.outline), ("right", r.outline)]
  | .termIs t => .tuple "TermIs" [t.outline]
  | .termRegex p => .tuple "TermRegex" [.text p]
  | .bool b => .tuple "Bool" [.bool b]
  | .and fs => .tuple "And" [.list (Filter.outlineAll fs)]
  | .or fs => .tuple "Or" [.list (Filter.outlineAll fs)]
  | .not f => .tuple "Not" [f.outline]

def Filter.outlineAll : List Filter → List Outline
  | [] => []
  | f :: rest => f.outline :: Filter.outlineAll rest

def Filter.outlineOption : Option Filter → Outline
  | none => .atom "None"
  | some f => .tuple "Some" [f.outline]

def Grouping.outline : Grouping → Outline
  | .field f limit m withDefault =>
    .record "Field" [("field", f.outline), ("limit", .option .nat limit),
      ("metric", Metric.outlineOption m), ("with_default", .bool withDefault)]
  | .fieldIn f ts withDefault =>
    .record "FieldIn" [("field", f.outline), ("terms", .list (ts.map Term.outline)),
      ("with_default", .bool withDefault)]
  | .bucket m low high interval excludeGutters withDefault =>
    .record "Bucket" [("metric", m.outline), ("min", .int64 low), ("max", .int64 high),
      ("interval", .int64 interval), ("exclude_gutters", .bool excludeGutters),
      ("with_default", .bool withDefault)]
  | .time period f format =>
    .record "Time" [("period", .text period), ("field", .option ScopedName.outline f),
      ("format", .option .text format)]
  | .dayOfWeek => .atom "DayOfWeek"
  | .month => .atom "Month"
  | .dataset => .atom "Dataset"
  | .quantiles f n => .record "Quantiles" [("field", f.outline), ("num_buckets", .nat n)]
  | .predicate f => .tuple "Predicate" [f.outline]
  | .random f k salt =>
    .record "Random" [("field", f.outline), ("k", .nat k), ("salt", .option .text salt)]

end

def From.outline (f : From) : Outline :=
  .record "DatasetAst" [("name", .text f.name), ("start", .option TimePoint.outline f.start),
    ("end", .option TimePoint.outline f.finish), ("alias", .option .text f.label),
    ("field_aliases", .list (f.fieldAliases.map fun e => .tuple "" [.text e.1, .text e.2]))]

def Stage.outline (s : Stage) : Outline :=
  .record "GroupByEntryAst" [("group_by", s.grouping.outline),
    ("having", Filter.outlineOption s.having), ("alias", .option .text s.label)]

def Select.outline (s : Select) : Outline :=
  .record "SelectAst" [("metric", s.metric.outline), ("alias", .option .text s.label),
    ("format", .option .text s.format)]

end Query

def Query.outline (q : Query) : Outline :=
  .record "QueryAst" [("datasets", .list (q.sources.map Query.From.outline)),
    ("filter", .option Query.DocFilter.outline q.filter),
    ("group_bys", .list (q.stages.map Query.Stage.outline)),
    ("selects", .list (q.selects.map Query.Select.outline)), ("limit", .option .nat q.limit)]

end Groupwise
