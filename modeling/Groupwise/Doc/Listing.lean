import Groupwise.Doc.Expression
import Groupwise.Decimal.Layout

/-!
# Listings of document expressions
-/
namespace Groupwise

/-- A number in a listing. -/
def Outline.float (x : Float) : Outline := .atom (Decimal.Layout.listing.write x)

namespace Doc

mutual

def Metric.outline : Metric → Outline
  | .field f => .tuple "Field" [f.outline]
  | .constant v => .tuple "Constant" [.int64 v]
  | .count => .atom "Count"
  | .docId => .atom "DocId"
  | .log m s => .record "Log" [("metric", m.outline), ("scale_factor", .int s)]
  | .exponentiate m s => .record "Exponentiate" [("metric", m.outline), ("scale_factor", .int s)]
  | .negate m => .tuple "Negate" [m.outline]
  | .abs m => .tuple "Abs" [m.outline]
  | .signum m => .tuple "Signum" [m.outline]
  | .add ms => .tuple "Add" [.list (Metric.outlineAll ms)]
  | .least ms => .tuple "Min" [.list (Metric.outlineAll ms)]
  | .greatest ms => .tuple "Max" [.list (Metric.outlineAll ms)]
  | .arithmetic op l r =>
    .record "Binary" [("op", .atom op.label), ("left", l.outline), ("right", r.outline)]
  | .compare op l r =>
    .record "Compare" [("op", .atom op.label), ("left", l.outline), ("right", r.outline)]
  | .ifThenElse c y n =>
    .record "IfThenElse" [("condition", c.outline), ("then", y.outline), ("otherwise", n.outline)]
  | .regex f p => .record "Regex" [("field", f.outline), ("pattern", .text p)]
  | .extract f p n =>
    .record "Extract" [("field", f.outline), ("pattern", .text p), ("group_number", .nat n)]
  | .hasInt f t => .record "HasInt" [("field", f.outline), ("term", .int64 t)]
  | .hasString f t => .record "HasString" [("field", f.outline), ("term", .text t)]
  | .hasIntField f => .tuple "HasIntField" [f.outline]
  | .hasStringField f => .tuple "HasStringField" [f.outline]
  | .fieldEqual f g => .record "FieldEqual" [("left", f.outline), ("right", g.outline)]
  | .floatScale f a b =>
    .record "FloatScale" [("field", f.outline), ("mult", .float a), ("add", .float b)]
  | .stringLength f => .tuple "StringLen" [f.outline]
  | .intTermCount f => .tuple "IntTermCount" [f.outline]
  | .stringTermCount f => .tuple "StrTermCount" [f.outline]
  | .lucene text queries =>
    .record "Lucene" [("query", .text text), ("per_dataset", .dictionary Query.outline queries)]
  | .qualified d m => .record "Qualified" [("dataset", .text d), ("metric", m.outline)]
  | .perDataset ms => .tuple "PerDataset" [.map (Metric.outlineEntries ms)]
  | .sample f i n d s =>
    .record "Sample" [("field", f.outline), ("is_int_field", .bool i), ("numerator", .nat n),
      ("denominator", .nat d), ("salt", .text s)]
  | .sampleMetric m n d s =>
    .record "SampleMetric" [("metric", m.outline), ("numerator", .nat n),
      ("denominator", .nat d), ("salt", .text s)]
  | .random f i n s =>
    .record "Random" [("field", f.outline), ("is_int_field", .bool i), ("max", .nat n),
      ("salt", .text s)]
  | .randomMetric m n s =>
    .record "RandomMetric" [("metric", m.outline), ("max", .nat n), ("salt", .text s)]

def Metric.outlineAll : List Metric → List Outline
  | [] => []
  | m :: rest => m.outline :: Metric.outlineAll rest

def Metric.outlineEntries : List (String × Metric) → List (Outline × Outline)
  | [] => []
  | (d, m) :: rest => (.text d, m.outline) :: Metric.outlineEntries rest

def Filter.outline : Filter → Outline
  | .fieldIs f t => .record "FieldIs" [("field", f.outline), ("term", t.outline)]
  | .fieldIsnt f t => .record "FieldIsnt" [("field", f.outline), ("term", t.outline)]
  | .between f a b i =>
    .record "Between" [("field", f.outline), ("lower", .int64 a), ("upper", .int64 b),
      ("is_upper_inclusive", .bool i)]
  | .compare op l r =>
    .record "Compare" [("op", .atom op.label), ("left", l.outline), ("right", r.outline)]
  | .and fs => .tuple "And" [.list (Filter.outlineAll fs)]
  | .or fs => .tuple "Or" [.list (Filter.outlineAll fs)]
  | .not f => .tuple "Not" [f.outline]
  | .regex f p => .record "Regex" [("field", f.outline), ("pattern", .text p)]
  | .notRegex f p => .record "NotRegex" [("field", f.outline), ("pattern", .text p)]
  | .fieldEqual f g => .record "FieldEqual" [("left", f.outline), ("right", g.outline)]
  | .qualified ds f => .record "Qualified" [("datasets", ds.outline), ("filter", f.outline)]
  | .lucene text queries =>
    .record "Lucene" [("query", .text text), ("per_dataset", .dictionary Query.outline queries)]
  | .sample f i n d s =>
    .record "Sample" [("field", f.outline), ("is_int_field", .bool i), ("numerator", .nat n),
      ("denominator", .nat d), ("seed", .text s)]
  | .sampleMetric m n d s =>
    .record "SampleDocMetric" [("metric", m.outline), ("numerator", .nat n),
      ("denominator", .nat d), ("seed", .text s)]
  | .stringIn f ts => .record "StringFieldIn" [("field", f.outline), ("terms", ts.outline)]
  | .intIn f ts =>
    .record "IntFieldIn" [("field", f.outline), ("terms", .set (ts.map .int64))]
  | .inQuery f q n =>
    .record "FieldInQuery" [("field", f.outline), ("query", .text q), ("is_negated", .bool n)]
  | .always => .atom "Always"
  | .never => .atom "Never"

def Filter.outlineAll : List Filter → List Outline
  | [] => []
  | f :: rest => f.outline :: Filter.outlineAll rest

end

end Doc

end Groupwise
