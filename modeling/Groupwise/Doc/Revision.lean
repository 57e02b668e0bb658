import Groupwise.Doc.Expression

/-!
# Revisions of document expressions

A revision visits the parts of an expression first and then the node that was rebuilt from them.
Sums, extremes, conjunctions and disjunctions are rebuilt by their merging constructors.
-/
namespace Groupwise.Doc

mutual

/-- Revise metrics by `g` and filters by `i`, innermost first. -/
def Metric.revise (g : Metric → Metric) (i : Filter → Filter) : Metric → Metric
  | .log m s => g (.log (m.revise g i) s)
  | .exponentiate m s => g (.exponentiate (m.revise g i) s)
  | .negate m => g (.negate (m.revise g i))
  | .abs m => g (.abs (m.revise g i))
  | .signum m => g (.signum (m.revise g i))
  | .add ms => g (Metric.sum (Metric.reviseAll g i ms))
  | .least ms => g (Metric.minimum (Metric.reviseAll g i ms))
  | .greatest ms => g (Metric.maximum (Metric.reviseAll g i ms))
  | .arithmetic op l r => g (.arithmetic op (l.revise g i) (r.revise g i))
  | .compare op l r => g (.compare op (l.revise g i) (r.revise g i))
  | .ifThenElse c y n => g (.ifThenElse (c.revise g i) (y.revise g i) (n.revise g i))
  | .qualified d m => g (.qualified d (m.revise g i))
  | .perDataset ms => g (.perDataset (Metric.reviseEntries g i ms))
  | .sampleMetric m n d s => g (.sampleMetric (m.revise g i) n d s)
  | .randomMetric m n s => g (.randomMetric (m.revise g i) n s)
  | .field f => g (.field f)
  | .constant v => g (.constant v)
  | .count => g .count
  | .docId => g .docId
  | .regex f p => g (.regex f p)
  | .extract f p n => g (.extract f p n)
  | .hasInt f t => g (.hasInt f t)
  | .hasString f t => g (.hasString f t)
  | .hasIntField f => g (.hasIntField f)
  | .hasStringField f => g (.hasStringField f)
  | .fieldEqual l r => g (.fieldEqual l r)
  | .floatScale f a b => g (.floatScale f a b)
  | .stringLength f => g (.stringLength f)
  | .intTermCount f => g (.intTermCount f)
  | .stringTermCount f => g (.stringTermCount f)
  | .lucene t q => g (.lucene t q)
  | .sample f i n d s => g (.sample f i n d s)
  | .random f i n s => g (.random f i n s)

def Metric.reviseAll (g : Metric → Metric) (i : Filter → Filter) : List Metric → List Metric
  | [] => []
  | m :: rest => m.revise g i :: Metric.reviseAll g i rest

def Metric.reviseEntries (g : Metric → Metric) (i : Filter → Filter) :
    List (String × Metric) → List (String × Metric)
  | [] => []
  | (d, m) :: rest => (d, m.revise g i) :: Metric.reviseEntries g i rest

def Filter.revise (g : Metric → Metric) (i : Filter → Filter) : Filter → Filter
  | .compare op l r => i (.compare op (l.revise g i) (r.revise g i))
  | .and fs => i (Filter.all (Filter.reviseAll g i fs))
  | .or fs => i (Filter.any (Filter.reviseAll g i fs))
  | .not f => i (.not (f.revise g i))
  | .qualified ds f => i (.qualified ds (f.revise g i))
  | .sampleMetric m n d s => i (.sampleMetric (m.revise g i) n d s)
  | .fieldIs f t => i (.fieldIs f t)
  | .fieldIsnt f t => i (.fieldIsnt f t)
  | .between f a b inclusive => i (.between f a b inclusive)
  | .regex f p => i (.regex f p)
  | .notRegex f p => i (.notRegex f p)
  | .fieldEqual l r => i (.fieldEqual l r)
  | .lucene t q => i (.lucene t q)
  | .sample f isInt n d s => i (.sample f isInt n d s)
  | .stringIn f ts => i (.stringIn f ts)
  | .intIn f ts => i (.intIn f ts)
  | .inQuery f q n => i (.inQuery f q n)
  | .always => i .always
  | .never => i .never

def Filter.reviseAll (g : Metric → Metric) (i : Filter → Filter) : List Filter → List Filter
  | [] => []
  | f :: rest => f.revise g i :: Filter.reviseAll g i rest

end

end Groupwise.Doc
