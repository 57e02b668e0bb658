import Groupwise.Doc.Expression

/-!
# Equality of document expressions

Expressions are compared part by part. Field sets are the same when they name the same physical
fields, and numbers are the same when they compare as equal.
-/
namespace Groupwise.Doc

mutual

def Metric.beq : Metric → Metric → Bool
  | .field f, .field g => f == g
  | .constant v, .constant w => v == w
  | .count, .count => true
  | .docId, .docId => true
  | .log m s, .log n t => Metric.beq m n && s == t
  | .exponentiate m s, .exponentiate n t => Metric.beq m n && s == t
  | .negate m, .negate n => Metric.beq m n
  | .abs m, .abs n => Metric.beq m n
  | .signum m, .signum n => Metric.beq m n
  | .add ms, .add ns => Metric.beqAll ms ns
  | .least ms, .least ns => Metric.beqAll ms ns
  | .greatest ms, .greatest ns => Metric.beqAll ms ns
  | .arithmetic o l r, .arithmetic p m s => o == p && Metric.beq l m && Metric.beq r s
  | .compare o l r, .compare p m s => o == p && Metric.beq l m && Metric.beq r s
  | .ifThenElse c y n, .ifThenElse d z o =>
    Filter.beq c d && Metric.beq y z && Metric.beq n o
  | .regex f p, .regex g q => f == g && p == q
  | .extract f p n, .extract g q m => f == g && p == q && n == m
  | .hasInt f t, .hasInt g u => f == g && t == u
  | .hasString f t, .hasString g u => f == g && t == u
  | .hasIntField f, .hasIntField g => f == g
  | .hasStringField f, .hasStringField g => f == g
  | .fieldEqual f g, .fieldEqual h i => f == h && g == i
  | .floatScale f a b, .floatScale g c d => f == g && a == c && b == d
  | .stringLength f, .stringLength g => f == g
  | .intTermCount f, .intTermCount g => f == g
  | .stringTermCount f, .stringTermCount g => f == g
  | .lucene t q, .lucene u r => t == u && q == r
  | .qualified d m, .qualified e n => d == e && Metric.beq m n
  | .perDataset ms, .perDataset ns => Metric.beqEntries ms ns
  | .sample f i n d s, .sample g j m e t => f == g && i == j && n == m && d == e && s == t
  | .sampleMetric m n d s, .sampleMetric k l e t => Metric.beq m k && n == l && d == e && s == t
  | .random f i n s, .random g j m t => f == g && i == j && n == m && s == t
  | .randomMetric m n s, .randomMetric k l t => Metric.beq m k && n == l && s == t
  | _, _ => false

def Metric.beqAll : List Metric → List Metric → Bool
  | [], [] => true
  | m :: ms, n :: ns => Metric.beq m n && Metric.beqAll ms ns
  | _, _ => false

def Metric.beqEntries : List (String × Metric) → List (String × Metric) → Bool
  | [], [] => true
  | (d, m) :: ms, (e, n) :: ns => d == e && Metric.beq m n && Metric.beqEntries ms ns
  | _, _ => false

def Filter.beq : Filter → Filter → Bool
  | .fieldIs f t, .fieldIs g u => f == g && t == u
  | .fieldIsnt f t, .fieldIsnt g u => f == g && t == u
  | .between f a b i, .between g c d j => f == g && a == c && b == d && i == j
  | .compare o l r, .compare p m s => o == p && Metric.beq l m && Metric.beq r s
  | .and fs, .and gs => Filter.beqAll fs gs
  | .or fs, .or gs => Filter.beqAll fs gs
  | .not f, .not g => Filter.beq f g
  | .regex f p, .regex g q => f == g && p == q
  | .notRegex f p, .notRegex g q => f == g && p == q
  | .fieldEqual f g, .fieldEqual h i => f == h && g == i
  | .qualified d f, .qualified e g => d == e && Filter.beq f g
  | .lucene t q, .lucene u r => t == u && q == r
  | .sample f i n d s, .sample g j m e t => f == g && i == j && n == m && d == e && s == t
  | .sampleMetric m n d s, .sampleMetric k l e t => Metric.beq m k && n == l && d == e && s == t
  | .stringIn f t, .stringIn g u => f == g && t == u
  | .intIn f t, .intIn g u => f == g && t == u
  | .inQuery f q n, .inQuery g r m => f == g && q == r && n == m
  | .always, .always => true
  | .never, .never => true
  | _, _ => false

def Filter.beqAll : List Filter → List Filter → Bool
  | [], [] => true
  | f :: fs, g :: gs => Filter.beq f g && Filter.beqAll fs gs
  | _, _ => false

end

instance : BEq Metric := ⟨Metric.beq⟩

instance : BEq Filter := ⟨Filter.beq⟩

end Groupwise.Doc
