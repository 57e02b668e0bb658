import Groupwise.Doc.Pushes
import Groupwise.Doc.Simplify

/-!
# Meaning of document expressions

A document is known by the answers to questions about its fields, which go by their physical names,
and an engine computes with the integers read off it. On a document a metric has a value, and an
index query or a filter holds or fails. All integers are words that wrap around.
-/
namespace Groupwise.Doc

/-- A question about a document that is answered by yes or no. -/
inductive Test where
  | hasInt (name : String) (term : Int64)
  | hasString (name term : String)
  | hasIntField (name : String)
  | hasStringField (name : String)
  | regex (name pattern : String)
  | fieldEqual (left right : String)
  deriving DecidableEq

/-- A question about a document that is answered by an integer. -/
inductive Measure where
  | field (name : String)
  | docId
  | extract (name pattern : String) (group : Nat)
  | floatScale (name : String) (factor summand : Float)
  | stringLength (name : String)
  | intTermCount (name : String)
  | stringTermCount (name : String)
  /-- The bucket into which the hash of a field falls. -/
  | bucket (name : String) (isIntField : Bool) (bounds salt : String)

/-- What an engine does with integers beside adding, subtracting, multiplying and comparing them. -/
structure Engine where
  divide : Int64 → Int64 → Int64
  modulus : Int64 → Int64 → Int64
  log : (scale : Int) → Int64 → Int64
  exponentiate : (scale : Int) → Int64 → Int64
  /-- The bucket into which the hash of an integer falls, by the text of the bounds and the salt. -/
  bucket : (text : String) → Int64 → Int64
  /-- Whether the hash of an integer falls into a share of all hashes. -/
  sampled : (share : Float) → (seed : String) → Int64 → Bool

/-- The engine that computes what constants are folded to, zero where they are not, and has a single
bucket. -/
def Engine.standard : Engine where
  divide l r := (Arithmetic.divide.apply l r).getD 0
  modulus l r := (Arithmetic.modulus.apply l r).getD 0
  log scale v := logOfConstant v scale
  exponentiate scale v := expOfConstant v scale
  bucket _ _ := 1
  sampled _ _ _ := true

/-- A document as an engine knows it. -/
structure Document where
  dataset : String
  engine : Engine
  passes : Test → Bool
  reads : Measure → Int64
  /-- Whether some term of a field lies between two terms that are not both integers. -/
  inTextRange : (start stop : FieldTerm) → (isMaxInclusive : Bool) → Bool
  /-- Whether the hash of a field falls into a share of all hashes. -/
  sampled : (name : String) → (share : Float) → (seed : String) → Bool
  /-- Whether some term of a field is among those that another query finds. -/
  foundBy : (name query : String) → Bool

/-- A document that answers all questions of a kind alike. -/
def Document.uniform (dataset : String) (passed : Bool) (v : Int64) : Document where
  dataset := dataset
  engine := .standard
  passes _ := passed
  reads _ := v
  inTextRange _ _ _ := passed
  sampled _ _ _ := passed
  foundBy _ _ := passed

/-- One for yes and zero for no. -/
def bit (b : Bool) : Int64 := if b then 1 else 0

/-- The distance from zero, which for the least word is that word. -/
def magnitude (v : Int64) : Int64 := if v < 0 then -v else v

/-- The sum of some integers. -/
def total (vs : List Int64) : Int64 := vs.foldr (· + ·) 0

/-- The extreme of some integers, zero if there are none. -/
def Metric.Extreme.among (kind : Extreme) (vs : List Int64) : Int64 :=
  (extremeConstant? kind vs).getD 0

/-- Whether an integer lies in a range. -/
def liesIn (lower upper : Int64) (inclusive : Bool) (v : Int64) : Bool :=
  Comparison.gte.holds v lower && (if inclusive then Comparison.lte else .lt).holds v upper

/-- The bounds of buckets and a salt as they are written. -/
def bucketText (bounds salt : String) : String := "[" ++ bounds ++ "] \"" ++ salt ++ "\""

/-- A share of all hashes. -/
def share (numerator denominator : Nat) : Float := floatOfNat numerator / floatOfNat denominator

def Engine.calculate (engine : Engine) : Arithmetic → Int64 → Int64 → Int64
  | .subtract, l, r => l - r
  | .multiply, l, r => l * r
  | .divide, l, r => engine.divide l r
  | .modulus, l, r => engine.modulus l r

namespace Document

/-- The physical name of a field. -/
def name (doc : Document) (field : FieldSet) : String :=
  (field.names.find? doc.dataset).getD ""

/-- The integer that a field has. -/
def int (doc : Document) (field : FieldSet) : Int64 := doc.reads (.field (doc.name field))

def hasTerm (doc : Document) (name : String) : Term → Bool
  | .int v _ => doc.passes (.hasInt name v)
  | .string s => doc.passes (.hasString name s)

end Document

mutual

/-- Whether an index query selects a document. -/
def Query.holds (doc : Document) : Query → Bool
  | .term start => doc.hasTerm start.field start.toTerm
  | .boolean .and operands => Query.holdAll doc operands
  | .boolean .or operands => Query.holdSome doc operands
  | .boolean .not operands => !Query.holdAll doc operands
  | .range start stop inclusive =>
    match start.intTerm, stop.intTerm, start.isIntField with
    | some lower, some upper, true =>
      liesIn lower upper inclusive (doc.reads (.field start.field))
    | _, _, _ => doc.inTextRange start stop inclusive

def Query.holdAll (doc : Document) : List Query → Bool
  | [] => true
  | q :: rest => q.holds doc && Query.holdAll doc rest

def Query.holdSome (doc : Document) : List Query → Bool
  | [] => false
  | q :: rest => q.holds doc || Query.holdSome doc rest

end

/-- Whether the query that is given for the document's dataset selects the document. -/
def Document.selectedBy (doc : Document) (queries : List (String × Query)) : Bool :=
  (Dictionary.find? doc.dataset queries).any (·.holds doc)

mutual

/-- The value of a metric on a document. -/
def Metric.value (doc : Document) : Metric → Int64
  | .field f => doc.int f
  | .constant v => v
  | .count => 1
  | .docId => doc.reads .docId
  | .log m scale => doc.engine.log scale (m.value doc)
  | .exponentiate m scale => doc.engine.exponentiate scale (m.value doc)
  | .negate m => -m.value doc
  | .abs m => magnitude (m.value doc)
  | .signum m => signOf (m.value doc)
  | .add ms => total (Metric.values doc ms)
  | .least ms => Metric.Extreme.min.among (Metric.values doc ms)
  | .greatest ms => Metric.Extreme.max.among (Metric.values doc ms)
  | .arithmetic op l r => doc.engine.calculate op (l.value doc) (r.value doc)
  | .compare op l r => bit (op.holds (l.value doc) (r.value doc))
  | .ifThenElse c y n => if c.holds doc then y.value doc else n.value doc
  | .regex f pattern => bit (doc.passes (.regex (doc.name f) pattern))
  | .extract f pattern group => doc.reads (.extract (doc.name f) pattern group)
  | .hasInt f term => bit (doc.passes (.hasInt (doc.name f) term))
  | .hasString f term => bit (doc.passes (.hasString (doc.name f) term))
  | .hasIntField f => bit (doc.passes (.hasIntField (doc.name f)))
  | .hasStringField f => bit (doc.passes (.hasStringField (doc.name f)))
  | .fieldEqual f g => bit (doc.passes (.fieldEqual (doc.name f) (doc.name g)))
  | .floatScale f a b => doc.reads (.floatScale (doc.name f) a b)
  | .stringLength f => doc.reads (.stringLength (doc.name f))
  | .intTermCount f => doc.reads (.intTermCount (doc.name f))
  | .stringTermCount f => doc.reads (.stringTermCount (doc.name f))
  | .lucene _ queries => bit (doc.selectedBy queries)
  | .qualified _ m => m.value doc
  | .perDataset ms => Metric.valueOfEntry doc ms
  | .sample f isInt n d salt => doc.reads (.bucket (doc.name f) isInt (fractionText n d) salt)
  | .sampleMetric m n d salt => doc.engine.bucket (bucketText (fractionText n d) salt) (m.value doc)
  | .random f isInt n salt => doc.reads (.bucket (doc.name f) isInt (bucketBounds n) salt)
  | .randomMetric m n salt => doc.engine.bucket (bucketText (bucketBounds n) salt) (m.value doc)

def Metric.values (doc : Document) : List Metric → List Int64
  | [] => []
  | m :: rest => m.value doc :: Metric.values doc rest

/-- The value of the metric that is given for the document's dataset. -/
def Metric.valueOfEntry (doc : Document) : List (String × Metric) → Int64
  | [] => 0
  | (d, m) :: rest => if d == doc.dataset then m.value doc else Metric.valueOfEntry doc rest

/-- Whether a filter holds on a document. One that concerns other datasets only does. -/
def Filter.holds (doc : Document) : Filter → Bool
  | .fieldIs f term => doc.hasTerm (doc.name f) term
  | .fieldIsnt f term => !doc.hasTerm (doc.name f) term
  | .between f lower upper inclusive => liesIn lower upper inclusive (doc.int f)
  | .compare op l r => op.holds (l.value doc) (r.value doc)
  | .and fs => Filter.holdAll doc fs
  | .or fs => Filter.holdSome doc fs
  | .not f => !f.holds doc
  | .regex f pattern => doc.passes (.regex (doc.name f) pattern)
  | .notRegex f pattern => !doc.passes (.regex (doc.name f) pattern)
  | .fieldEqual f g => doc.passes (.fieldEqual (doc.name f) (doc.name g))
  | .qualified datasets f => !datasets.contains doc.dataset || f.holds doc
  | .lucene _ queries => doc.selectedBy queries
  | .sample f _ n d seed => doc.sampled (doc.name f) (share n d) seed
  | .sampleMetric m n d seed => doc.engine.sampled (share n d) seed (m.value doc)
  | .stringIn f terms => terms.any fun t => doc.passes (.hasString (doc.name f) t)
  | .intIn f terms => terms.any fun t => doc.passes (.hasInt (doc.name f) t)
  | .inQuery f query isNegated => doc.foundBy (doc.name f) query != isNegated
  | .always => true
  | .never => false

def Filter.holdAll (doc : Document) : List Filter → Bool
  | [] => true
  | f :: rest => f.holds doc && Filter.holdAll doc rest

def Filter.holdSome (doc : Document) : List Filter → Bool
  | [] => false
  | f :: rest => f.holds doc || Filter.holdSome doc rest

end

/-! ## Answers about fields -/

theorem Document.name_eq {doc : Document} {field : FieldSet} {name : String}
    (h : field.nameIn doc.dataset = .ok name) : doc.name field = name := by
  unfold FieldSet.nameIn at h
  rw [Document.name]
  split at h
  · rename_i found hf
    rw [hf]
    exact Except.ok.inj h
  · simp at h

theorem Document.hasTerm_ofTerm (doc : Document) (name : String) (t : Term) :
    doc.hasTerm (FieldTerm.ofTerm name t).field (FieldTerm.ofTerm name t).toTerm =
      doc.hasTerm name t := by
  cases t <;> rfl

theorem Document.selectedBy_of_find {doc : Document} {queries : List (String × Query)} {q : Query}
    (h : Dictionary.find? doc.dataset queries = some q) : doc.selectedBy queries = q.holds doc := by
  rw [selectedBy, h, Option.any_some]

/-! ## Parts of an expression -/

theorem Query.holdAll_eq_all (doc : Document) (qs : List Query) :
    Query.holdAll doc qs = qs.all (·.holds doc) := by
  induction qs with
  | nil => rfl
  | cons q qs ih => rw [holdAll, ih, List.all_cons]

theorem Query.holdSome_eq_any (doc : Document) (qs : List Query) :
    Query.holdSome doc qs = qs.any (·.holds doc) := by
  induction qs with
  | nil => rfl
  | cons q qs ih => rw [holdSome, ih, List.any_cons]

theorem Metric.values_eq_map (doc : Document) (ms : List Metric) :
    Metric.values doc ms = ms.map (·.value doc) := by
  induction ms with
  | nil => rfl
  | cons m ms ih => rw [values, ih, List.map_cons]

theorem Filter.holdAll_eq_all (doc : Document) (fs : List Filter) :
    Filter.holdAll doc fs = fs.all (·.holds doc) := by
  induction fs with
  | nil => rfl
  | cons f fs ih => rw [holdAll, ih, List.all_cons]

theorem Filter.holdSome_eq_any (doc : Document) (fs : List Filter) :
    Filter.holdSome doc fs = fs.any (·.holds doc) := by
  induction fs with
  | nil => rfl
  | cons f fs ih => rw [holdSome, ih, List.any_cons]

end Groupwise.Doc
