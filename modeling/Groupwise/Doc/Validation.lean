import Groupwise.Catalog
import Groupwise.Doc.Listing
import Groupwise.Pattern.Acceptance

/-!
# Validation of document expressions

An expression is checked in one dataset: its fields must exist there with the right type, and its
patterns must be regular expressions.
-/
namespace Groupwise

def Pattern.check (pattern : String) (found : Findings) : Findings :=
  match Pattern.read pattern with
  | .ok _ => found
  | .error refusal => found.error (Pattern.refusalMessage pattern refusal)

/-- Check the physical name of a field in a dataset, if it has one. -/
def FieldSet.check (dataset : String) (field : FieldSet)
    (check : String → Findings → Findings) (found : Findings) : Findings :=
  match field.nameIn dataset with
  | .ok name => check name found
  | .error e => found.error e.message

namespace Doc

def checkTyped (schema : Schema) (isIntField : Bool) (dataset field context : String) :
    Findings → Findings :=
  if isIntField then schema.checkIntField dataset field context
  else schema.checkStringField dataset field context

def Query.check (schema : Schema) (dataset : String) (q : Query) (found : Findings) : Findings :=
  q.fields.foldl
    (fun found f => checkTyped schema f.2 dataset f.1 "lucene query" found) found

def Query.checkEntry (schema : Schema) (dataset : String) (queries : List (String × Query))
    (found : Findings) : Findings :=
  match Dictionary.find? dataset queries with
  | some q => q.check schema dataset found
  | none => found.error ("Unknown dataset: " ++ dataset)

/-- Counting the integer terms of a string field is allowed but odd. -/
def checkIntTermCount (schema : Schema) (dataset : String) (field : FieldSet) (context : String)
    (name : String) (found : Findings) : Findings :=
  if schema.containsIntField dataset name then found
  else if schema.containsStringField dataset name then
    found.warn ("Suspicious use of INTTERMCOUNT. Did you mean STRTERMCOUNT? Using operator " ++
      "INTTERMCOUNT over string field \"" ++ field.display ++ "\" in dataset \"" ++ dataset ++
      "\". Only string terms that can be converted to integer value will be counted. If you " ++
      "want to get all terms count in a string field use STRTERMCOUNT operator instead")
  else found.error (Schema.missingField dataset name context)

/-- Counting the string terms of an integer field gives nothing. -/
def checkStringTermCount (schema : Schema) (dataset : String) (field : FieldSet)
    (context : String) (name : String) (found : Findings) : Findings :=
  if schema.containsStringField dataset name then found
  else if schema.containsIntField dataset name then
    found.warn ("Using operator STRTERMCOUNT over int field \"" ++ field.display ++
      "\" in dataset \"" ++ dataset ++ "\". Result is always zero.")
  else found.error (Schema.missingField dataset name context)

/-- Two fields that are compared must exist and share a type. -/
def checkComparable (schema : Schema) (dataset context : String) (left right : String)
    (found : Findings) : Findings :=
  let found := schema.checkField dataset left context found
  let found := schema.checkField dataset right context found
  let bothInt := schema.containsIntField dataset left && schema.containsIntField dataset right
  let bothString :=
    schema.containsStringField dataset left && schema.containsStringField dataset right
  if schema.containsField dataset left && schema.containsField dataset right && !bothInt &&
      !bothString then
    found.error ("Incompatible fields found in fieldequal: [" ++ left ++ "], [" ++ right ++ "]")
  else found

mutual

def Metric.check (schema : Schema) (dataset : String) : Metric → Findings → Findings
  | .field f, found =>
    f.check dataset (schema.checkIntField dataset · (Metric.field f).outline.compact) found
  | .constant _, found => found
  | .count, found => found
  | .docId, found => found
  | .log m _, found => m.check schema dataset found
  | .exponentiate m _, found => m.check schema dataset found
  | .negate m, found => m.check schema dataset found
  | .abs m, found => m.check schema dataset found
  | .signum m, found => m.check schema dataset found
  | .sampleMetric m _ _ _, found => m.check schema dataset found
  | .randomMetric m _ _, found => m.check schema dataset found
  | .add ms, found => Metric.checkAll schema dataset ms found
  | .least ms, found => Metric.checkAll schema dataset ms found
  | .greatest ms, found => Metric.checkAll schema dataset ms found
  | .arithmetic _ l r, found => r.check schema dataset (l.check schema dataset found)
  | .compare _ l r, found => r.check schema dataset (l.check schema dataset found)
  | .ifThenElse c y n, found =>
    n.check schema dataset (y.check schema dataset (c.check schema dataset found))
  | .regex f p, found =>
    Pattern.check p
      (f.check dataset (schema.checkField dataset · (Metric.regex f p).outline.compact) found)
  | .extract f p n, found =>
    Pattern.check p
      (f.check dataset (schema.checkField dataset · (Metric.extract f p n).outline.compact) found)
  | .hasInt f t, found =>
    f.check dataset (schema.checkField dataset · (Metric.hasInt f t).outline.compact) found
  | .hasString f t, found =>
    f.check dataset (schema.checkField dataset · (Metric.hasString f t).outline.compact) found
  | .hasIntField f, found =>
    f.check dataset (schema.checkField dataset · (Metric.hasIntField f).outline.compact) found
  | .hasStringField f, found =>
    f.check dataset (schema.checkField dataset · (Metric.hasStringField f).outline.compact) found
  | .stringLength f, found =>
    f.check dataset (schema.checkField dataset · (Metric.stringLength f).outline.compact) found
  | .fieldEqual l r, found =>
    let context := (Metric.fieldEqual l r).outline.compact
    r.check dataset (schema.checkField dataset · context)
      (l.check dataset (schema.checkField dataset · context) found)
  | .floatScale f a b, found =>
    f.check dataset (schema.checkStringField dataset · (Metric.floatScale f a b).outline.compact)
      found
  | .intTermCount f, found =>
    f.check dataset (checkIntTermCount schema dataset f (Metric.intTermCount f).outline.compact)
      found
  | .stringTermCount f, found =>
    f.check dataset
      (checkStringTermCount schema dataset f (Metric.stringTermCount f).outline.compact) found
  | .lucene _ queries, found => Query.checkEntry schema dataset queries found
  | .qualified d m, found =>
    m.check schema dataset
      (if d == dataset then found
       else found.error ("Qualified DocMetric getting validated against different dataset! [" ++
        d ++ "] != [" ++ dataset ++ "]"))
  | .perDataset ms, found => Metric.checkEntry schema dataset ms found
  | .sample f i n d s, found =>
    f.check dataset
      (checkTyped schema i dataset · (Metric.sample f i n d s).outline.compact) found
  | .random f i n s, found =>
    f.check dataset (checkTyped schema i dataset · (Metric.random f i n s).outline.compact) found

def Metric.checkAll (schema : Schema) (dataset : String) : List Metric → Findings → Findings
  | [], found => found
  | m :: rest, found => Metric.checkAll schema dataset rest (m.check schema dataset found)

def Metric.checkEntry (schema : Schema) (dataset : String) :
    List (String × Metric) → Findings → Findings
  | [], found => found.error ("Unknown dataset: " ++ dataset)
  | (d, m) :: rest, found =>
    if d == dataset then m.check schema dataset found
    else Metric.checkEntry schema dataset rest found

def Filter.check (schema : Schema) (dataset : String) : Filter → Findings → Findings
  | .fieldIs f t, found =>
    let context := (Filter.fieldIs f t).outline.compact
    f.check dataset (fun name =>
      if t.isInt then schema.checkField dataset name context
      else schema.checkStringField dataset name context) found
  | .fieldIsnt f t, found =>
    let context := (Filter.fieldIsnt f t).outline.compact
    f.check dataset (fun name =>
      if t.isInt then schema.checkField dataset name context
      else schema.checkStringField dataset name context) found
  | .between f a b i, found =>
    f.check dataset (schema.checkIntField dataset · (Filter.between f a b i).outline.compact) found
  | .intIn f ts, found =>
    f.check dataset (schema.checkIntField dataset · (Filter.intIn f ts).outline.compact) found
  | .stringIn f ts, found =>
    f.check dataset (schema.checkField dataset · (Filter.stringIn f ts).outline.compact) found
  | .inQuery f q n, found =>
    f.check dataset (schema.checkField dataset · (Filter.inQuery f q n).outline.compact) found
  | .compare _ l r, found => r.check schema dataset (l.check schema dataset found)
  | .and fs, found => Filter.checkAll schema dataset fs found
  | .or fs, found => Filter.checkAll schema dataset fs found
  | .not f, found => f.check schema dataset found
  | .regex f p, found =>
    Pattern.check p
      (f.check dataset (schema.checkField dataset · (Filter.regex f p).outline.compact) found)
  | .notRegex f p, found =>
    Pattern.check p
      (f.check dataset (schema.checkField dataset · (Filter.notRegex f p).outline.compact) found)
  | .fieldEqual l r, found =>
    let context := (Filter.fieldEqual l r).outline.compact
    match l.nameIn dataset, r.nameIn dataset with
    | .ok left, .ok right => checkComparable schema dataset context left right found
    | .error e, .ok _ => found.error e.message
    | .ok _, .error e => found.error e.message
    | .error e, .error e' => (found.error e.message).error e'.message
  | .qualified ds f, found =>
    if ds.contains dataset then f.check schema dataset found else found
  | .lucene _ queries, found => Query.checkEntry schema dataset queries found
  | .sample f i n d s, found =>
    f.check dataset (checkTyped schema i dataset · (Filter.sample f i n d s).outline.compact)
      (if d == 0 then found.error "Sample denominator must be positive" else found)
  | .sampleMetric m _ d _, found =>
    m.check schema dataset
      (if d == 0 then found.error "Sample denominator must be positive" else found)
  | .always, found => found
  | .never, found => found

def Filter.checkAll (schema : Schema) (dataset : String) : List Filter → Findings → Findings
  | [], found => found
  | f :: rest, found => Filter.checkAll schema dataset rest (f.check schema dataset found)

end

end Doc

end Groupwise
