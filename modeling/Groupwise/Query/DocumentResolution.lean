import Groupwise.Configuration.Basic
import Groupwise.Doc.Qualification
import Groupwise.Doc.Validation
import Groupwise.Lucene.Reader
import Groupwise.Query.Text
import Groupwise.Resolver

/-!
# Resolving document expressions

The names of a document expression are resolved in a scope. A dimension is replaced by the
expression that it stands for in each dataset; such expressions may use further dimensions, but
none that is being expanded already. So the depth of the expansion is at most the number of
dimensions there are.
-/
namespace Groupwise

structure Resolution where
  settings : Settings
  /-- The metric that a dimension stands for in a scope. -/
  expand : String → Scope → Reporting Doc.Metric

namespace ScopedName

def scopeWithin (n : ScopedName) (scope : Scope) : Reporting Scope :=
  match n.scope with
  | none => pure scope
  | some typed => do pure (scope.narrow [← scope.dataset typed])

def isDimension (n : ScopedName) (scope : Scope) : Reporting Bool := do
  pure ((← n.scopeWithin scope).hasDimension n.name)

def dimensionMisused (n : ScopedName) : String :=
  "Operation cannot be applied to dimension metric '" ++ n.display ++ "'"

/-- The field that a name means, which must not be a dimension. -/
def resolveField (n : ScopedName) (scope : Scope) : Reporting FieldSet := do
  let within ← n.scopeWithin scope
  if within.hasDimension n.name then
    report n.dimensionMisused
  within.field n.name

/-- A filter on a field, for the dataset that the field's name gives. -/
def qualifyFilter (n : ScopedName) (field : FieldSet) (f : Doc.Filter) : Doc.Filter :=
  if n.scope.isSome then field.qualifyFilter f else f

def qualifyMetric (n : ScopedName) (field : FieldSet) (m : Doc.Metric) : Reporting Doc.Metric :=
  if n.scope.isNone then pure m
  else match field.qualifyMetric m with
    | .ok m => pure m
    | .error e => do
      report e.message
      pure (.constant 0)

def resolveMetric (r : Resolution) (n : ScopedName) (scope : Scope) : Reporting Doc.Metric := do
  let within ← n.scopeWithin scope
  let metric ← if within.hasDimension n.name then r.expand n.name within
    else Doc.Metric.field <$> within.field n.name
  pure (match n.scope, within.names with
    | some _, dataset :: _ => if within.restricted then .qualified dataset metric else metric
    | _, _ => metric)

/-- A metric made of one field. -/
def probe (n : ScopedName) (scope : Scope) (make : FieldSet → Doc.Metric) :
    Reporting Doc.Metric := do
  let field ← n.resolveField scope
  n.qualifyMetric field (make field)

def termMisfit (n : ScopedName) (term : Term) : String :=
  "A non integer value '" ++ term.spell ++ "' specified for an integer field: " ++ n.display

/-- The integers that terms are or spell. The other terms are noted. -/
def fittingTerms (n : ScopedName) (misfit : String → Reporting Unit) :
    List Term → Reporting (List Int64)
  | [] => pure []
  | term :: rest =>
    match term.toInt? with
    | some value => do pure (value :: (← n.fittingTerms misfit rest))
    | none => do
      misfit (n.termMisfit term)
      n.fittingTerms misfit rest

/-- The filter that compares a dimension with a term, which must be an integer. -/
def dimensionIs (r : Resolution) (n : ScopedName) (term : Term) (negated : Bool) (scope : Scope) :
    Reporting Doc.Filter :=
  match if term.isInt then term.toInt? else none with
  | some value => do
    pure (.compare (if negated then .ne else .eq) (← n.resolveMetric r scope) (.constant value))
  | none => do
    report n.dimensionMisused
    pure .always

def fieldIs (n : ScopedName) (term : Term) (negated : Bool) (scope : Scope) :
    Reporting Doc.Filter := do
  let field ← n.resolveField scope
  let isInt := scope.isIntField field
  if isInt && term.toInt?.isNone then
    remark (n.termMisfit term)
  pure (n.qualifyFilter field
    (if negated then .isntTerm field term isInt else .isTerm field term isInt))

/-- The filter for a list of terms, which nothing passes if no term fits the field. -/
def termsFilter (n : ScopedName) (field : FieldSet) (terms : List Term) (isInt : Bool) :
    Reporting Doc.Filter := do
  if isInt then
    let values ← n.fittingTerms remark terms
    pure (if values.isEmpty then .never
      else .intIn field (orderedSet (fun x y => decide (x < y)) values))
  else
    pure (if terms.isEmpty then .never
      else .stringIn field (Names.ofList (terms.map (·.spell))))

def fieldFilter (n : ScopedName) (scope : Scope) (make : FieldSet → Reporting Doc.Filter) :
    Reporting Doc.Filter := do
  if ← n.isDimension scope then
    report n.dimensionMisused
    pure .always
  else
    let field ← n.resolveField scope
    pure (n.qualifyFilter field (← make field))

end ScopedName

namespace Query

def checkPattern (pattern : String) : Reporting Unit := modify (Pattern.check pattern)

def indexField (scope : Scope) (dataset typed : String) : CompileM (String × Bool) := do
  let (field, found) := (scope.narrow [dataset]).field typed |>.run {}
  match found.errors with
  | message :: _ => .error (.unknownField message)
  | [] => pure (← field.nameIn dataset, scope.isIntField field)

/-- The index query in each dataset of the scope where its fields can be resolved. -/
def indexQueries (scope : Scope) (query : Lucene.Query) :
    List String → Reporting (List (String × Doc.Query))
  | [] => pure []
  | dataset :: rest =>
    match query.resolve (indexField scope dataset) with
    | .ok q => do pure ((dataset, q) :: (← indexQueries scope query rest))
    | .error e => do
      report (match e with
        | .unknownField message => message
        | e => e.message)
      indexQueries scope query rest

def indexFilter (text : String) (scope : Scope) : Reporting Doc.Filter :=
  match Lucene.Query.parse text with
  | .error e => do
    report e.message
    pure .always
  | .ok query => do pure (.lucene text (← indexQueries scope query scope.names))

def resolveDatasets (scope : Scope) (typed : List String) : Reporting Names := do
  pure (Names.ofList (← typed.mapM scope.dataset))

/-- The sample that a filter takes, which must not exceed the whole. -/
def checkSample (field : ScopedName) (numerator denominator : Nat) : Reporting Unit := do
  if denominator == 0 || numerator > denominator then
    report ("Invalid sample fraction " ++ toString numerator ++ "/" ++ toString denominator ++
      " for field " ++ field.display)

def DocOperator.make (op : DocOperator) (left right : Doc.Metric) : Doc.Metric :=
  match op with
  | .add => .sum [left, right]
  | .arithmetic op => .arithmetic op left right

mutual

def DocMetric.resolve (r : Resolution) (scope : Scope) : DocMetric → Reporting Doc.Metric
  | .name name => name.resolveMetric r scope
  | .int value => pure (.constant value)
  | .count => pure .count
  | .docId => pure .docId
  | .negate m => do pure (.negate (← m.resolve r scope))
  | .abs m => do pure (.abs (← m.resolve r scope))
  | .signum m => do pure (.signum (← m.resolve r scope))
  | .binary op left right => do
    let left ← left.resolve r scope
    let right ← right.resolve r scope
    pure (op.make left right)
  | .log m scale => do pure (.log (← m.resolve r scope) scale)
  | .exp m scale => do pure (.exponentiate (← m.resolve r scope) scale)
  | .min ms => do pure (.minimum (← DocMetric.resolveAll r scope ms))
  | .max ms => do pure (.maximum (← DocMetric.resolveAll r scope ms))
  | .hasInt name term => name.probe scope (.hasInt · term)
  | .hasString name term => name.probe scope (.hasString · term)
  | .hasIntField name => name.probe scope .hasIntField
  | .hasStringField name => name.probe scope .hasStringField
  | .length name => name.probe scope .stringLength
  | .intTermCount name => name.probe scope .intTermCount
  | .stringTermCount name => name.probe scope .stringTermCount
  | .floatScale name factor summand => name.probe scope (.floatScale · factor summand)
  | .extract name pattern group => do
    checkPattern pattern
    name.probe scope (.extract · pattern group)
  | .ifThenElse condition yes no => do
    let condition ← condition.resolve r scope
    let yes ← yes.resolve r scope
    let no ← no.resolve r scope
    pure (.ifThenElse condition yes no)

def DocMetric.resolveAll (r : Resolution) (scope : Scope) :
    List DocMetric → Reporting (List Doc.Metric)
  | [] => pure []
  | m :: rest => do
    let m ← m.resolve r scope
    pure (m :: (← DocMetric.resolveAll r scope rest))

def DocFilter.resolve (r : Resolution) (scope : Scope) : DocFilter → Reporting Doc.Filter
  | .fieldIs name term negated => do
    if ← name.isDimension scope then name.dimensionIs r term negated scope
    else name.fieldIs term negated scope
  | .regex name pattern negated => do
    if ← name.isDimension scope then
      report name.dimensionMisused
      pure .always
    else
      checkPattern pattern
      let field ← name.resolveField scope
      pure (name.qualifyFilter field
        (if negated then .notRegex field pattern else .regex field pattern))
  | .fieldIn name terms negated => do
    let filter ← name.fieldFilter scope fun field =>
      name.termsFilter field terms (scope.isIntField field)
    pure (if negated then .not filter else filter)
  | .between name lower upper =>
    name.fieldFilter scope fun field => pure (.between field lower upper false)
  | .compare op left right => do
    let left ← left.resolve r scope
    let right ← right.resolve r scope
    pure (.compare op left right)
  | .lucene text => indexFilter text scope
  | .sample name numerator denominator seed => do
    let denominator := denominator.getD r.settings.sampleDenominator
    checkSample name numerator denominator
    let field ← name.resolveField scope
    pure (name.qualifyFilter field
      (.sample field (scope.isIntField field) numerator denominator (seed.getD "")))
  | .bool true => pure .always
  | .bool false => pure .never
  | .and fs => do pure (.all (← DocFilter.resolveAll r scope fs))
  | .or fs => do pure (.any (← DocFilter.resolveAll r scope fs))
  | .not f => do pure (.not (← f.resolve r scope))
  | .qualified datasets f => do
    let names ← resolveDatasets scope datasets
    let inner ← f.resolve r (scope.narrow names)
    pure (if (scope.narrow names).restricted then .qualified names inner else inner)

def DocFilter.resolveAll (r : Resolution) (scope : Scope) :
    List DocFilter → Reporting (List Doc.Filter)
  | [] => pure []
  | f :: rest => do
    let f ← f.resolve r scope
    pure (f :: (← DocFilter.resolveAll r scope rest))

end

end Query

namespace Resolution

open Query (DocMetric)

def circular (opened : List String) (name : String) : Reporting Doc.Metric := do
  report ("Dimension defined in terms of itself: " ++ " -> ".intercalate opened ++ " -> " ++ name)
  pure (.constant 0)

def entryMetric (r : Resolution) (scope : Scope) (name dataset : String) :
    Reporting Doc.Metric :=
  let only := scope.narrow [dataset]
  match only.dimension? dataset name with
  | none => do pure (.field (← only.field name))
  | some expression =>
    match DocMetric.parse expression with
    | .ok metric => metric.resolve r only
    | .error e => do
      report ("Invalid dimension '" ++ name ++ "' in \"" ++ dataset ++ "\": " ++ e.message)
      pure (.constant 0)

/-- The metric of a dimension in each dataset of a scope. -/
def join : List (String × Doc.Metric) → Doc.Metric
  | [(_, metric)] => metric
  | metrics => .perDataset metrics

/-- Expand a dimension, while those in the list are being expanded and at most the given number of
further ones can be. -/
def expansion (settings : Settings) :
    Nat → List String → String → Scope → Reporting Doc.Metric
  | 0, opened, name, _ => circular opened name
  | depth + 1, opened, name, scope =>
    if opened.any (sameIgnoringCase · name) then circular opened name
    else do
      let r : Resolution := ⟨settings, expansion settings depth (opened ++ [name])⟩
      let metrics ← scope.names.mapM fun dataset => do
        pure (dataset, ← r.entryMetric scope name dataset)
      pure (join metrics)

/-- Resolution for the datasets of a query. The dimensions being expanded differ, so there are
never more of them than the datasets have. -/
def ofResolver (settings : Settings) (resolver : Resolver) : Resolution where
  settings := settings
  expand := expansion settings (resolver.dimensionCount + 1) []

end Resolution

end Groupwise
