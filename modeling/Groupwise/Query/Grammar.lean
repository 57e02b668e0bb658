import Groupwise.Query.Token

/-!
# Reading queries

The grammar of expressions is recursive. Its recursive parts are given to the rules as parsers for
nested expressions; since a nested expression stands behind at least one character of the outer one,
nesting is never deeper than the text is long.
-/
namespace Groupwise.Query.Grammar

open Groupwise.Parser

/-- Parsers for the expressions inside an expression. -/
structure Nested where
  docFilter : Parser DocFilter
  docFilterOperand : Parser DocFilter
  docMetric : Parser DocMetric
  docMetricOperand : Parser DocMetric
  filter : Parser Filter
  filterOperand : Parser Filter
  metric : Parser Metric
  metricPower : Parser Metric
  metricOperand : Parser Metric

/-- No expressions at all. -/
def Nested.none : Nested where
  docFilter := fail
  docFilterOperand := fail
  docMetric := fail
  docMetricOperand := fail
  filter := fail
  filterOperand := fail
  metric := fail
  metricPower := fail
  metricOperand := fail

/-! ## Documents -/

section Documents

variable (inner : Nested)

def sumOperator (c : Char) : Option DocOperator :=
  if c = '+' then some .add else if c = '-' then some (.arithmetic .subtract) else Option.none

def productOperator (c : Char) : Option DocOperator :=
  if c = '*' then some (.arithmetic .multiply)
  else if c = '/' then some (.arithmetic .divide)
  else if c = '%' then some (.arithmetic .modulus)
  else Option.none

/-- A scale is cut to a word of 32 bits. -/
def scaleOf (scale : Option Int64) : Int := (scale.map (·.toInt.bmod UInt32.size)).getD 1

def docFunctions : List (Parser DocMetric) :=
  let scaled (name : String) (make : DocMetric → Int → DocMetric) : Parser DocMetric :=
    callOf name (do
      let m ← inner.docMetric
      pure (make m (scaleOf (← optional (afterComma integer)))))
  let ofField (name : String) (make : ScopedName → DocMetric) : Parser DocMetric :=
    make <$> callOf name scopedName
  [callOf "count" (pure .count),
    callOf "docid" (pure .docId),
    .abs <$> callOf "abs" inner.docMetric,
    .signum <$> callOf "signum" inner.docMetric,
    scaled "log" .log,
    scaled "exp" .exp,
    .min <$> callOf "min" (commaSeparated inner.docMetric),
    .max <$> callOf "max" (commaSeparated inner.docMetric),
    callOf "hasint" (do
      let f ← scopedName
      pure (.hasInt f (← afterComma integer))),
    callOf "hasstr" (do
      let f ← scopedName
      pure (.hasString f (← afterComma term).spell)),
    ofField "hasintfield" .hasIntField,
    ofField "hasstrfield" .hasStringField,
    ofField "len" .length,
    ofField "inttermcount" .intTermCount,
    ofField "strtermcount" .stringTermCount,
    callOf "floatscale" (do
      let f ← scopedName
      let factor ← optional (afterComma decimal)
      let summand ← optional (afterComma decimal)
      pure (.floatScale f (factor.getD 1.0) (summand.getD 0.0))),
    callOf "extract" (do
      let f ← scopedName
      let pattern ← afterComma quotedText
      let group ← optional (afterComma smallNumber)
      pure (.extract f pattern (group.getD 1)))]

def docFunction : Parser DocMetric := choice (docFunctions inner)

def docIfThenElse : Parser DocMetric := do
  let condition ← after "IF" inner.docFilter
  let yes ← after "THEN" inner.docMetric
  let no ← after "ELSE" inner.docMetric
  pure (.ifThenElse condition yes no)

def docAtom : Parser DocMetric :=
  choice [between "(" ")" inner.docMetric, .int <$> plainInteger, docFunction inner,
    docIfThenElse inner, .name <$> scopedName]

/-- The negative of a metric; that of a number is a number. -/
def negated : DocMetric → DocMetric
  | .int n => .int (-n)
  | m => .negate m

def docMetricOperand : Parser DocMetric :=
  orElse (do symbol "-"; negated <$> inner.docMetricOperand) (docAtom inner)

def docMetric : Parser DocMetric :=
  joined sumOperator .binary (joined productOperator .binary (docMetricOperand inner))

def sampleFilter : Parser DocFilter :=
  callOf "sample" (do
    let f ← scopedName
    let numerator ← afterComma limitNumber
    let denominator ← optional (afterComma limitNumber)
    let seed ← optional (afterComma quotedText)
    pure (.sample f numerator denominator seed))

def betweenFilter : Parser DocFilter :=
  callOf "between" (do
    let f ← scopedName
    let lower ← afterComma integer
    let upper ← afterComma integer
    pure (.between f lower upper))

/-- A dataset, a point, and an expression in parentheses. -/
def qualifiedBy {α : Type} (p : Parser α) : Parser (String × α) := do
  let dataset ← name
  char '.'
  pure (dataset, ← between "(" ")" p)

def qualifiedFilter : Parser DocFilter :=
  (fun e => .qualified [e.1] e.2) <$> qualifiedBy inner.docFilter

/-- What can stand behind a field in a filter. -/
inductive FieldTest where
  | regex (negated : Bool)
  | isIn (negated : Bool)
  | is (negated : Bool)

def fieldTest : Parser FieldTest :=
  choice [do symbol "!=~"; pure (.regex true), do symbol "=~"; pure (.regex false),
    do keyword "NOT"; keyword "IN"; pure (.isIn true), do keyword "IN"; pure (.isIn false),
    do symbol "!="; pure (.is true),
    firstSymbol [("==", .is false), ("=", .is false), (":", .is false)]]

/-- Whether what follows makes a term the start of a longer expression. -/
def continuesExpression : Parser Char := do
  spaces
  satisfy fun c => ['+', '-', '*', '/', '%', '<', '>', '='].contains c

def fieldFilter : Parser DocFilter := do
  let f ← scopedName
  match ← fieldTest with
  | .regex negated => pure (.regex f (← quotedText) negated)
  | .isIn negated => pure (.fieldIn f (← termList) negated)
  | .is negated =>
    let t ← term
    absent continuesExpression
    pure (.fieldIs f t negated)

def metricComparison : Parser DocFilter := do
  let left ← docMetric inner
  let op ← comparison
  pure (.compare op left (← docMetric inner))

def docFilterPrimary : Parser DocFilter :=
  choice [between "(" ")" inner.docFilter, do keyword "true"; pure (.bool true),
    do keyword "false"; pure (.bool false), .lucene <$> callOf "lucene" quotedText, sampleFilter,
    betweenFilter, qualifiedFilter inner, fieldFilter, metricComparison inner]

def notWord : Parser Unit := orElse (keyword "NOT") (symbol "!")

def docFilterOperand : Parser DocFilter :=
  orElse (do notWord; .not <$> inner.docFilterOperand) (docFilterPrimary inner)

def docFilter : Parser DocFilter :=
  joinedBy "OR" .or (joinedBy "AND" .and (docFilterOperand inner))

end Documents

/-! ## Groups -/

section Groups

variable (inner : Nested)

def withDefault : Parser Bool := do
  pure (← optional (do keyword "WITH"; keyword "DEFAULT")).isSome

def bucketGrouping : Parser Grouping := do
  let (m, low, high, interval, excludeGutters) ← callOf "bucket" (do
    let m ← inner.docMetric
    let low ← afterComma integer
    let high ← afterComma integer
    let interval ← afterComma integer
    let gutters ← optional (afterComma (keyword "exclude_gutters"))
    pure (m, low, high, interval, gutters.isSome))
  pure (.bucket m low high interval excludeGutters (← withDefault))

def timePeriod : Parser String := do
  spaces
  let count ← digits
  let unit ← run1 Char.isAlpha
  pure (String.ofList (count ++ unit))

def timeGrouping : Parser Grouping :=
  callOf "time" (do
    let period ← timePeriod
    let format ← optional (afterComma quotedText)
    let f ← optional (afterComma scopedName)
    pure (.time period f format))

/-- A word with or without an empty pair of parentheses. -/
def emptyCall (word : String) : Parser Unit := do
  keyword word
  let _ ← optional (between "(" ")" (pure ()))

def fieldInGrouping : Parser Grouping := do
  let f ← scopedName
  let terms ← after "IN" termList
  pure (.fieldIn f terms (← withDefault))

/-- The number of terms and their order; the last ones are the first by the negative metric. -/
def topTerms : Parser (Option Nat × Option Metric) :=
  between "[" "]" (do
    let fromBottom ← optional
      (orElse (do keyword "TOP"; pure false) (do keyword "BOTTOM"; pure true))
    let limit ← optional limitNumber
    let m ← optional (after "BY" inner.metric)
    if fromBottom == some true then
      pure (limit, some (.negate (m.getD (.docSum .count))))
    else pure (limit, m))

def fieldGrouping : Parser Grouping := do
  let f ← scopedName
  let (limit, m) := (← optional (topTerms inner)).getD (Option.none, Option.none)
  pure (.field f limit m (← withDefault))

def grouping : Parser Grouping :=
  choice [bucketGrouping inner, timeGrouping,
    callOf "quantiles" (do
      let f ← scopedName
      pure (.quantiles f (← afterComma smallNumber))),
    .predicate <$> callOf "predicate" inner.docFilter,
    callOf "random" (do
      let f ← scopedName
      let parts ← afterComma smallNumber
      pure (.random f parts (← optional (afterComma quotedText)))),
    do emptyCall "dayofweek"; pure .dayOfWeek,
    do emptyCall "month"; pure .month,
    do emptyCall "dataset"; pure .dataset,
    fieldInGrouping, fieldGrouping inner]

def having : Parser (Option Filter) := optional (after "HAVING" inner.filter)

def metricFunctions : List (Parser Metric) :=
  let ofMetric (name : String) (make : Metric → Metric) : Parser Metric :=
    make <$> callOf name inner.metric
  let extreme (name : String) (make : ScopedName → Option Metric → Metric) : Parser Metric :=
    callOf name (do
      let f ← scopedName
      pure (make f (← optional (afterComma inner.metric))))
  [callOf "distinct" (do
      let f ← scopedName
      pure (.distinct f (← having inner) Option.none)),
    callOf "distinct_window" (do
      let size ← limitNumber
      let f ← afterComma scopedName
      pure (.distinct f (← having inner) (some size))),
    callOf "percentile" (do
      let f ← scopedName
      pure (.percentile f (← afterComma decimal))),
    extreme "field_min" .fieldMin,
    extreme "field_max" .fieldMax,
    ofMetric "parent" .parent,
    ofMetric "running" .running,
    ofMetric "avg" .average,
    ofMetric "abs" .abs,
    ofMetric "log" .log,
    ofMetric "floor" .floor,
    ofMetric "ceil" .ceil,
    ofMetric "round" .round,
    .min <$> callOf "min" (commaSeparated inner.metric),
    .max <$> callOf "max" (commaSeparated inner.metric),
    callOf "lag" (do
      let distance ← limitNumber
      pure (.lag distance (← afterComma inner.metric))),
    callOf "window" (do
      let size ← limitNumber
      pure (.window size (← afterComma inner.metric))),
    callOf "sum_across" (do
      let g ← grouping inner
      pure (.sumAcross g (← afterComma inner.metric)))]

def metricIfThenElse : Parser Metric := do
  let condition ← after "IF" inner.filter
  let yes ← after "THEN" inner.metric
  let no ← after "ELSE" inner.metric
  pure (.ifThenElse condition yes no)

def metricAtom : Parser Metric :=
  choice [between "(" ")" inner.metric, .number <$> decimal,
    .docSum <$> between "[" "]" inner.docMetric, choice (metricFunctions inner),
    metricIfThenElse inner,
    (fun e => .qualified [e.1] e.2) <$> qualifiedBy inner.metric,
    .docSum <$> docFunction inner, .name <$> scopedName]

/-- The negative of a metric; that of a number is a number. -/
def negatedMetric : Metric → Metric
  | .number x => .number (-x)
  | m => .negate m

def metricOperand : Parser Metric :=
  orElse (do symbol "-"; negatedMetric <$> inner.metricOperand) (metricAtom inner)

/-- Powers are joined from the right. -/
def metricPower : Parser Metric := do
  let base ← metricOperand inner
  match ← optional (do symbol "^"; inner.metricPower) with
  | some exponent => pure (.binary .power base exponent)
  | Option.none => pure base

def sumCalculation (c : Char) : Option Calculation :=
  if c = '+' then some .add else if c = '-' then some .subtract else Option.none

def productCalculation (c : Char) : Option Calculation :=
  if c = '*' then some .multiply
  else if c = '/' then some .divide
  else if c = '%' then some .modulus
  else Option.none

def metric : Parser Metric :=
  joined sumCalculation .binary (joined productCalculation .binary (metricPower inner))

def termFilter : Parser Filter := do
  call "term"
  symbol ")"
  orElse (do symbol "=~"; .termRegex <$> quotedText)
    (do firstSymbol [("==", ()), ("=", ())]; .termIs <$> term)

def filterPrimary : Parser Filter :=
  choice [between "(" ")" inner.filter, do keyword "true"; pure (.bool true),
    do keyword "false"; pure (.bool false), termFilter,
    do
      let left ← metric inner
      let op ← comparison
      pure (.compare op left (← metric inner))]

def filterOperand : Parser Filter :=
  orElse (do notWord; .not <$> inner.filterOperand) (filterPrimary inner)

def filter : Parser Filter :=
  joinedBy "OR" .or (joinedBy "AND" .and (filterOperand inner))

end Groups

/-- Expressions one level further out. -/
def Nested.next (inner : Nested) : Nested where
  docFilter := Grammar.docFilter inner
  docFilterOperand := Grammar.docFilterOperand inner
  docMetric := Grammar.docMetric inner
  docMetricOperand := Grammar.docMetricOperand inner
  filter := Grammar.filter inner
  filterOperand := Grammar.filterOperand inner
  metric := Grammar.metric inner
  metricPower := Grammar.metricPower inner
  metricOperand := Grammar.metricOperand inner

/-- Expressions of at most the given depth. -/
def Nested.ofDepth : Nat → Nested
  | 0 => .none
  | depth + 1 => (Nested.ofDepth depth).next

/-! ## Clauses -/

def isTimeChar (c : Char) : Bool := c.isDigit || c = ':'

/-- A date, perhaps with the letter T and a time of day. -/
def dateText : Parser String := do
  let year ← exactly 4 Char.isDigit
  char '-'
  let month ← exactly 2 Char.isDigit
  char '-'
  let day ← exactly 2 Char.isDigit
  let time ← optional (do char 'T'; run1 isTimeChar)
  pure (String.ofList (year ++ '-' :: month ++ '-' :: day ++ (time.elim [] ('T' :: ·))))

def agoPoint : Parser TimePoint := do
  let amount ← digits.mapOption fun ds => Arithmetic.fit (Decimal.digitsValue ds)
  let unit ← satisfy fun c => ['s', 'm', 'h', 'd', 'w', 'M', 'y'].contains c
  wordEnd
  let _ ← optional (keyword "ago")
  pure (.ago amount unit)

def timePoint : Parser TimePoint := do
  spaces
  choice [.absolute <$> dateText, .absolute <$> quotedText, agoPoint,
    do keyword "now"; pure .now, do keyword "today"; pure .today,
    do keyword "yesterday"; pure .yesterday]

def fieldAlias : Parser (String × String) := do
  let actual ← name
  pure (actual, ← after "AS" name)

def source : Parser From := do
  let dataset ← name
  let range ← optional (do
    let start ← timePoint
    pure (start, ← timePoint))
  let label ← optional (after "AS" name)
  let aliases ← optional (after "ALIASING" (between "(" ")" (commaSeparated fieldAlias)))
  pure { name := dataset, start := range.map (·.1), finish := range.map (·.2), label,
         fieldAliases := aliases.getD [] }

def stage (inner : Nested) : Parser Stage := do
  let g ← grouping inner
  let filter ← having inner
  let label ← optional (after "AS" name)
  pure { grouping := g, having := filter, label }

def select (inner : Nested) : Parser Select := do
  let (m, format) ← orElse
    (callOf "printf" (do
      let m ← inner.metric
      pure (m, some (← afterComma quotedText))))
    (do pure (← metric inner, Option.none))
  let label ← optional (after "AS" name)
  pure { metric := m, label, format }

def query (inner : Nested) : Parser Query := do
  let sources ← after "FROM" (commaSeparated source)
  let condition ← optional (after "WHERE" (docFilter inner))
  let stages ← optional (do
    keyword "GROUP"
    keyword "BY"
    commaSeparated (stage inner))
  let selects ← optional (after "SELECT" (commaSeparated (select inner)))
  let limit ← optional (after "LIMIT" limitNumber)
  spaces
  pure { sources, filter := condition, stages := stages.getD [], selects := selects.getD [], limit }

end Groupwise.Query.Grammar
