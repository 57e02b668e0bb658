import Groupwise.Decimal.Layout
import Groupwise.Query.Basic
import Mathlib.Algebra.Group.Int.Defs

/-!
# Writing expressions over documents

Metrics and filters of documents as text. Every name stands between back-quotes and every text
between double quotes, and parentheses tell which parts belong together. What the language can write
at all is in canonical form.
-/
namespace Groupwise.Query

/-! ## Tokens -/

def writeName (name : String) : List Char := '`' :: (name.toList ++ ['`'])

/-- A backslash before a quote or another backslash keeps it in the text. -/
def escape (c : Char) : List Char := if c = '"' ∨ c = '\\' then ['\\', c] else [c]

def writeText (text : String) : List Char := '"' :: (text.toList.flatMap escape ++ ['"'])

def writeNat (n : Nat) : List Char := Nat.toDigits 10 n

def writeInt (n : Int) : List Char := (toString n).toList

def writeFloat (x : Float) : List Char := (Decimal.Layout.plain.write x).toList

/-- Integers keep their spelling, and all other terms are texts. -/
def writeTerm : Term → List Char
  | .string text => writeText text
  | term => term.spell.toList

def writeField (f : ScopedName) : List Char :=
  match f.scope with
  | some dataset => writeName dataset ++ '.' :: writeName f.name
  | none => writeName f.name

def parenthesize (text : List Char) : List Char := '(' :: (text ++ [')'])

def commas (texts : List (List Char)) : List Char := [',', ' '].intercalate texts

@[simp]
theorem commas_singleton (text : List Char) : commas [text] = text := List.intercalate_singleton

@[simp]
theorem commas_cons_cons (first second : List Char) (more : List (List Char)) :
    commas (first :: second :: more) = first ++ ',' :: ' ' :: commas (second :: more) := by
  simp [commas]

def spaced (texts : List (List Char)) : List Char := [' '].intercalate texts

@[simp]
theorem spaced_singleton (text : List Char) : spaced [text] = text := List.intercalate_singleton

@[simp]
theorem spaced_cons_cons (first second : List Char) (more : List (List Char)) :
    spaced (first :: second :: more) = first ++ ' ' :: spaced (second :: more) := by
  simp [spaced]

def writeCall (name : String) (arguments : List (List Char)) : List Char :=
  name.toList ++ parenthesize (commas arguments)

def DocOperator.sign : DocOperator → Char
  | .add => '+'
  | .arithmetic .subtract => '-'
  | .arithmetic .multiply => '*'
  | .arithmetic .divide => '/'
  | .arithmetic .modulus => '%'

/-! ## Parentheses -/

/-- The metrics that have operands. -/
def DocMetric.isCompound : DocMetric → Bool
  | .negate _ | .binary .. | .ifThenElse .. => true
  | _ => false

/-- The filters that have operands which are filters. -/
def DocFilter.isCompound : DocFilter → Bool
  | .and _ | .or _ | .not _ => true
  | _ => false

/-- Which parentheses are written although they are not needed around a compound operand. -/
structure Style where
  /-- Around which metrics that are operands but not compound. -/
  metric : DocMetric → Bool := fun _ => false
  /-- Around which filters that are operands but not compound. -/
  filter : DocFilter → Bool := fun _ => false
  /-- Whether a name is set apart where it would be taken for a field that a filter tests. -/
  setsNamesApart : Bool := true

namespace Style

variable (style : Style)

def around (needed : Bool) (text : List Char) : List Char :=
  if needed then parenthesize text else text

/-- A metric as an operand. -/
def operand (m : DocMetric) (text : List Char) : List Char :=
  around (m.isCompound || style.metric m) text

/-- A filter as an operand. -/
def filterOperand (f : DocFilter) (text : List Char) : List Char :=
  around (f.isCompound || style.filter f) text

/-- Whether a filter that tests a field for a term could begin with this metric, were it a name: the
term would be what stands for the right side. -/
def looksLikeTerm (m : DocMetric) : Bool :=
  match m with
  | .name _ => false
  | m => !(m.isCompound || style.metric m)

/-- Whether the left side of a comparison is a name that would be taken for a field. -/
def isAmbiguous (op : Comparison) (left right : DocMetric) : Bool :=
  match op, left with
  | .eq, .name _ | .ne, .name _ => style.looksLikeTerm right
  | _, _ => false

/-- The left side of a comparison. -/
def leftOperand (op : Comparison) (left right : DocMetric) (text : List Char) : List Char :=
  around (left.isCompound || style.metric left ||
    style.setsNamesApart && style.isAmbiguous op left right) text

end Style

/-! ## Expressions -/

mutual

def DocMetric.write (style : Style) : DocMetric → List Char
  | .name n => writeField n
  | .int v => writeInt v.toInt
  | .count => writeCall "count" []
  | .docId => writeCall "docid" []
  | .negate m => '-' :: style.operand m (m.write style)
  | .binary op l r =>
    spaced [style.operand l (l.write style), [op.sign], style.operand r (r.write style)]
  | .abs m => writeCall "abs" [m.write style]
  | .signum m => writeCall "signum" [m.write style]
  | .log m scale => writeCall "log" [m.write style, writeInt scale]
  | .exp m scale => writeCall "exp" [m.write style, writeInt scale]
  | .min ms => writeCall "min" (DocMetric.writeAll style ms)
  | .max ms => writeCall "max" (DocMetric.writeAll style ms)
  | .hasInt f term => writeCall "hasint" [writeField f, writeInt term.toInt]
  | .hasString f term => writeCall "hasstr" [writeField f, writeText term]
  | .hasIntField f => writeCall "hasintfield" [writeField f]
  | .hasStringField f => writeCall "hasstrfield" [writeField f]
  | .length f => writeCall "len" [writeField f]
  | .intTermCount f => writeCall "inttermcount" [writeField f]
  | .stringTermCount f => writeCall "strtermcount" [writeField f]
  | .floatScale f factor summand =>
    writeCall "floatscale" [writeField f, writeFloat factor, writeFloat summand]
  | .extract f pattern group =>
    writeCall "extract" [writeField f, writeText pattern, writeNat group]
  | .ifThenElse condition yes no =>
    spaced ["IF".toList, style.filterOperand condition (condition.write style),
      "THEN".toList, style.operand yes (yes.write style),
      "ELSE".toList, style.operand no (no.write style)]

def DocMetric.writeAll (style : Style) : List DocMetric → List (List Char)
  | [] => []
  | m :: rest => m.write style :: DocMetric.writeAll style rest

def DocFilter.write (style : Style) : DocFilter → List Char
  | .fieldIs f term negated =>
    spaced [writeField f, (if negated then "!=" else "=").toList, writeTerm term]
  | .regex f pattern negated =>
    spaced [writeField f, (if negated then "!=~" else "=~").toList, writeText pattern]
  | .fieldIn f terms negated =>
    spaced [writeField f, (if negated then "NOT IN" else "IN").toList,
      parenthesize (commas (terms.map writeTerm))]
  | .between f lower upper =>
    writeCall "between" [writeField f, writeInt lower.toInt, writeInt upper.toInt]
  | .compare op l r =>
    spaced [style.leftOperand op l r (l.write style), op.symbol.toList,
      style.operand r (r.write style)]
  | .lucene text => writeCall "lucene" [writeText text]
  | .sample f numerator denominator seed =>
    writeCall "sample" ([writeField f, writeNat numerator] ++
      (denominator.map writeNat).toList ++ (seed.map writeText).toList)
  | .bool value => (if value then "true" else "false").toList
  | .and fs => " AND ".toList.intercalate (DocFilter.writeOperands style fs)
  | .or fs => " OR ".toList.intercalate (DocFilter.writeOperands style fs)
  | .not f => spaced ["NOT".toList, style.filterOperand f (f.write style)]
  | .qualified datasets f =>
    commas (datasets.map writeName) ++ '.' :: parenthesize (f.write style)

def DocFilter.writeOperands (style : Style) : List DocFilter → List (List Char)
  | [] => []
  | f :: rest => style.filterOperand f (f.write style) :: DocFilter.writeOperands style rest

end

/-- The text of a metric. -/
def DocMetric.print (style : Style) (m : DocMetric) : String := String.ofList (m.write style)

/-- The text of a filter. -/
def DocFilter.print (style : Style) (f : DocFilter) : String := String.ofList (f.write style)

/-! ## Canonical form -/

/-- What can stand between back-quotes. -/
def IsName (name : String) : Prop := name.toList ≠ [] ∧ '`' ∉ name.toList

def IsField (f : ScopedName) : Prop := (∀ dataset ∈ f.scope, IsName dataset) ∧ IsName f.name

/-- Digits, perhaps with a minus sign. -/
def IsNumeral (text : String) : Prop :=
  ∃ digits : List Char, digits ≠ [] ∧ digits.all Char.isDigit ∧
    (text.toList = digits ∨ text.toList = '-' :: digits)

/-- A term is a text, or what a numeral is read as. -/
def IsTerm (t : Term) : Prop :=
  (∃ text, t = .string text) ∨ ∃ text, IsNumeral text ∧ t = .parse text

/-- A scale is a signed word of 32 bits. -/
def IsScale (scale : Int) : Prop := -2 ^ 31 ≤ scale ∧ scale < 2 ^ 31

mutual

/-- Metrics that can be written: a number is not the least one, and a number is negated by its sign.
Numbers of the scale and of the group are words of 32 bits. Scaled decimal numbers are left out. -/
inductive DocMetric.Canonical : DocMetric → Prop where
  | name {n} (named : IsField n) : DocMetric.Canonical (.name n)
  | int {v} (regular : v ≠ Int64.minValue) : DocMetric.Canonical (.int v)
  | count : DocMetric.Canonical .count
  | docId : DocMetric.Canonical .docId
  | negate {m} (other : ∀ v, m ≠ .int v) (metric : m.Canonical) : DocMetric.Canonical (.negate m)
  | binary {op l r} (left : l.Canonical) (right : r.Canonical) :
    DocMetric.Canonical (.binary op l r)
  | abs {m} (metric : m.Canonical) : DocMetric.Canonical (.abs m)
  | signum {m} (metric : m.Canonical) : DocMetric.Canonical (.signum m)
  | log {m scale} (metric : m.Canonical) (small : IsScale scale) :
    DocMetric.Canonical (.log m scale)
  | exp {m scale} (metric : m.Canonical) (small : IsScale scale) :
    DocMetric.Canonical (.exp m scale)
  | min {ms} (some : ms ≠ []) (metrics : ∀ m ∈ ms, m.Canonical) : DocMetric.Canonical (.min ms)
  | max {ms} (some : ms ≠ []) (metrics : ∀ m ∈ ms, m.Canonical) : DocMetric.Canonical (.max ms)
  | hasInt {f term} (named : IsField f) : DocMetric.Canonical (.hasInt f term)
  | hasString {f term} (named : IsField f) : DocMetric.Canonical (.hasString f term)
  | hasIntField {f} (named : IsField f) : DocMetric.Canonical (.hasIntField f)
  | hasStringField {f} (named : IsField f) : DocMetric.Canonical (.hasStringField f)
  | length {f} (named : IsField f) : DocMetric.Canonical (.length f)
  | intTermCount {f} (named : IsField f) : DocMetric.Canonical (.intTermCount f)
  | stringTermCount {f} (named : IsField f) : DocMetric.Canonical (.stringTermCount f)
  | extract {f pattern group} (named : IsField f) (small : group < UInt32.size) :
    DocMetric.Canonical (.extract f pattern group)
  | ifThenElse {c y n} (condition : c.Canonical) (yes : y.Canonical) (no : n.Canonical) :
    DocMetric.Canonical (.ifThenElse c y n)

/-- Filters that can be written: a connective has two operands or more, and a filter is for one
dataset. The numbers of a sample are words of 64 bits. -/
inductive DocFilter.Canonical : DocFilter → Prop where
  | fieldIs {f term negated} (named : IsField f) (legible : IsTerm term) :
    DocFilter.Canonical (.fieldIs f term negated)
  | regex {f pattern negated} (named : IsField f) : DocFilter.Canonical (.regex f pattern negated)
  | fieldIn {f terms negated} (named : IsField f) (legible : ∀ t ∈ terms, IsTerm t) :
    DocFilter.Canonical (.fieldIn f terms negated)
  | between {f lower upper} (named : IsField f) : DocFilter.Canonical (.between f lower upper)
  | compare {op l r} (left : l.Canonical) (right : r.Canonical) :
    DocFilter.Canonical (.compare op l r)
  | lucene {text} : DocFilter.Canonical (.lucene text)
  | sample {f numerator denominator seed} (named : IsField f) (small : numerator < UInt64.size)
    (small' : ∀ n ∈ denominator, n < UInt64.size) :
    DocFilter.Canonical (.sample f numerator denominator seed)
  | bool {value} : DocFilter.Canonical (.bool value)
  | and {fs} (several : 2 ≤ fs.length) (filters : ∀ f ∈ fs, f.Canonical) :
    DocFilter.Canonical (.and fs)
  | or {fs} (several : 2 ≤ fs.length) (filters : ∀ f ∈ fs, f.Canonical) :
    DocFilter.Canonical (.or fs)
  | not {f} (filter : f.Canonical) : DocFilter.Canonical (.not f)
  | qualified {dataset f} (named : IsName dataset) (filter : f.Canonical) :
    DocFilter.Canonical (.qualified [dataset] f)

end

end Groupwise.Query
