import Groupwise.Proofs.Query.Written
import Mathlib.Data.List.TakeWhile

/-!
# The numbers of a query

The scale of a logarithm or an exponential over documents is the number that is written behind its
argument, cut to 32 bits, or one where no number is written. The period of a grouping by time is the
number and the unit as they are written.
-/
namespace Groupwise.Query

/-! ## Numbers in expressions -/

/-- The functions over documents that have a scale. -/
inductive Scaling where
  | log
  | exp
  deriving Repr, DecidableEq

def Scaling.word : Scaling → String
  | .log => "log"
  | .exp => "exp"

def Scaling.make : Scaling → DocMetric → Int → DocMetric
  | .log, m, scale => .log m scale
  | .exp, m, scale => .exp m scale

section

variable (Q : Scaling → DocMetric → Int → Prop)

mutual

/-- A property of each scale in a metric, of its function and of the metric that is scaled. -/
def DocMetric.EachScale : DocMetric → Prop
  | .log m scale => Q .log m scale ∧ DocMetric.EachScale m
  | .exp m scale => Q .exp m scale ∧ DocMetric.EachScale m
  | .negate m | .abs m | .signum m => DocMetric.EachScale m
  | .binary _ left right => DocMetric.EachScale left ∧ DocMetric.EachScale right
  | .min ms | .max ms => DocMetric.EachScaleOfAll ms
  | .ifThenElse condition yes no =>
    DocFilter.EachScale condition ∧ DocMetric.EachScale yes ∧ DocMetric.EachScale no
  | .name _ | .int _ | .count | .docId | .hasInt .. | .hasString .. | .hasIntField _
  | .hasStringField _ | .length _ | .intTermCount _ | .stringTermCount _ | .floatScale ..
  | .extract .. => True

def DocMetric.EachScaleOfAll : List DocMetric → Prop
  | [] => True
  | m :: rest => DocMetric.EachScale m ∧ DocMetric.EachScaleOfAll rest

def DocFilter.EachScale : DocFilter → Prop
  | .compare _ left right => DocMetric.EachScale left ∧ DocMetric.EachScale right
  | .and fs | .or fs => DocFilter.EachScaleOfAll fs
  | .not f | .qualified _ f => DocFilter.EachScale f
  | .fieldIs .. | .regex .. | .fieldIn .. | .between .. | .lucene _ | .sample .. | .bool _ => True

def DocFilter.EachScaleOfAll : List DocFilter → Prop
  | [] => True
  | f :: rest => DocFilter.EachScale f ∧ DocFilter.EachScaleOfAll rest

end

variable (W : String → Prop)

mutual

/-- A property of each scale in a group metric and a property of each period. -/
def Metric.EachLiteral : Metric → Prop
  | .docSum m => m.EachScale Q
  | .negate m | .abs m | .log m | .floor m | .ceil m | .round m | .average m | .parent m | .lag _ m
  | .running m | .window _ m | .qualified _ m => Metric.EachLiteral m
  | .binary _ left right => Metric.EachLiteral left ∧ Metric.EachLiteral right
  | .min ms | .max ms => Metric.EachLiteralOfAll ms
  | .distinct _ having _ => Filter.EachLiteralOfOption having
  | .fieldMin _ m | .fieldMax _ m => Metric.EachLiteralOfOption m
  | .sumAcross g m => Grouping.EachLiteral g ∧ Metric.EachLiteral m
  | .ifThenElse condition yes no =>
    Filter.EachLiteral condition ∧ Metric.EachLiteral yes ∧ Metric.EachLiteral no
  | .number _ | .name _ | .percentile .. => True

def Metric.EachLiteralOfAll : List Metric → Prop
  | [] => True
  | m :: rest => Metric.EachLiteral m ∧ Metric.EachLiteralOfAll rest

def Metric.EachLiteralOfOption : Option Metric → Prop
  | none => True
  | some m => Metric.EachLiteral m

def Filter.EachLiteral : Filter → Prop
  | .compare _ left right => Metric.EachLiteral left ∧ Metric.EachLiteral right
  | .and fs | .or fs => Filter.EachLiteralOfAll fs
  | .not f => Filter.EachLiteral f
  | .termIs _ | .termRegex _ | .bool _ => True

def Filter.EachLiteralOfAll : List Filter → Prop
  | [] => True
  | f :: rest => Filter.EachLiteral f ∧ Filter.EachLiteralOfAll rest

def Filter.EachLiteralOfOption : Option Filter → Prop
  | none => True
  | some f => Filter.EachLiteral f

def Grouping.EachLiteral : Grouping → Prop
  | .field _ _ m _ => Metric.EachLiteralOfOption m
  | .bucket m .. => m.EachScale Q
  | .predicate f => f.EachScale Q
  | .time period .. => W period
  | .fieldIn .. | .dayOfWeek | .month | .dataset | .quantiles .. | .random .. => True

end

/-- A property of each scale and one of each period in the expressions of a query. -/
structure EachLiteral (q : Query) : Prop where
  filter : ∀ f ∈ q.filter, f.EachScale Q
  stages : ∀ s ∈ q.stages, s.grouping.EachLiteral Q W ∧ Filter.EachLiteralOfOption Q W s.having
  selects : ∀ s ∈ q.selects, s.metric.EachLiteral Q W

end

variable {Q : Scaling → DocMetric → Int → Prop} {W : String → Prop}

theorem DocMetric.eachScaleOfAll_iff {ms : List DocMetric} :
    DocMetric.EachScaleOfAll Q ms ↔ ∀ m ∈ ms, m.EachScale Q := by
  induction ms with
  | nil => simp [DocMetric.EachScaleOfAll]
  | cons m rest ih => rw [DocMetric.EachScaleOfAll, List.forall_mem_cons, ih]

theorem DocFilter.eachScaleOfAll_iff {fs : List DocFilter} :
    DocFilter.EachScaleOfAll Q fs ↔ ∀ f ∈ fs, f.EachScale Q := by
  induction fs with
  | nil => simp [DocFilter.EachScaleOfAll]
  | cons f rest ih => rw [DocFilter.EachScaleOfAll, List.forall_mem_cons, ih]

theorem Metric.eachLiteralOfAll_iff {ms : List Metric} :
    Metric.EachLiteralOfAll Q W ms ↔ ∀ m ∈ ms, m.EachLiteral Q W := by
  induction ms with
  | nil => simp [Metric.EachLiteralOfAll]
  | cons m rest ih => rw [Metric.EachLiteralOfAll, List.forall_mem_cons, ih]

theorem Filter.eachLiteralOfAll_iff {fs : List Filter} :
    Filter.EachLiteralOfAll Q W fs ↔ ∀ f ∈ fs, f.EachLiteral Q W := by
  induction fs with
  | nil => simp [Filter.EachLiteralOfAll]
  | cons f rest ih => rw [Filter.EachLiteralOfAll, List.forall_mem_cons, ih]

theorem Metric.eachLiteralOfOption_iff {m : Option Metric} :
    Metric.EachLiteralOfOption Q W m ↔ ∀ n ∈ m, n.EachLiteral Q W := by
  cases m <;> simp [Metric.EachLiteralOfOption]

theorem Filter.eachLiteralOfOption_iff {f : Option Filter} :
    Filter.EachLiteralOfOption Q W f ↔ ∀ g ∈ f, g.EachLiteral Q W := by
  cases f <;> simp [Filter.EachLiteralOfOption]

/-! ## Numbers in texts -/

namespace Grammar

open Groupwise.Parser

variable {t : List Char}

/-- A whole number is next in a text: behind blanks stand digits, perhaps with a minus sign before
them, and no further digit. -/
def NumeralAt (cs : List Char) (n : Int) (rest : List Char) : Prop :=
  ∃ (blanks : List Char) (negative : Bool) (ds : List Char),
    cs = blanks ++ (if negative then ['-'] else []) ++ ds ++ rest ∧
    (∀ c ∈ blanks, Scanner.isSpace c) ∧ ds ≠ [] ∧ (∀ c ∈ ds, c.isDigit) ∧
    (∀ c ∈ rest.head?, c.isDigit = false) ∧
    n = if negative then -(Decimal.digitsValue ds : Int) else Decimal.digitsValue ds

/-- A scaled function is called in a text, on an argument that a parser reads, with a whole number
behind the argument or without one. -/
inductive ScaledCall (t : List Char) (argument : Parser DocMetric) (f : Scaling) (m : DocMetric) :
    Option Int → Prop where
  | bare {here inside behind rest : List Char} (within : here <:+ t)
    (opened : call f.word here = .ok ((), inside)) (read : argument inside = .ok (m, behind))
    (closed : symbol ")" behind = .ok ((), rest)) : ScaledCall t argument f m none
  | scaled {here inside behind number left rest : List Char} {n : Int} (within : here <:+ t)
    (opened : call f.word here = .ok ((), inside)) (read : argument inside = .ok (m, behind))
    (comma : symbol "," behind = .ok ((), number)) (numeral : NumeralAt number n left)
    (closed : symbol ")" left = .ok ((), rest)) : ScaledCall t argument f m (some n)

/-- A grouping by time stands in a text, with a period of some digits and some letters. -/
structure PeriodAt (t ds unit : List Char) : Prop where
  place : ∃ here inside blanks rest, here <:+ t ∧ call "time" here = .ok ((), inside) ∧
    inside = blanks ++ ds ++ unit ++ rest ∧ (∀ c ∈ blanks, Scanner.isSpace c) ∧
    ∀ c ∈ rest.head?, c.isAlpha = false
  nonempty : ds ≠ []
  digits : ∀ c ∈ ds, c.isDigit
  named : unit ≠ []
  letters : ∀ c ∈ unit, c.isAlpha

/-- A period is written in a text. -/
def PeriodWritten (t : List Char) (period : String) : Prop :=
  ∃ ds unit, PeriodAt t ds unit ∧ period = String.ofList (ds ++ unit)

/-- The scale that a written number gives: what is left of it in 32 bits. -/
def scaleOfNumber (n : Option Int) : Int := (n.map (·.bmod UInt32.size)).getD 1

theorem of_run1 {inside : Char → Bool} {cs found rest : List Char}
    (h : run1 inside cs = .ok (found, rest)) :
    cs = found ++ rest ∧ found ≠ [] ∧ (∀ c ∈ found, inside c) ∧
      ∀ c ∈ rest.head?, inside c = false := by
  unfold run1 at h
  split at h
  · cases h
  · rename_i nonempty
    cases h
    refine ⟨List.takeWhile_append_dropWhile.symm, nonempty, fun _ => List.mem_takeWhile_imp,
      fun c hc => ?_⟩
    have ends := List.head?_dropWhile_not inside cs
    rwa [Option.mem_def.mp hc] at ends

theorem of_sign {cs rest : List Char} {negative : Bool} (h : sign cs = .ok (negative, rest)) :
    cs = (if negative then ['-'] else []) ++ rest := by
  obtain ⟨minus, _, read, made⟩ := bind_ok_iff.mp h
  cases made
  unfold Parser.optional at read
  split at read
  · rename_i minus
    cases read
    obtain ⟨_, _, minus, made⟩ := bind_ok_iff.mp minus
    cases made
    unfold satisfy at minus
    split at minus
    · split at minus
      · rename_i same
        cases minus
        simpa using same
      · cases minus
    · cases minus
  · cases read
    rfl

theorem toInt_of_fit {n : Int} {v : Int64} (h : Arithmetic.fit n = some v) : v.toInt = n := by
  unfold Arithmetic.fit at h
  split at h
  · rename_i within
    cases h
    exact Int64.toInt_ofInt_of_le within.1 (Int.lt_add_one_of_le within.2)
  · cases h

theorem numeralAt_of_integer {cs rest : List Char} {n : Int64} (h : integer cs = .ok (n, rest)) :
    NumeralAt cs n.toInt rest := by
  obtain ⟨_, _, blank, h⟩ := bind_ok_iff.mp h
  cases blank
  obtain ⟨⟨negative, ds⟩, read, fits⟩ := mapOption_ok_iff.mp h
  obtain ⟨_, _, minus, read⟩ := bind_ok_iff.mp read
  obtain ⟨_, _, number, made⟩ := bind_ok_iff.mp read
  cases made
  obtain ⟨text, nonempty, inside, ends⟩ := of_run1 number
  refine ⟨cs.takeWhile Scanner.isSpace, negative, ds, ?_, fun _ => List.mem_takeWhile_imp,
    nonempty, inside, ends, toInt_of_fit fits⟩
  rw [List.append_assoc, List.append_assoc, ← text, ← of_sign minus,
    List.takeWhile_append_dropWhile]

/-- The metric that a scaled call is read as. -/
def scaledCall (f : Scaling) (argument : Parser DocMetric) : Parser DocMetric :=
  callOf f.word (do
    let m ← argument
    pure (f.make m (scaleOf (← optional (afterComma integer)))))

/-- A call that is read stands in the text with the number that gives its scale. -/
theorem scaledCall_written {argument : Parser DocMetric} {f : Scaling} {cs rest : List Char}
    {r : DocMetric} (sub : cs <:+ t) (h : scaledCall f argument cs = .ok (r, rest)) :
    ∃ inside behind m n, inside <:+ t ∧ argument inside = .ok (m, behind) ∧
      ScaledCall t argument f m n ∧ r = f.make m (scaleOfNumber n) := by
  obtain ⟨_, inside, opened, h⟩ := bind_ok_iff.mp h
  obtain ⟨_, left, h, closing⟩ := bind_ok_iff.mp h
  obtain ⟨_, _, closed, made⟩ := bind_ok_iff.mp closing
  cases made
  obtain ⟨m, behind, read, h⟩ := bind_ok_iff.mp h
  obtain ⟨scale, _, number, made⟩ := bind_ok_iff.mp h
  cases made
  have within := (stays_call f.word sub opened).1
  unfold Parser.optional at number
  split at number
  · rename_i n _ given
    cases number
    obtain ⟨_, number, comma, numeral⟩ := bind_ok_iff.mp given
    exact ⟨inside, behind, m, some n.toInt, within, read,
      .scaled sub opened read comma (numeralAt_of_integer numeral) closed, rfl⟩
  · cases number
    exact ⟨inside, _, m, none, within, read, .bare sub opened read closed, rfl⟩

/-- A grouping by time that is read stands in the text with its period. -/
theorem timeGrouping_written {cs rest : List Char} {g : Grouping} (sub : cs <:+ t)
    (h : timeGrouping cs = .ok (g, rest)) :
    ∃ period field format, PeriodWritten t period ∧ g = .time period field format := by
  obtain ⟨_, inside, opened, h⟩ := bind_ok_iff.mp h
  obtain ⟨_, _, h, closing⟩ := bind_ok_iff.mp h
  obtain ⟨_, _, _, made⟩ := bind_ok_iff.mp closing
  cases made
  obtain ⟨period, _, read, h⟩ := bind_ok_iff.mp h
  obtain ⟨format, _, _, h⟩ := bind_ok_iff.mp h
  obtain ⟨field, _, _, made⟩ := bind_ok_iff.mp h
  cases made
  refine ⟨period, field, format, ?_, rfl⟩
  obtain ⟨_, _, blank, read⟩ := bind_ok_iff.mp read
  cases blank
  obtain ⟨ds, _, number, read⟩ := bind_ok_iff.mp read
  obtain ⟨unit, left, letters, made⟩ := bind_ok_iff.mp read
  cases made
  obtain ⟨behind, someDigits, digits, -⟩ := of_run1 number
  obtain ⟨after, someLetters, alphas, ends⟩ := of_run1 letters
  refine ⟨ds, unit, ⟨⟨cs, inside, inside.takeWhile Scanner.isSpace, _, sub, opened, ?_,
    fun _ => List.mem_takeWhile_imp, ends⟩, someDigits, digits, someLetters, alphas⟩, rfl⟩
  rw [List.append_assoc, List.append_assoc, ← after, ← behind, List.takeWhile_append_dropWhile]

end Grammar

end Groupwise.Query
