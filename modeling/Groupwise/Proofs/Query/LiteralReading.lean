import Groupwise.Proofs.Query.Literals

/-!
# Reading expressions with scales

What the grammar reads from a text has no scales but those of the scaled calls in the text. The
rules for nested expressions are followed one by one, and the nesting by induction.
-/
namespace Groupwise.Query

namespace Grammar

open Groupwise.Parser

variable {t : List Char} {Q : Scaling → DocMetric → Int → Prop} {W : String → Prop}
  {inner : Nested}

/-! ## Expressions over documents -/

/-- The expressions inside an expression are read from the text with a property of each scale and
one of each period. -/
structure Nested.EachLiteral (t : List Char) (Q : Scaling → DocMetric → Int → Prop)
    (W : String → Prop) (inner : Nested) : Prop where
  docFilter : Yields t inner.docFilter (DocFilter.EachScale Q)
  docFilterOperand : Yields t inner.docFilterOperand (DocFilter.EachScale Q)
  docMetric : Yields t inner.docMetric (DocMetric.EachScale Q)
  docMetricOperand : Yields t inner.docMetricOperand (DocMetric.EachScale Q)
  filter : Yields t inner.filter (Filter.EachLiteral Q W)
  filterOperand : Yields t inner.filterOperand (Filter.EachLiteral Q W)
  metric : Yields t inner.metric (Metric.EachLiteral Q W)
  metricPower : Yields t inner.metricPower (Metric.EachLiteral Q W)
  metricOperand : Yields t inner.metricOperand (Metric.EachLiteral Q W)
  scales : ∀ f m n, ScaledCall t inner.docMetric f m n → Q f m (scaleOfNumber n)
  periods : ∀ period, PeriodWritten t period → W period

namespace Nested.EachLiteral

variable (h : inner.EachLiteral t Q W)

include h

theorem yields_scaledCall (f : Scaling) :
    Yields t (scaledCall f inner.docMetric) (DocMetric.EachScale Q) := by
  have stays : Stays t (scaledCall f inner.docMetric) :=
    yields_callOf f.word (.bind h.docMetric fun _ _ =>
      .bind (.optional (yields_afterComma stays_integer)) fun _ _ => .pure trivial)
  intro cs r rest sub read
  obtain ⟨inside, behind, m, n, within, argument, call, rfl⟩ := scaledCall_written sub read
  have scaled := (h.docMetric within argument).2
  refine ⟨(stays sub read).1, ?_⟩
  cases f <;> exact ⟨h.scales _ m n call, scaled⟩

theorem yields_docFunction : Yields t (docFunction inner) (DocMetric.EachScale Q) := by
  have field {make : ScopedName → DocMetric} (name : String)
      (made : ∀ f, (make f).EachScale Q) :
      Yields t (make <$> callOf name scopedName) (DocMetric.EachScale Q) :=
    .map ((yields_callOf name stays_scopedName).imp fun f _ => made f)
  have arguments := yields_commaSeparated h.docMetric
  refine .choice fun p hp => ?_
  simp only [docFunctions, List.mem_cons, List.not_mem_nil, or_false] at hp
  rcases hp with rfl | rfl | rfl | rfl | rfl | rfl | rfl | rfl | rfl | rfl | rfl | rfl | rfl | rfl |
    rfl | rfl | rfl
  · exact yields_callOf "count" (.pure trivial)
  · exact yields_callOf "docid" (.pure trivial)
  · exact .map (yields_callOf "abs" h.docMetric)
  · exact .map (yields_callOf "signum" h.docMetric)
  · exact h.yields_scaledCall .log
  · exact h.yields_scaledCall .exp
  · exact .map ((yields_callOf "min" arguments).imp fun _ => DocMetric.eachScaleOfAll_iff.mpr)
  · exact .map ((yields_callOf "max" arguments).imp fun _ => DocMetric.eachScaleOfAll_iff.mpr)
  · exact yields_callOf "hasint" (.bind stays_scopedName fun _ _ =>
      .bind (yields_afterComma stays_integer) fun _ _ => .pure trivial)
  · exact yields_callOf "hasstr" (.bind stays_scopedName fun _ _ =>
      .bind (yields_afterComma stays_term) fun _ _ => .pure trivial)
  · exact field "hasintfield" fun _ => trivial
  · exact field "hasstrfield" fun _ => trivial
  · exact field "len" fun _ => trivial
  · exact field "inttermcount" fun _ => trivial
  · exact field "strtermcount" fun _ => trivial
  · exact yields_callOf "floatscale" (.bind stays_scopedName fun _ _ =>
      .bind (.optional (yields_afterComma stays_decimal)) fun _ _ =>
        .bind (.optional (yields_afterComma stays_decimal)) fun _ _ => .pure trivial)
  · exact yields_callOf "extract" (.bind stays_scopedName fun _ _ =>
      .bind (yields_afterComma stays_quotedText) fun _ _ =>
        .bind (.optional (yields_afterComma (stays_natBelow _))) fun _ _ => .pure trivial)

theorem yields_docMetricOperand :
    Yields t (Grammar.docMetricOperand inner) (DocMetric.EachScale Q) := by
  refine .orElse (.bind (stays_symbol "-") fun _ _ => .map (h.docMetricOperand.imp fun m hm => ?_))
    (.choice fun p hp => ?_)
  · cases m <;> exact hm
  · simp only [List.mem_cons, List.not_mem_nil, or_false] at hp
    rcases hp with rfl | rfl | rfl | rfl | rfl
    · exact yields_between "(" ")" h.docMetric
    · exact .map (stays_plainInteger.imp fun _ _ => trivial)
    · exact h.yields_docFunction
    · exact .bind (yields_after "IF" h.docFilter) fun _ hc =>
        .bind (yields_after "THEN" h.docMetric) fun _ hy =>
          .bind (yields_after "ELSE" h.docMetric) fun _ hn => .pure ⟨hc, hy, hn⟩
    · exact .map (stays_scopedName.imp fun _ _ => trivial)

theorem yields_docMetric : Yields t (Grammar.docMetric inner) (DocMetric.EachScale Q) :=
  yields_joined (fun _ _ _ => And.intro)
    (yields_joined (fun _ _ _ => And.intro) h.yields_docMetricOperand)

omit h in
theorem yields_sampleFilter : Yields t sampleFilter (DocFilter.EachScale Q) :=
  yields_callOf "sample" (.bind stays_scopedName fun _ _ =>
    .bind (yields_afterComma (stays_natBelow _)) fun _ _ =>
      .bind (.optional (yields_afterComma (stays_natBelow _))) fun _ _ =>
        .bind (.optional (yields_afterComma stays_quotedText)) fun _ _ => .pure trivial)

omit h in
theorem yields_betweenFilter : Yields t betweenFilter (DocFilter.EachScale Q) :=
  yields_callOf "between" (.bind stays_scopedName fun _ _ =>
    .bind (yields_afterComma stays_integer) fun _ _ =>
      .bind (yields_afterComma stays_integer) fun _ _ => .pure trivial)

omit h in
theorem stays_fieldTest : Stays t fieldTest := by
  refine .choice fun p hp => ?_
  simp only [List.mem_cons, List.not_mem_nil, or_false] at hp
  rcases hp with rfl | rfl | rfl | rfl | rfl | rfl
  · exact .bind (stays_symbol _) fun _ _ => .pure trivial
  · exact .bind (stays_symbol _) fun _ _ => .pure trivial
  · exact .bind (stays_keyword _) fun _ _ => .bind (stays_keyword _) fun _ _ => .pure trivial
  · exact .bind (stays_keyword _) fun _ _ => .pure trivial
  · exact .bind (stays_symbol _) fun _ _ => .pure trivial
  · exact stays_firstSymbol _

omit h in
theorem yields_fieldFilter : Yields t fieldFilter (DocFilter.EachScale Q) := by
  refine .bind stays_scopedName fun _ _ => .bind stays_fieldTest fun test _ => ?_
  cases test with
  | regex => exact .bind stays_quotedText fun _ _ => .pure trivial
  | isIn => exact .bind stays_termList fun _ _ => .pure trivial
  | is => exact .bind stays_term fun _ _ => .bind (.absent _) fun _ _ => .pure trivial

omit h in
theorem stays_notWord : Stays t notWord := .orElse (stays_keyword _) (stays_symbol _)

theorem yields_docFilterOperand :
    Yields t (Grammar.docFilterOperand inner) (DocFilter.EachScale Q) := by
  refine .orElse (.bind stays_notWord fun _ _ => .map h.docFilterOperand) (.choice fun p hp => ?_)
  simp only [List.mem_cons, List.not_mem_nil, or_false] at hp
  rcases hp with rfl | rfl | rfl | rfl | rfl | rfl | rfl | rfl | rfl
  · exact yields_between "(" ")" h.docFilter
  · exact .bind (stays_keyword _) fun _ _ => .pure trivial
  · exact .bind (stays_keyword _) fun _ _ => .pure trivial
  · exact .map ((yields_callOf "lucene" stays_quotedText).imp fun _ _ => trivial)
  · exact yields_sampleFilter
  · exact yields_betweenFilter
  · exact .map (yields_qualifiedBy h.docFilter)
  · exact yields_fieldFilter
  · exact .bind h.yields_docMetric fun _ left => .bind (stays_firstSymbol _) fun _ _ =>
      .bind h.yields_docMetric fun _ right => .pure ⟨left, right⟩

theorem yields_docFilter : Yields t (Grammar.docFilter inner) (DocFilter.EachScale Q) :=
  yields_joinedBy (fun _ hs => DocFilter.eachScaleOfAll_iff.mpr hs)
    (yields_joinedBy (fun _ hs => DocFilter.eachScaleOfAll_iff.mpr hs) h.yields_docFilterOperand)

/-! ## Expressions over groups -/

omit h in
theorem stays_withDefault : Stays t withDefault :=
  .bind (.optional (.bind (stays_keyword _) fun _ _ => stays_keyword _)) fun _ _ => .pure trivial

omit h in
theorem stays_timePeriod : Stays t timePeriod :=
  .bind .spaces fun _ _ => .bind stays_digits fun _ _ => .bind (.run1 _) fun _ _ => .pure trivial

omit h in
theorem stays_emptyCall (word : String) : Stays t (emptyCall word) :=
  .bind (stays_keyword word) fun _ _ =>
    .bind (stays_optional (yields_between "(" ")" (stays_pure _))) fun _ _ => .pure trivial

theorem yields_bucketGrouping : Yields t (bucketGrouping inner) (Grouping.EachLiteral Q W) := by
  have limits (m : DocMetric) (hm : m.EachScale Q) : Yields t (do
      let low ← afterComma integer
      let high ← afterComma integer
      let interval ← afterComma integer
      let gutters ← optional (afterComma (keyword "exclude_gutters"))
      pure (m, low, high, interval, gutters.isSome)) fun e => e.1.EachScale Q :=
    .bind (yields_afterComma stays_integer) fun _ _ =>
      .bind (yields_afterComma stays_integer) fun _ _ =>
        .bind (yields_afterComma stays_integer) fun _ _ =>
          .bind (.optional (yields_afterComma (stays_keyword _))) fun _ _ => .pure hm
  exact .bind (yields_callOf "bucket" (.bind h.docMetric limits)) fun _ hm =>
    .bind stays_withDefault fun _ _ => .pure hm

theorem yields_timeGrouping : Yields t timeGrouping (Grouping.EachLiteral Q W) := by
  have stays : Stays t timeGrouping :=
    yields_callOf "time" (.bind stays_timePeriod fun _ _ =>
      .bind (.optional (yields_afterComma stays_quotedText)) fun _ _ =>
        .bind (.optional (yields_afterComma stays_scopedName)) fun _ _ => .pure trivial)
  intro cs g rest sub read
  refine ⟨(stays sub read).1, ?_⟩
  obtain ⟨period, field, format, written, rfl⟩ := timeGrouping_written sub read
  exact h.periods period written

theorem yields_topTerms :
    Yields t (topTerms inner) fun e => Metric.EachLiteralOfOption Q W e.2 := by
  have fromBottom : Stays t (optional
      (orElse (do keyword "TOP"; pure false) (do keyword "BOTTOM"; pure true))) :=
    stays_optional (.orElse (.bind (stays_keyword _) fun _ _ => .pure trivial)
      (.bind (stays_keyword _) fun _ _ => .pure trivial))
  refine yields_between "[" "]" (.bind fromBottom fun bottom _ =>
    .bind (.optional (stays_natBelow _)) fun limit _ =>
      .bind (.optional (yields_after "BY" h.metric)) fun m hm => ?_)
  split
  · refine .pure ?_
    cases m with
    | none => trivial
    | some m => exact hm m rfl
  · exact .pure (Metric.eachLiteralOfOption_iff.mpr hm)

theorem yields_fieldGrouping : Yields t (fieldGrouping inner) (Grouping.EachLiteral Q W) := by
  refine .bind stays_scopedName fun _ _ => .bind (.optional h.yields_topTerms) fun top htop =>
    .bind stays_withDefault fun _ _ => .pure ?_
  cases top with
  | none => trivial
  | some top => exact htop top rfl

theorem yields_grouping : Yields t (grouping inner) (Grouping.EachLiteral Q W) := by
  refine .choice fun p hp => ?_
  simp only [List.mem_cons, List.not_mem_nil, or_false] at hp
  rcases hp with rfl | rfl | rfl | rfl | rfl | rfl | rfl | rfl | rfl | rfl
  · exact h.yields_bucketGrouping
  · exact h.yields_timeGrouping
  · exact yields_callOf "quantiles" (.bind stays_scopedName fun _ _ =>
      .bind (yields_afterComma (stays_natBelow _)) fun _ _ => .pure trivial)
  · exact .map (yields_callOf "predicate" h.docFilter)
  · exact yields_callOf "random" (.bind stays_scopedName fun _ _ =>
      .bind (yields_afterComma (stays_natBelow _)) fun _ _ =>
        .bind (.optional (yields_afterComma stays_quotedText)) fun _ _ => .pure trivial)
  · exact .bind (stays_emptyCall _) fun _ _ => .pure trivial
  · exact .bind (stays_emptyCall _) fun _ _ => .pure trivial
  · exact .bind (stays_emptyCall _) fun _ _ => .pure trivial
  · exact .bind stays_scopedName fun _ _ => .bind (yields_after "IN" stays_termList) fun _ _ =>
      .bind stays_withDefault fun _ _ => .pure trivial
  · exact h.yields_fieldGrouping

theorem yields_having : Yields t (having inner) fun f =>
    Filter.EachLiteralOfOption Q W f :=
  (Yields.optional (yields_after "HAVING" h.filter)).imp fun _ hx =>
    Filter.eachLiteralOfOption_iff.mpr hx

theorem yields_metricFunctions (p : Parser Metric) (hp : p ∈ metricFunctions inner) :
    Yields t p (Metric.EachLiteral Q W) := by
  have extreme {make : ScopedName → Option Metric → Metric} (name : String)
      (made : ∀ f m, Metric.EachLiteralOfOption Q W m → (make f m).EachLiteral Q W) :
      Yields t (callOf name (do
        let f ← scopedName
        pure (make f (← optional (afterComma inner.metric))))) (Metric.EachLiteral Q W) :=
    yields_callOf name (.bind stays_scopedName fun f _ =>
      .bind (.optional (yields_afterComma h.metric)) fun m hm =>
        .pure (made f m (Metric.eachLiteralOfOption_iff.mpr hm)))
  have arguments := yields_commaSeparated h.metric
  simp only [metricFunctions, List.mem_cons, List.not_mem_nil, or_false] at hp
  rcases hp with rfl | rfl | rfl | rfl | rfl | rfl | rfl | rfl | rfl | rfl | rfl | rfl | rfl | rfl |
    rfl | rfl | rfl | rfl
  · exact yields_callOf "distinct" (.bind stays_scopedName fun _ _ =>
      .bind h.yields_having fun _ hx => .pure hx)
  · exact yields_callOf "distinct_window" (.bind (stays_natBelow _) fun _ _ =>
      .bind (yields_afterComma stays_scopedName) fun _ _ =>
        .bind h.yields_having fun _ hx => .pure hx)
  · exact yields_callOf "percentile" (.bind stays_scopedName fun _ _ =>
      .bind (yields_afterComma stays_decimal) fun _ _ => .pure trivial)
  · exact extreme "field_min" fun _ _ hm => hm
  · exact extreme "field_max" fun _ _ hm => hm
  · exact .map (yields_callOf "parent" h.metric)
  · exact .map (yields_callOf "running" h.metric)
  · exact .map (yields_callOf "avg" h.metric)
  · exact .map (yields_callOf "abs" h.metric)
  · exact .map (yields_callOf "log" h.metric)
  · exact .map (yields_callOf "floor" h.metric)
  · exact .map (yields_callOf "ceil" h.metric)
  · exact .map (yields_callOf "round" h.metric)
  · exact .map ((yields_callOf "min" arguments).imp fun _ hs => Metric.eachLiteralOfAll_iff.mpr hs)
  · exact .map ((yields_callOf "max" arguments).imp fun _ hs => Metric.eachLiteralOfAll_iff.mpr hs)
  · exact yields_callOf "lag" (.bind (stays_natBelow _) fun _ _ =>
      .bind (yields_afterComma h.metric) fun _ hm => .pure hm)
  · exact yields_callOf "window" (.bind (stays_natBelow _) fun _ _ =>
      .bind (yields_afterComma h.metric) fun _ hm => .pure hm)
  · exact yields_callOf "sum_across" (.bind h.yields_grouping fun _ hg =>
      .bind (yields_afterComma h.metric) fun _ hm => .pure ⟨hg, hm⟩)

theorem yields_metricOperand : Yields t (Grammar.metricOperand inner) (Metric.EachLiteral Q W) := by
  refine .orElse (.bind (stays_symbol "-") fun _ _ => .map (h.metricOperand.imp fun m hm => ?_))
    (.choice fun p hp => ?_)
  · cases m <;> exact hm
  · simp only [List.mem_cons, List.not_mem_nil, or_false] at hp
    rcases hp with rfl | rfl | rfl | rfl | rfl | rfl | rfl | rfl
    · exact yields_between "(" ")" h.metric
    · exact .map (stays_decimal.imp fun _ _ => trivial)
    · exact .map (yields_between "[" "]" h.docMetric)
    · exact .choice h.yields_metricFunctions
    · exact .bind (yields_after "IF" h.filter) fun _ hc =>
        .bind (yields_after "THEN" h.metric) fun _ hy =>
          .bind (yields_after "ELSE" h.metric) fun _ hn => .pure ⟨hc, hy, hn⟩
    · exact .map (yields_qualifiedBy h.metric)
    · exact .map h.yields_docFunction
    · exact .map (stays_scopedName.imp fun _ _ => trivial)

theorem yields_metricPower : Yields t (Grammar.metricPower inner) (Metric.EachLiteral Q W) := by
  refine .bind h.yields_metricOperand fun base hbase =>
    .bind (.optional (.bind (stays_symbol "^") fun _ _ => h.metricPower)) fun exponent hexponent => ?_
  cases exponent with
  | none => exact .pure hbase
  | some exponent => exact .pure ⟨hbase, hexponent exponent rfl⟩

theorem yields_metric : Yields t (Grammar.metric inner) (Metric.EachLiteral Q W) :=
  yields_joined (fun _ _ _ => And.intro)
    (yields_joined (fun _ _ _ => And.intro) h.yields_metricPower)

omit h in
theorem yields_termFilter : Yields t termFilter (Filter.EachLiteral Q W) :=
  .bind (stays_call _) fun _ _ => .bind (stays_symbol _) fun _ _ => .orElse
    (.bind (stays_symbol _) fun _ _ => .map (stays_quotedText.imp fun _ _ => trivial))
    (.bind (stays_firstSymbol _) fun _ _ => .map (stays_term.imp fun _ _ => trivial))

theorem yields_filterOperand : Yields t (Grammar.filterOperand inner) (Filter.EachLiteral Q W) := by
  refine .orElse (.bind stays_notWord fun _ _ => .map h.filterOperand) (.choice fun p hp => ?_)
  simp only [List.mem_cons, List.not_mem_nil, or_false] at hp
  rcases hp with rfl | rfl | rfl | rfl | rfl
  · exact yields_between "(" ")" h.filter
  · exact .bind (stays_keyword _) fun _ _ => .pure trivial
  · exact .bind (stays_keyword _) fun _ _ => .pure trivial
  · exact yields_termFilter
  · exact .bind h.yields_metric fun _ left => .bind (stays_firstSymbol _) fun _ _ =>
      .bind h.yields_metric fun _ right => .pure ⟨left, right⟩

theorem yields_filter : Yields t (Grammar.filter inner) (Filter.EachLiteral Q W) :=
  yields_joinedBy (fun _ hs => Filter.eachLiteralOfAll_iff.mpr hs)
    (yields_joinedBy (fun _ hs => Filter.eachLiteralOfAll_iff.mpr hs) h.yields_filterOperand)

end Nested.EachLiteral

/-! ## Nesting -/

/-- A scaled call in a text with an argument of any depth, and the scale that it gives. -/
def ScaleWritten (t : List Char) (f : Scaling) (m : DocMetric) (scale : Int) : Prop :=
  ∃ depth n, ScaledCall t (Nested.ofDepth depth).docMetric f m n ∧ scale = scaleOfNumber n

/-- However deep expressions are nested, their scales and periods are written in the text. -/
theorem Nested.eachLiteral_ofDepth (scales : ∀ f m scale, ScaleWritten t f m scale → Q f m scale)
    (periods : ∀ period, PeriodWritten t period → W period) (depth : Nat) :
    (Nested.ofDepth depth).EachLiteral t Q W := by
  have scales (depth : Nat) (f : Scaling) (m : DocMetric) (n : Option Int)
      (call : ScaledCall t (Nested.ofDepth depth).docMetric f m n) : Q f m (scaleOfNumber n) :=
    scales f m _ ⟨depth, n, call, rfl⟩
  induction depth with
  | zero =>
    exact ⟨.fail, .fail, .fail, .fail, .fail, .fail, .fail, .fail, .fail, scales 0, periods⟩
  | succ depth ih =>
    exact ⟨ih.yields_docFilter, ih.yields_docFilterOperand, ih.yields_docMetric,
      ih.yields_docMetricOperand, ih.yields_filter, ih.yields_filterOperand, ih.yields_metric,
      ih.yields_metricPower, ih.yields_metricOperand, scales (depth + 1), periods⟩

/-! ## Clauses -/

theorem stays_timePoint : Stays t timePoint := by
  refine .bind .spaces fun _ _ => .choice fun p hp => ?_
  simp only [List.mem_cons, List.not_mem_nil, or_false] at hp
  rcases hp with rfl | rfl | rfl | rfl | rfl | rfl
  · refine .map (.bind (.exactly _ _) fun _ _ => .bind (.char _) fun _ _ =>
      .bind (.exactly _ _) fun _ _ => .bind (.char _) fun _ _ => .bind (.exactly _ _) fun _ _ =>
        .bind (.optional (.bind (.char _) fun _ _ => .run1 _)) fun _ _ => .pure trivial)
  · exact .map stays_quotedText
  · exact .bind (.mapOption (stays_digits.imp fun _ _ _ _ => trivial)) fun _ _ =>
      .bind (.satisfy _) fun _ _ => .bind stays_wordEnd fun _ _ =>
        .bind (.optional (stays_keyword _)) fun _ _ => .pure trivial
  · exact .bind (stays_keyword _) fun _ _ => .pure trivial
  · exact .bind (stays_keyword _) fun _ _ => .pure trivial
  · exact .bind (stays_keyword _) fun _ _ => .pure trivial

theorem stays_source : Stays t source := by
  have aliases : Stays t fieldAlias :=
    .bind stays_name fun _ _ => .bind (yields_after "AS" stays_name) fun _ _ => .pure trivial
  exact .bind stays_name fun _ _ =>
    .bind (stays_optional (.bind stays_timePoint fun _ _ =>
      .bind stays_timePoint fun _ _ => .pure trivial)) fun _ _ =>
      .bind (.optional (yields_after "AS" stays_name)) fun _ _ =>
        .bind (.optional (yields_after "ALIASING" (yields_between "(" ")"
          (yields_commaSeparated aliases)))) fun _ _ => .pure trivial

namespace Nested.EachLiteral

variable (h : inner.EachLiteral t Q W)

include h

theorem yields_stage : Yields t (stage inner) fun s =>
    s.grouping.EachLiteral Q W ∧ Filter.EachLiteralOfOption Q W s.having :=
  .bind h.yields_grouping fun _ hg => .bind h.yields_having fun _ hx =>
    .bind (.optional (yields_after "AS" stays_name)) fun _ _ => .pure ⟨hg, hx⟩

theorem yields_select : Yields t (select inner) fun s => s.metric.EachLiteral Q W := by
  refine .bind (P := fun e => e.1.EachLiteral Q W) (.orElse ?_ ?_) fun _ hm =>
    .bind (.optional (yields_after "AS" stays_name)) fun _ _ => .pure hm
  · exact yields_callOf "printf" (.bind h.metric fun _ hm =>
      .bind (yields_afterComma stays_quotedText) fun _ _ => .pure hm)
  · exact .bind h.yields_metric fun _ hm => .pure hm

theorem yields_query : Yields t (query inner) (Query.EachLiteral Q W) := by
  refine .bind (yields_after "FROM" (yields_commaSeparated stays_source)) fun _ _ =>
    .bind (.optional (yields_after "WHERE" h.yields_docFilter)) fun f hf =>
      .bind (.optional (.bind (stays_keyword _) fun _ _ => .bind (stays_keyword _) fun _ _ =>
        yields_commaSeparated h.yields_stage)) fun stages hstages =>
        .bind (.optional (yields_after "SELECT" (yields_commaSeparated h.yields_select)))
          fun selects hselects => .bind (.optional (yields_after "LIMIT" (stays_natBelow _)))
            fun _ _ => .bind .spaces fun _ _ => .pure ⟨hf, ?_, ?_⟩
  · cases stages with
    | none => nofun
    | some stages => exact hstages stages rfl
  · cases selects with
    | none => nofun
    | some selects => exact hselects selects rfl

end Nested.EachLiteral

end Grammar

open Grammar (ScaleWritten PeriodWritten)

/-- A text that is read as a whole is read from its beginning. -/
theorem read_of_readAll {α : Type} {p : Grammar.Nested → Parser α} {text : String} {a : α}
    (h : readAll p text = .ok a) :
    ∃ depth rest, p (Grammar.Nested.ofDepth depth) text.toList = .ok (a, rest) := by
  unfold readAll at h
  dsimp only at h
  split at h
  · cases h
  · rename_i rest read
    split at h
    · cases h
      exact ⟨_, rest, read⟩
    · cases h

variable {text : String} {Q : Scaling → DocMetric → Int → Prop} {W : String → Prop}

/-- The scales and periods of a query are written in its text. -/
theorem eachLiteral_of_parse {q : Query}
    (scales : ∀ f m scale, ScaleWritten text.toList f m scale → Q f m scale)
    (periods : ∀ period, PeriodWritten text.toList period → W period)
    (h : parse text = .ok q) : q.EachLiteral Q W := by
  obtain ⟨depth, rest, read⟩ := read_of_readAll h
  have nested := Grammar.Nested.eachLiteral_ofDepth scales periods depth
  exact (nested.yields_query (List.suffix_refl _) read).2

theorem DocMetric.eachScale_of_parse {m : DocMetric}
    (scales : ∀ f m scale, ScaleWritten text.toList f m scale → Q f m scale)
    (h : DocMetric.parse text = .ok m) : m.EachScale Q := by
  obtain ⟨depth, rest, read⟩ := read_of_readAll h
  have nested := Grammar.Nested.eachLiteral_ofDepth scales (W := fun _ => True)
    (fun _ _ => trivial) depth
  exact (nested.yields_docMetric (List.suffix_refl _) read).2

end Groupwise.Query
