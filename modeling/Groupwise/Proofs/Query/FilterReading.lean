import Groupwise.Proofs.Query.Ambiguity

/-!
# Filters that are read back

As for metrics: if nested expressions are read back up to a bound, then so are filters. Each kind of
filter is read by its own rule, since all rules before it fail.
-/
namespace Groupwise.Query.Grammar

open Groupwise.Parser

variable {cs rest : List Char} {style : Style} {inner : Nested} {bound : Nat}

/-! ## Fields -/

/-- The rule for fields is reached by what begins with a name. -/
theorem docFilterOperand_field {f : ScopedName} {r : DocFilter × List Char} (named : IsField f)
    (ends : Ends [] rest) (read : fieldFilter (writeField f ++ rest) = .ok r) :
    docFilterOperand inner (writeField f ++ rest) = .ok r := by
  have qualified : Fails (qualifiedFilter inner) (writeField f ++ rest) :=
    fails_qualifiedFilter_writeField named ends
  obtain ⟨cs, written⟩ := writeField_eq_cons f
  rw [written, List.cons_append] at read qualified ⊢
  have kinds : tests inner =
      ((tests inner).take 6 ++ [qualifiedFilter inner]) ++ fieldFilter :: [] := rfl
  refine docFilterOperand_kind kinds (fails_notWord rfl (by decide) (by decide)) ?_ read
  rw [List.forall_mem_append]
  exact ⟨fails_words rfl (by decide) (fails_parenthesis rfl (by decide)), by simp [qualified]⟩

theorem docFilterOperand_fieldIs {f : ScopedName} {t : Term} {negated : Bool}
    (named : IsField f) (legible : IsTerm t) (ends : Ends testSigns rest) :
    docFilterOperand inner (DocFilter.write style (.fieldIs f t negated) ++ rest) =
      .ok (.fieldIs f t negated, rest) := by
  have read : term (' ' :: (writeTerm t ++ rest)) = .ok (t, rest) :=
    (skips_term _).trans (term_writeTerm legible ends)
  have stop : absent continuesExpression rest = .ok ((), rest) := by
    apply absent_of_fails
    apply ends.fails_satisfy
    intro c there
    simp only [List.contains_iff_mem] at there
    rw [List.all_iff_forall_prop.mp
      (by decide : ['+', '-', '*', '/', '%', '<', '>', '='].all fun c => c.toLower = c) c there]
    exact there
  have tested : fieldTest (' ' :: ((if negated then "!=" else "=").toList ++
      ' ' :: (writeTerm t ++ rest))) = .ok (.is negated, ' ' :: (writeTerm t ++ rest)) := by
    cases negated <;> rfl
  have behind : Ends [] (' ' :: ((if negated then "!=" else "=").toList ++
      ' ' :: (writeTerm t ++ rest))) := by
    cases negated <;> exact blank_ends _ rfl
  simp only [DocFilter.write, spaced_cons_cons, spaced_singleton, List.append_assoc,
    List.cons_append]
  apply docFilterOperand_field named behind
  rw [fieldFilter, bind_ok (scopedName_writeField named (point_free behind)), bind_ok tested]
  exact (bind_ok read).trans (bind_ok stop)

theorem docFilterOperand_regex {f : ScopedName} {pattern : String} {negated : Bool}
    (named : IsField f) :
    docFilterOperand inner (DocFilter.write style (.regex f pattern negated) ++ rest) =
      .ok (.regex f pattern negated, rest) := by
  have read : quotedText (' ' :: (writeText pattern ++ rest)) = .ok (pattern, rest) :=
    (skips_quotedText _).trans (quotedText_writeText pattern)
  have tested : fieldTest (' ' :: ((if negated then "!=~" else "=~").toList ++
      ' ' :: (writeText pattern ++ rest))) =
        .ok (.regex negated, ' ' :: (writeText pattern ++ rest)) := by
    cases negated <;> rfl
  have behind : Ends [] (' ' :: ((if negated then "!=~" else "=~").toList ++
      ' ' :: (writeText pattern ++ rest))) := by
    cases negated <;> exact blank_ends _ rfl
  simp only [DocFilter.write, spaced_cons_cons, spaced_singleton, List.append_assoc,
    List.cons_append]
  apply docFilterOperand_field named behind
  rw [fieldFilter, bind_ok (scopedName_writeField named (point_free behind)), bind_ok tested]
  exact bind_ok read

theorem termList_parenthesize {terms : List Term} (legible : ∀ t ∈ terms, IsTerm t) :
    termList (parenthesize (commas (terms.map writeTerm)) ++ rest) = .ok (terms, rest) := by
  have opened (cs : List Char) : symbol "(" ('(' :: cs) = .ok ((), cs) := rfl
  have closed : symbol ")" (')' :: rest) = .ok ((), rest) := rfl
  have read : optional (commaSeparated term) (commas (terms.map writeTerm) ++ ')' :: rest) =
      .ok (if terms = [] then none else some terms, ')' :: rest) := by
    by_cases nonempty : terms = []
    · subst nonempty
      rw [if_pos rfl]
      have noTerm : Fails term (')' :: rest) :=
        fails_term rfl (by decide) (by decide) (by simp [isTermChar, isNameChar_eq])
      exact optional_of_fails noTerm.bind
    · rw [if_neg nonempty]
      apply optional_ok
      apply commaSeparated_commas nonempty _ (List.not_mem_nil (a := ',')) List.not_mem_nil
      intro t ht
      exact Reads.of_skips skips_term fun rest ends => term_writeTerm (legible t ht) ends
  rw [parenthesize, List.cons_append, List.append_assoc, termList, between, bind_ok (opened _)]
  have value : (if terms = [] then none else some terms).getD [] = terms := by
    split
    · simp_all
    · rfl
  have inside : (do pure ((← optional (commaSeparated term)).getD []) : Parser (List Term))
      (commas (terms.map writeTerm) ++ ([')'] ++ rest)) = .ok (terms, ')' :: rest) := by
    refine (bind_ok read).trans ?_
    rw [value]
    rfl
  rw [bind_ok inside, bind_ok closed]
  rfl

theorem fieldTest_isIn (negated : Bool) (cs : List Char) :
    fieldTest (' ' :: ((if negated then "NOT IN" else "IN").toList ++ ' ' :: cs)) =
      .ok (.isIn negated, ' ' :: cs) := by
  have membership : keyword "IN" (' ' :: ("IN".toList ++ ' ' :: cs)) = .ok ((), ' ' :: cs) :=
    (skips_keyword "IN" _).trans (keyword_blank rfl rfl)
  cases negated with
  | true =>
    have negation : keyword "NOT" (' ' :: ("NOT".toList ++ ' ' :: ("IN".toList ++ ' ' :: cs))) =
        .ok ((), ' ' :: ("IN".toList ++ ' ' :: cs)) :=
      (skips_keyword "NOT" _).trans (keyword_blank rfl rfl)
    have read : (do keyword "NOT"; keyword "IN"; pure (.isIn true) : Parser FieldTest)
        (' ' :: ("NOT".toList ++ ' ' :: ("IN".toList ++ ' ' :: cs))) =
          .ok (.isIn true, ' ' :: cs) := by
      rw [bind_ok negation, bind_ok membership]
      rfl
    exact (orElse_of_fails ⟨_, rfl⟩).trans ((orElse_of_fails ⟨_, rfl⟩).trans (orElse_ok read))
  | false =>
    have read : (do keyword "IN"; pure (.isIn false) : Parser FieldTest)
        (' ' :: ("IN".toList ++ ' ' :: cs)) = .ok (.isIn false, ' ' :: cs) := by
      rw [bind_ok membership]
      rfl
    have opposite : Fails (do keyword "NOT"; keyword "IN"; pure (.isIn true) : Parser FieldTest)
        (' ' :: ("IN".toList ++ ' ' :: cs)) := Fails.bind ⟨_, rfl⟩
    exact (orElse_of_fails ⟨_, rfl⟩).trans ((orElse_of_fails ⟨_, rfl⟩).trans
      ((orElse_of_fails opposite).trans (orElse_ok read)))

theorem docFilterOperand_fieldIn {f : ScopedName} {terms : List Term} {negated : Bool}
    (named : IsField f) (legible : ∀ t ∈ terms, IsTerm t) :
    docFilterOperand inner (DocFilter.write style (.fieldIn f terms negated) ++ rest) =
      .ok (.fieldIn f terms negated, rest) := by
  have read : termList (' ' :: (parenthesize (commas (terms.map writeTerm)) ++ rest)) =
      .ok (terms, rest) := termList_parenthesize legible
  have tested := fieldTest_isIn negated (parenthesize (commas (terms.map writeTerm)) ++ rest)
  have behind : Ends [] (' ' :: ((if negated then "NOT IN" else "IN").toList ++
      ' ' :: (parenthesize (commas (terms.map writeTerm)) ++ rest))) := by
    cases negated <;> exact blank_ends _ rfl
  simp only [DocFilter.write, spaced_cons_cons, spaced_singleton, List.append_assoc,
    List.cons_append]
  apply docFilterOperand_field named behind
  rw [fieldFilter, bind_ok (scopedName_writeField named (point_free behind)), bind_ok tested]
  exact bind_ok read

/-! ## Calls -/

/-- What fails before the rules for functions. -/
theorem fails_before_calls {name : String} {arguments : List (List Char)}
    (mem : name ∈ filterNames) :
    Fails notWord (writeCall name arguments ++ rest) ∧
      ∀ p ∈ (tests inner).take 3, Fails p (writeCall name arguments ++ rest) := by
  obtain ⟨c, more, spelt, among⟩ : ∃ c more, name.toList = c :: more ∧ c ∈ ['l', 's', 'b'] := by
    simp only [filterNames, List.mem_cons, List.not_mem_nil, or_false] at mem
    rcases mem with rfl | rfl | rfl
    · exact ⟨_, _, rfl, by decide⟩
    · exact ⟨_, _, rfl, by decide⟩
    · exact ⟨_, _, rfl, by decide⟩
  have each : ['l', 's', 'b'].all fun c => Scanner.isSpace c = false ∧ c ≠ '!' ∧ c ≠ '(' ∧
      c.toLower ≠ 'n' ∧ c.toLower ≠ 't' ∧ c.toLower ≠ 'f' := by decide
  obtain ⟨visible, mark, parenthesis, notNot, notTrue, notFalse⟩ :=
    List.all_iff_forall_prop.mp each c among
  rw [writeCall, spelt, List.cons_append, List.cons_append]
  refine ⟨fails_notWord visible mark notNot, ?_⟩
  simp only [tests, List.take_succ_cons, List.take_zero, List.forall_mem_cons, List.not_mem_nil,
    false_implies, implies_true, and_true]
  exact ⟨fails_parenthesis visible parenthesis, (fails_keyword (d := 't') visible rfl notTrue).bind,
    (fails_keyword (d := 'f') visible rfl notFalse).bind⟩

theorem docFilterOperand_lucene (query : String) :
    docFilterOperand inner (DocFilter.write style (.lucene query) ++ rest) =
      .ok (.lucene query, rest) := by
  have mem : "lucene" ∈ filterNames := by decide
  obtain ⟨affirmed, others⟩ := fails_before_calls mem
  have kinds : tests inner = (tests inner).take 3 ++ (.lucene <$> callOf "lucene" quotedText) ::
      (tests inner).drop 4 := rfl
  have read : quotedText (commas [writeText query] ++ ')' :: rest) = .ok (query, ')' :: rest) := by
    rw [commas_singleton]
    exact quotedText_writeText query
  have called := callOf_writeCall (letters_of_mem_filterNames mem) read
  exact docFilterOperand_kind kinds affirmed others (map_ok called)

theorem betweenFilter_write {f : ScopedName} (named : IsField f) (lower upper : Int64) :
    betweenFilter (DocFilter.write style (.between f lower upper) ++ rest) =
      .ok (.between f lower upper, rest) := by
  have low (cs : List Char) : afterComma integer
      (',' :: ' ' :: (writeInt lower.toInt ++ ',' :: cs)) = .ok (lower, ',' :: cs) :=
    afterComma_ok skips_integer (integer_writeInt lower (.comma List.not_mem_nil))
  have high : afterComma integer (',' :: ' ' :: (writeInt upper.toInt ++ ')' :: rest)) =
      .ok (upper, ')' :: rest) :=
    afterComma_ok skips_integer (integer_writeInt upper ends_closing)
  apply callOf_writeCall (letters_of_mem_filterNames (by decide))
  simp only [commas_cons_cons, commas_singleton, List.append_assoc, List.cons_append]
  rw [bind_ok (field_comma named), bind_ok (low _), bind_ok high]
  rfl

theorem docFilterOperand_between {f : ScopedName} (named : IsField f) (lower upper : Int64) :
    docFilterOperand inner (DocFilter.write style (.between f lower upper) ++ rest) =
      .ok (.between f lower upper, rest) := by
  have mem : "between" ∈ filterNames := by decide
  obtain ⟨affirmed, others⟩ := fails_before_calls mem
  have kinds : tests inner = ((tests inner).take 3 ++ [.lucene <$> callOf "lucene" quotedText,
      sampleFilter]) ++ betweenFilter :: (tests inner).drop 6 := rfl
  refine docFilterOperand_kind kinds affirmed ?_ (betweenFilter_write named lower upper)
  rw [List.forall_mem_append]
  refine ⟨others, ?_⟩
  simp only [List.forall_mem_cons, List.not_mem_nil, false_implies, implies_true, and_true]
  have letters := letters_of_mem_filterNames mem
  exact ⟨(fails_filter_call letters (by decide) (by decide)).bind.map,
    (fails_filter_call letters (by decide) (by decide)).bind⟩

theorem sampleFilter_write {f : ScopedName} {numerator : Nat} {denominator : Option Nat}
    {seed : Option String} (named : IsField f) (small : numerator < UInt64.size)
    (small' : ∀ n ∈ denominator, n < UInt64.size) :
    sampleFilter (DocFilter.write style (.sample f numerator denominator seed) ++ rest) =
      .ok (.sample f numerator denominator seed, rest) := by
  have number {n : Nat} (small : n < UInt64.size) {cs : List Char} (ends : Ends [] cs) :
      afterComma limitNumber (',' :: ' ' :: (writeNat n ++ cs)) = .ok (n, cs) :=
    afterComma_ok (skips_natBelow _) (natBelow_writeNat small ends)
  have text (s : String) : optional (afterComma quotedText)
      (',' :: ' ' :: (writeText s ++ ')' :: rest)) = .ok (some s, ')' :: rest) :=
    optional_ok (afterComma_ok skips_quotedText (quotedText_writeText s))
  have noNumber (s : String) : optional (afterComma limitNumber)
      (',' :: ' ' :: (writeText s ++ ')' :: rest)) =
        .ok (none, ',' :: ' ' :: (writeText s ++ ')' :: rest)) := optional_of_fails ⟨_, rfl⟩
  have comma {cs : List Char} : Ends [] (',' :: cs) := .comma List.not_mem_nil
  apply callOf_writeCall (letters_of_mem_filterNames (by decide))
  rcases denominator with _ | n
  · rcases seed with _ | s
    · simp only [Option.map_none, Option.toList_none, List.append_nil, commas_cons_cons,
        commas_singleton, List.append_assoc, List.cons_append]
      rw [bind_ok (field_comma named), bind_ok (number small ends_closing),
        bind_ok (optional_afterComma_closing _), bind_ok (optional_afterComma_closing _)]
      rfl
    · simp only [Option.map_none, Option.map_some, Option.toList_none, Option.toList_some,
        List.append_nil, commas_cons_cons, commas_singleton, List.append_assoc, List.cons_append,
        List.nil_append]
      rw [bind_ok (field_comma named), bind_ok (number small comma), bind_ok (noNumber s),
        bind_ok (text s)]
      rfl
  · rcases seed with _ | s
    · simp only [Option.map_none, Option.map_some, Option.toList_none, Option.toList_some,
        List.append_nil, commas_cons_cons, commas_singleton, List.append_assoc, List.cons_append,
        List.nil_append]
      rw [bind_ok (field_comma named), bind_ok (number small comma),
        bind_ok (optional_ok (number (small' n rfl) ends_closing)),
        bind_ok (optional_afterComma_closing _)]
      rfl
    · simp only [Option.map_some, Option.toList_some, commas_cons_cons, commas_singleton,
        List.append_assoc, List.cons_append, List.nil_append]
      rw [bind_ok (field_comma named), bind_ok (number small comma),
        bind_ok (optional_ok (number (small' n rfl) comma)), bind_ok (text s)]
      rfl

theorem docFilterOperand_sample {f : ScopedName} {numerator : Nat} {denominator : Option Nat}
    {seed : Option String} (named : IsField f) (small : numerator < UInt64.size)
    (small' : ∀ n ∈ denominator, n < UInt64.size) :
    docFilterOperand inner
        (DocFilter.write style (.sample f numerator denominator seed) ++ rest) =
      .ok (.sample f numerator denominator seed, rest) := by
  have mem : "sample" ∈ filterNames := by decide
  obtain ⟨affirmed, others⟩ := fails_before_calls mem
  have kinds : tests inner = ((tests inner).take 3 ++ [.lucene <$> callOf "lucene" quotedText]) ++
      sampleFilter :: (tests inner).drop 5 := rfl
  refine docFilterOperand_kind kinds affirmed ?_ (sampleFilter_write named small small')
  rw [List.forall_mem_append]
  refine ⟨others, ?_⟩
  simp only [List.forall_mem_cons, List.not_mem_nil, false_implies, implies_true, and_true]
  have letters := letters_of_mem_filterNames mem
  exact (fails_filter_call letters (by decide) (by decide)).bind.map

/-! ## Truth values -/

theorem docFilterOperand_bool (value : Bool) (ends : Ends [] rest) :
    docFilterOperand inner (DocFilter.write style (.bool value) ++ rest) =
      .ok (.bool value, rest) := by
  have wordEnds : ∀ c ∈ rest.head?, isNameChar c = false := ends.head (by simp [isNameChar_eq])
  cases value with
  | true =>
    have kinds : tests inner = (tests inner).take 1 ++
        (do keyword "true"; pure (.bool true)) :: (tests inner).drop 2 := rfl
    have read : keyword "true" ("true".toList ++ rest) = .ok ((), rest) :=
      keyword_append rfl rfl wordEnds
    refine docFilterOperand_kind kinds (fails_notWord rfl (by decide) (by decide)) ?_
      (bind_ok read)
    simp only [tests, List.take_succ_cons, List.take_zero, List.forall_mem_cons, List.not_mem_nil,
      false_implies, implies_true, and_true]
    exact fails_parenthesis rfl (by decide)
  | false =>
    have kinds : tests inner = (tests inner).take 2 ++
        (do keyword "false"; pure (.bool false)) :: (tests inner).drop 3 := rfl
    have read : keyword "false" ("false".toList ++ rest) = .ok ((), rest) :=
      keyword_append rfl rfl wordEnds
    refine docFilterOperand_kind kinds (fails_notWord rfl (by decide) (by decide)) ?_
      (bind_ok read)
    simp only [tests, List.take_succ_cons, List.take_zero, List.forall_mem_cons, List.not_mem_nil,
      false_implies, implies_true, and_true]
    exact ⟨fails_parenthesis rfl (by decide),
      (fails_keyword (d := 't') rfl rfl (by decide)).bind⟩

/-! ## Nested filters -/

theorem docFilterOperand_parenthesize {f : DocFilter} {text signs : List Char}
    (h : Reads inner.docFilter text f signs) (closing : ')' ∉ signs) :
    docFilterOperand inner (parenthesize text ++ rest) = .ok (f, rest) := by
  have kinds : tests inner = [] ++ between "(" ")" inner.docFilter :: (tests inner).drop 1 := rfl
  exact docFilterOperand_kind kinds (fails_notWord rfl (by decide) (by decide)) (by simp)
    (between_parenthesize h closing)

theorem docFilterOperand_qualified {dataset : String} {f : DocFilter} (named : IsName dataset)
    (h : Reads inner.docFilter (f.write style) f filterSigns) :
    docFilterOperand inner (DocFilter.write style (.qualified [dataset] f) ++ rest) =
      .ok (.qualified [dataset] f, rest) := by
  have kinds : tests inner = (tests inner).take 6 ++ qualifiedFilter inner ::
      (tests inner).drop 7 := rfl
  have inside : between "(" ")" inner.docFilter (parenthesize (f.write style) ++ rest) =
      .ok (f, rest) := between_parenthesize h (by decide)
  have parts : qualifiedBy inner.docFilter
      (writeName dataset ++ '.' :: (parenthesize (f.write style) ++ rest)) =
        .ok ((dataset, f), rest) := by
    rw [qualifiedBy, bind_ok (name_writeName named), bind_ok (char_cons '.'), bind_ok inside]
    rfl
  simp only [DocFilter.write, List.map_cons, List.map_nil, commas_singleton, List.append_assoc,
    List.cons_append]
  exact docFilterOperand_kind kinds (fails_notWord rfl (by decide) (by decide))
    (fails_words rfl (by decide) (fails_parenthesis rfl (by decide))) (map_ok parts)

theorem docFilterOperand_not (h : Handles style inner bound) {f : DocFilter}
    (canonical : f.Canonical) (short : (DocFilter.write style (.not f)).length ≤ bound)
    (ends : Ends testSigns rest) :
    docFilterOperand inner (DocFilter.write style (.not f) ++ rest) = .ok (.not f, rest) := by
  simp only [DocFilter.write, spaced_cons_cons, spaced_singleton, List.length_append,
    List.length_cons] at short
  have read := (h.filterOperand f (f.isCompound || style.filter f) canonical (by simp +contextual)
    (by change (style.filterOperand f _).length < _; omega)).blank ends
  have negation : notWord ("NOT".toList ++ ' ' :: (style.filterOperand f (f.write style) ++ rest)) =
      .ok ((), ' ' :: (style.filterOperand f (f.write style) ++ rest)) :=
    orElse_ok (keyword_blank rfl rfl)
  simp only [DocFilter.write, spaced_cons_cons, spaced_singleton, List.append_assoc,
    List.cons_append]
  exact orElse_ok ((bind_ok negation).trans (map_ok read))

/-! ## Comparisons -/

theorem comparison_symbol (op : Comparison) (cs : List Char) :
    comparison (' ' :: (op.symbol.toList ++ ' ' :: cs)) = .ok (op, ' ' :: cs) := by
  cases op <;> rfl

/-- Unless it looks like a term, a right side begins with a parenthesis or a name. -/
theorem operand_start (style : Style) {m : DocMetric} (h : style.looksLikeTerm m = false) :
    ∃ c cs, style.operand m (m.write style) = c :: cs ∧ c ∈ ['(', '`'] := by
  rw [operand_eq_around]
  by_cases set : (m.isCompound || style.metric m) = true
  · rw [set]
    exact ⟨'(', _, rfl, by decide⟩
  · rw [Bool.eq_false_iff.mpr set]
    cases m with
    | name f =>
      obtain ⟨cs, written⟩ := writeField_eq_cons f
      exact ⟨'`', cs, written, by decide⟩
    | negate _ | binary _ _ _ | ifThenElse _ _ _ => exact absurd rfl set
    | _ => exact absurd (Bool.not_inj (y := true) h) set

/-- Where the left side of a comparison is a bare name, no test of a field stands behind it. -/
theorem noTest_of_bare (apart : style.setsNamesApart = true) {op : Comparison} {l r : DocMetric}
    {f : ScopedName} (name : l = .name f)
    (bare : (l.isCompound || style.metric l ||
      style.setsNamesApart && style.isAmbiguous op l r) = false) :
    NoTest (' ' :: (op.symbol.toList ++ ' ' :: (style.operand r (r.write style) ++ rest))) := by
  subst name
  rw [apart, Bool.true_and, Bool.or_eq_false_iff] at bare
  by_cases inequality : op ≠ .eq ∧ op ≠ .ne
  · exact noTest_inequality inequality _
  · have termless : style.looksLikeTerm r = false := by
      cases op with
      | eq | ne => exact bare.2
      | _ => exact absurd ⟨by decide, by decide⟩ inequality
    obtain ⟨c, cs, written, among⟩ := operand_start style termless
    rw [written]
    exact noTest_of_termless op among

theorem docFilterOperand_compare (apart : style.setsNamesApart = true)
    (h : Handles style inner bound) {op : Comparison} {l r : DocMetric} (left : l.Canonical)
    (right : r.Canonical) (short : (DocFilter.write style (.compare op l r)).length ≤ bound)
    (ends : Ends arithmeticSigns rest) :
    docFilterOperand inner (DocFilter.write style (.compare op l r) ++ rest) =
      .ok (.compare op l r, rest) := by
  simp only [DocFilter.write, spaced_cons_cons, spaced_singleton, List.length_append,
    List.length_cons] at short
  simp only [DocFilter.write, spaced_cons_cons, spaced_singleton, List.append_assoc,
    List.cons_append]
  unfold Style.leftOperand at short ⊢
  generalize set : (l.isCompound || style.metric l ||
    style.setsNamesApart && style.isAmbiguous op l r) = needed at short ⊢
  have behind := ends_symbol op (' ' :: (style.operand r (r.write style) ++ rest))
  have only : OnlyCompares inner (Style.around needed (l.write style) ++
      ' ' :: (op.symbol.toList ++ ' ' :: (style.operand r (r.write style) ++ rest))) := by
    apply onlyCompares_around h left _ (by omega) behind.tokenOnly
    · intro bare f name
      exact noTest_of_bare apart name (set.trans bare)
    · intro compound
      simp [← set, compound]
  have readRight : docMetric inner (style.operand r (r.write style) ++ rest) = .ok (r, rest) :=
    docMetric_write h right (by rw [← operand_eq_around]; omega) ends
  rw [only.docFilterOperand_eq, metricComparison,
    bind_ok (docMetric_write h left (by omega) behind), bind_ok (comparison_symbol op _)]
  exact bind_ok ((skips_docMetric inner _).trans readRight)

/-! ## Operands -/

/-- A filter that is no operand itself is read as it stands. -/
theorem docFilterOperand_plain (apart : style.setsNamesApart = true)
    (h : Handles style inner bound) {f : DocFilter} (canonical : f.Canonical)
    (plain : f.isCompound = false) (short : (f.write style).length ≤ bound)
    (ends : Ends testSigns rest) :
    docFilterOperand inner (f.write style ++ rest) = .ok (f, rest) := by
  cases canonical with
  | fieldIs named legible => exact docFilterOperand_fieldIs named legible ends
  | regex named => exact docFilterOperand_regex named
  | fieldIn named legible => exact docFilterOperand_fieldIn named legible
  | between named => exact docFilterOperand_between named _ _
  | compare left right =>
    exact docFilterOperand_compare apart h left right short (ends.mono (by decide))
  | lucene => exact docFilterOperand_lucene _
  | sample named small small' => exact docFilterOperand_sample named small small'
  | bool => exact docFilterOperand_bool _ ends.tokenOnly
  | and _ _ | or _ _ | not _ => cases plain
  | qualified named filter =>
    have inside := h.plainFilter filter (by
      simp only [DocFilter.write, parenthesize, List.length_append, List.length_cons] at short
      omega)
    exact docFilterOperand_qualified named inside

theorem docFilterOperand_around (apart : style.setsNamesApart = true)
    (h : Handles style inner bound) {f : DocFilter} {needed : Bool} (canonical : f.Canonical)
    (set : f.isCompound → needed = true)
    (short : (Style.around needed (f.write style)).length ≤ bound) (ends : Ends testSigns rest) :
    docFilterOperand inner (Style.around needed (f.write style) ++ rest) = .ok (f, rest) := by
  cases needed with
  | true =>
    have shorter : (f.write style).length < bound := by
      simp only [Style.around, if_true, parenthesize, List.length_cons, List.length_append] at short
      omega
    exact docFilterOperand_parenthesize (h.plainFilter canonical shorter) (by decide)
  | false =>
    have plain : f.isCompound = false := by
      rw [Bool.eq_false_iff]
      intro compound
      cases set compound
    exact docFilterOperand_plain apart h canonical plain short ends

theorem skips_docFilterOperand (inner : Nested) : SkipsBlank (docFilterOperand inner) := by
  have skips_notWord : SkipsBlank notWord := (skips_keyword "NOT").orElse (skips_symbol "!")
  apply skips_notWord.bind.orElse
  apply SkipsBlank.choice (List.cons_ne_nil _ _)
  simp only [List.forall_mem_cons, List.not_mem_nil, false_implies, implies_true, and_true]
  exact ⟨(skips_symbol "(").bind, (skips_keyword "true").bind, (skips_keyword "false").bind,
    (skips_callOf _ _).map, skips_callOf _ _, skips_callOf _ _, skips_name.bind.map,
    skips_scopedName.bind, (skips_docMetric inner).bind⟩

theorem skips_docFilter (inner : Nested) : SkipsBlank (docFilter inner) :=
  (skips_docFilterOperand inner).bind.bind

/-! ## Connectives -/

theorem docFilter_operand {f : DocFilter} (h : docFilterOperand inner cs = .ok (f, rest))
    (ends : Ends filterSigns rest) : docFilter inner cs = .ok (f, rest) :=
  joinedBy_alone (joinedBy_alone h (ends.fails_keyword rfl (by decide)))
    (ends.fails_keyword rfl (by decide))

/-- Operands of a connective are read up to the next one. -/
theorem docFilterOperand_joined (apart : style.setsNamesApart = true)
    (h : Handles style inner bound) {fs : List DocFilter} {separator : List Char}
    (canonical : ∀ f ∈ fs, f.Canonical)
    (short : (separator.intercalate (DocFilter.writeOperands style fs)).length ≤ bound)
    {f : DocFilter} (mem : f ∈ fs) (ends : Ends testSigns rest) :
    docFilterOperand inner (style.filterOperand f (f.write style) ++ rest) = .ok (f, rest) := by
  have written : style.filterOperand f (f.write style) ∈ DocFilter.writeOperands style fs := by
    rw [writeOperands_eq_map]
    exact List.mem_map_of_mem mem
  exact docFilterOperand_around apart h (canonical f mem) (by simp +contextual)
    (Nat.le_trans (length_le_intercalate separator written) short) ends

theorem docFilter_and (apart : style.setsNamesApart = true) (h : Handles style inner bound)
    {fs : List DocFilter} (several : 2 ≤ fs.length) (canonical : ∀ f ∈ fs, f.Canonical)
    (short : (DocFilter.write style (.and fs)).length ≤ bound) (ends : Ends filterSigns rest) :
    docFilter inner (DocFilter.write style (.and fs) ++ rest) = .ok (.and fs, rest) := by
  have go (cs : List Char) : keyword "AND" (" AND ".toList ++ cs) = .ok ((), ' ' :: cs) :=
    (skips_keyword "AND" _).trans (keyword_blank rfl rfl)
  have reads : ∀ f ∈ fs, ∀ rest', (rest' = rest ∨ ∃ cs, rest' = " AND ".toList ++ cs) →
      docFilterOperand inner (style.filterOperand f (f.write style) ++ rest') = .ok (f, rest') ∧
        docFilterOperand inner (' ' :: (style.filterOperand f (f.write style) ++ rest')) =
          .ok (f, rest') := by
    intro f mem rest' next
    have ends' : Ends testSigns rest' := by
      obtain rfl | ⟨cs, rfl⟩ := next
      · exact ends.mono (by decide)
      · exact .blank (c := 'A') rfl (by decide)
    have read := docFilterOperand_joined apart h canonical short mem ends'
    exact ⟨read, (skips_docFilterOperand inner _).trans read⟩
  rw [DocFilter.write, writeOperands_eq_map]
  exact joinedBy_alone (joinedBy_several several (by decide) go
    (ends.fails_keyword rfl (by decide)) reads) (ends.fails_keyword rfl (by decide))

theorem docFilter_or (apart : style.setsNamesApart = true) (h : Handles style inner bound)
    {fs : List DocFilter} (several : 2 ≤ fs.length) (canonical : ∀ f ∈ fs, f.Canonical)
    (short : (DocFilter.write style (.or fs)).length ≤ bound) (ends : Ends filterSigns rest) :
    docFilter inner (DocFilter.write style (.or fs) ++ rest) = .ok (.or fs, rest) := by
  have go (cs : List Char) : keyword "OR" (" OR ".toList ++ cs) = .ok ((), ' ' :: cs) :=
    (skips_keyword "OR" _).trans (keyword_blank rfl rfl)
  have reads : ∀ f ∈ fs, ∀ rest', (rest' = rest ∨ ∃ cs, rest' = " OR ".toList ++ cs) →
      joinedBy "AND" .and (docFilterOperand inner)
          (style.filterOperand f (f.write style) ++ rest') = .ok (f, rest') ∧
        joinedBy "AND" .and (docFilterOperand inner)
          (' ' :: (style.filterOperand f (f.write style) ++ rest')) = .ok (f, rest') := by
    intro f mem rest' next
    have ends' : Ends (testSigns ++ ['a']) rest' := by
      obtain rfl | ⟨cs, rfl⟩ := next
      · exact ends.mono (by decide)
      · exact .blank (c := 'O') rfl (by decide)
    have read := docFilterOperand_joined apart h canonical short mem (ends'.mono (by decide))
    have alone : joinedBy "AND" .and (docFilterOperand inner)
        (style.filterOperand f (f.write style) ++ rest') = .ok (f, rest') :=
      joinedBy_alone read (ends'.fails_keyword rfl (by decide))
    exact ⟨alone, ((skips_docFilterOperand inner).bind _).trans alone⟩
  rw [DocFilter.write, writeOperands_eq_map]
  exact joinedBy_several several (by decide) go (ends.fails_keyword rfl (by decide)) reads

theorem docFilter_around (apart : style.setsNamesApart = true) (h : Handles style inner bound)
    {f : DocFilter} {needed : Bool} (canonical : f.Canonical)
    (short : (Style.around needed (f.write style)).length ≤ bound) (ends : Ends filterSigns rest) :
    docFilter inner (Style.around needed (f.write style) ++ rest) = .ok (f, rest) := by
  have ends' : Ends testSigns rest := ends.mono (by decide)
  by_cases set : f.isCompound → needed = true
  · exact docFilter_operand (docFilterOperand_around apart h canonical set short ends') ends
  · obtain ⟨compound, bare⟩ := Classical.not_imp.mp set
    cases Bool.eq_false_iff.mpr bare
    cases canonical with
    | and several filters => exact docFilter_and apart h several filters short ends
    | or several filters => exact docFilter_or apart h several filters short ends
    | not filter => exact docFilter_operand (docFilterOperand_not h filter short ends') ends
    | _ => cases compound

end Groupwise.Query.Grammar
