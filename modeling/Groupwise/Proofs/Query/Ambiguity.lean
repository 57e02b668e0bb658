import Groupwise.Proofs.Query.MetricReading

/-!
# Metrics where filters are tried

The kinds of filters are tried one after the other, and comparisons of metrics come last. What
begins a metric begins no filter of another kind, but for two beginnings: a parenthesis, behind
which it must be known that no filter is read, and a name, behind which no test of a field may
stand. The latter is why a name is set apart on the left of some comparisons.
-/
namespace Groupwise.Query.Grammar

open Groupwise.Parser

variable {cs rest : List Char} {style : Style} {inner : Nested} {bound : Nat}

/-! ## Kinds of filters -/

/-- The filters that are tried before comparisons of metrics. -/
def tests (inner : Nested) : List (Parser DocFilter) :=
  [between "(" ")" inner.docFilter, do keyword "true"; pure (.bool true),
    do keyword "false"; pure (.bool false), .lucene <$> callOf "lucene" quotedText, sampleFilter,
    betweenFilter, qualifiedFilter inner, fieldFilter]

theorem docFilterPrimary_eq (inner : Nested) :
    docFilterPrimary inner = choice (tests inner ++ [metricComparison inner]) := rfl

/-- What begins here can only be a comparison of metrics. -/
structure OnlyCompares (inner : Nested) (cs : List Char) : Prop where
  affirmed : Fails notWord cs
  others : ∀ p ∈ tests inner, Fails p cs

theorem OnlyCompares.docFilterOperand_eq (h : OnlyCompares inner cs) :
    docFilterOperand inner cs = metricComparison inner cs := by
  rw [docFilterOperand, orElse_of_fails h.affirmed.bind, docFilterPrimary_eq]
  exact choice_append (List.cons_ne_nil _ _) h.others

/-- The first kind of filter that does not fail is read. -/
theorem docFilterOperand_kind {before after : List (Parser DocFilter)} {p : Parser DocFilter}
    {r : DocFilter × List Char} (kinds : tests inner = before ++ p :: after)
    (affirmed : Fails notWord cs) (others : ∀ q ∈ before, Fails q cs) (read : p cs = .ok r) :
    docFilterOperand inner cs = .ok r := by
  rw [docFilterOperand, orElse_of_fails affirmed.bind, docFilterPrimary_eq, kinds,
    List.append_assoc, List.cons_append, choice_append (List.cons_ne_nil _ _) others]
  exact choice_ok read

/-- The first letters of the words that begin a filter. -/
def openingLetters : List Char := ['n', 't', 'f', 'l', 's', 'b']

theorem fails_notWord {c : Char} (visible : Scanner.isSpace c = false) (mark : c ≠ '!')
    (letter : c.toLower ≠ 'n') : Fails notWord (c :: cs) :=
  (fails_keyword (d := 'N') visible rfl letter).orElse (fails_symbol visible rfl mark)

theorem fails_words {c : Char} (visible : Scanner.isSpace c = false)
    (letter : c.toLower ∉ openingLetters)
    (parenthesised : Fails (between "(" ")" inner.docFilter) (c :: cs)) :
    ∀ p ∈ (tests inner).take 6, Fails p (c :: cs) := by
  simp only [openingLetters, List.mem_cons, List.not_mem_nil, or_false, not_or] at letter
  obtain ⟨-, notTrue, notFalse, notLucene, notSample, notBetween⟩ := letter
  simp only [tests, List.take_succ_cons, List.take_zero, List.forall_mem_cons, List.not_mem_nil,
    false_implies, implies_true, and_true]
  exact ⟨parenthesised, (fails_keyword (d := 't') visible rfl notTrue).bind,
    (fails_keyword (d := 'f') visible rfl notFalse).bind,
    (fails_call (d := 'l') visible rfl notLucene).bind.map,
    (fails_call (d := 's') visible rfl notSample).bind,
    (fails_call (d := 'b') visible rfl notBetween).bind⟩

theorem onlyCompares_of_head {c : Char} (visible : Scanner.isSpace c = false) (mark : c ≠ '!')
    (letter : c.toLower ∉ openingLetters)
    (parenthesised : Fails (between "(" ")" inner.docFilter) (c :: cs))
    (qualified : Fails (qualifiedFilter inner) (c :: cs)) (field : Fails fieldFilter (c :: cs)) :
    OnlyCompares inner (c :: cs) where
  affirmed := by
    apply fails_notWord visible mark
    intro same
    exact letter (same ▸ List.mem_cons_self)
  others := by
    have all : tests inner = (tests inner).take 6 ++ [qualifiedFilter inner, fieldFilter] := rfl
    rw [all, List.forall_mem_append]
    exact ⟨fails_words visible letter parenthesised, by simp [qualified, field]⟩

theorem fails_qualifiedFilter (h : Fails name cs) : Fails (qualifiedFilter inner) cs :=
  h.bind.map

theorem fails_fieldFilter (h : Fails name cs) : Fails fieldFilter cs :=
  h.bind.bind

theorem fails_parenthesis {α : Type} {p : Parser α} {c : Char}
    (visible : Scanner.isSpace c = false) (other : c ≠ '(') :
    Fails (between "(" ")" p) (c :: cs) :=
  Fails.bind (fails_symbol visible rfl other)

/-! ## Names -/

/-- No test of a field stands here. -/
def NoTest (rest : List Char) : Prop :=
  ∀ f, IsField f → Fails fieldFilter (writeField f ++ rest)

theorem point_free {signs : List Char} (ends : Ends signs rest) : ∀ c ∈ rest.head?, c ≠ '.' := by
  intro c hc
  rintro rfl
  exact absurd (ends.token _ hc) (by decide)

theorem noTest_of_fails (ends : Ends [] rest) (h : Fails fieldTest rest) : NoTest rest := by
  intro f named
  exact .after (scopedName_writeField named (point_free ends)) h.bind

theorem noTest_closing : NoTest (')' :: rest) :=
  noTest_of_fails (.closing List.not_mem_nil) ⟨_, rfl⟩

theorem noTest_sign (op : DocOperator) : NoTest (' ' :: op.sign :: ' ' :: rest) := by
  apply noTest_of_fails (blank_ends _ (visible_sign op))
  rcases op with _ | op
  · exact ⟨_, rfl⟩
  · cases op <;> exact ⟨_, rfl⟩

theorem ends_symbol (op : Comparison) (cs : List Char) :
    Ends arithmeticSigns (' ' :: (op.symbol.toList ++ cs)) := by
  cases op <;> exact .blank rfl (by decide)

/-- Only an equality is mistaken for the test of a field. -/
theorem noTest_inequality {op : Comparison} (h : op ≠ .eq ∧ op ≠ .ne) (cs : List Char) :
    NoTest (' ' :: (op.symbol.toList ++ ' ' :: cs)) := by
  apply noTest_of_fails (ends_symbol op _).tokenOnly
  cases op with
  | eq => exact absurd rfl h.1
  | ne => exact absurd rfl h.2
  | lt | lte | gt | gte => exact ⟨_, rfl⟩

/-- No comparison is mistaken for the test of a field where no term follows. -/
theorem noTest_of_termless (op : Comparison) {c : Char} (h : c ∈ ['(', '`']) :
    NoTest (' ' :: (op.symbol.toList ++ ' ' :: c :: cs)) := by
  by_cases inequality : op ≠ .eq ∧ op ≠ .ne
  · exact noTest_inequality inequality _
  · have each : ['(', '`'].all fun c =>
        Scanner.isSpace c = false ∧ c ≠ '"' ∧ c ≠ '\'' ∧ isTermChar c = false := by
      simp [Scanner.isSpace, isTermChar, isNameChar_eq]
    obtain ⟨visible, double, single, inside⟩ := List.all_iff_forall_prop.mp each c h
    have noTerm : Fails term (' ' :: c :: cs) :=
      skips_term.fails (fails_term visible double single inside)
    intro f named
    apply Fails.after (scopedName_writeField named (point_free (ends_symbol op _)))
    cases op with
    | eq =>
      have read : fieldTest (' ' :: (Comparison.eq.symbol.toList ++ ' ' :: c :: cs)) =
          .ok (.is false, ' ' :: c :: cs) := rfl
      exact .after read noTerm.bind
    | ne =>
      have read : fieldTest (' ' :: (Comparison.ne.symbol.toList ++ ' ' :: c :: cs)) =
          .ok (.is true, ' ' :: c :: cs) := rfl
      exact .after read noTerm.bind
    | lt | lte | gt | gte => exact absurd ⟨by decide, by decide⟩ inequality

theorem fails_qualifiedFilter_writeField {f : ScopedName} (named : IsField f)
    (ends : Ends [] rest) : Fails (qualifiedFilter inner) (writeField f ++ rest) := by
  obtain ⟨scope, named⟩ := named
  rcases f with ⟨none | dataset, n⟩
  · exact Fails.map (.after (name_writeName named) (Fails.bind (fails_char (point_free ends))))
  · rw [writeField, List.append_assoc, List.cons_append]
    apply Fails.map
    apply Fails.after (name_writeName (scope dataset rfl))
    exact .after (char_cons '.') (Fails.bind (fails_parenthesis rfl (by decide)))

theorem onlyCompares_writeField {f : ScopedName} (named : IsField f) (ends : Ends [] rest)
    (h : NoTest rest) : OnlyCompares inner (writeField f ++ rest) := by
  have qualified : Fails (qualifiedFilter inner) (writeField f ++ rest) :=
    fails_qualifiedFilter_writeField named ends
  have field := h f named
  obtain ⟨cs, written⟩ := writeField_eq_cons f
  rw [written, List.cons_append] at qualified field ⊢
  exact onlyCompares_of_head rfl (by decide) (by decide) (fails_parenthesis rfl (by decide))
    qualified field

/-! ## Calls -/

/-- A word before a parenthesis may be a name. -/
theorem name_word (rest : List Char) {word : List Char} (nonempty : word ≠ [])
    (letters : ∀ c ∈ word, c.isLower) :
    Fails name (word ++ '(' :: rest) ∨ ∃ n, name (word ++ '(' :: rest) = .ok (n, '(' :: rest) := by
  cases word with
  | nil => exact absurd rfl nonempty
  | cons c more =>
    obtain ⟨lower, letters⟩ := List.forall_mem_cons.mp letters
    have start : spaces (c :: more ++ '(' :: rest) = .ok ((), c :: more ++ '(' :: rest) :=
      spaces_of_head (by simpa using isSpace_of_isLower lower)
    have quoted : Fails quotedName (c :: more ++ '(' :: rest) := by
      refine Fails.bind (fails_char ?_)
      simp only [List.cons_append, List.head?_cons, Option.mem_some_iff, forall_eq']
      rintro rfl
      exact absurd lower (by decide)
    have first : satisfy isNameStart (c :: more ++ '(' :: rest) = .ok (c, more ++ '(' :: rest) := by
      simp [satisfy, isNameStart_of_isLower lower]
    have others : run isNameChar (more ++ '(' :: rest) = .ok (more, '(' :: rest) := by
      apply run_append
      · intro d hd
        exact isNameChar_of_isNameStart (isNameStart_of_isLower (letters d hd))
      · simp only [List.head?_cons, Option.mem_some_iff, forall_eq']
        simp [isNameChar_eq]
    have read : bareWord (c :: more ++ '(' :: rest) =
        .ok (String.ofList (c :: more), '(' :: rest) := by
      rw [bareWord, bind_ok first, bind_ok others]
      rfl
    by_cases reserved : isReserved (String.ofList (c :: more))
    · exact .inl (fails_name_of_isReserved start quoted read reserved)
    · refine .inr ⟨String.ofList (c :: more), ?_⟩
      rw [name, bind_ok start, orElse_of_fails quoted]
      exact mapOption_ok read (by simp only [reserved]; rfl)

theorem fails_qualifiedFilter_word {word : List Char} (nonempty : word ≠ [])
    (letters : ∀ c ∈ word, c.isLower) : Fails (qualifiedFilter inner) (word ++ '(' :: rest) := by
  apply Fails.map
  rcases name_word rest nonempty letters with failed | ⟨n, read⟩
  · exact failed.bind
  · exact .after read (Fails.bind (fails_char (by simp)))

theorem fails_fieldFilter_word {word : List Char} (nonempty : word ≠ [])
    (letters : ∀ c ∈ word, c.isLower) : Fails fieldFilter (word ++ '(' :: rest) := by
  rcases name_word rest nonempty letters with failed | ⟨n, read⟩
  · exact fails_fieldFilter failed
  · have noPoint : Fails (do char '.'; name) ('(' :: rest) := Fails.bind (fails_char (by simp))
    have field : scopedName (word ++ '(' :: rest) = .ok ({ name := n }, '(' :: rest) := by
      rw [scopedName, bind_ok read, bind_ok (optional_of_fails noPoint)]
      rfl
    exact .after field (Fails.bind ⟨_, rfl⟩)

/-- The functions that are filters. -/
def filterNames : List String := ["lucene", "sample", "between"]

theorem letters_of_mem_filterNames {name : String} (h : name ∈ filterNames) :
    ∀ c ∈ name.toList, c.isLower := by
  have letters : ∀ name ∈ filterNames, name.toList.all Char.isLower := by decide
  exact List.all_eq_true.mp (letters name h)

theorem fails_filter_call {name function : String} {arguments : List (List Char)}
    (given : ∀ c ∈ name.toList, c.isLower) (mem : function ∈ filterNames)
    (differ : function ≠ name) : Fails (call function) (writeCall name arguments ++ rest) :=
  fails_call_writeCall given (letters_of_mem_filterNames mem) differ

theorem functionNames_start : ∀ name ∈ functionNames, name ≠ "floatscale" →
    name.toList.head? ∉ [some 'n', some 't', some 'f'] := by
  decide

theorem onlyCompares_writeCall {name : String} {arguments : List (List Char)}
    (mem : name ∈ functionNames) (other : name ≠ "floatscale") :
    OnlyCompares inner (writeCall name arguments ++ rest) := by
  obtain ⟨nonempty, letters⟩ := letters_of_mem_functionNames mem
  have start := functionNames_start name mem other
  have calls (function : String) (filter : function ∈ filterNames) :
      Fails (call function) (writeCall name arguments ++ rest) := by
    have apart : ∀ name ∈ functionNames, name ∉ filterNames := by decide
    apply fails_filter_call letters filter
    rintro rfl
    exact apart function mem filter
  have lucene := calls "lucene" (by decide)
  have sample := calls "sample" (by decide)
  have range := calls "between" (by decide)
  have written : writeCall name arguments ++ rest =
      name.toList ++ '(' :: (commas arguments ++ ')' :: rest) := by
    simp [writeCall, parenthesize]
  rw [written] at lucene sample range ⊢
  generalize commas arguments ++ ')' :: rest = tail at lucene sample range ⊢
  have qualified : Fails (qualifiedFilter inner) (name.toList ++ '(' :: tail) :=
    fails_qualifiedFilter_word nonempty letters
  have field : Fails fieldFilter (name.toList ++ '(' :: tail) :=
    fails_fieldFilter_word nonempty letters
  cases spelt : name.toList with
  | nil => exact absurd spelt nonempty
  | cons c more =>
    rw [spelt] at lucene sample range qualified field letters start
    have lower := letters c List.mem_cons_self
    have visible := isSpace_of_isLower lower
    obtain ⟨notNot, notTrue, notFalse⟩ : c.toLower ≠ 'n' ∧ c.toLower ≠ 't' ∧ c.toLower ≠ 'f' := by
      simpa [toLower_of_isLower lower] using start
    refine ⟨fails_notWord visible ?_ notNot, ?_⟩
    · rintro rfl
      exact absurd lower (by decide)
    · have parenthesised : Fails (between "(" ")" inner.docFilter)
          (c :: more ++ '(' :: tail) := by
        apply fails_parenthesis visible
        rintro rfl
        exact absurd lower (by decide)
      simp only [tests, List.forall_mem_cons, List.not_mem_nil, false_implies, implies_true,
        and_true]
      exact ⟨parenthesised, (fails_keyword (d := 't') visible rfl notTrue).bind,
        (fails_keyword (d := 'f') visible rfl notFalse).bind, lucene.bind.map,
        sample.bind, range.bind, qualified, field⟩

/-! ## Metrics -/

theorem onlyCompares_unnamed {c : Char} (visible : Scanner.isSpace c = false) (mark : c ≠ '!')
    (letter : c.toLower ∉ openingLetters)
    (parenthesised : Fails (between "(" ")" inner.docFilter) (c :: cs))
    (noName : Fails name (c :: cs)) : OnlyCompares inner (c :: cs) :=
  onlyCompares_of_head visible mark letter parenthesised (fails_qualifiedFilter noName)
    (fails_fieldFilter noName)

theorem onlyCompares_numeric {c : Char} (h : isNumeric c) : OnlyCompares inner (c :: cs) := by
  obtain ⟨visible, mark, parenthesis, letter, quote, start⟩ :
      Scanner.isSpace c = false ∧ c ≠ '!' ∧ c ≠ '(' ∧ c.toLower ∉ openingLetters ∧ c ≠ '`' ∧
        isNameStart c = false := by
    apply of_isNumeric h
    simp [Scanner.isSpace, openingLetters, isNameStart_eq]
  exact onlyCompares_unnamed visible mark letter (fails_parenthesis visible parenthesis)
    (fails_name visible quote start)

theorem onlyCompares_int (v : Int64) :
    OnlyCompares inner (DocMetric.write style (.int v) ++ rest) := by
  rw [DocMetric.write, writeInt_eq]
  split
  · obtain ⟨c, more, written, digit⟩ := writeNat_eq_cons v.toInt.toNat
    rw [written]
    exact onlyCompares_numeric (by simp [isNumeric, digit])
  · exact onlyCompares_numeric (by decide)

theorem onlyCompares_if : OnlyCompares inner ('I' :: 'F' :: ' ' :: cs) := by
  have reserved : isReserved "IF" = true := by decide
  have read : bareWord ('I' :: 'F' :: ' ' :: cs) = .ok ("IF", ' ' :: cs) := by
    have first : satisfy isNameStart ('I' :: 'F' :: ' ' :: cs) = .ok ('I', 'F' :: ' ' :: cs) := by
      have start : isNameStart 'I' = true := by simp [isNameStart_eq]
      simp [satisfy, start]
    have others : run isNameChar ('F' :: ' ' :: cs) = .ok (['F'], ' ' :: cs) := by
      change run isNameChar (['F'] ++ ' ' :: cs) = _
      apply run_append
      · simp [isNameChar_eq]
      · simpa using isNameChar_blank
    rw [bareWord, bind_ok first, bind_ok others]
    rfl
  have noName : Fails name ('I' :: 'F' :: ' ' :: cs) := by
    have start : spaces ('I' :: 'F' :: ' ' :: cs) = .ok ((), 'I' :: 'F' :: ' ' :: cs) := rfl
    have quoted : Fails quotedName ('I' :: 'F' :: ' ' :: cs) := Fails.bind (fails_char (by simp))
    exact fails_name_of_isReserved start quoted read reserved
  exact onlyCompares_unnamed rfl (by decide) (by decide) (fails_parenthesis rfl (by decide)) noName

/-- An operand of a metric begins no filter but a comparison, unless it is a name that is tested. -/
theorem onlyCompares_around (h : Handles style inner bound) {m : DocMetric} {needed : Bool}
    (canonical : m.Canonical) (set : m.isCompound → needed = true)
    (short : (Style.around needed (m.write style)).length ≤ bound) (ends : Ends [] rest)
    (untested : needed = false → ∀ f, m = .name f → NoTest rest) :
    OnlyCompares inner (Style.around needed (m.write style) ++ rest) := by
  cases needed with
  | true =>
    simp only [Style.around, if_true, parenthesize, List.length_cons, List.length_append] at short
    have refused := h.refuses m canonical (by omega) rest
    have opened : symbol "(" ('(' :: (m.write style ++ ')' :: rest)) =
        .ok ((), m.write style ++ ')' :: rest) := rfl
    rw [Style.around, if_pos rfl, parenthesize, List.cons_append, List.append_assoc]
    have noName : Fails name ('(' :: (m.write style ++ ([')'] ++ rest))) :=
      fails_name rfl (by decide) (by simp [isNameStart_eq])
    exact onlyCompares_unnamed rfl (by decide) (by decide) (.after opened refused.bind) noName
  | false =>
    have plain : m.isCompound = false := by
      rw [Bool.eq_false_iff]
      intro compound
      cases set compound
    change OnlyCompares inner (m.write style ++ rest)
    obtain ⟨f, rfl, named⟩ | ⟨v, rfl, _⟩ | ⟨name, arguments, mem, other, written⟩ :=
      write_plain style canonical plain
    · exact onlyCompares_writeField named ends (untested rfl f rfl)
    · exact onlyCompares_int v
    · rw [written]
      exact onlyCompares_writeCall mem other

theorem onlyCompares_closing (h : Handles style inner bound) {m : DocMetric}
    (canonical : m.Canonical) (short : (m.write style).length ≤ bound) :
    OnlyCompares inner (m.write style ++ ')' :: rest) := by
  by_cases compound : m.isCompound
  · cases canonical with
    | negate _ _ =>
      rw [DocMetric.write, List.cons_append]
      exact onlyCompares_numeric (by decide)
    | @binary op l r left right =>
      simp only [DocMetric.write, spaced_cons_cons, spaced_singleton, List.length_append,
        List.length_cons] at short
      simp only [DocMetric.write, spaced_cons_cons, spaced_singleton, List.append_assoc,
        List.cons_append, List.nil_append]
      exact onlyCompares_around h left (by simp +contextual) (by rw [← operand_eq_around]; omega)
        (blank_ends _ (visible_sign op)) fun _ _ _ => noTest_sign op
    | ifThenElse _ _ _ => exact onlyCompares_if
    | _ => cases compound
  · change OnlyCompares inner (Style.around false (m.write style) ++ ')' :: rest)
    exact onlyCompares_around h canonical (fun inside => absurd inside compound) short
      (.closing List.not_mem_nil) fun _ _ _ => noTest_closing

/-- A metric before a closing parenthesis is no filter. -/
theorem docFilter_refuses (h : Handles style inner bound) {m : DocMetric}
    (canonical : m.Canonical) (short : (m.write style).length ≤ bound) (rest : List Char) :
    Fails (docFilter inner) (m.write style ++ ')' :: rest) := by
  have read : docMetric inner (Style.around false (m.write style) ++ ')' :: rest) =
      .ok (m, ')' :: rest) := docMetric_write h canonical short (.closing (by decide))
  have noSymbol : Fails comparison (')' :: rest) := ⟨_, rfl⟩
  have noComparison : Fails (metricComparison inner) (m.write style ++ ')' :: rest) :=
    .after read noSymbol.bind
  obtain ⟨place, failed⟩ := noComparison
  rw [← (onlyCompares_closing h canonical short).docFilterOperand_eq] at failed
  have operand : Fails (docFilterOperand inner) (m.write style ++ ')' :: rest) := ⟨place, failed⟩
  exact operand.bind.bind

end Groupwise.Query.Grammar
