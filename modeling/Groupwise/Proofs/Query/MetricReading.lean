import Groupwise.Proofs.Query.Reading
import Groupwise.Query.Text

/-!
# Metrics that are read back

Nested expressions are read by parsers that are given to the grammar. If these read back every
expression that is shorter than a bound, then the rules for metrics read back every metric up to the
bound: numbers, names and calls as atoms, compound metrics by their operators.
-/
namespace Groupwise.Query.Grammar

open Groupwise.Parser

variable {cs rest : List Char}

/-! ## Functions -/

section Functions

variable {α β : Type} (inner : Nested)

theorem map_callOf (f : α → β) (name : String) (p : Parser α) :
    f <$> callOf name p = callOf name (f <$> p) := by
  simp [callOf, map_bind]

/-- The functions by their names, with what stands between their parentheses. -/
def functionTable : List (String × Parser DocMetric) :=
  let scaled (make : DocMetric → Int → DocMetric) : Parser DocMetric := do
    let m ← inner.docMetric
    pure (make m (scaleOf (← optional (afterComma integer))))
  [("count", pure .count), ("docid", pure .docId), ("abs", .abs <$> inner.docMetric),
    ("signum", .signum <$> inner.docMetric), ("log", scaled .log), ("exp", scaled .exp),
    ("min", .min <$> commaSeparated inner.docMetric),
    ("max", .max <$> commaSeparated inner.docMetric),
    ("hasint", do
      let f ← scopedName
      pure (.hasInt f (← afterComma integer))),
    ("hasstr", do
      let f ← scopedName
      pure (.hasString f (← afterComma term).spell)),
    ("hasintfield", .hasIntField <$> scopedName), ("hasstrfield", .hasStringField <$> scopedName),
    ("len", .length <$> scopedName), ("inttermcount", .intTermCount <$> scopedName),
    ("strtermcount", .stringTermCount <$> scopedName),
    ("floatscale", do
      let f ← scopedName
      let factor ← optional (afterComma decimal)
      let summand ← optional (afterComma decimal)
      pure (.floatScale f (factor.getD 1.0) (summand.getD 0.0))),
    ("extract", do
      let f ← scopedName
      let pattern ← afterComma quotedText
      let group ← optional (afterComma smallNumber)
      pure (.extract f pattern (group.getD 1)))]

theorem docFunctions_eq :
    docFunctions inner = (functionTable inner).map fun e => callOf e.1 e.2 := by
  simp only [docFunctions, functionTable, List.map_cons, List.map_nil, map_callOf]

def functionNames : List String :=
  ["count", "docid", "abs", "signum", "log", "exp", "min", "max", "hasint", "hasstr", "hasintfield",
    "hasstrfield", "len", "inttermcount", "strtermcount", "floatscale", "extract"]

theorem names_functionTable : (functionTable inner).map (·.1) = functionNames := rfl

theorem letters_of_mem_functionNames {name : String} (h : name ∈ functionNames) :
    name.toList ≠ [] ∧ ∀ c ∈ name.toList, c.isLower := by
  have letters : ∀ name ∈ functionNames, name.toList ≠ [] ∧ name.toList.all Char.isLower := by
    decide
  exact ⟨(letters name h).1, List.all_eq_true.mp (letters name h).2⟩

variable {inner}

theorem letters_of_mem_functionTable {e : String × Parser DocMetric} (h : e ∈ functionTable inner) :
    e.1.toList ≠ [] ∧ ∀ c ∈ e.1.toList, c.isLower := by
  have name := List.mem_map_of_mem (f := (·.1)) h
  rw [names_functionTable] at name
  exact letters_of_mem_functionNames name

theorem docFunction_writeCall {name : String} {p : Parser DocMetric} {arguments : List (List Char)}
    {m : DocMetric} (mem : (name, p) ∈ functionTable inner)
    (h : p (commas arguments ++ ')' :: rest) = .ok (m, ')' :: rest)) :
    docFunction inner (writeCall name arguments ++ rest) = .ok (m, rest) := by
  have distinct : ((functionTable inner).map (·.1)).Nodup := by
    rw [names_functionTable]
    decide
  obtain ⟨before, after, split⟩ := List.append_of_mem mem
  rw [split, List.map_append, List.nodup_append] at distinct
  have letters := (letters_of_mem_functionTable mem).2
  have others : ∀ q ∈ before.map fun e => callOf e.1 e.2,
      Fails q (writeCall name arguments ++ rest) := by
    intro q hq
    obtain ⟨e, he, rfl⟩ := List.mem_map.mp hq
    have there : e ∈ functionTable inner := by simp [split, he]
    apply Fails.bind
    apply fails_call_writeCall letters (letters_of_mem_functionTable there).2
    exact distinct.2.2 e.1 (List.mem_map_of_mem he) name (by simp)
  rw [docFunction, docFunctions_eq, split, List.map_append, List.map_cons,
    choice_append (by simp) others]
  exact choice_ok (callOf_writeCall letters h)

theorem fails_docFunction {c : Char} (visible : Scanner.isSpace c = false)
    (other : c.isAlpha = false) : Fails (docFunction inner) (c :: cs) := by
  rw [docFunction, docFunctions_eq]
  apply fails_choice
  intro p hp
  obtain ⟨e, he, rfl⟩ := List.mem_map.mp hp
  obtain ⟨nonempty, letters⟩ := letters_of_mem_functionTable he
  cases spelt : e.1.toList with
  | nil => exact absurd spelt nonempty
  | cons d more =>
    have lower := letters d (by simp [spelt])
    refine Fails.bind (fails_call visible spelt ?_)
    rw [toLower_of_isLower lower]
    exact toLower_ne other lower

end Functions

/-! ## Levels -/

/-- The signs that go on with a metric. -/
def arithmeticSigns : List Char := ['+', '-', '*', '/', '%']

/-- The signs that go on with a term of a filter. -/
def testSigns : List Char := arithmeticSigns ++ ['<', '>', '=']

/-- What goes on with a filter: the signs that go on with a term, and the connectives. -/
def filterSigns : List Char := testSigns ++ ['a', 'o']

/-- The parsers for nested expressions read all expressions that are shorter than a bound, as they
stand and as operands. Where a parenthesis could open a filter, a metric is not read as one. -/
structure Handles (style : Style) (inner : Nested) (bound : Nat) : Prop where
  metric : ∀ (m : DocMetric) (needed : Bool), m.Canonical →
    (Style.around needed (m.write style)).length < bound →
      Reads inner.docMetric (Style.around needed (m.write style)) m arithmeticSigns
  metricOperand : ∀ (m : DocMetric) (needed : Bool), m.Canonical →
    (m.isCompound → needed = true) → (Style.around needed (m.write style)).length < bound →
      Reads inner.docMetricOperand (Style.around needed (m.write style)) m []
  filter : ∀ (f : DocFilter) (needed : Bool), f.Canonical →
    (Style.around needed (f.write style)).length < bound →
      Reads inner.docFilter (Style.around needed (f.write style)) f filterSigns
  filterOperand : ∀ (f : DocFilter) (needed : Bool), f.Canonical →
    (f.isCompound → needed = true) → (Style.around needed (f.write style)).length < bound →
      Reads inner.docFilterOperand (Style.around needed (f.write style)) f testSigns
  refuses : ∀ m : DocMetric, m.Canonical → (m.write style).length < bound → ∀ rest,
    Fails inner.docFilter (m.write style ++ ')' :: rest)

variable {style : Style} {inner : Nested} {bound : Nat}

theorem Handles.plainMetric (h : Handles style inner bound) {m : DocMetric}
    (canonical : m.Canonical) (short : (m.write style).length < bound) :
    Reads inner.docMetric (m.write style) m arithmeticSigns :=
  h.metric m false canonical short

theorem Handles.plainFilter (h : Handles style inner bound) {f : DocFilter}
    (canonical : f.Canonical) (short : (f.write style).length < bound) :
    Reads inner.docFilter (f.write style) f filterSigns :=
  h.filter f false canonical short

theorem writeAll_eq_map (ms : List DocMetric) :
    DocMetric.writeAll style ms = ms.map (·.write style) := by
  induction ms with
  | nil => rfl
  | cons m ms ih => rw [DocMetric.writeAll, ih, List.map_cons]

theorem writeOperands_eq_map (fs : List DocFilter) : DocFilter.writeOperands style fs =
    fs.map fun f => style.filterOperand f (f.write style) := by
  induction fs with
  | nil => rfl
  | cons f fs ih => rw [DocFilter.writeOperands, ih, List.map_cons]

/-! ## Functions -/

theorem afterComma_ok {α : Type} {p : Parser α} {a : α} (skips : SkipsBlank p)
    (h : p cs = .ok (a, rest)) : afterComma p (',' :: ' ' :: cs) = .ok (a, rest) :=
  (skips cs).trans h

theorem optional_afterComma_closing {α : Type} (p : Parser α) :
    optional (afterComma p) (')' :: rest) = .ok (none, ')' :: rest) :=
  optional_of_fails (Fails.bind ⟨_, rfl⟩)

theorem field_closing {f : ScopedName} (named : IsField f) :
    scopedName (writeField f ++ ')' :: rest) = .ok (f, ')' :: rest) :=
  scopedName_writeField named (by simp)

theorem field_comma {f : ScopedName} (named : IsField f) :
    scopedName (writeField f ++ ',' :: cs) = .ok (f, ',' :: cs) :=
  scopedName_writeField named (by simp)

/-! ## Atoms -/

theorem fails_plainInteger {c : Char} (visible : Scanner.isSpace c = false)
    (other : c.isDigit = false) : Fails plainInteger (c :: cs) := by
  have start : spaces (c :: cs) = .ok ((), c :: cs) := spaces_of_head (by simpa using visible)
  exact .after start (Fails.bind (Fails.mapOption (fails_run1 (by simpa using other))))

theorem writeField_eq_cons (f : ScopedName) : ∃ cs, writeField f = '`' :: cs := by
  rcases f with ⟨none | dataset, n⟩
  · exact ⟨_, rfl⟩
  · exact ⟨_, rfl⟩

theorem docAtom_field {f : ScopedName} (named : IsField f) (ends : Ends [] rest) :
    docAtom inner (writeField f ++ rest) = .ok (.name f, rest) := by
  have read : (DocMetric.name <$> scopedName) (writeField f ++ rest) = .ok (.name f, rest) := by
    apply map_ok (scopedName_writeField named _)
    intro c hc
    rintro rfl
    exact absurd (ends.token _ hc) (by decide)
  obtain ⟨cs, start⟩ := writeField_eq_cons f
  rw [start, List.cons_append] at read ⊢
  have parenthesis : Fails (between "(" ")" inner.docMetric) ('`' :: (cs ++ rest)) :=
    Fails.bind ⟨_, rfl⟩
  have number : Fails (DocMetric.int <$> plainInteger) ('`' :: (cs ++ rest)) :=
    (fails_plainInteger rfl rfl).map
  have condition : Fails (docIfThenElse inner) ('`' :: (cs ++ rest)) :=
    Fails.bind (Fails.bind ⟨_, rfl⟩)
  rw [docAtom, choice, orElse_of_fails parenthesis, choice, orElse_of_fails number, choice,
    orElse_of_fails (fails_docFunction rfl rfl), choice, orElse_of_fails condition]
  · exact read
  all_goals simp

theorem docAtom_nat {n : Nat} {v : Int64} (value : v.toInt = n) (ends : Ends [] rest) :
    docAtom inner (writeNat n ++ rest) = .ok (.int v, rest) := by
  have read := map_ok (f := DocMetric.int) (plainInteger_writeNat value ends)
  obtain ⟨c, more, written, digit⟩ := writeNat_eq_cons n
  have parenthesis : Fails (between "(" ")" inner.docMetric) (writeNat n ++ rest) := by
    rw [written]
    refine Fails.bind (fails_symbol (isSpace_of_isDigit digit) rfl ?_)
    rintro rfl
    exact absurd digit (by decide)
  exact (orElse_of_fails parenthesis).trans (choice_ok read)

theorem docAtom_parenthesize {m : DocMetric} {text signs : List Char}
    (h : Reads inner.docMetric text m signs) (closing : ')' ∉ signs) :
    docAtom inner (parenthesize text ++ rest) = .ok (m, rest) :=
  choice_ok (between_parenthesize h closing)

theorem docAtom_writeCall {name : String} {p : Parser DocMetric} {arguments : List (List Char)}
    {m : DocMetric} (mem : (name, p) ∈ functionTable inner)
    (h : p (commas arguments ++ ')' :: rest) = .ok (m, ')' :: rest)) :
    docAtom inner (writeCall name arguments ++ rest) = .ok (m, rest) := by
  have read := docFunction_writeCall mem h
  obtain ⟨nonempty, letters⟩ := letters_of_mem_functionTable mem
  have start : ∃ c cs, writeCall name arguments ++ rest = c :: cs ∧ c.isLower := by
    cases spelt : name.toList with
    | nil => exact absurd spelt nonempty
    | cons c more =>
      exact ⟨c, more ++ (parenthesize (commas arguments) ++ rest), by simp [writeCall, spelt],
        letters c (by simp [spelt])⟩
  obtain ⟨c, cs, start, lower⟩ := start
  rw [start] at read ⊢
  have visible := isSpace_of_isLower lower
  have parenthesis : Fails (between "(" ")" inner.docMetric) (c :: cs) := by
    refine Fails.bind (fails_symbol visible rfl ?_)
    rintro rfl
    exact absurd lower (by decide)
  have digit : c.isDigit = false := by
    rw [Bool.eq_false_iff]
    intro digit
    exact absurd lower (of_isDigit (p := fun c => ¬c.isLower) digit (by decide))
  have number : Fails (DocMetric.int <$> plainInteger) (c :: cs) :=
    (fails_plainInteger visible digit).map
  exact (orElse_of_fails parenthesis).trans ((orElse_of_fails number).trans (choice_ok read))

/-! ## Functions of metrics and of fields -/

theorem docAtom_scaled (h : Handles style inner bound) {name : String}
    {make : DocMetric → Int → DocMetric} {m : DocMetric} {scale : Int}
    (mem : (name, (do
      let m ← inner.docMetric
      pure (make m (scaleOf (← optional (afterComma integer)))) : Parser DocMetric)) ∈
        functionTable inner)
    (canonical : m.Canonical) (small : IsScale scale) (short : (m.write style).length < bound) :
    docAtom inner (writeCall name [m.write style, writeInt scale] ++ rest) =
      .ok (make m scale, rest) := by
  apply docAtom_writeCall mem
  obtain ⟨low, high⟩ := small
  have value : (Int64.ofInt scale).toInt = scale := by
    rw [Int64.toInt_ofInt]
    exact Int.bmod_eq_of_le (by simp [Int64.size]; omega) (by simp [Int64.size]; omega)
  have read : afterComma integer (',' :: ' ' :: (writeInt scale ++ ')' :: rest)) =
      .ok (Int64.ofInt scale, ')' :: rest) := by
    apply afterComma_ok skips_integer
    have ends : Ends [] (')' :: rest) := .closing (by simp)
    have read := integer_writeInt (Int64.ofInt scale) ends
    rwa [value] at read
  have cut : scaleOf (some (Int64.ofInt scale)) = scale := by
    rw [scaleOf, Option.map_some, value]
    exact Int.bmod_eq_of_le (by simp [UInt32.size]; omega) (by simp [UInt32.size]; omega)
  rw [commas_cons_cons, commas_singleton, List.append_assoc, List.cons_append, List.cons_append]
  rw [bind_ok ((h.plainMetric canonical short).bare (.comma (by decide))),
    bind_ok (optional_ok read), cut]
  rfl

theorem docAtom_extreme (h : Handles style inner bound) {name : String}
    {make : List DocMetric → DocMetric} {ms : List DocMetric}
    (mem : (name, make <$> commaSeparated inner.docMetric) ∈ functionTable inner)
    (nonempty : ms ≠ []) (canonical : ∀ m ∈ ms, m.Canonical)
    (short : ∀ m ∈ ms, (m.write style).length < bound) :
    docAtom inner (writeCall name (DocMetric.writeAll style ms) ++ rest) =
      .ok (make ms, rest) := by
  apply docAtom_writeCall mem
  rw [writeAll_eq_map]
  apply map_ok
  apply commaSeparated_commas nonempty _ (by decide : ',' ∉ arithmeticSigns) (by decide)
  intro m hm
  exact h.plainMetric (canonical m hm) (short m hm)

theorem docAtom_function (h : Handles style inner bound) {name : String}
    {make : DocMetric → DocMetric} {m : DocMetric}
    (mem : (name, make <$> inner.docMetric) ∈ functionTable inner) (canonical : m.Canonical)
    (short : (m.write style).length < bound) :
    docAtom inner (writeCall name [m.write style] ++ rest) = .ok (make m, rest) := by
  apply docAtom_writeCall mem
  rw [commas_singleton]
  exact map_ok ((h.plainMetric canonical short).bare (.closing (by decide)))

theorem docAtom_ofField {name : String} {make : ScopedName → DocMetric} {f : ScopedName}
    (mem : (name, make <$> scopedName) ∈ functionTable inner) (named : IsField f) :
    docAtom inner (writeCall name [writeField f] ++ rest) = .ok (make f, rest) := by
  apply docAtom_writeCall mem
  rw [commas_singleton]
  exact map_ok (field_closing named)

theorem ends_closing : Ends [] (')' :: rest) := .closing (by simp)

theorem docAtom_hasInt {f : ScopedName} (named : IsField f) (value : Int64) :
    docAtom inner (writeCall "hasint" [writeField f, writeInt value.toInt] ++ rest) =
      .ok (.hasInt f value, rest) := by
  have mem : ("hasint", (do
      let f ← scopedName
      pure (.hasInt f (← afterComma integer)) : Parser DocMetric)) ∈ functionTable inner := by
    simp [functionTable]
  have read : afterComma integer (',' :: ' ' :: (writeInt value.toInt ++ ')' :: rest)) =
      .ok (value, ')' :: rest) :=
    afterComma_ok skips_integer (integer_writeInt value ends_closing)
  apply docAtom_writeCall mem
  rw [commas_cons_cons, commas_singleton, List.append_assoc, List.cons_append, List.cons_append,
    bind_ok (field_comma named), bind_ok read]
  rfl

theorem docAtom_hasString {f : ScopedName} (named : IsField f) (text : String) :
    docAtom inner (writeCall "hasstr" [writeField f, writeText text] ++ rest) =
      .ok (.hasString f text, rest) := by
  have mem : ("hasstr", (do
      let f ← scopedName
      pure (.hasString f (← afterComma term).spell) : Parser DocMetric)) ∈
        functionTable inner := by
    simp [functionTable]
  have read : afterComma term (',' :: ' ' :: (writeText text ++ ')' :: rest)) =
      .ok (.string text, ')' :: rest) :=
    afterComma_ok skips_term (term_writeText text)
  apply docAtom_writeCall mem
  rw [commas_cons_cons, commas_singleton, List.append_assoc, List.cons_append, List.cons_append,
    bind_ok (field_comma named), bind_ok read]
  rfl

theorem docAtom_extract {f : ScopedName} (named : IsField f) (pattern : String) {group : Nat}
    (small : group < UInt32.size) :
    docAtom inner (writeCall "extract" [writeField f, writeText pattern, writeNat group] ++ rest) =
      .ok (.extract f pattern group, rest) := by
  have mem : ("extract", (do
      let f ← scopedName
      let pattern ← afterComma quotedText
      let group ← optional (afterComma smallNumber)
      pure (.extract f pattern (group.getD 1)) : Parser DocMetric)) ∈ functionTable inner := by
    simp [functionTable]
  have number : afterComma smallNumber (',' :: ' ' :: (writeNat group ++ ')' :: rest)) =
      .ok (group, ')' :: rest) :=
    afterComma_ok (skips_natBelow _) (natBelow_writeNat small ends_closing)
  apply docAtom_writeCall mem
  rw [commas_cons_cons, commas_cons_cons, commas_singleton, List.append_assoc, List.cons_append,
    List.cons_append, List.append_assoc, List.cons_append, List.cons_append,
    bind_ok (field_comma named),
    bind_ok (afterComma_ok skips_quotedText (quotedText_writeText pattern)),
    bind_ok (optional_ok number)]
  rfl

theorem argument_shorter {name : String} {text : List Char} {arguments : List (List Char)}
    (short : (writeCall name arguments).length ≤ bound) (mem : text ∈ arguments) :
    text.length < bound := by
  have within := length_le_intercalate [',', ' '] mem
  simp only [writeCall, parenthesize, commas, List.length_append, List.length_cons] at short
  omega

/-- A metric that is no operand itself is read as an atom, unless it is a negative number. -/
theorem docAtom_write (h : Handles style inner bound) {m : DocMetric} (canonical : m.Canonical)
    (plain : m.isCompound = false) (positive : ∀ v, m = .int v → 0 ≤ v.toInt)
    (short : (m.write style).length ≤ bound) (ends : Ends [] rest) :
    docAtom inner (m.write style ++ rest) = .ok (m, rest) := by
  cases canonical with
  | name named => exact docAtom_field named ends
  | @int v _ =>
    have value := Int.toNat_of_nonneg (positive v rfl)
    rw [DocMetric.write, writeInt_eq, if_pos (positive v rfl)]
    exact docAtom_nat value.symm ends
  | count =>
    have mem : ("count", pure .count) ∈ functionTable inner := by simp [functionTable]
    exact docAtom_writeCall mem rfl
  | docId =>
    have mem : ("docid", pure .docId) ∈ functionTable inner := by simp [functionTable]
    exact docAtom_writeCall mem rfl
  | negate _ _ => cases plain
  | binary _ _ => cases plain
  | abs metric =>
    exact docAtom_function h (by simp [functionTable]) metric (argument_shorter short (by simp))
  | signum metric =>
    exact docAtom_function h (by simp [functionTable]) metric (argument_shorter short (by simp))
  | log metric small =>
    exact docAtom_scaled h (by simp [functionTable]) metric small
      (argument_shorter short (by simp))
  | exp metric small =>
    exact docAtom_scaled h (by simp [functionTable]) metric small
      (argument_shorter short (by simp))
  | min nonempty metrics =>
    refine docAtom_extreme h (by simp [functionTable]) nonempty metrics fun m hm => ?_
    exact argument_shorter short (by simpa [writeAll_eq_map] using ⟨m, hm, rfl⟩)
  | max nonempty metrics =>
    refine docAtom_extreme h (by simp [functionTable]) nonempty metrics fun m hm => ?_
    exact argument_shorter short (by simpa [writeAll_eq_map] using ⟨m, hm, rfl⟩)
  | hasInt named => exact docAtom_hasInt named _
  | hasString named => exact docAtom_hasString named _
  | hasIntField named => exact docAtom_ofField (by simp [functionTable]) named
  | hasStringField named => exact docAtom_ofField (by simp [functionTable]) named
  | length named => exact docAtom_ofField (by simp [functionTable]) named
  | intTermCount named => exact docAtom_ofField (by simp [functionTable]) named
  | stringTermCount named => exact docAtom_ofField (by simp [functionTable]) named
  | extract named small => exact docAtom_extract named _ small
  | ifThenElse _ _ _ => cases plain

/-! ## Conditions -/

theorem after_keyword {α : Type} {p : Parser α} {word : String} {c : Char} {more : List Char}
    (spelt : word.toList = c :: more) (visible : Scanner.isSpace c = false) :
    after word p (word.toList ++ ' ' :: cs) = p (' ' :: cs) :=
  bind_ok (keyword_blank spelt visible)

theorem after_blank {α : Type} {p : Parser α} {word : String} {c : Char} {more : List Char}
    (spelt : word.toList = c :: more) (visible : Scanner.isSpace c = false) :
    after word p (' ' :: (word.toList ++ ' ' :: cs)) = p (' ' :: cs) :=
  bind_ok ((skips_keyword word _).trans (keyword_blank spelt visible))

theorem docIfThenElse_spaced {condition yes no : List Char} {c : DocFilter} {y n : DocMetric}
    (hc : Reads inner.docFilter condition c filterSigns)
    (hy : Reads inner.docMetric yes y arithmeticSigns)
    (hn : Reads inner.docMetric no n arithmeticSigns) (ends : Ends arithmeticSigns rest) :
    docIfThenElse inner
        (spaced ["IF".toList, condition, "THEN".toList, yes, "ELSE".toList, no] ++ rest) =
      .ok (.ifThenElse c y n, rest) := by
  have thenEnds (cs : List Char) : Ends filterSigns (' ' :: ("THEN".toList ++ cs)) :=
    .blank (c := 'T') rfl (by decide)
  have elseEnds (cs : List Char) : Ends arithmeticSigns (' ' :: ("ELSE".toList ++ cs)) :=
    .blank (c := 'E') rfl (by decide)
  simp only [spaced_cons_cons, spaced_singleton, List.append_assoc, List.cons_append]
  rw [docIfThenElse, bind_ok ((after_keyword rfl rfl).trans (hc.blank (thenEnds _))),
    bind_ok ((after_blank rfl rfl).trans (hy.blank (elseEnds _))),
    bind_ok ((after_blank rfl rfl).trans (hn.blank ends))]
  rfl

theorem fails_docFunction_if : Fails (docFunction inner) ('I' :: 'F' :: ' ' :: cs) := by
  have calls : ∀ name ∈ (functionTable inner).map (·.1),
      Fails (call name) ('I' :: 'F' :: ' ' :: cs) := by
    simp only [names_functionTable, functionNames, List.forall_mem_cons, List.not_mem_nil,
      false_implies, implies_true, and_true]
    and_intros
    all_goals exact ⟨_, rfl⟩
  rw [docFunction, docFunctions_eq]
  apply fails_choice
  intro p hp
  obtain ⟨e, he, rfl⟩ := List.mem_map.mp hp
  exact Fails.bind (calls e.1 (List.mem_map_of_mem he))

theorem docAtom_condition {m : DocMetric}
    (h : docIfThenElse inner ('I' :: 'F' :: ' ' :: cs) = .ok (m, rest)) :
    docAtom inner ('I' :: 'F' :: ' ' :: cs) = .ok (m, rest) := by
  have parenthesis : Fails (between "(" ")" inner.docMetric) ('I' :: 'F' :: ' ' :: cs) :=
    Fails.bind ⟨_, rfl⟩
  have number : Fails (DocMetric.int <$> plainInteger) ('I' :: 'F' :: ' ' :: cs) :=
    (fails_plainInteger rfl rfl).map
  rw [docAtom, choice, orElse_of_fails parenthesis, choice, orElse_of_fails number, choice,
    orElse_of_fails fails_docFunction_if]
  · exact choice_ok h
  all_goals simp

/-! ## Operands -/

theorem fails_minus {c : Char} (h : c ≠ '-') (visible : Scanner.isSpace c = false) :
    Fails (do symbol "-"; negated <$> inner.docMetricOperand) (c :: cs) :=
  Fails.bind (fails_symbol visible rfl h)

/-- The first characters of atoms. -/
def Opens (c : Char) : Prop := c = '`' ∨ c.isDigit ∨ c.isLower

theorem Opens.ne {c d : Char} (h : Opens c) (other : d ≠ '`')
    (digit : d.isDigit = false) (lower : d.isLower = false) : c ≠ d := by
  rintro rfl
  rcases h with h | h | h
  · exact other h
  · exact Bool.false_ne_true (digit.symm.trans h)
  · exact Bool.false_ne_true (lower.symm.trans h)

theorem Opens.visible {c : Char} (h : Opens c) : Scanner.isSpace c = false := by
  rcases h with rfl | digit | lower
  · rfl
  · exact isSpace_of_isDigit digit
  · exact isSpace_of_isLower lower

/-- A metric that is not compound is a name, a number or a call. -/
theorem write_plain (style : Style) {m : DocMetric} (canonical : m.Canonical)
    (plain : m.isCompound = false) :
    (∃ f, m = .name f ∧ IsField f) ∨ (∃ v, m = .int v ∧ v ≠ Int64.minValue) ∨
      ∃ name arguments, name ∈ functionNames ∧ name ≠ "floatscale" ∧
        m.write style = writeCall name arguments := by
  cases canonical with
  | name named => exact .inl ⟨_, rfl, named⟩
  | int regular => exact .inr (.inl ⟨_, rfl, regular⟩)
  | negate _ _ | binary _ _ | ifThenElse _ _ _ => cases plain
  | _ => exact .inr (.inr ⟨_, _, by simp [functionNames], by decide, rfl⟩)

/-- How the text of an atom begins. -/
theorem write_start (style : Style) {m : DocMetric} (canonical : m.Canonical)
    (plain : m.isCompound = false) (positive : ∀ v, m = .int v → 0 ≤ v.toInt) :
    ∃ c cs, m.write style = c :: cs ∧ Opens c := by
  obtain ⟨f, rfl, _⟩ | ⟨v, rfl, _⟩ | ⟨name, arguments, mem, _, written⟩ :=
    write_plain style canonical plain
  · obtain ⟨cs, written⟩ := writeField_eq_cons f
    exact ⟨'`', cs, written, .inl rfl⟩
  · obtain ⟨c, more, written, digit⟩ := writeNat_eq_cons v.toInt.toNat
    refine ⟨c, more, ?_, .inr (.inl digit)⟩
    rw [DocMetric.write, writeInt_eq, if_pos (positive v rfl), written]
  · obtain ⟨nonempty, letters⟩ := letters_of_mem_functionNames mem
    cases spelt : name.toList with
    | nil => exact absurd spelt nonempty
    | cons c more =>
      refine ⟨c, more ++ parenthesize (commas arguments), ?_, .inr (.inr (letters c ?_))⟩
      · rw [written, writeCall, spelt, List.cons_append]
      · rw [spelt]
        exact List.mem_cons_self

/-- The negative of a negative number is a number, unless there is none so great. -/
theorem toInt_neg_of_neg {v : Int64} (regular : v ≠ Int64.minValue) (negative : v.toInt < 0) :
    (-v).toInt = -v.toInt := by
  have least : v.toInt ≠ -2 ^ 63 := by
    rw [← Int64.toInt_minValue]
    exact fun same => regular (Int64.toInt_inj.mp same)
  have low := Int64.minValue_le_toInt v
  rw [Int64.toInt_minValue] at low
  rw [Int64.toInt_neg]
  exact Int.bmod_eq_of_le (by omega) (by omega)

theorem docMetricOperand_negative (h : Handles style inner bound) {v : Int64}
    (regular : v ≠ Int64.minValue) (negative : v.toInt < 0)
    (short : (DocMetric.write style (.int v)).length ≤ bound) (ends : Ends [] rest) :
    docMetricOperand inner (DocMetric.write style (.int v) ++ rest) = .ok (.int v, rest) := by
  have value := toInt_neg_of_neg regular negative
  have written : DocMetric.write style (.int v) = '-' :: DocMetric.write style (.int (-v)) := by
    rw [DocMetric.write, DocMetric.write, writeInt_eq, writeInt_eq, if_neg (by omega),
      if_pos (by omega), value]
  have regular' : -v ≠ Int64.minValue := by
    intro least
    rw [least, Int64.toInt_minValue] at value
    omega
  rw [written, List.length_cons] at short
  have read := (h.metricOperand (.int (-v)) false (.int regular') (by simp [DocMetric.isCompound])
    short).bare ends
  have minus : symbol "-" ('-' :: (DocMetric.write style (.int (-v)) ++ rest)) =
      .ok ((), DocMetric.write style (.int (-v)) ++ rest) := rfl
  have back : negated (.int (-v)) = .int v := by rw [negated, Int64.neg_neg]
  rw [written, ← back]
  exact orElse_ok ((bind_ok minus).trans (map_ok read))

theorem docMetricOperand_write (h : Handles style inner bound) {m : DocMetric} {needed : Bool}
    (canonical : m.Canonical) (compound : m.isCompound → needed = true)
    (short : (Style.around needed (m.write style)).length ≤ bound) (ends : Ends [] rest) :
    docMetricOperand inner (Style.around needed (m.write style) ++ rest) = .ok (m, rest) := by
  cases needed with
  | true =>
    have shorter : (m.write style).length < bound := by
      simp only [Style.around, if_true, parenthesize, List.length_cons, List.length_append] at short
      omega
    exact (orElse_of_fails (fails_minus (by decide) rfl)).trans
      (docAtom_parenthesize (h.plainMetric canonical shorter) (by decide))
  | false =>
    have plain : m.isCompound = false := by
      rw [Bool.eq_false_iff]
      intro inside
      cases compound inside
    by_cases positive : ∀ v, m = .int v → 0 ≤ v.toInt
    · have read := docAtom_write h canonical plain positive short ends
      obtain ⟨c, cs, written, start⟩ := write_start style canonical plain positive
      change docMetricOperand inner (m.write style ++ rest) = _
      rw [written] at read ⊢
      exact (orElse_of_fails (fails_minus (start.ne (by decide) rfl rfl) start.visible)).trans read
    · simp only [not_forall, Int.not_le] at positive
      obtain ⟨v, rfl, negative⟩ := positive
      cases canonical with
      | int regular => exact docMetricOperand_negative h regular negative short ends

/-! ## Metrics -/

theorem skips_docAtom (inner : Nested) : SkipsBlank (docAtom inner) := by
  apply SkipsBlank.choice (by simp)
  simp only [List.forall_mem_cons, List.not_mem_nil, false_implies, implies_true, and_true]
  refine ⟨(skips_symbol "(").bind, SkipsBlank.map fun _ => rfl, ?_, (skips_keyword "IF").bind.bind,
    skips_scopedName.map⟩
  rw [docFunction, docFunctions_eq]
  apply SkipsBlank.choice (by simp [functionTable])
  intro p hp
  obtain ⟨e, _, rfl⟩ := List.mem_map.mp hp
  exact skips_callOf e.1 e.2

theorem skips_docMetricOperand (inner : Nested) : SkipsBlank (docMetricOperand inner) :=
  (skips_symbol "-").bind.orElse (skips_docAtom inner)

theorem skips_docMetric (inner : Nested) : SkipsBlank (docMetric inner) :=
  (skips_docMetricOperand inner).bind.bind

theorem sumOperator_among (c : Char) (h : sumOperator c ≠ none) : c ∈ ['+', '-'] := by
  unfold sumOperator at h
  split at h
  · simp_all
  · split at h
    · simp_all
    · exact absurd rfl h

theorem productOperator_among (c : Char) (h : productOperator c ≠ none) : c ∈ ['*', '/', '%'] := by
  unfold productOperator at h
  split at h
  · simp_all
  · split at h
    · simp_all
    · split at h
      · simp_all
      · exact absurd rfl h

theorem fails_sumOperator {signs : List Char} (ends : Ends signs rest)
    (sub : ['+', '-'] ⊆ signs) : Fails (operator sumOperator) rest := by
  apply ends.fails_operator
  intro c h
  have among := sumOperator_among c h
  rw [List.all_iff_forall_prop.mp (by decide : ['+', '-'].all fun c => c.toLower = c) c among]
  exact sub among

theorem fails_productOperator {signs : List Char} (ends : Ends signs rest)
    (sub : ['*', '/', '%'] ⊆ signs) : Fails (operator productOperator) rest := by
  apply ends.fails_operator
  intro c h
  have among := productOperator_among c h
  rw [List.all_iff_forall_prop.mp (by decide : ['*', '/', '%'].all fun c => c.toLower = c) c among]
  exact sub among

theorem docMetric_operand {m : DocMetric} (h : docMetricOperand inner cs = .ok (m, rest))
    (ends : Ends arithmeticSigns rest) : docMetric inner cs = .ok (m, rest) :=
  joined_alone (joined_alone h (fails_productOperator ends (by decide)))
    (fails_sumOperator ends (by decide))

theorem docMetric_product {m m' : DocMetric} {text : List Char} {c : Char} {op : DocOperator}
    (left : docMetricOperand inner cs = .ok (m, ' ' :: c :: ' ' :: (text ++ rest)))
    (visible : Scanner.isSpace c = false) (means : productOperator c = some op)
    (right : docMetricOperand inner (text ++ rest) = .ok (m', rest))
    (ends : Ends arithmeticSigns rest) : docMetric inner cs = .ok (.binary op m m', rest) := by
  have right := (skips_docMetricOperand inner _).trans right
  exact joined_alone (joined_pair left visible means right (fails_productOperator ends (by decide)))
    (fails_sumOperator ends (by decide))

theorem docMetric_sum {m m' : DocMetric} {text : List Char} {c : Char} {op : DocOperator}
    (left : docMetricOperand inner cs = .ok (m, ' ' :: c :: ' ' :: (text ++ rest)))
    (visible : Scanner.isSpace c = false) (means : sumOperator c = some op)
    (other : c.toLower ∉ ['*', '/', '%'])
    (right : docMetricOperand inner (text ++ rest) = .ok (m', rest))
    (ends : Ends arithmeticSigns rest) : docMetric inner cs = .ok (.binary op m m', rest) := by
  have leftEnds : Ends ['*', '/', '%'] (' ' :: c :: ' ' :: (text ++ rest)) := .blank visible other
  have right := (skips_docMetricOperand inner _).trans right
  exact joined_pair (joined_alone left (fails_productOperator leftEnds (by decide))) visible means
    (joined_alone right (fails_productOperator ends (by decide)))
    (fails_sumOperator ends (by decide))

theorem operand_eq_around (style : Style) (m : DocMetric) (text : List Char) :
    style.operand m text = Style.around (m.isCompound || style.metric m) text := rfl

theorem Ends.tokenOnly {signs : List Char} (ends : Ends signs rest) : Ends [] rest :=
  ends.mono (List.nil_subset _)

theorem blank_ends {c : Char} (cs : List Char) (visible : Scanner.isSpace c = false) :
    Ends [] (' ' :: c :: cs) :=
  .blank visible List.not_mem_nil

theorem docMetricOperand_operand (h : Handles style inner bound) {m : DocMetric}
    (canonical : m.Canonical) (short : (style.operand m (m.write style)).length ≤ bound)
    (ends : Ends [] rest) :
    docMetricOperand inner (style.operand m (m.write style) ++ rest) = .ok (m, rest) :=
  docMetricOperand_write h canonical (by simp +contextual) short ends

theorem visible_sign (op : DocOperator) : Scanner.isSpace op.sign = false := by
  rcases op with _ | op
  · rfl
  · cases op <;> rfl

theorem docMetric_binary (h : Handles style inner bound) {op : DocOperator} {l r : DocMetric}
    (left : l.Canonical) (right : r.Canonical)
    (short : (DocMetric.write style (.binary op l r)).length ≤ bound)
    (ends : Ends arithmeticSigns rest) :
    docMetric inner (DocMetric.write style (.binary op l r) ++ rest) =
      .ok (.binary op l r, rest) := by
  simp only [DocMetric.write, spaced_cons_cons, spaced_singleton, List.length_append,
    List.length_cons] at short
  simp only [DocMetric.write, spaced_cons_cons, spaced_singleton, List.append_assoc,
    List.cons_append, List.nil_append]
  have readLeft (cs : List Char) :=
    docMetricOperand_operand h left (by omega) (blank_ends cs (visible_sign op))
  have readRight := docMetricOperand_operand h right (by omega) ends.tokenOnly
  rcases op with _ | op
  · exact docMetric_sum (readLeft _) rfl rfl (by decide) readRight ends
  · cases op with
    | subtract => exact docMetric_sum (readLeft _) rfl rfl (by decide) readRight ends
    | multiply | divide | modulus => exact docMetric_product (readLeft _) rfl rfl readRight ends

theorem docMetric_negate (h : Handles style inner bound) {m : DocMetric}
    (other : ∀ v, m ≠ .int v) (canonical : m.Canonical)
    (short : (DocMetric.write style (.negate m)).length ≤ bound)
    (ends : Ends arithmeticSigns rest) :
    docMetric inner (DocMetric.write style (.negate m) ++ rest) = .ok (.negate m, rest) := by
  rw [DocMetric.write, List.length_cons] at short
  have read := (h.metricOperand m (m.isCompound || style.metric m) canonical
    (by simp +contextual) short).bare ends.tokenOnly
  have minus : symbol "-" ('-' :: (style.operand m (m.write style) ++ rest)) =
      .ok ((), style.operand m (m.write style) ++ rest) := rfl
  have kept : negated m = .negate m := by
    cases m with
    | int v => exact absurd rfl (other v)
    | _ => rfl
  rw [DocMetric.write, List.cons_append, ← kept]
  exact docMetric_operand (orElse_ok ((bind_ok minus).trans (map_ok read))) ends

theorem docMetric_condition (h : Handles style inner bound) {c : DocFilter} {y n : DocMetric}
    (condition : c.Canonical) (yes : y.Canonical) (no : n.Canonical)
    (short : (DocMetric.write style (.ifThenElse c y n)).length ≤ bound)
    (ends : Ends arithmeticSigns rest) :
    docMetric inner (DocMetric.write style (.ifThenElse c y n) ++ rest) =
      .ok (.ifThenElse c y n, rest) := by
  have lengths := short
  simp only [DocMetric.write, spaced_cons_cons, spaced_singleton, List.length_append,
    List.length_cons] at lengths
  have read := docIfThenElse_spaced (h.filter c (c.isCompound || style.filter c) condition
      (by change (style.filterOperand c _).length < _; omega))
    (h.metric y (y.isCompound || style.metric y) yes
      (by change (style.operand y _).length < _; omega))
    (h.metric n (n.isCompound || style.metric n) no
      (by change (style.operand n _).length < _; omega)) ends
  have first : Fails (do symbol "-"; negated <$> inner.docMetricOperand)
      (DocMetric.write style (.ifThenElse c y n) ++ rest) := fails_minus (by decide) rfl
  exact docMetric_operand ((orElse_of_fails first).trans (docAtom_condition read)) ends

theorem docMetric_write (h : Handles style inner bound) {m : DocMetric} {needed : Bool}
    (canonical : m.Canonical) (short : (Style.around needed (m.write style)).length ≤ bound)
    (ends : Ends arithmeticSigns rest) :
    docMetric inner (Style.around needed (m.write style) ++ rest) = .ok (m, rest) := by
  by_cases set : m.isCompound → needed = true
  · exact docMetric_operand (docMetricOperand_write h canonical set short ends.tokenOnly) ends
  · obtain ⟨compound, bare⟩ := Classical.not_imp.mp set
    cases Bool.eq_false_iff.mpr bare
    cases canonical with
    | negate other metric => exact docMetric_negate h other metric short ends
    | binary left right => exact docMetric_binary h left right short ends
    | ifThenElse condition yes no => exact docMetric_condition h condition yes no short ends
    | _ => cases compound

end Groupwise.Query.Grammar
