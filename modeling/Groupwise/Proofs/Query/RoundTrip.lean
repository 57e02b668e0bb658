import Groupwise.Proofs.Query.FilterReading
import Groupwise.Query.Text

/-!
# Expressions that are read back

What is written of a metric or a filter in canonical form is read as that metric or filter. The
induction is on the depth to which expressions are read: at each depth all expressions that are
shorter than it are read back, for an expression is longer than the expressions inside it.

Parentheses where none are needed change nothing. One pair is needed although it stands around no
compound operand: a name on the left of an equality is a field to be tested if what follows the sign
could be a term.
-/
namespace Groupwise.Query

open Grammar

variable {style : Style}

/-! ## All depths -/

theorem Grammar.Handles.next {inner : Nested} {bound : Nat} (apart : style.setsNamesApart = true)
    (h : Handles style inner bound) : Handles style inner.next (bound + 1) where
  metric _ _ canonical short := .of_skips (skips_docMetric inner) fun _ ends =>
    docMetric_write h canonical (Nat.le_of_lt_succ short) ends
  metricOperand _ _ canonical set short := .of_skips (skips_docMetricOperand inner) fun _ ends =>
    docMetricOperand_write h canonical set (Nat.le_of_lt_succ short) ends
  filter _ _ canonical short := .of_skips (skips_docFilter inner) fun _ ends =>
    docFilter_around apart h canonical (Nat.le_of_lt_succ short) ends
  filterOperand _ _ canonical set short := .of_skips (skips_docFilterOperand inner) fun _ ends =>
    docFilterOperand_around apart h canonical set (Nat.le_of_lt_succ short) ends
  refuses _ canonical short := docFilter_refuses h canonical (Nat.le_of_lt_succ short)

theorem Grammar.handles_ofDepth (apart : style.setsNamesApart = true) (depth : Nat) :
    Handles style (Nested.ofDepth depth) depth := by
  induction depth with
  | zero =>
    constructor
    all_goals
      intros
      omega
  | succ depth ih => exact ih.next apart

/-! ## Whole texts -/

theorem readAll_ofList {α : Type} {p : Nested → Parser α} {text : List Char} {a : α}
    (h : p (Nested.ofDepth (text.length + 1)) (text ++ []) = .ok (a, [])) :
    readAll p (String.ofList text) = .ok a := by
  rw [List.append_nil] at h
  rw [readAll, String.toList_ofList, h]
  rfl

theorem DocMetric.parse_write (style : Style) (apart : style.setsNamesApart = true) {m : DocMetric}
    (canonical : m.Canonical) : DocMetric.parse (m.print style) = .ok m := by
  have handles := handles_ofDepth apart ((m.write style).length + 1)
  have read : docMetric (Nested.ofDepth ((m.write style).length + 1))
      (Style.around false (m.write style) ++ []) = .ok (m, []) :=
    docMetric_write handles canonical (Nat.le_succ _) .nil
  exact readAll_ofList read

theorem DocFilter.parse_write (style : Style) (apart : style.setsNamesApart = true) {f : DocFilter}
    (canonical : f.Canonical) : DocFilter.parse (f.print style) = .ok f := by
  have handles := handles_ofDepth apart ((f.write style).length + 1)
  have read : docFilter (Nested.ofDepth ((f.write style).length + 1))
      (Style.around false (f.write style) ++ []) = .ok (f, []) :=
    docFilter_around apart handles canonical (Nat.le_succ _) .nil
  exact readAll_ofList read

/-- Metrics and filters in canonical form are what their texts are read as, whatever parentheses are
written that are not needed. -/
theorem parse_print (style : Style) (apart : style.setsNamesApart = true) :
    (∀ m : DocMetric, m.Canonical → DocMetric.parse (m.print style) = .ok m) ∧
      ∀ f : DocFilter, f.Canonical → DocFilter.parse (f.print style) = .ok f :=
  ⟨fun _ canonical => DocMetric.parse_write style apart canonical,
    fun _ canonical => DocFilter.parse_write style apart canonical⟩

/-- A comparison with a number. -/
def comparesName : DocFilter := .compare .eq (.name { name := "f" }) (.int 5)

theorem print_comparesName : comparesName.print {} = "(`f`) = 5" := by
  rfl

theorem canonical_comparesName : comparesName.Canonical := by
  have named : IsField { name := "f" } := by simp [IsField, IsName]
  exact .compare (.name named) (.int (by decide))

/-- A condition with a comparison, and a negative metric. -/
def chooses : DocMetric := .ifThenElse comparesName (.negate (.abs .count)) (.int (-3))

theorem print_chooses :
    chooses.print {} = "IF (`f`) = 5 THEN (-abs(count())) ELSE -3" := by
  rfl

theorem parse_print_chooses :
    ({} : Style).setsNamesApart = true ∧ chooses.Canonical ∧
      DocMetric.parse "IF (`f`) = 5 THEN (-abs(count())) ELSE -3" = .ok chooses ∧
      DocFilter.parse "(`f`) = 5" = .ok comparesName := by
  have canonical : chooses.Canonical :=
    .ifThenElse canonical_comparesName (.negate (by simp) (.abs .count)) (.int (by decide))
  have metric := (parse_print {} rfl).1 chooses canonical
  have filter := (parse_print {} rfl).2 comparesName canonical_comparesName
  rw [print_chooses] at metric
  rw [print_comparesName] at filter
  exact ⟨rfl, canonical, metric, filter⟩

/-- Without the parentheses around it, the name is a field that is tested. -/
theorem parse_bare_comparison :
    comparesName.Canonical ∧ comparesName.print { setsNamesApart := false } = "`f` = 5" ∧
      DocFilter.parse "`f` = 5" = .ok (.fieldIs { name := "f" } (.parse "5") false) ∧
      DocFilter.parse "`f` = 5" ≠ .ok comparesName := by
  have named : IsField { name := "f" } := by simp [IsField, IsName]
  have legible : IsTerm (.parse "5") := .inr ⟨"5", ⟨['5'], by decide⟩, rfl⟩
  have canonical : (DocFilter.fieldIs { name := "f" } (.parse "5") false).Canonical :=
    .fieldIs named legible
  have read := DocFilter.parse_write {} rfl canonical
  have written : DocFilter.print {} (.fieldIs { name := "f" } (.parse "5") false) = "`f` = 5" := by
    rfl
  have bare : comparesName.print { setsNamesApart := false } = "`f` = 5" := by rfl
  rw [written] at read
  refine ⟨canonical_comparesName, bare, read, ?_⟩
  rw [read]
  intro same
  cases same

end Groupwise.Query
