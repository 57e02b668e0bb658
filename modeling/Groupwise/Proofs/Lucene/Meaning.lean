import Groupwise.Lucene.Basic
import Groupwise.Proofs.Doc.Truth

/-!
# Meaning of embedded index queries

An index query whose fields are names of the query language asks the same of a document as the query
that it is resolved to, and as the filter which stands for that query in arithmetic. It cannot be
resolved exactly if some field cannot, or if a value for an integer field is no integer.
-/
namespace Groupwise.Lucene.Query

open Doc (Document)

/-! ## Meaning -/

/-- The document has a value in a field, which goes by its physical name and may be an integer
field. -/
def HasValue (doc : Document) (value : String) : String × Bool → Prop
  | (name, true) => ∃ v, Decimal.readInt64? value = some v ∧ doc.passes (.hasInt name v)
  | (name, false) => doc.passes (.hasString name value)

/-- The document has something between two bounds in a field. -/
def LiesBetween (doc : Document) (lower upper : String) (inclusive : Bool) : String × Bool → Prop
  | (name, true) => ∃ low high, Decimal.readInt64? lower = some low ∧
    Decimal.readInt64? upper = some high ∧ low ≤ doc.reads (.field name) ∧
    if inclusive then doc.reads (.field name) ≤ high else doc.reads (.field name) < high
  | (name, false) => doc.inTextRange (.string name lower) (.string name upper) inclusive

section Selects

variable (doc : Document) (field? : String → CompileM (String × Bool))

mutual

/-- A document is what a query asks for, its fields being resolved. -/
def Selects : Query → Prop
  | .term field value => ∃ known, field? field = .ok known ∧ HasValue doc value known
  | .range field lower upper inclusive =>
    ∃ known, field? field = .ok known ∧ LiesBetween doc lower upper inclusive known
  | .and queries => SelectsAll queries
  | .or queries => SelectsSome queries
  | .not query => ¬Selects query

def SelectsAll : List Query → Prop
  | [] => True
  | q :: rest => Selects q ∧ SelectsAll rest

def SelectsSome : List Query → Prop
  | [] => False
  | q :: rest => Selects q ∨ SelectsSome rest

end

end Selects

mutual

/-- The values and bounds of a query with their fields. -/
def values : Query → List (String × String)
  | .term field value => [(field, value)]
  | .range field lower upper _ => [(field, lower), (field, upper)]
  | .and queries => valuesOfAll queries
  | .or queries => valuesOfAll queries
  | .not query => query.values

def valuesOfAll : List Query → List (String × String)
  | [] => []
  | q :: rest => q.values ++ valuesOfAll rest

end

variable {field? : String → CompileM (String × Bool)} {doc : Document}
variable {field value lower upper : String} {inclusive : Bool} {resolved : Doc.Query}

/-! ## Terms and ranges -/

theorem readInt_eq_ok {v : Int64} :
    readInt value field = .ok v ↔ Decimal.readInt64? value = some v := by
  unfold readInt
  cases Decimal.readInt64? value <;> simp

theorem resolve_term_eq_ok : (term field value).resolve field? = .ok resolved ↔
    (∃ name v, field? field = .ok (name, true) ∧ Decimal.readInt64? value = some v ∧
      .term (.int name v) = resolved) ∨
    ∃ name, field? field = .ok (name, false) ∧ .term (.string name value) = resolved := by
  simp only [resolve, bind_eq_ok]
  rcases field? field with e | ⟨name, _ | _⟩ <;>
    simp [-bind_pure_comp, bind_eq_ok, pure_eq_ok, readInt_eq_ok]

theorem resolve_range_eq_ok : (range field lower upper inclusive).resolve field? = .ok resolved ↔
    (∃ name low high, field? field = .ok (name, true) ∧ Decimal.readInt64? lower = some low ∧
      Decimal.readInt64? upper = some high ∧ .intRange name low high inclusive = resolved) ∨
    ∃ name, field? field = .ok (name, false) ∧
      .range (.string name lower) (.string name upper) inclusive = resolved := by
  simp only [resolve, bind_eq_ok]
  rcases field? field with e | ⟨name, _ | _⟩ <;>
    simp [-bind_pure_comp, bind_eq_ok, pure_eq_ok, readInt_eq_ok]

theorem liesIn_iff {low high v : Int64} :
    Doc.liesIn low high inclusive v ↔ low ≤ v ∧ if inclusive then v ≤ high else v < high := by
  cases inclusive <;> simp [Doc.liesIn, Comparison.holds]

theorem holds_term (h : (term field value).resolve field? = .ok resolved) :
    resolved.holds doc ↔ (term field value).Selects doc field? := by
  rcases resolve_term_eq_ok.mp h with ⟨name, v, known, read, rfl⟩ | ⟨name, known, rfl⟩
  · have answer : (Doc.Query.term (.int name v)).holds doc = doc.passes (.hasInt name v) := rfl
    simp [Selects, known, HasValue, read, answer]
  · have answer : (Doc.Query.term (.string name value)).holds doc =
        doc.passes (.hasString name value) := rfl
    simp [Selects, known, HasValue, answer]

theorem holds_range (h : (range field lower upper inclusive).resolve field? = .ok resolved) :
    resolved.holds doc ↔ (range field lower upper inclusive).Selects doc field? := by
  rcases resolve_range_eq_ok.mp h with
    ⟨name, low, high, known, readLow, readHigh, rfl⟩ | ⟨name, known, rfl⟩
  · have answer : (Doc.Query.intRange name low high inclusive).holds doc =
        Doc.liesIn low high inclusive (doc.reads (.field name)) := rfl
    simp [Selects, known, LiesBetween, readLow, readHigh, answer, liesIn_iff]
  · have answer : (Doc.Query.range (.string name lower) (.string name upper) inclusive).holds doc =
        doc.inTextRange (.string name lower) (.string name upper) inclusive := rfl
    simp [Selects, known, LiesBetween, answer]

/-! ## Resolved queries -/

mutual

/-- The query that is resolved holds where the unresolved one selects the document. -/
theorem holds_resolve (q : Query) (doc : Document) {resolved : Doc.Query}
    (h : q.resolve field? = .ok resolved) : resolved.holds doc ↔ q.Selects doc field? := by
  match q with
  | .term .. => exact holds_term h
  | .range .. => exact holds_range h
  | .and queries =>
    simp only [resolve, bind_eq_ok, pure_eq_ok] at h
    obtain ⟨all, hall, rfl⟩ := h
    rw [Doc.Query.holds, Doc.Query.holdAll_eq_all, Selects]
    exact (holds_resolveAll queries doc hall).1
  | .or queries =>
    simp only [resolve, bind_eq_ok, pure_eq_ok] at h
    obtain ⟨all, hall, rfl⟩ := h
    rw [Doc.Query.holds, Doc.Query.holdSome_eq_any, Selects]
    exact (holds_resolveAll queries doc hall).2
  | .not query =>
    simp only [resolve, bind_eq_ok, pure_eq_ok] at h
    obtain ⟨inner, hinner, rfl⟩ := h
    rw [Selects, ← holds_resolve query doc hinner]
    simp [Doc.Query.holds, Doc.Query.holdAll]

theorem holds_resolveAll (qs : List Query) (doc : Document) {resolved : List Doc.Query}
    (h : resolveAll field? qs = .ok resolved) :
    (resolved.all (·.holds doc) ↔ SelectsAll doc field? qs) ∧
      (resolved.any (·.holds doc) ↔ SelectsSome doc field? qs) := by
  match qs with
  | [] =>
    obtain rfl := Except.ok.inj h
    simp [SelectsAll, SelectsSome]
  | q :: rest =>
    simp only [resolveAll, bind_eq_ok, pure_eq_ok] at h
    obtain ⟨first, hfirst, others, hothers, rfl⟩ := h
    obtain ⟨every, one⟩ := holds_resolveAll rest doc hothers
    rw [SelectsAll, SelectsSome, ← holds_resolve q doc hfirst, ← every, ← one]
    simp

end

mutual

/-- The fields of the resolved query are the resolved fields of the unresolved one. -/
theorem fields_resolve (q : Query) {resolved : Doc.Query} (h : q.resolve field? = .ok resolved) :
    q.fields.mapM field? = .ok resolved.fields := by
  match q with
  | .term field value =>
    rw [fields, List.mapM_cons, List.mapM_nil]
    rcases resolve_term_eq_ok.mp h with ⟨name, v, known, -, rfl⟩ | ⟨name, known, rfl⟩ <;>
      rw [known] <;> rfl
  | .range field lower upper inclusive =>
    rw [fields, List.mapM_cons, List.mapM_nil]
    rcases resolve_range_eq_ok.mp h with ⟨name, low, high, known, -, -, rfl⟩ | ⟨name, known, rfl⟩ <;>
      rw [known] <;> rfl
  | .and queries | .or queries =>
    simp only [resolve, bind_eq_ok, pure_eq_ok] at h
    obtain ⟨all, hall, rfl⟩ := h
    rw [fields, Doc.Query.fields]
    exact fields_resolveAll queries hall
  | .not query =>
    simp only [resolve, bind_eq_ok, pure_eq_ok] at h
    obtain ⟨inner, hinner, rfl⟩ := h
    rw [fields, fields_resolve query hinner]
    simp [Doc.Query.fields, Doc.Query.fieldsOfAll]

theorem fields_resolveAll (qs : List Query) {resolved : List Doc.Query}
    (h : resolveAll field? qs = .ok resolved) :
    (fieldsOfAll qs).mapM field? = .ok (Doc.Query.fieldsOfAll resolved) := by
  match qs with
  | [] =>
    obtain rfl := Except.ok.inj h
    rfl
  | q :: rest =>
    simp only [resolveAll, bind_eq_ok, pure_eq_ok] at h
    obtain ⟨first, hfirst, others, hothers, rfl⟩ := h
    rw [fieldsOfAll, List.mapM_append, fields_resolve q hfirst, fields_resolveAll rest hothers]
    rfl

end

/-! ## Queries that cannot be resolved -/

/-- A value fits the field that it is given for: for an integer field it is an integer. -/
def Fits (field? : String → CompileM (String × Bool)) (e : String × String) : Prop :=
  ∀ name, field? e.1 = .ok (name, true) → (Decimal.readInt64? e.2).isSome

mutual

/-- Resolving a query succeeds if all its fields are resolved and all its values fit these. -/
theorem succeeds_resolve (q : Query) : Succeeds (q.resolve field?) ↔
    (∀ field ∈ q.fields, Succeeds (field? field)) ∧ ∀ e ∈ q.values, Fits field? e := by
  match q with
  | .term field value =>
    rw [fields, values, List.forall_mem_singleton, List.forall_mem_singleton]
    simp only [Succeeds, resolve_term_eq_ok, Fits]
    rcases field? field with e | ⟨name, _ | _⟩ <;> cases Decimal.readInt64? value <;> simp
  | .range field lower upper inclusive =>
    rw [fields, values, List.forall_mem_singleton, List.forall_mem_cons, List.forall_mem_singleton]
    simp only [Succeeds, resolve_range_eq_ok, Fits]
    rcases field? field with e | ⟨name, _ | _⟩ <;> cases Decimal.readInt64? lower <;>
      cases Decimal.readInt64? upper <;> simp
  | .and queries | .or queries =>
    rw [resolve, Succeeds.bind_pure_iff, fields, values]
    exact succeeds_resolveAll queries
  | .not query =>
    rw [resolve, Succeeds.bind_pure_iff, fields, values]
    exact succeeds_resolve query

theorem succeeds_resolveAll (qs : List Query) : Succeeds (resolveAll field? qs) ↔
    (∀ field ∈ fieldsOfAll qs, Succeeds (field? field)) ∧
      ∀ e ∈ valuesOfAll qs, Fits field? e := by
  match qs with
  | [] => simp [resolveAll, fieldsOfAll, valuesOfAll]
  | q :: rest =>
    have first := succeeds_resolve q
    have others := succeeds_resolveAll rest
    rw [resolveAll, Succeeds.bind_iff fun _ => Succeeds.bind_pure_iff, first, others, fieldsOfAll,
      valuesOfAll, List.forall_mem_append, List.forall_mem_append]
    tauto

end

/-- Where an index query is resolved, it selects the documents on which the resolved query holds,
whose fields are the resolved ones in order; and where that query has a filter in the dataset of a
document, the filter holds with it. Resolving fails exactly if some field is not resolved or some
value for an integer field is no integer. -/
theorem resolve_keeps_meaning (q : Query) (field? : String → CompileM (String × Bool)) :
    (∀ resolved, q.resolve field? = .ok resolved →
      q.fields.mapM field? = .ok resolved.fields ∧
      ∀ doc, (q.Selects doc field? ↔ resolved.holds doc) ∧
        ∀ f, resolved.toFilter doc.dataset = .ok f → (resolved.holds doc ↔ f.holds doc)) ∧
    ((∃ e, q.resolve field? = .error e) ↔
      (∃ field ∈ q.fields, ∃ e, field? field = .error e) ∨
        ∃ e ∈ q.values, ∃ name, field? e.1 = .ok (name, true) ∧
          Decimal.readInt64? e.2 = none) := by
  refine ⟨fun resolved h => ⟨fields_resolve q h, fun doc => ⟨(holds_resolve q doc h).symm,
    fun f hf => ?_⟩⟩, ?_⟩
  · rw [Doc.Query.holds_toFilter resolved hf]
  · rw [← Succeeds.not_iff, succeeds_resolve q, not_and_or]
    simp only [not_forall, Fits, exists_prop, Succeeds.not_iff, Bool.not_eq_true,
      Option.isSome_eq_false_iff, Option.isNone_iff_eq_none]

/-- A range of an integer field and a term of a text field, under other names, select a document that
has neither the term nor an integer above the range; a word is no value of an integer field. -/
theorem resolve_keeps_meaning_range :
    let field? : String → CompileM (String × Bool) := fun name =>
      if name == "c" then .ok ("clicks", true)
      else if name == "q" then .ok ("query", false)
      else .error (.unknownField name)
    let q : Query := .and [.range "c" "1" "+5" false, .not (.or [.term "q" "java"])]
    let doc := Document.uniform "ads" false 4
    ∃ resolved f, q.resolve field? = .ok resolved ∧ resolved.toFilter doc.dataset = .ok f ∧
      resolved.fields = [("clicks", true), ("query", false)] ∧ q.Selects doc field? ∧
      resolved.holds doc ∧ f.holds doc ∧
      ∃ e, (term "c" "many").resolve field? = .error e := by
  intro field? q doc
  let resolved : Doc.Query := .boolean .and [.intRange "clicks" 1 5 false,
    .boolean .not [.boolean .or [.term (.string "query" "java")]]]
  have known : q.resolve field? = .ok resolved := rfl
  have selected : resolved.holds doc := by decide
  have filtered : ∃ f, resolved.toFilter doc.dataset = .ok f := ⟨_, rfl⟩
  obtain ⟨f, hf⟩ := filtered
  obtain ⟨fields, meaning⟩ := (resolve_keeps_meaning q field?).1 resolved known
  obtain ⟨selects, filter⟩ := meaning doc
  refine ⟨resolved, f, known, hf, rfl, selects.mpr selected, selected,
    (filter f hf).mp selected, ?_⟩
  refine (resolve_keeps_meaning (term "c" "many") field?).2.mpr (.inr ?_)
  exact ⟨("c", "many"), List.mem_singleton_self _, "clicks", by decide, by decide⟩

end Groupwise.Lucene.Query
