import Groupwise.Proofs.Doc.StackMachine
import Groupwise.Proofs.Doc.Truth

/-!
# Programs compute metrics

On a machine that answers questions as a document does, the program of a metric in the dataset of
the document computes the value of the metric, whatever the stack holds before.
-/
namespace Groupwise.Doc

variable {machine : Machine} {doc : Document}

/-- A machine answers questions about fields as a document does. -/
structure Machine.Serves (machine : Machine) (doc : Document) : Prop where
  engine : machine.engine = doc.engine
  test : ∀ t : Test, machine.answer t.text = bit (doc.passes t)
  measure : ∀ m : Measure, machine.answer m.text = doc.reads m

/-- The document that the answers of a machine describe. -/
def Machine.document (machine : Machine) (dataset : String) : Document :=
  { Document.uniform dataset true 0 with
    engine := machine.engine
    passes := fun t => machine.answer t.text == 1
    reads := fun m => machine.answer m.text }

/-- Any answers serve that are zero or one where yes or no is asked for. -/
theorem Machine.serves_document (machine : Machine) (dataset : String)
    (h : ∀ t : Test, machine.answer t.text = 0 ∨ machine.answer t.text = 1) :
    machine.Serves (machine.document dataset) where
  engine := rfl
  test t := by
    rcases h t with h | h <;> simp [document, h, bit]
  measure _ := rfl

/-! ## Metrics that can be run -/

mutual

/-- No sum and no extreme in a metric is empty, no field has the name of a numeral or an operator,
embedded index queries are answered truly, and no filter has more parts than a word can count. This
is given of the index queries among the filters. -/
def Metric.RunnableWith (machine : Machine) (doc : Document)
    (known : List (String × Query) → Prop) : Metric → Prop
  | .field f => Token.ofText (doc.name f) = .question
  | .log m _ => m.RunnableWith machine doc known
  | .exponentiate m _ => m.RunnableWith machine doc known
  | .negate m => m.RunnableWith machine doc known
  | .abs m => m.RunnableWith machine doc known
  | .signum m => m.RunnableWith machine doc known
  | .add ms => ms ≠ [] ∧ Metric.AllRunnableWith machine doc known ms
  | .least ms => ms ≠ [] ∧ Metric.AllRunnableWith machine doc known ms
  | .greatest ms => ms ≠ [] ∧ Metric.AllRunnableWith machine doc known ms
  | .arithmetic _ l r => l.RunnableWith machine doc known ∧ r.RunnableWith machine doc known
  | .compare _ l r => l.RunnableWith machine doc known ∧ r.RunnableWith machine doc known
  | .ifThenElse c y n =>
    c.Short doc.dataset ∧ c.RunnableWith machine doc known ∧ y.RunnableWith machine doc known ∧
      n.RunnableWith machine doc known
  | .lucene _ queries => ∀ q, Dictionary.find? doc.dataset queries = some q →
    machine.answer q.text = bit (q.holds doc)
  | .qualified _ m => m.RunnableWith machine doc known
  | .perDataset ms => Metric.EntriesRunnableWith machine doc known ms
  | .sampleMetric m _ _ _ => m.RunnableWith machine doc known
  | .randomMetric m _ _ => m.RunnableWith machine doc known
  | _ => True

def Metric.AllRunnableWith (machine : Machine) (doc : Document)
    (known : List (String × Query) → Prop) : List Metric → Prop
  | [] => True
  | m :: rest => m.RunnableWith machine doc known ∧ Metric.AllRunnableWith machine doc known rest

def Metric.EntriesRunnableWith (machine : Machine) (doc : Document)
    (known : List (String × Query) → Prop) : List (String × Metric) → Prop
  | [] => True
  | (_, m) :: rest =>
    m.RunnableWith machine doc known ∧ Metric.EntriesRunnableWith machine doc known rest

def Filter.RunnableWith (machine : Machine) (doc : Document)
    (known : List (String × Query) → Prop) : Filter → Prop
  | .between f _ _ _ => Token.ofText (doc.name f) = .question
  | .compare _ l r => l.RunnableWith machine doc known ∧ r.RunnableWith machine doc known
  | .and fs => Filter.AllRunnableWith machine doc known fs
  | .or fs => Filter.AllRunnableWith machine doc known fs
  | .not f => f.RunnableWith machine doc known
  | .qualified _ f => f.RunnableWith machine doc known
  | .lucene _ queries => known queries
  | _ => True

def Filter.AllRunnableWith (machine : Machine) (doc : Document)
    (known : List (String × Query) → Prop) : List Filter → Prop
  | [] => True
  | f :: rest => f.RunnableWith machine doc known ∧ Filter.AllRunnableWith machine doc known rest

end

/-- The filter of an index query for the dataset of a document can be run. It has no index query
inside, so that what is given of those plays no part. -/
def Query.Runnable (machine : Machine) (doc : Document) (queries : List (String × Query)) : Prop :=
  ∀ q f known, Dictionary.find? doc.dataset queries = some q →
    q.toFilter doc.dataset = .ok f → f.RunnableWith machine doc known

def Metric.Runnable (machine : Machine) (doc : Document) (m : Metric) : Prop :=
  m.RunnableWith machine doc (Query.Runnable machine doc)

def Filter.Runnable (machine : Machine) (doc : Document) (f : Filter) : Prop :=
  f.RunnableWith machine doc (Query.Runnable machine doc)

variable {known : List (String × Query) → Prop}

theorem Metric.allRunnableWith_iff {ms : List Metric} :
    Metric.AllRunnableWith machine doc known ms ↔ ∀ m ∈ ms, m.RunnableWith machine doc known := by
  induction ms with
  | nil => simp [Metric.AllRunnableWith]
  | cons m ms ih => rw [Metric.AllRunnableWith, ih, List.forall_mem_cons]

/-! ## Truth metrics can be run -/

namespace Metric

theorem runnableWith_sum {ms : List Metric} (h : ∀ m ∈ ms, m.RunnableWith machine doc known) :
    (sum ms).RunnableWith machine doc known :=
  property_sum (fun _ => trivial) (fun _ h => allRunnableWith_iff.mp h.2)
    (fun _ some h => ⟨some, allRunnableWith_iff.mpr h⟩) h

theorem runnableWith_probe (field : FieldSet) (term : Term) :
    (probe field term).RunnableWith machine doc known := by
  cases term <;> exact trivial

theorem runnableWith_complement {m : Metric} (h : m.RunnableWith machine doc known) :
    m.complement.RunnableWith machine doc known :=
  ⟨trivial, h⟩

theorem runnableWith_inRange {field : FieldSet} (h : Token.ofText (doc.name field) = .question)
    (lower upper : Int64) (inclusive : Bool) :
    (inRange field lower upper inclusive).RunnableWith machine doc known := by
  refine ⟨runnableWith_sum fun m hm => ?_, trivial⟩
  rcases List.mem_pair.mp hm with rfl | rfl
  · exact ⟨h, trivial⟩
  · exact ⟨h, trivial⟩

theorem runnableWith_hasSome (field : FieldSet) (terms : List Term) :
    (hasSome field terms).RunnableWith machine doc known := by
  unfold hasSome
  split
  · exact trivial
  · exact runnableWith_probe field _
  · refine ⟨runnableWith_sum fun m hm => ?_, trivial⟩
    obtain ⟨t, _, rfl⟩ := List.mem_map.mp hm
    exact runnableWith_probe field t

end Metric

namespace Filter

variable {lucene : List (String × Query) → CompileM Metric}

mutual

theorem runnableWith_truthWith (f : Filter) {m : Metric}
    (given : ∀ queries m, known queries → lucene queries = .ok m →
      m.RunnableWith machine doc known)
    (runnable : f.RunnableWith machine doc known) (h : f.truthWith lucene doc.dataset = .ok m) :
    m.RunnableWith machine doc known := by
  match f with
  | .fieldIs field term =>
    obtain rfl := Except.ok.inj h
    exact Metric.runnableWith_probe field term
  | .fieldIsnt field term =>
    obtain rfl := Except.ok.inj h
    exact Metric.runnableWith_complement (Metric.runnableWith_probe field term)
  | .between field lower upper inclusive =>
    obtain rfl := Except.ok.inj h
    exact Metric.runnableWith_inRange runnable lower upper inclusive
  | .compare op left right =>
    obtain rfl := Except.ok.inj h
    exact runnable
  | .and fs | .or fs =>
    simp only [truthWith] at h
    split at h
    · simp at h
    · rename_i ms hms
      obtain rfl := Except.ok.inj h
      exact ⟨Metric.runnableWith_sum (runnableWith_truthsWith fs given runnable hms), trivial⟩
  | .not f =>
    simp only [truthWith] at h
    split at h
    · simp at h
    · rename_i m' hm
      obtain rfl := Except.ok.inj h
      exact Metric.runnableWith_complement (runnableWith_truthWith f given runnable hm)
  | .notRegex field pattern =>
    obtain rfl := Except.ok.inj h
    exact Metric.runnableWith_complement trivial
  | .qualified datasets f =>
    simp only [truthWith] at h
    split at h
    · exact runnableWith_truthWith f given runnable h
    · obtain rfl := Except.ok.inj h
      exact trivial
  | .lucene text queries => exact given queries m runnable h
  | .stringIn field terms | .intIn field terms =>
    obtain rfl := Except.ok.inj h
    exact Metric.runnableWith_hasSome field _
  | .regex .. | .fieldEqual .. | .always | .never =>
    obtain rfl := Except.ok.inj h
    exact trivial
  | .sample .. | .sampleMetric .. | .inQuery .. => simp [truthWith] at h

theorem runnableWith_truthsWith (fs : List Filter) {ms : List Metric}
    (given : ∀ queries m, known queries → lucene queries = .ok m →
      m.RunnableWith machine doc known)
    (runnable : AllRunnableWith machine doc known fs)
    (h : truthsWith lucene doc.dataset fs = .ok ms) :
    ∀ m ∈ ms, m.RunnableWith machine doc known := by
  match fs with
  | [] =>
    obtain rfl := Except.ok.inj h
    simp
  | f :: rest =>
    simp only [truthsWith] at h
    split at h
    · simp at h
    · rename_i m hm
      split at h
      · simp at h
      · rename_i ms' hms
        obtain rfl := Except.ok.inj h
        exact List.forall_mem_cons.mpr ⟨runnableWith_truthWith f given runnable.1 hm,
          runnableWith_truthsWith rest given runnable.2 hms⟩

end

theorem runnable_queryTruth {queries : List (String × Query)} {m : Metric}
    (runnable : Query.Runnable machine doc queries) (h : Query.truth doc.dataset queries = .ok m) :
    m.RunnableWith machine doc known := by
  unfold Query.truth at h
  split at h
  · simp at h
  · rename_i q hq
    split at h
    · simp at h
    · rename_i f hf
      exact runnableWith_truthWith f (by simp) (runnable q f known hq hf) h

/-- The truth metric of a filter that can be run can be run. -/
theorem runnable_truth {f : Filter} {m : Metric} (runnable : f.Runnable machine doc)
    (h : f.truth doc.dataset = .ok m) : m.Runnable machine doc :=
  runnableWith_truthWith f (fun _ _ => runnable_queryTruth) runnable h

end Filter

/-! ## Programs -/

namespace Machine

theorem Serves.computes_test (serves : machine.Serves doc) {text : String} {t : Test}
    (h : text = t.text) : machine.Computes [text] (bit (doc.passes t)) :=
  h ▸ computes_answer (Token.ofText_test t) (serves.test t)

theorem Serves.computes_measure (serves : machine.Serves doc) {text : String} {m : Measure}
    (h : text = m.text) (question : Token.ofText text = .question) :
    machine.Computes [text] (doc.reads m) :=
  computes_answer question (h ▸ serves.measure m)

theorem Serves.computes_question (serves : machine.Serves doc) {text : String} {m : Measure}
    (h : text = m.text) (named : ∀ name, m ≠ .field name) :
    machine.Computes [text] (doc.reads m) :=
  serves.computes_measure h (h ▸ Token.ofText_measure named)

theorem ComputesAll.chain {ps : List (List String)} {vs : List Int64}
    (h : machine.ComputesAll ps vs) (some : vs ≠ []) (op : Operator) :
    ∃ v rest, vs = v :: rest ∧
      machine.Computes (Doc.chain op.symbol ps) (rest.foldl (op.apply machine.engine) v) := by
  cases h with
  | nil => exact absurd rfl some
  | cons first others => exact ⟨_, _, rfl, first.chain others op⟩

theorem Computes.bucket {p : List String} {a : Int64} (h : machine.Computes p a)
    (bounds salt : String) :
    machine.Computes (p ++ ["random_metric [" ++ bounds ++ "] \"" ++ salt ++ "\""])
      (machine.engine.bucket (bucketText bounds salt) a) := by
  have text : "random_metric [" ++ bounds ++ "] \"" ++ salt ++ "\"" =
      (UnaryOperator.bucket (bucketText bounds salt)).symbol := by
    have word : "random_metric [" = "random_metric " ++ "[" := by decide
    simp only [word, UnaryOperator.symbol, bucketText, String.append_assoc]
  exact text ▸ h.unary (.bucket (bucketText bounds salt))

theorem Computes.negate {p : List String} {a : Int64} (h : machine.Computes p a) :
    machine.Computes (["0"] ++ p ++ ["-"]) (-a) := by
  have zero : machine.Computes ["0"] 0 := computes_value rfl
  have difference := zero.binary h (.arithmetic .subtract)
  have value : Operator.apply machine.engine (.arithmetic .subtract) 0 a = -a := Int64.zero_sub a
  exact value ▸ difference

theorem Computes.signum {p : List String} {a : Int64} (h : machine.Computes p a) :
    machine.Computes
      (Doc.choice (p ++ ["0", ">"]) ["1"] (Doc.choice (p ++ ["0", "<"]) ["-1"] ["0"]))
      (signOf a) := by
  have zero : machine.Computes ["0"] 0 := computes_value rfl
  have one : machine.Computes ["1"] 1 := computes_value rfl
  have minusOne : machine.Computes ["-1"] (-1) := computes_value rfl
  have positive := h.binary zero (.compare .gt)
  have negative := h.binary zero (.compare .lt)
  rw [List.append_assoc] at positive negative
  have sign := positive.choice one (negative.choice minusOne zero)
  have value : (if Comparison.gt.holds a 0 then 1 else
      if Comparison.lt.holds a 0 then -1 else 0) = signOf a := by
    simp [Comparison.holds, signOf]
  exact value ▸ sign

end Machine

namespace Metric

theorem values_ne_nil {ms : List Metric} (h : ms ≠ []) : values doc ms ≠ [] := by
  rw [values_eq_map]
  exact mt List.map_eq_nil_iff.mp h

mutual

theorem computes_pushes (m : Metric) {program : List String} (serves : machine.Serves doc)
    (runnable : m.Runnable machine doc) (h : m.pushes doc.dataset = .ok program) :
    machine.Computes program (m.value doc) := by
  match m with
  | .field f =>
    simp only [pushes, bind_eq_ok, pure_eq_ok] at h
    obtain ⟨name, hn, rfl⟩ := h
    rw [Runnable, RunnableWith, Document.name_eq hn] at runnable
    rw [value, Document.int, Document.name_eq hn]
    exact serves.computes_measure rfl runnable
  | .constant v =>
    simp only [pushes, Except.ok.injEq] at h
    exact h ▸ Machine.computes_constant v
  | .count =>
    simp only [pushes, Except.ok.injEq] at h
    exact h ▸ Machine.computes_value rfl
  | .docId =>
    simp only [pushes, Except.ok.injEq] at h
    exact h ▸ serves.computes_measure rfl rfl
  | .log m scale =>
    simp only [pushes, bind_eq_ok, pure_eq_ok] at h
    obtain ⟨p, hp, rfl⟩ := h
    rw [value, ← serves.engine]
    exact (computes_pushes m serves runnable hp).unary (.log scale)
  | .exponentiate m scale =>
    simp only [pushes, bind_eq_ok, pure_eq_ok] at h
    obtain ⟨p, hp, rfl⟩ := h
    rw [value, ← serves.engine]
    exact (computes_pushes m serves runnable hp).unary (.exponentiate scale)
  | .negate m =>
    simp only [pushes, bind_eq_ok, pure_eq_ok] at h
    obtain ⟨p, hp, rfl⟩ := h
    exact (computes_pushes m serves runnable hp).negate
  | .abs m =>
    simp only [pushes, bind_eq_ok, pure_eq_ok] at h
    obtain ⟨p, hp, rfl⟩ := h
    exact (computes_pushes m serves runnable hp).unary .abs
  | .signum m =>
    simp only [pushes, bind_eq_ok, pure_eq_ok] at h
    obtain ⟨p, hp, rfl⟩ := h
    exact (computes_pushes m serves runnable hp).signum
  | .add ms =>
    simp only [pushes, bind_eq_ok, pure_eq_ok] at h
    obtain ⟨ps, hps, rfl⟩ := h
    obtain ⟨v, vs, values, chained⟩ :=
      (computesAll_pushes ms serves runnable.2 hps).chain (values_ne_nil runnable.1) .add
    rw [value, values, total, List.foldr_cons, ← total, ← foldl_add]
    exact chained
  | .least ms =>
    simp only [pushes, bind_eq_ok, pure_eq_ok] at h
    obtain ⟨ps, hps, rfl⟩ := h
    obtain ⟨v, vs, values, chained⟩ :=
      (computesAll_pushes ms serves runnable.2 hps).chain (values_ne_nil runnable.1) (.extreme .min)
    rw [value, values]
    exact chained
  | .greatest ms =>
    simp only [pushes, bind_eq_ok, pure_eq_ok] at h
    obtain ⟨ps, hps, rfl⟩ := h
    obtain ⟨v, vs, values, chained⟩ :=
      (computesAll_pushes ms serves runnable.2 hps).chain (values_ne_nil runnable.1) (.extreme .max)
    rw [value, values]
    exact chained
  | .arithmetic op l r =>
    simp only [pushes, bind_eq_ok, pure_eq_ok] at h
    obtain ⟨p, hp, q, hq, rfl⟩ := h
    rw [value, ← serves.engine]
    exact (computes_pushes l serves runnable.1 hp).binary (computes_pushes r serves runnable.2 hq)
      (.arithmetic op)
  | .compare op l r =>
    simp only [pushes, bind_eq_ok, pure_eq_ok] at h
    obtain ⟨p, hp, q, hq, rfl⟩ := h
    exact (computes_pushes l serves runnable.1 hp).binary (computes_pushes r serves runnable.2 hq)
      (.compare op)
  | .ifThenElse c yes no =>
    simp only [pushes] at h
    split at h
    · simp at h
    · rename_i truth ht
      simp only [bind_eq_ok, pure_eq_ok] at h
      obtain ⟨t, hpt, y, hy, n, hn, rfl⟩ := h
      have bound := Filter.depth_truth_le _ _ _ ht
      have condition := computes_pushes truth serves (Filter.runnable_truth runnable.2.1 ht) hpt
      rw [Filter.value_truth runnable.1 ht] at condition
      exact condition.choice (computes_pushes yes serves runnable.2.2.1 hy)
        (computes_pushes no serves runnable.2.2.2 hn)
  | .regex f _ | .hasInt f _ | .hasString f _ =>
    simp only [pushes, bind_eq_ok, pure_eq_ok] at h
    obtain ⟨name, hn, rfl⟩ := h
    rw [value, Document.name_eq hn]
    exact serves.computes_test (by simp only [String.append_assoc]; rfl)
  | .extract f _ _ | .floatScale f _ _ | .sample f _ _ _ _ | .random f _ _ _ =>
    simp only [pushes, bind_eq_ok, pure_eq_ok] at h
    obtain ⟨name, hn, rfl⟩ := h
    rw [value, Document.name_eq hn]
    exact serves.computes_question (by simp only [String.append_assoc]; rfl) nofun
  | .hasIntField f | .hasStringField f =>
    simp only [pushes, bind_eq_ok, pure_eq_ok] at h
    obtain ⟨name, hn, rfl⟩ := h
    rw [value, Document.name_eq hn]
    exact serves.computes_test rfl
  | .fieldEqual l r =>
    simp only [pushes, bind_eq_ok, pure_eq_ok] at h
    obtain ⟨p, hp, q, hq, rfl⟩ := h
    rw [value, Document.name_eq hp, Document.name_eq hq]
    exact serves.computes_test (by simp only [String.append_assoc]; rfl)
  | .stringLength f | .intTermCount f | .stringTermCount f =>
    simp only [pushes, bind_eq_ok, pure_eq_ok] at h
    obtain ⟨name, hn, rfl⟩ := h
    rw [value, Document.name_eq hn]
    exact serves.computes_question rfl nofun
  | .lucene text queries =>
    simp only [pushes] at h
    split at h
    · simp at h
    · rename_i q hq
      obtain rfl := Except.ok.inj h
      rw [value, Document.selectedBy_of_find hq]
      exact Machine.computes_answer (Token.ofText_query q) (runnable q hq)
  | .qualified d m =>
    simp only [pushes] at h
    split at h
    · exact computes_pushes m serves runnable h
    · simp at h
  | .perDataset ms =>
    rw [pushes] at h
    exact computes_pushesOfEntry ms serves runnable h
  | .sampleMetric m _ _ salt | .randomMetric m _ salt =>
    simp only [pushes, bind_eq_ok, pure_eq_ok] at h
    obtain ⟨p, hp, rfl⟩ := h
    rw [value, ← serves.engine]
    exact (computes_pushes m serves runnable hp).bucket _ salt
termination_by (m.depth, 0)
decreasing_by
  all_goals
    simp only [Metric.depth, Prod.lex_def]
    omega

theorem computesAll_pushes (ms : List Metric) {programs : List (List String)}
    (serves : machine.Serves doc)
    (runnable : AllRunnableWith machine doc (Query.Runnable machine doc) ms)
    (h : pushesOfAll doc.dataset ms = .ok programs) :
    machine.ComputesAll programs (values doc ms) := by
  match ms with
  | [] =>
    simp only [pushesOfAll, Except.ok.injEq] at h
    exact h ▸ .nil
  | m :: rest =>
    simp only [pushesOfAll, bind_eq_ok, pure_eq_ok] at h
    obtain ⟨p, hp, ps, hps, rfl⟩ := h
    exact .cons (computes_pushes m serves runnable.1 hp)
      (computesAll_pushes rest serves runnable.2 hps)
termination_by (depthOfAll ms, ms.length + 1)
decreasing_by
  all_goals
    simp only [Metric.depthOfAll, Prod.lex_def, List.length_cons]
    omega

theorem computes_pushesOfEntry (ms : List (String × Metric)) {program : List String}
    (serves : machine.Serves doc)
    (runnable : EntriesRunnableWith machine doc (Query.Runnable machine doc) ms)
    (h : pushesOfEntry doc.dataset ms = .ok program) :
    machine.Computes program (valueOfEntry doc ms) := by
  match ms with
  | [] => simp [pushesOfEntry] at h
  | (d, m) :: rest =>
    rw [pushesOfEntry] at h
    rw [valueOfEntry]
    split at h
    · rename_i same
      rw [if_pos same]
      exact computes_pushes m serves runnable.1 h
    · rename_i other
      rw [if_neg other]
      exact computes_pushesOfEntry rest serves runnable.2 h
termination_by (depthOfEntries ms, ms.length + 1)
decreasing_by
  all_goals
    simp only [Metric.depthOfEntries, Prod.lex_def, List.length_cons]
    omega

end

/-- From every stack the program of a metric comes to the same stack with the value of the metric on
top, and the truth metric of a filter has the value one if the filter holds and zero if not. -/
theorem run_pushes (serves : machine.Serves doc) :
    (∀ (m : Metric) (program : List String), m.Runnable machine doc →
        m.pushes doc.dataset = .ok program →
        ∀ stack, machine.run program stack = some (m.value doc :: stack)) ∧
      ∀ (f : Filter) (m : Metric), f.Short doc.dataset → f.truth doc.dataset = .ok m →
        m.value doc = if f.holds doc then 1 else 0 :=
  ⟨fun m _ runnable h => computes_pushes m serves runnable h,
    fun _ _ short h => Filter.value_truth short h⟩

/-- A choice with a conjunction, a range and a filter of another dataset in its condition, and a sum
and an extreme in its branches. -/
theorem run_pushes_choice :
    let machine : Machine := ⟨.standard, fun text =>
      if text == "clicks" || text == "hasint clicks:1" then 1 else 0⟩
    let clicks : FieldSet := .single "ads" "clicks"
    let condition : Filter := .and [.fieldIs clicks (.ofInt 1), .not (.between clicks 2 5 false),
      .qualified ["news"] .never]
    let m : Metric := .ifThenElse condition (.signum (.add [.field clicks, .constant (-7)]))
      (.least [.count, .field clicks])
    ∃ program truth, m.pushes "ads" = .ok program ∧ condition.truth "ads" = .ok truth ∧
      machine.run program [3, 4] = some [-1, 3, 4] ∧ truth.value (machine.document "ads") = 1 := by
  intro machine clicks condition m
  have serves : machine.Serves (machine.document "ads") :=
    machine.serves_document "ads" fun t => by
      by_cases h : t.text == "clicks" || t.text == "hasint clicks:1"
      · exact .inr (if_pos h)
      · exact .inl (if_neg h)
  let truth : Metric := .compare .eq (.add [.hasInt clicks 1,
    .subtract (.constant 1) (.compare .eq (.add [.compare .gte (.field clicks) (.constant 2),
      .compare .lt (.field clicks) (.constant 5)]) (.constant 2)), .constant 1]) (.constant 3)
  have ht : condition.truth "ads" = .ok truth := rfl
  have lowered : ∃ program, m.pushes "ads" = .ok program := by
    simp only [m, Metric.pushes]
    split
    · simp_all
    · rename_i other hother
      obtain rfl : truth = other := Except.ok.inj (ht.symm.trans hother)
      simp only [truth, subtract, pushes, pushesOfAll]
      exact ⟨_, rfl⟩
  obtain ⟨program, hp⟩ := lowered
  have named : Token.ofText "clicks" = .question := rfl
  have short : condition.Short "ads" := ⟨by simp, trivial, trivial, trivial, trivial⟩
  have runnable : m.Runnable machine (machine.document "ads") :=
    ⟨short, ⟨trivial, named, trivial, trivial⟩,
      ⟨List.cons_ne_nil _ _, named, trivial, trivial⟩, List.cons_ne_nil _ _, trivial, named,
      trivial⟩
  have value : m.value (machine.document "ads") = -1 := by decide
  refine ⟨program, truth, hp, ht, ?_, ?_⟩
  · exact value ▸ (run_pushes serves).1 m program runnable hp [3, 4]
  · exact (run_pushes serves).2 condition truth short ht

end Metric

end Groupwise.Doc
