import Groupwise.Doc.Validation
import Groupwise.Proofs.Doc.Constructors
import Groupwise.Proofs.Outcome

/-!
# What validation establishes

Validation of a document expression in a dataset reports an error exactly if something about the
expression is not valid there: a field without a name in the dataset or without the right type, a
pattern that is no regular expression, a part that is meant for another dataset. What is valid stays
valid as a truth metric, and the program of a valid metric pushes no field as an integer that the
dataset has as a string field only.
-/
namespace Groupwise

/-! ## Checks -/

/-- A check adds an error to what was found before exactly if something is not valid. -/
def Judges (check : Findings → Findings) (valid : Prop) : Prop :=
  ∀ found, (check found).errors = [] ↔ found.errors = [] ∧ valid

namespace Judges

variable {check next : Findings → Findings} {valid valid' : Prop}

theorem congr (judges : Judges check valid) (same : valid' ↔ valid) : Judges check valid' :=
  fun found => by rw [judges found, same]

theorem pass : Judges (fun found => found) True :=
  fun _ => (and_true _).symm ▸ Iff.rfl

theorem warn (message : String) : Judges (·.warn message) True :=
  fun _ => (and_true _).symm ▸ Iff.rfl

theorem error (message : String) : Judges (·.error message) False := by
  intro found
  rw [and_false, iff_false]
  simp only [Findings.error, Findings.note]
  split
  · rename_i known
    intro none
    rw [none] at known
    contradiction
  · simp

theorem comp (first : Judges check valid) (second : Judges next valid') :
    Judges (fun found => next (check found)) (valid ∧ valid') :=
  fun found => by rw [second, first, and_assoc]

theorem ite {c : Prop} [Decidable c] (yes : c → Judges check valid) (no : ¬ c → Judges next valid) :
    Judges (fun found => if c then check found else next found) valid := by
  intro found
  by_cases h : c
  · simpa only [if_pos h] using yes h found
  · simpa only [if_neg h] using no h found

/-- An error is reported unless a condition holds. -/
theorem guard (c : Prop) [Decidable c] (message : String) :
    Judges (fun found => if c then found else found.error message) c :=
  .ite (fun h => pass.congr (by simp [h])) fun h => (error message).congr (by simp [h])

/-- An error is reported if a condition holds. -/
theorem guardNot (b : Bool) (message : String) :
    Judges (fun found => if b then found.error message else found) (b = false) :=
  .ite (fun h => (error message).congr (by simp [h])) fun h => pass.congr (by simp [h])

theorem foldl {α : Type} {each : Findings → α → Findings} {good : α → Prop}
    (judges : ∀ a, Judges (each · a) (good a)) (as : List α) :
    Judges (fun found => as.foldl each found) (∀ a ∈ as, good a) := by
  induction as with
  | nil => exact pass.congr (by simp)
  | cons a rest ih => exact ((judges a).comp ih).congr List.forall_mem_cons

end Judges

/-- The pattern is a regular expression. -/
def Pattern.Readable (pattern : String) : Prop := ∃ tree, Pattern.read pattern = .ok tree

theorem Pattern.judges_check (pattern : String) :
    Judges (Pattern.check pattern) (Pattern.Readable pattern) := by
  intro found
  unfold Pattern.check Pattern.Readable
  split
  · rename_i tree read
    simp [read]
  · rename_i refusal read
    rw [Judges.error _ found]
    simp [read]

/-- The field has a name in the dataset, and the name is as required. -/
def FieldSet.Named (dataset : String) (required : String → Prop) (f : FieldSet) : Prop :=
  ∃ name, f.nameIn dataset = .ok name ∧ required name

theorem FieldSet.judges_check {dataset : String} {f : FieldSet} {required : String → Prop}
    {check : String → Findings → Findings} (judges : ∀ name, Judges (check name) (required name)) :
    Judges (f.check dataset check) (f.Named dataset required) := by
  intro found
  unfold FieldSet.check FieldSet.Named
  split
  · rename_i name named
    rw [judges name found]
    simp [named]
  · rename_i e unnamed
    rw [Judges.error _ found]
    simp [unnamed]

theorem FieldSet.Named.imp {dataset : String} {f : FieldSet} {required weaker : String → Prop}
    (named : f.Named dataset required) (h : ∀ name, required name → weaker name) :
    f.Named dataset weaker :=
  have ⟨name, found, fit⟩ := named
  ⟨name, found, h name fit⟩

theorem FieldSet.Named.succeeds {dataset : String} {f : FieldSet} {required : String → Prop}
    (named : f.Named dataset required) : Succeeds (f.nameIn dataset) :=
  have ⟨name, found, _⟩ := named
  ⟨name, found⟩

theorem FieldSet.named_single {dataset name : String} {required : String → Prop}
    (fit : required name) : (FieldSet.single dataset name).Named dataset required :=
  ⟨name, by simp [FieldSet.single, FieldSet.nameIn, Dictionary.find?], fit⟩

namespace Schema

variable {s : Schema} {dataset : String}

/-- Whether the dataset has a field in the type in which it is used. -/
def hasTyped (s : Schema) (isIntField : Bool) (dataset field : String) : Bool :=
  if isIntField then s.containsIntField dataset field else s.containsStringField dataset field

theorem containsField_of_int {field : String} (h : s.containsIntField dataset field = true) :
    s.containsField dataset field = true := by
  rw [containsField, h, Bool.true_or]

theorem containsField_of_string {field : String}
    (h : s.containsStringField dataset field = true) : s.containsField dataset field = true := by
  rw [containsField, h, Bool.or_true]

theorem judges_checkField (field context : String) :
    Judges (s.checkField dataset field context) (s.containsField dataset field = true) :=
  .guard _ _

theorem judges_checkIntField (field context : String) :
    Judges (s.checkIntField dataset field context) (s.containsIntField dataset field = true) :=
  .guard _ _

theorem judges_checkStringField (field context : String) :
    Judges (s.checkStringField dataset field context)
      (s.containsStringField dataset field = true) :=
  .guard _ _

end Schema

namespace Doc

variable {schema : Schema} {dataset : String}

theorem judges_checkTyped (isIntField : Bool) (field context : String) :
    Judges (checkTyped schema isIntField dataset field context)
      (schema.hasTyped isIntField dataset field = true) := by
  cases isIntField with
  | true => exact Schema.judges_checkIntField field context
  | false => exact Schema.judges_checkStringField field context

theorem judges_checkIntTermCount (f : FieldSet) (context name : String) :
    Judges (checkIntTermCount schema dataset f context name)
      (schema.containsField dataset name = true) := by
  unfold checkIntTermCount Schema.containsField
  refine .ite (fun h => Judges.pass.congr (by simp [h])) fun h => ?_
  exact .ite (fun k => (Judges.warn _).congr (by simp [k])) fun k =>
    (Judges.error _).congr (by simp [h, k])

theorem judges_checkStringTermCount (f : FieldSet) (context name : String) :
    Judges (checkStringTermCount schema dataset f context name)
      (schema.containsField dataset name = true) := by
  unfold checkStringTermCount Schema.containsField
  refine .ite (fun h => Judges.pass.congr (by simp [h])) fun h => ?_
  exact .ite (fun k => (Judges.warn _).congr (by simp [k])) fun k =>
    (Judges.error _).congr (by simp [h, k])

/-- Both fields are there, and with a type in common. -/
def Comparable (schema : Schema) (dataset left right : String) : Prop :=
  schema.containsField dataset left = true ∧ schema.containsField dataset right = true ∧
    ∃ isIntField, schema.hasTyped isIntField dataset left = true ∧
      schema.hasTyped isIntField dataset right = true

theorem judges_checkComparable (context left right : String) :
    Judges (checkComparable schema dataset context left right)
      (Comparable schema dataset left right) := by
  have fields : Judges (fun found => schema.checkField dataset right context
      (schema.checkField dataset left context found))
      (schema.containsField dataset left = true ∧ schema.containsField dataset right = true) :=
    (Schema.judges_checkField left context).comp (Schema.judges_checkField right context)
  have sameType := Judges.guardNot (schema.containsField dataset left &&
    schema.containsField dataset right &&
    !(schema.containsIntField dataset left && schema.containsIntField dataset right) &&
    !(schema.containsStringField dataset left && schema.containsStringField dataset right))
    ("Incompatible fields found in fieldequal: [" ++ left ++ "], [" ++ right ++ "]")
  refine (fields.comp sameType).congr ?_
  simp only [Comparable, Schema.hasTyped, Bool.exists_bool]
  grind

/-! ## Validity -/

/-- The index query uses fields in the types that the dataset has them in. -/
def Query.Valid (schema : Schema) (dataset : String) (q : Query) : Prop :=
  ∀ f ∈ q.fields, schema.hasTyped f.2 dataset f.1 = true

theorem Query.judges_check (q : Query) :
    Judges (q.check schema dataset) (q.Valid schema dataset) := by
  have typed (f : String × Bool) :
      Judges (fun found => checkTyped schema f.2 dataset f.1 "lucene query" found)
        (schema.hasTyped f.2 dataset f.1 = true) :=
    judges_checkTyped f.2 f.1 "lucene query"
  exact Judges.foldl typed q.fields

/-- The index query for the dataset is given and valid. -/
def Query.EntryValid (schema : Schema) (dataset : String) (queries : List (String × Query)) :
    Prop :=
  ∃ q, Dictionary.find? dataset queries = some q ∧ q.Valid schema dataset

theorem Query.judges_checkEntry (queries : List (String × Query)) :
    Judges (Query.checkEntry schema dataset queries) (EntryValid schema dataset queries) := by
  intro found
  unfold checkEntry EntryValid
  split
  · rename_i q given
    rw [q.judges_check found]
    simp [given]
  · rename_i missing
    rw [Judges.error _ found]
    simp [missing]

mutual

/-- Everything in a metric is valid in a dataset. -/
def Metric.Valid (schema : Schema) (dataset : String) : Metric → Prop
  | .field f => f.Named dataset (schema.containsIntField dataset · = true)
  | .constant _ => True
  | .count => True
  | .docId => True
  | .log m _ => m.Valid schema dataset
  | .exponentiate m _ => m.Valid schema dataset
  | .negate m => m.Valid schema dataset
  | .abs m => m.Valid schema dataset
  | .signum m => m.Valid schema dataset
  | .sampleMetric m _ _ _ => m.Valid schema dataset
  | .randomMetric m _ _ => m.Valid schema dataset
  | .add ms => Metric.AllValid schema dataset ms
  | .least ms => Metric.AllValid schema dataset ms
  | .greatest ms => Metric.AllValid schema dataset ms
  | .arithmetic _ l r => l.Valid schema dataset ∧ r.Valid schema dataset
  | .compare _ l r => l.Valid schema dataset ∧ r.Valid schema dataset
  | .ifThenElse c y n => (c.Valid schema dataset ∧ y.Valid schema dataset) ∧ n.Valid schema dataset
  | .regex f p => f.Named dataset (schema.containsField dataset · = true) ∧ Pattern.Readable p
  | .extract f p _ => f.Named dataset (schema.containsField dataset · = true) ∧ Pattern.Readable p
  | .hasInt f _ => f.Named dataset (schema.containsField dataset · = true)
  | .hasString f _ => f.Named dataset (schema.containsField dataset · = true)
  | .hasIntField f => f.Named dataset (schema.containsField dataset · = true)
  | .hasStringField f => f.Named dataset (schema.containsField dataset · = true)
  | .stringLength f => f.Named dataset (schema.containsField dataset · = true)
  | .fieldEqual l r => l.Named dataset (schema.containsField dataset · = true) ∧
      r.Named dataset (schema.containsField dataset · = true)
  | .floatScale f _ _ => f.Named dataset (schema.containsStringField dataset · = true)
  | .intTermCount f => f.Named dataset (schema.containsField dataset · = true)
  | .stringTermCount f => f.Named dataset (schema.containsField dataset · = true)
  | .lucene _ queries => Query.EntryValid schema dataset queries
  | .qualified d m => d = dataset ∧ m.Valid schema dataset
  | .perDataset ms => Metric.EntryValid schema dataset ms
  | .sample f isIntField _ _ _ => f.Named dataset (schema.hasTyped isIntField dataset · = true)
  | .random f isIntField _ _ => f.Named dataset (schema.hasTyped isIntField dataset · = true)

def Metric.AllValid (schema : Schema) (dataset : String) : List Metric → Prop
  | [] => True
  | m :: rest => m.Valid schema dataset ∧ Metric.AllValid schema dataset rest

/-- The metric for the dataset is given and valid. -/
def Metric.EntryValid (schema : Schema) (dataset : String) : List (String × Metric) → Prop
  | [] => False
  | (d, m) :: rest =>
    if d == dataset then m.Valid schema dataset else Metric.EntryValid schema dataset rest

/-- Everything in a filter is valid in a dataset. -/
def Filter.Valid (schema : Schema) (dataset : String) : Filter → Prop
  | .fieldIs f t => f.Named dataset fun name =>
      (if t.isInt then schema.containsField dataset name
        else schema.containsStringField dataset name) = true
  | .fieldIsnt f t => f.Named dataset fun name =>
      (if t.isInt then schema.containsField dataset name
        else schema.containsStringField dataset name) = true
  | .between f _ _ _ => f.Named dataset (schema.containsIntField dataset · = true)
  | .intIn f _ => f.Named dataset (schema.containsIntField dataset · = true)
  | .stringIn f _ => f.Named dataset (schema.containsField dataset · = true)
  | .inQuery f _ _ => f.Named dataset (schema.containsField dataset · = true)
  | .compare _ l r => l.Valid schema dataset ∧ r.Valid schema dataset
  | .and fs => Filter.AllValid schema dataset fs
  | .or fs => Filter.AllValid schema dataset fs
  | .not f => f.Valid schema dataset
  | .regex f p => f.Named dataset (schema.containsField dataset · = true) ∧ Pattern.Readable p
  | .notRegex f p => f.Named dataset (schema.containsField dataset · = true) ∧ Pattern.Readable p
  | .fieldEqual l r =>
    l.Named dataset fun left => r.Named dataset fun right => Comparable schema dataset left right
  | .qualified ds f => dataset ∈ ds → f.Valid schema dataset
  | .lucene _ queries => Query.EntryValid schema dataset queries
  | .sample f isIntField _ d _ =>
    d ≠ 0 ∧ f.Named dataset (schema.hasTyped isIntField dataset · = true)
  | .sampleMetric m _ d _ => d ≠ 0 ∧ m.Valid schema dataset
  | .always => True
  | .never => True

def Filter.AllValid (schema : Schema) (dataset : String) : List Filter → Prop
  | [] => True
  | f :: rest => f.Valid schema dataset ∧ Filter.AllValid schema dataset rest

end

mutual

/-- Checking a metric in a dataset reports an error exactly if the metric is not valid there. -/
theorem Metric.judges_check (m : Metric) :
    Judges (m.check schema dataset) (m.Valid schema dataset) := by
  match m with
  | .constant _ | .count | .docId => exact .pass
  | .field f => exact FieldSet.judges_check fun name => Schema.judges_checkIntField name _
  | .floatScale f _ _ =>
    exact FieldSet.judges_check fun name => Schema.judges_checkStringField name _
  | .hasInt f _ | .hasString f _ | .hasIntField f | .hasStringField f | .stringLength f =>
    exact FieldSet.judges_check fun name => Schema.judges_checkField name _
  | .intTermCount f => exact FieldSet.judges_check fun name => judges_checkIntTermCount f _ name
  | .stringTermCount f =>
    exact FieldSet.judges_check fun name => judges_checkStringTermCount f _ name
  | .sample f isIntField .. | .random f isIntField .. =>
    exact FieldSet.judges_check fun name => judges_checkTyped isIntField name _
  | .fieldEqual l r =>
    exact (FieldSet.judges_check fun name => Schema.judges_checkField name _).comp
      (FieldSet.judges_check fun name => Schema.judges_checkField name _)
  | .regex f p | .extract f p _ =>
    exact (FieldSet.judges_check fun name => Schema.judges_checkField name _).comp
      (Pattern.judges_check p)
  | .lucene _ queries => exact Query.judges_checkEntry queries
  | .log m _ | .exponentiate m _ | .negate m | .abs m | .signum m | .sampleMetric m ..
  | .randomMetric m .. => exact Metric.judges_check m
  | .add ms | .least ms | .greatest ms => exact Metric.judges_checkAll ms
  | .arithmetic _ l r | .compare _ l r => exact (Metric.judges_check l).comp (Metric.judges_check r)
  | .ifThenElse c y n =>
    exact ((Filter.judges_check c).comp (Metric.judges_check y)).comp (Metric.judges_check n)
  | .qualified d m =>
    exact ((Judges.guard (d == dataset) _).congr (by simp)).comp (Metric.judges_check m)
  | .perDataset ms => exact Metric.judges_checkEntry ms

theorem Metric.judges_checkAll (ms : List Metric) :
    Judges (Metric.checkAll schema dataset ms) (Metric.AllValid schema dataset ms) := by
  match ms with
  | [] => exact .pass
  | m :: rest => exact (Metric.judges_check m).comp (Metric.judges_checkAll rest)

theorem Metric.judges_checkEntry (ms : List (String × Metric)) :
    Judges (Metric.checkEntry schema dataset ms) (Metric.EntryValid schema dataset ms) := by
  match ms with
  | [] => exact .error _
  | (d, m) :: rest =>
    intro found
    rw [Metric.checkEntry, Metric.EntryValid]
    split
    · exact Metric.judges_check m found
    · exact Metric.judges_checkEntry rest found

/-- Checking a filter in a dataset reports an error exactly if the filter is not valid there. -/
theorem Filter.judges_check (f : Filter) :
    Judges (f.check schema dataset) (f.Valid schema dataset) := by
  match f with
  | .always | .never => exact .pass
  | .fieldIs f t | .fieldIsnt f t =>
    refine FieldSet.judges_check fun name => ?_
    cases t.isInt with
    | true => exact Schema.judges_checkField name _
    | false => exact Schema.judges_checkStringField name _
  | .between f .. | .intIn f _ =>
    exact FieldSet.judges_check fun name => Schema.judges_checkIntField name _
  | .stringIn f _ | .inQuery f .. =>
    exact FieldSet.judges_check fun name => Schema.judges_checkField name _
  | .regex f p | .notRegex f p =>
    exact (FieldSet.judges_check fun name => Schema.judges_checkField name _).comp
      (Pattern.judges_check p)
  | .compare _ l r => exact (Metric.judges_check l).comp (Metric.judges_check r)
  | .and fs | .or fs => exact Filter.judges_checkAll fs
  | .not f => exact Filter.judges_check f
  | .fieldEqual l r =>
    intro found
    simp only [Filter.check, Filter.Valid, FieldSet.Named]
    cases hl : l.nameIn dataset <;> cases hr : r.nameIn dataset
    · simp [Judges.error _ _]
    · simp [Judges.error _ _]
    · simp [Judges.error _ _]
    · simpa using judges_checkComparable _ _ _ found
  | .qualified ds f =>
    refine .ite (fun h => (Filter.judges_check f).congr ?_) fun h => Judges.pass.congr ?_
    · exact imp_iff_right (List.contains_iff_mem.mp h)
    · exact iff_of_true (fun inside => absurd (List.contains_iff_mem.mpr inside) h) trivial
  | .lucene _ queries => exact Query.judges_checkEntry queries
  | .sample f isIntField _ d _ =>
    exact ((Judges.guardNot (d == 0) _).congr (by simp)).comp
      (FieldSet.judges_check fun name => judges_checkTyped isIntField name _)
  | .sampleMetric m _ d _ =>
    exact ((Judges.guardNot (d == 0) _).congr (by simp)).comp (Metric.judges_check m)

theorem Filter.judges_checkAll (fs : List Filter) :
    Judges (Filter.checkAll schema dataset fs) (Filter.AllValid schema dataset fs) := by
  match fs with
  | [] => exact .pass
  | f :: rest => exact (Filter.judges_check f).comp (Filter.judges_checkAll rest)

end

/-! ## Truth metrics -/

theorem Metric.allValid_iff {ms : List Metric} :
    Metric.AllValid schema dataset ms ↔ ∀ m ∈ ms, m.Valid schema dataset := by
  induction ms with
  | nil => simp [Metric.AllValid]
  | cons m rest ih => rw [Metric.AllValid, ih, List.forall_mem_cons]

theorem Metric.valid_sum {ms : List Metric} (valid : ∀ m ∈ ms, m.Valid schema dataset) :
    (Metric.sum ms).Valid schema dataset :=
  property_sum (P := Metric.Valid schema dataset) (fun _ => trivial)
    (fun _ => Metric.allValid_iff.mp) (fun _ _ => Metric.allValid_iff.mpr) valid

theorem Metric.valid_probe {f : FieldSet}
    (named : f.Named dataset (schema.containsField dataset · = true)) (term : Term) :
    (Metric.probe f term).Valid schema dataset := by
  cases term <;> exact named

theorem Metric.valid_hasSome {f : FieldSet}
    (named : f.Named dataset (schema.containsField dataset · = true)) (terms : List Term) :
    (Metric.hasSome f terms).Valid schema dataset := by
  unfold hasSome
  split
  · trivial
  · exact valid_probe named _
  · exact ⟨valid_sum (List.forall_mem_map.mpr fun term _ => valid_probe named term), trivial⟩

theorem Metric.valid_inRange {f : FieldSet}
    (named : f.Named dataset (schema.containsIntField dataset · = true)) (lower upper : Int64)
    (inclusive : Bool) : (Metric.inRange f lower upper inclusive).Valid schema dataset := by
  refine ⟨valid_sum ?_, trivial⟩
  rw [List.forall_mem_cons, List.forall_mem_singleton]
  exact ⟨⟨named, trivial⟩, named, trivial⟩

/-- The filter has no filters inside. -/
def Filter.isElementary : Filter → Bool
  | .and _ => false
  | .or _ => false
  | .not _ => false
  | .qualified .. => false
  | _ => true

mutual

/-- The filters inside a filter that have none inside themselves, as far as they concern a
dataset. -/
def Filter.leaves (dataset : String) : Filter → List Filter
  | .and fs => Filter.leavesOfAll dataset fs
  | .or fs => Filter.leavesOfAll dataset fs
  | .not f => f.leaves dataset
  | .qualified ds f => if ds.contains dataset then f.leaves dataset else []
  | f => [f]

def Filter.leavesOfAll (dataset : String) : List Filter → List Filter
  | [] => []
  | f :: rest => f.leaves dataset ++ Filter.leavesOfAll dataset rest

end

theorem Filter.leavesOfAll_eq_flatMap (fs : List Filter) :
    Filter.leavesOfAll dataset fs = fs.flatMap (·.leaves dataset) := by
  induction fs with
  | nil => rfl
  | cons f rest ih => rw [leavesOfAll, ih, List.flatMap_cons]

mutual

theorem Filter.valid_of_mem_leaves (f : Filter) (valid : f.Valid schema dataset) :
    ∀ g ∈ f.leaves dataset, g.isElementary = true ∧ g.Valid schema dataset := by
  match f with
  | .and fs | .or fs => exact Filter.valid_of_mem_leavesOfAll fs valid
  | .not f => exact Filter.valid_of_mem_leaves f valid
  | .qualified ds f =>
    rw [Filter.leaves]
    split
    · rename_i inside
      exact Filter.valid_of_mem_leaves f (valid (List.contains_iff_mem.mp inside))
    · nofun
  | .fieldIs .. | .fieldIsnt .. | .between .. | .compare .. | .regex .. | .notRegex ..
  | .fieldEqual .. | .lucene .. | .sample .. | .sampleMetric .. | .stringIn .. | .intIn ..
  | .inQuery .. | .always | .never => exact List.forall_mem_singleton.mpr ⟨rfl, valid⟩

theorem Filter.valid_of_mem_leavesOfAll (fs : List Filter)
    (valid : Filter.AllValid schema dataset fs) :
    ∀ g ∈ Filter.leavesOfAll dataset fs, g.isElementary = true ∧ g.Valid schema dataset := by
  match fs with
  | [] => nofun
  | f :: rest =>
    exact List.forall_mem_append.mpr
      ⟨Filter.valid_of_mem_leaves f valid.1, Filter.valid_of_mem_leavesOfAll rest valid.2⟩

end

/-- A property passes from the parts of truth metrics to the truth metrics. -/
structure Metric.Compositional (P : Metric → Prop) : Prop where
  constant (v : Int64) : P (.constant v)
  sum {ms : List Metric} : (∀ m ∈ ms, P m) → P (Metric.sum ms)
  subtract {l r : Metric} : P l → P r → P (.subtract l r)
  compare {op : Comparison} {l r : Metric} : P l → P r → P (.compare op l r)

theorem Metric.compositional_valid : Metric.Compositional (Metric.Valid schema dataset) where
  constant _ := trivial
  sum := valid_sum
  subtract := And.intro
  compare := And.intro

section Truth

variable {lucene : List (String × Query) → CompileM Metric} {P : Metric → Prop}

mutual

/-- A truth metric has a property if those of the leaves have. -/
theorem Filter.property_truthWith_of_leaves (compositional : Metric.Compositional P) (f : Filter)
    (m : Metric) (leaves : ∀ g ∈ f.leaves dataset, ∀ n, g.truthWith lucene dataset = .ok n → P n)
    (h : f.truthWith lucene dataset = .ok m) : P m := by
  match f with
  | .and fs | .or fs =>
    rw [Filter.truthWith] at h
    split at h
    · exact absurd h nofun
    · rename_i ms hms
      obtain rfl := Except.ok.inj h
      exact compositional.compare (compositional.sum
        (Filter.property_truthsWith_of_leaves compositional fs ms leaves hms))
        (compositional.constant _)
  | .not f =>
    rw [Filter.truthWith] at h
    split at h
    · exact absurd h nofun
    · rename_i n hn
      obtain rfl := Except.ok.inj h
      exact compositional.subtract (compositional.constant 1)
        (Filter.property_truthWith_of_leaves compositional f n leaves hn)
  | .qualified ds f =>
    rw [Filter.leaves] at leaves
    rw [Filter.truthWith] at h
    split at h
    · rename_i inside
      rw [if_pos inside] at leaves
      exact Filter.property_truthWith_of_leaves compositional f m leaves h
    · obtain rfl := Except.ok.inj h
      exact compositional.constant 1
  | .fieldIs .. | .fieldIsnt .. | .between .. | .compare .. | .regex .. | .notRegex ..
  | .fieldEqual .. | .lucene .. | .sample .. | .sampleMetric .. | .stringIn .. | .intIn ..
  | .inQuery .. | .always | .never => exact leaves _ (List.mem_singleton_self _) m h

theorem Filter.property_truthsWith_of_leaves (compositional : Metric.Compositional P)
    (fs : List Filter) (ms : List Metric)
    (leaves : ∀ g ∈ Filter.leavesOfAll dataset fs, ∀ n, g.truthWith lucene dataset = .ok n → P n)
    (h : Filter.truthsWith lucene dataset fs = .ok ms) : ∀ m ∈ ms, P m := by
  match fs with
  | [] =>
    obtain rfl := Except.ok.inj h
    nofun
  | f :: rest =>
    rw [Filter.leavesOfAll, List.forall_mem_append] at leaves
    rw [Filter.truthsWith] at h
    split at h
    · exact absurd h nofun
    · rename_i n hn
      split at h
      · exact absurd h nofun
      · rename_i others hothers
        obtain rfl := Except.ok.inj h
        exact List.forall_mem_cons.mpr
          ⟨Filter.property_truthWith_of_leaves compositional f n leaves.1 hn,
            Filter.property_truthsWith_of_leaves compositional rest others leaves.2 hothers⟩

end

/-- The truth metric of a valid leaf is valid. -/
theorem Filter.valid_truthWith_of_isElementary {g : Filter} {m : Metric}
    (known : ∀ queries n, Query.EntryValid schema dataset queries → lucene queries = .ok n →
      n.Valid schema dataset)
    (leaf : g.isElementary = true) (valid : g.Valid schema dataset)
    (h : g.truthWith lucene dataset = .ok m) : m.Valid schema dataset := by
  have present {f : FieldSet} {t : Term} (named : f.Named dataset fun name =>
      (if t.isInt then schema.containsField dataset name
        else schema.containsStringField dataset name) = true) :
      f.Named dataset (schema.containsField dataset · = true) := by
    refine named.imp fun name fit => ?_
    split at fit
    · exact fit
    · exact Schema.containsField_of_string fit
  cases g with
  | lucene _ queries => exact known queries m valid h
  | and | or | not | qualified => exact absurd leaf Bool.false_ne_true
  | sample | sampleMetric | inQuery => exact absurd h nofun
  | fieldIs f t =>
    obtain rfl := Except.ok.inj h
    exact Metric.valid_probe (present valid) t
  | fieldIsnt f t =>
    obtain rfl := Except.ok.inj h
    exact ⟨trivial, Metric.valid_probe (present valid) t⟩
  | between f lower upper inclusive =>
    obtain rfl := Except.ok.inj h
    exact Metric.valid_inRange valid lower upper inclusive
  | intIn f terms =>
    obtain rfl := Except.ok.inj h
    exact Metric.valid_hasSome (valid.imp fun _ => Schema.containsField_of_int) _
  | stringIn f terms =>
    obtain rfl := Except.ok.inj h
    exact Metric.valid_hasSome valid _
  | notRegex f p =>
    obtain rfl := Except.ok.inj h
    exact ⟨trivial, valid⟩
  | fieldEqual l r =>
    obtain rfl := Except.ok.inj h
    obtain ⟨left, hleft, right, hright, comparable⟩ := valid
    exact ⟨⟨left, hleft, comparable.1⟩, right, hright, comparable.2.1⟩
  | compare | regex | always | never =>
    obtain rfl := Except.ok.inj h
    exact valid

end Truth

section Leaves

variable {P : Filter → Prop}

theorem Filter.forall_mem_leavesOfAll {fs : List Filter} :
    (∀ g ∈ Filter.leavesOfAll dataset fs, P g) ↔ ∀ f ∈ fs, ∀ g ∈ f.leaves dataset, P g := by
  rw [leavesOfAll_eq_flatMap, List.forall_mem_flatMap]

theorem Filter.forall_mem_leaves_all (always : P .always) (never : P .never) {fs : List Filter}
    (h : ∀ f ∈ fs, ∀ g ∈ f.leaves dataset, P g) : ∀ g ∈ (Filter.all fs).leaves dataset, P g :=
  property_all (P := fun f => ∀ g ∈ f.leaves dataset, P g) (List.forall_mem_singleton.mpr always)
    (List.forall_mem_singleton.mpr never) (fun _ => forall_mem_leavesOfAll.mp)
    (fun _ => forall_mem_leavesOfAll.mpr) h

theorem Filter.forall_mem_leaves_any (always : P .always) (never : P .never) {fs : List Filter}
    (h : ∀ f ∈ fs, ∀ g ∈ f.leaves dataset, P g) : ∀ g ∈ (Filter.any fs).leaves dataset, P g :=
  property_any (P := fun f => ∀ g ∈ f.leaves dataset, P g) (List.forall_mem_singleton.mpr always)
    (List.forall_mem_singleton.mpr never) (fun _ => forall_mem_leavesOfAll.mp)
    (fun _ => forall_mem_leavesOfAll.mpr) h

/-- What may be a leaf of the filter of an index query with the given fields: a constant, a test for
a term, or a range of integers. -/
structure Query.Covers (dataset : String) (fields : List (String × Bool)) (P : Filter → Prop) :
    Prop where
  always : P .always
  never : P .never
  term (start : FieldTerm) : (start.field, start.isIntField) ∈ fields →
    P (.fieldIs (.single dataset start.field) start.toTerm)
  range (field : String) (lower upper : Int64) (inclusive : Bool) : (field, true) ∈ fields →
    P (.between (.single dataset field) lower upper inclusive)

theorem Query.Covers.mono {fields fewer : List (String × Bool)} (covers : Covers dataset fields P)
    (h : fewer ⊆ fields) : Covers dataset fewer P where
  always := covers.always
  never := covers.never
  term start there := covers.term start (h there)
  range field lower upper inclusive there := covers.range field lower upper inclusive (h there)

mutual

theorem Query.forall_mem_leaves_toFilter (q : Query) (f : Filter)
    (covers : Covers dataset q.fields P) (h : q.toFilter dataset = .ok f) :
    ∀ g ∈ f.leaves dataset, P g := by
  match q with
  | .term start =>
    obtain rfl := Except.ok.inj h
    exact List.forall_mem_singleton.mpr (covers.term start (List.mem_singleton_self _))
  | .range start stop inclusive =>
    rw [Query.toFilter] at h
    split at h
    · rename_i lower upper _ _ int
      obtain rfl := Except.ok.inj h
      refine List.forall_mem_singleton.mpr (covers.range start.field lower upper inclusive ?_)
      rw [← int]
      exact List.mem_singleton_self _
    · exact absurd h nofun
  | .boolean op operands =>
    rw [Query.toFilter] at h
    split at h
    · exact absurd h nofun
    · rename_i fs hfs
      have known := Query.forall_mem_leaves_toFilters operands fs covers hfs
      cases op <;> obtain rfl := Except.ok.inj h
      · exact Filter.forall_mem_leaves_all covers.always covers.never known
      · exact Filter.forall_mem_leaves_any covers.always covers.never known
      · exact Filter.forall_mem_leaves_all covers.always covers.never known

theorem Query.forall_mem_leaves_toFilters (qs : List Query) (fs : List Filter)
    (covers : Covers dataset (Query.fieldsOfAll qs) P) (h : Query.toFilters dataset qs = .ok fs) :
    ∀ f ∈ fs, ∀ g ∈ f.leaves dataset, P g := by
  match qs with
  | [] =>
    obtain rfl := Except.ok.inj h
    nofun
  | q :: rest =>
    rw [Query.fieldsOfAll] at covers
    rw [Query.toFilters] at h
    split at h
    · exact absurd h nofun
    · rename_i f hf
      split at h
      · exact absurd h nofun
      · rename_i others hothers
        obtain rfl := Except.ok.inj h
        exact List.forall_mem_cons.mpr
          ⟨Query.forall_mem_leaves_toFilter q f (covers.mono (List.subset_append_left _ _)) hf,
            Query.forall_mem_leaves_toFilters rest others
              (covers.mono (List.subset_append_right _ _)) hothers⟩

end

end Leaves

/-- The truth metrics of all leaves of a filter are valid. -/
def Filter.LeavesSound (schema : Schema) (dataset : String) (f : Filter) : Prop :=
  ∀ g ∈ f.leaves dataset, ∀ lucene n, g.truthWith lucene dataset = .ok n → n.Valid schema dataset

/-- A valid index query becomes a filter with valid truth metrics. -/
theorem Query.leavesSound_toFilter (q : Query) (f : Filter) (valid : q.Valid schema dataset)
    (h : q.toFilter dataset = .ok f) : f.LeavesSound schema dataset := by
  refine Query.forall_mem_leaves_toFilter q f ⟨?_, ?_, ?_, ?_⟩ h
  · intro _ n h
    obtain rfl := Except.ok.inj h
    trivial
  · intro _ n h
    obtain rfl := Except.ok.inj h
    trivial
  · intro start there _ n h
    obtain rfl := Except.ok.inj h
    refine Metric.valid_probe (FieldSet.named_single ?_) _
    have typed := valid _ there
    rw [Schema.hasTyped] at typed
    split at typed
    · exact Schema.containsField_of_int typed
    · exact Schema.containsField_of_string typed
  · intro field _ _ _ there _ n h
    obtain rfl := Except.ok.inj h
    exact Metric.valid_inRange (FieldSet.named_single (valid _ there)) _ _ _

theorem Query.valid_truth {queries : List (String × Query)} {m : Metric}
    (valid : Query.EntryValid schema dataset queries) (h : Query.truth dataset queries = .ok m) :
    m.Valid schema dataset := by
  obtain ⟨q, given, valid⟩ := valid
  simp only [Query.truth, given] at h
  split at h
  · exact absurd h nofun
  · rename_i f hf
    exact Filter.property_truthWith_of_leaves Metric.compositional_valid f m
      (fun g hg => Query.leavesSound_toFilter q f valid hf g hg _) h

/-- The truth metric of a valid filter is valid. -/
theorem Filter.valid_truth {f : Filter} {m : Metric} (valid : f.Valid schema dataset)
    (h : f.truth dataset = .ok m) : m.Valid schema dataset := by
  refine Filter.property_truthWith_of_leaves Metric.compositional_valid f m
    (fun g hg n hn => ?_) h
  obtain ⟨leaf, valid⟩ := Filter.valid_of_mem_leaves f valid g hg
  exact Filter.valid_truthWith_of_isElementary (fun _ _ => Query.valid_truth) leaf valid hn

/-! ## Fields that are pushed as integers -/

/-- The program of a metric in a dataset pushes the integers of a field. -/
inductive Metric.PushesField (dataset name : String) : Metric → Prop where
  | field {f : FieldSet} : f.nameIn dataset = .ok name → PushesField dataset name (.field f)
  | log {m scale} : PushesField dataset name m → PushesField dataset name (.log m scale)
  | exponentiate {m scale} :
    PushesField dataset name m → PushesField dataset name (.exponentiate m scale)
  | negate {m} : PushesField dataset name m → PushesField dataset name (.negate m)
  | abs {m} : PushesField dataset name m → PushesField dataset name (.abs m)
  | signum {m} : PushesField dataset name m → PushesField dataset name (.signum m)
  | add {m ms} : m ∈ ms → PushesField dataset name m → PushesField dataset name (.add ms)
  | least {m ms} : m ∈ ms → PushesField dataset name m → PushesField dataset name (.least ms)
  | greatest {m ms} : m ∈ ms → PushesField dataset name m → PushesField dataset name (.greatest ms)
  | arithmeticLeft {op l r} :
    PushesField dataset name l → PushesField dataset name (.arithmetic op l r)
  | arithmeticRight {op l r} :
    PushesField dataset name r → PushesField dataset name (.arithmetic op l r)
  | compareLeft {op l r} : PushesField dataset name l → PushesField dataset name (.compare op l r)
  | compareRight {op l r} : PushesField dataset name r → PushesField dataset name (.compare op l r)
  | condition {c y n truth} : c.truth dataset = .ok truth → PushesField dataset name truth →
    PushesField dataset name (.ifThenElse c y n)
  | yes {c y n} : PushesField dataset name y → PushesField dataset name (.ifThenElse c y n)
  | no {c y n} : PushesField dataset name n → PushesField dataset name (.ifThenElse c y n)
  | qualified {d m} : PushesField dataset name m → PushesField dataset name (.qualified d m)
  | perDataset {m ms} : Dictionary.find? dataset ms = some m → PushesField dataset name m →
    PushesField dataset name (.perDataset ms)
  | sampleMetric {m k n salt} :
    PushesField dataset name m → PushesField dataset name (.sampleMetric m k n salt)
  | randomMetric {m n salt} :
    PushesField dataset name m → PushesField dataset name (.randomMetric m n salt)

theorem Metric.entryValid_iff {ms : List (String × Metric)} :
    Metric.EntryValid schema dataset ms ↔
      ∃ m, Dictionary.find? dataset ms = some m ∧ m.Valid schema dataset := by
  induction ms with
  | nil => simp [Metric.EntryValid, Dictionary.find?]
  | cons e rest ih =>
    obtain ⟨d, m⟩ := e
    rw [Metric.EntryValid, Dictionary.find?]
    split
    · simp
    · exact ih

/-- A valid metric pushes no field as an integer that is not one. -/
theorem Metric.containsIntField_of_pushesField {m : Metric} {name : String}
    (valid : m.Valid schema dataset) (pushed : m.PushesField dataset name) :
    schema.containsIntField dataset name = true := by
  induction pushed with
  | field named =>
    obtain ⟨name', named', fit⟩ := valid
    rwa [Except.ok.inj (named.symm.trans named')]
  | log _ ih | exponentiate _ ih | negate _ ih | abs _ ih | signum _ ih | sampleMetric _ ih
  | randomMetric _ ih => exact ih valid
  | add mem _ ih | least mem _ ih | greatest mem _ ih =>
    exact ih (Metric.allValid_iff.mp valid _ mem)
  | arithmeticLeft _ ih | compareLeft _ ih => exact ih valid.1
  | arithmeticRight _ ih | compareRight _ ih => exact ih valid.2
  | condition truth _ ih => exact ih (Filter.valid_truth valid.1.1 truth)
  | yes _ ih => exact ih valid.1.2
  | no _ ih => exact ih valid.2
  | qualified _ ih => exact ih valid.2
  | perDataset given _ ih =>
    obtain ⟨m, given', valid⟩ := Metric.entryValid_iff.mp valid
    obtain rfl := Option.some.inj (given.symm.trans given')
    exact ih valid

end Doc

end Groupwise
