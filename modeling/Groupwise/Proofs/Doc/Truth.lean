import Groupwise.Proofs.Doc.Constructors
import Groupwise.Proofs.Outcome
import Mathlib.Algebra.Group.Nat.Defs

/-!
# Truth metrics tell the truth

The truth metric of a filter in a dataset is one on the documents of that dataset on which the
filter holds and zero on the others. Conjunctions and disjunctions count the operands that hold, so
that there must not be more of them than a word can count.
-/
namespace Groupwise.Doc

variable {doc : Document}

/-! ## Counting -/

theorem total_bits (bs : List Bool) : total (bs.map bit) = Int64.ofNat (bs.count true) := by
  induction bs with
  | nil => rfl
  | cons b bs ih =>
    rw [List.map_cons, List.count_cons, Int64.ofNat_add, ← ih, Int64.add_comm]
    cases b <;> rfl

theorem count_true_eq_length (bs : List Bool) : bs.count true = bs.length ↔ bs.all id := by
  rw [List.count_eq_length, List.all_eq_true]
  exact forall₂_congr fun b _ => eq_comm

theorem count_true_pos (bs : List Bool) : 0 < bs.count true ↔ bs.any id := by
  simp [List.count_pos_iff]

namespace Metric

variable {ms : List Metric} {bs : List Bool}

theorem value_allOf (h : values doc ms = bs.map bit) (short : bs.length < 2 ^ 63) :
    (allOf bs.length ms).value doc = bit (bs.all id) := by
  have count := bs.count_le_length (a := true)
  have iff : Int64.ofNat (bs.count true) = Int64.ofNat bs.length ↔ bs.all id := by
    rw [← count_true_eq_length, ← Int64.toInt_inj, Int64.toInt_ofNat_of_lt (by omega),
      Int64.toInt_ofNat_of_lt short, Int.ofNat_inj]
  rw [allOf, value, value_sum, h, total_bits, value, Comparison.holds]
  congr 1
  rw [Bool.eq_iff_iff, beq_iff_eq, iff]

theorem value_someOf (h : values doc ms = bs.map bit) (short : bs.length < 2 ^ 63) :
    (someOf ms).value doc = bit (bs.any id) := by
  have count := bs.count_le_length (a := true)
  have iff : 0 < Int64.ofNat (bs.count true) ↔ bs.any id := by
    rw [← count_true_pos, Int64.lt_iff_toInt_lt, Int64.toInt_ofNat_of_lt (by omega),
      Int64.toInt_zero, Int.natCast_pos]
  rw [someOf, value, value_sum, h, total_bits, value, Comparison.holds]
  congr 1
  rw [Bool.eq_iff_iff, decide_eq_true_iff, iff]

theorem value_probe (field : FieldSet) (term : Term) :
    (probe field term).value doc = bit (doc.hasTerm (doc.name field) term) := by
  cases term <;> rfl

theorem value_complement {m : Metric} {b : Bool} (h : m.value doc = bit b) :
    m.complement.value doc = bit (!b) := by
  rw [complement, subtract, value, h, value, Engine.calculate]
  cases b <;> decide

theorem value_inRange (field : FieldSet) (lower upper : Int64) (inclusive : Bool) :
    (inRange field lower upper inclusive).value doc =
      bit (liesIn lower upper inclusive (doc.int field)) := by
  refine (@value_allOf _ _ [_, _] rfl (by simp)).trans ?_
  rw [liesIn, List.all_cons, List.all_cons, List.all_nil, Bool.and_true]
  cases inclusive <;> rfl

theorem values_map_probe (field : FieldSet) (terms : List Term) :
    values doc (terms.map (probe field)) =
      (terms.map fun t => doc.hasTerm (doc.name field) t).map bit := by
  rw [values_eq_map, List.map_map, List.map_map]
  exact List.map_congr_left fun t _ => value_probe field t

theorem value_hasSome (field : FieldSet) {terms : List Term} (short : terms.length < 2 ^ 63) :
    (hasSome field terms).value doc =
      bit (terms.any fun t => doc.hasTerm (doc.name field) t) := by
  unfold hasSome
  split
  · rfl
  · rw [value_probe, List.any_cons, List.any_nil, Bool.or_false]
  · rw [value_someOf (values_map_probe field terms) (by rwa [List.length_map]), List.any_map]
    rfl

end Metric

/-! ## Index queries -/

theorem Document.name_single (doc : Document) (field : String) :
    doc.name (.single doc.dataset field) = field := by
  simp [name, FieldSet.single, Dictionary.find?]

mutual

/-- The filter of an index query holds on the documents that the query selects. -/
theorem Query.holds_toFilter (q : Query) {f : Filter} (h : q.toFilter doc.dataset = .ok f) :
    f.holds doc = q.holds doc := by
  match q with
  | .term start =>
    obtain rfl := Except.ok.inj h
    rw [Filter.holds, Document.name_single, Query.holds]
  | .range start stop inclusive =>
    simp only [toFilter] at h
    split at h
    · rename_i lower upper hl hu hi
      obtain rfl := Except.ok.inj h
      rw [Filter.holds, Document.int, Document.name_single, Query.holds, hl, hu, hi]
    · simp at h
  | .boolean operator operands =>
    simp only [toFilter] at h
    split at h
    · simp at h
    · rename_i fs hfs
      have each := Query.map_holds_toFilters operands hfs
      have every : fs.all (·.holds doc) = operands.all (·.holds doc) := by
        simpa [List.all_map, Function.comp_def] using congrArg (List.all · id) each
      have one : fs.any (·.holds doc) = operands.any (·.holds doc) := by
        simpa [List.any_map, Function.comp_def] using congrArg (List.any · id) each
      cases operator with
      | and =>
        obtain rfl := Except.ok.inj h
        rw [Filter.holds_all, every, Query.holds, holdAll_eq_all]
      | or =>
        obtain rfl := Except.ok.inj h
        rw [Filter.holds_any, one, Query.holds, holdSome_eq_any]
      | not =>
        obtain rfl := Except.ok.inj h
        rw [Filter.holds, Filter.holds_all, every, Query.holds, holdAll_eq_all]

theorem Query.map_holds_toFilters (qs : List Query) {fs : List Filter}
    (h : Query.toFilters doc.dataset qs = .ok fs) :
    fs.map (·.holds doc) = qs.map (·.holds doc) := by
  match qs with
  | [] =>
    obtain rfl := Except.ok.inj h
    rfl
  | q :: rest =>
    simp only [toFilters] at h
    split at h
    · simp at h
    · rename_i f hf
      split at h
      · simp at h
      · rename_i fs' hfs
        obtain rfl := Except.ok.inj h
        rw [List.map_cons, List.map_cons, Query.holds_toFilter q hf,
          Query.map_holds_toFilters rest hfs]

end

/-! ## Filters -/

namespace Filter

mutual

/-- No combination and no list of terms of a filter is longer than a word can count, where this is
given of the embedded index queries. -/
def ShortWith (lucene : List (String × Query) → Prop) : Filter → Prop
  | .and fs => fs.length < 2 ^ 63 ∧ AllShortWith lucene fs
  | .or fs => fs.length < 2 ^ 63 ∧ AllShortWith lucene fs
  | .not f => f.ShortWith lucene
  | .qualified _ f => f.ShortWith lucene
  | .lucene _ queries => lucene queries
  | .stringIn _ terms => terms.length < 2 ^ 63
  | .intIn _ terms => terms.length < 2 ^ 63
  | _ => True

def AllShortWith (lucene : List (String × Query) → Prop) : List Filter → Prop
  | [] => True
  | f :: rest => f.ShortWith lucene ∧ AllShortWith lucene rest

end

/-- No combination and no list of terms is longer than a word can count, neither in a filter nor in
the filters of its index queries for a dataset. -/
def Short (dataset : String) (f : Filter) : Prop :=
  f.ShortWith fun queries => ∀ q g, Dictionary.find? dataset queries = some q →
    q.toFilter dataset = .ok g → g.ShortWith fun _ => True

variable {lucene : List (String × Query) → CompileM Metric}
variable {known : List (String × Query) → Prop}

mutual

theorem value_truthWith (f : Filter) {m : Metric}
    (given : ∀ queries m, known queries → lucene queries = .ok m →
      m.value doc = bit (doc.selectedBy queries))
    (short : f.ShortWith known) (h : f.truthWith lucene doc.dataset = .ok m) :
    m.value doc = bit (f.holds doc) := by
  match f with
  | .fieldIs field term =>
    obtain rfl := Except.ok.inj h
    exact Metric.value_probe field term
  | .fieldIsnt field term =>
    obtain rfl := Except.ok.inj h
    exact Metric.value_complement (Metric.value_probe field term)
  | .between field lower upper inclusive =>
    obtain rfl := Except.ok.inj h
    exact Metric.value_inRange field lower upper inclusive
  | .and fs =>
    simp only [truthWith] at h
    split at h
    · simp at h
    · rename_i ms hms
      obtain rfl := Except.ok.inj h
      have each := values_truthsWith fs given short.2 hms
      have count := Metric.value_allOf each (by rw [List.length_map]; exact short.1)
      rw [List.length_map, List.all_map] at count
      rw [count, holds, holdAll_eq_all]
      rfl
  | .or fs =>
    simp only [truthWith] at h
    split at h
    · simp at h
    · rename_i ms hms
      obtain rfl := Except.ok.inj h
      have each := values_truthsWith fs given short.2 hms
      have count := Metric.value_someOf each (by rw [List.length_map]; exact short.1)
      rw [List.any_map] at count
      rw [count, holds, holdSome_eq_any]
      rfl
  | .not f =>
    simp only [truthWith] at h
    split at h
    · simp at h
    · rename_i m' hm
      obtain rfl := Except.ok.inj h
      exact Metric.value_complement (value_truthWith f given short hm)
  | .notRegex field pattern =>
    obtain rfl := Except.ok.inj h
    exact Metric.value_complement rfl
  | .qualified datasets f =>
    simp only [truthWith] at h
    split at h
    · rename_i listed
      rw [value_truthWith f given short h, holds, listed]
      rfl
    · rename_i unlisted
      obtain rfl := Except.ok.inj h
      rw [holds, Bool.eq_false_iff.mpr unlisted]
      rfl
  | .lucene text queries => exact given queries m short h
  | .stringIn field terms | .intIn field terms =>
    obtain rfl := Except.ok.inj h
    rw [Metric.value_hasSome field (by rw [List.length_map]; exact short), List.any_map]
    rfl
  | .compare .. | .regex .. | .fieldEqual .. | .always | .never =>
    obtain rfl := Except.ok.inj h
    rfl
  | .sample .. | .sampleMetric .. | .inQuery .. => simp [truthWith] at h

theorem values_truthsWith (fs : List Filter) {ms : List Metric}
    (given : ∀ queries m, known queries → lucene queries = .ok m →
      m.value doc = bit (doc.selectedBy queries))
    (short : AllShortWith known fs) (h : truthsWith lucene doc.dataset fs = .ok ms) :
    Metric.values doc ms = (fs.map (·.holds doc)).map bit := by
  match fs with
  | [] =>
    obtain rfl := Except.ok.inj h
    rfl
  | f :: rest =>
    simp only [truthsWith] at h
    split at h
    · simp at h
    · rename_i m hm
      split at h
      · simp at h
      · rename_i ms' hms
        obtain rfl := Except.ok.inj h
        rw [Metric.values, value_truthWith f given short.1 hm,
          values_truthsWith rest given short.2 hms]
        rfl

end

theorem value_queryTruth {queries : List (String × Query)} {m : Metric}
    (short : ∀ q g, Dictionary.find? doc.dataset queries = some q →
      q.toFilter doc.dataset = .ok g → g.ShortWith fun _ => True)
    (h : Query.truth doc.dataset queries = .ok m) : m.value doc = bit (doc.selectedBy queries) := by
  unfold Query.truth at h
  split at h
  · simp at h
  · rename_i q hq
    split at h
    · simp at h
    · rename_i g hg
      rw [value_truthWith g (by simp) (short q g hq hg) h, Query.holds_toFilter q hg,
        Document.selectedBy_of_find hq]

/-- The truth metric of a filter in the dataset of a document is one if the filter holds on the
document, and zero if it does not. -/
theorem value_truth {f : Filter} {m : Metric} (short : f.Short doc.dataset)
    (h : f.truth doc.dataset = .ok m) : m.value doc = bit (f.holds doc) :=
  value_truthWith f (fun _ _ => value_queryTruth) short h

end Filter

end Groupwise.Doc
