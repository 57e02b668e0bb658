import Groupwise.Doc.Expression

/-!
# Truth metrics

The truth metric of a filter in a dataset is one where the filter holds and zero elsewhere. It
serves where a filter is used in arithmetic. The depth of a filter bounds that of its truth metric,
which is what makes the recursion from metrics over truth metrics well founded.
-/
namespace Groupwise.Doc

/-! ## Index queries as filters -/

mutual

/-- The filter that holds on the documents of a dataset that an index query selects. -/
def Query.toFilter (dataset : String) : Query → CompileM Filter
  | .term start => .ok (.fieldIs (.single dataset start.field) start.toTerm)
  | .boolean operator operands =>
    match Query.toFilters dataset operands with
    | .error e => .error e
    | .ok filters =>
      match operator with
      | .and => .ok (Filter.all filters)
      | .or => .ok (Filter.any filters)
      | .not => .ok (.not (Filter.all filters))
  | .range start stop inclusive =>
    match start.intTerm, stop.intTerm, start.isIntField with
    | some lower, some upper, true =>
      .ok (.between (.single dataset start.field) lower upper inclusive)
    | _, _, _ =>
      .error (.unsupported
        ("String range over field " ++ start.field ++ " cannot be used as a metric"))

def Query.toFilters (dataset : String) : List Query → CompileM (List Filter)
  | [] => .ok []
  | q :: rest =>
    match Query.toFilter dataset q with
    | .error e => .error e
    | .ok f =>
      match Query.toFilters dataset rest with
      | .error e => .error e
      | .ok fs => .ok (f :: fs)

end

/-! ## Truth metrics -/

/-- The metric that probes a field for a term. -/
def Metric.probe (field : FieldSet) : Term → Metric
  | .int value _ => .hasInt field value
  | .string value => .hasString field value

/-- The negation of a truth metric. -/
def Metric.complement (m : Metric) : Metric := .subtract (.constant 1) m

/-- All of `n` truth metrics are one. -/
def Metric.allOf (n : Nat) (ms : List Metric) : Metric :=
  .compare .eq (Metric.sum ms) (.constant (Int64.ofNat n))

/-- Some of the truth metrics is one. -/
def Metric.someOf (ms : List Metric) : Metric := .compare .gt (Metric.sum ms) (.constant 0)

/-- A field lies in a range. -/
def Metric.inRange (field : FieldSet) (lower upper : Int64) (inclusive : Bool) : Metric :=
  Metric.allOf 2
    [.compare .gte (.field field) (.constant lower),
      .compare (if inclusive then .lte else .lt) (.field field) (.constant upper)]

/-- A field has one of the listed terms. -/
def Metric.hasSome (field : FieldSet) (terms : List Term) : Metric :=
  match terms with
  | [] => .constant 0
  | [term] => .probe field term
  | terms => Metric.someOf (terms.map (Metric.probe field))

mutual

/-- The truth metric of a filter in a dataset, given those of embedded index queries. -/
def Filter.truthWith (lucene : List (String × Query) → CompileM Metric) (dataset : String) :
    Filter → CompileM Metric
  | .fieldIs field term => .ok (.probe field term)
  | .fieldIsnt field term => .ok (.complement (.probe field term))
  | .between field lower upper inclusive => .ok (.inRange field lower upper inclusive)
  | .compare op left right => .ok (.compare op left right)
  | .and filters =>
    match Filter.truthsWith lucene dataset filters with
    | .error e => .error e
    | .ok ms => .ok (.allOf filters.length ms)
  | .or filters =>
    match Filter.truthsWith lucene dataset filters with
    | .error e => .error e
    | .ok ms => .ok (.someOf ms)
  | .not filter =>
    match Filter.truthWith lucene dataset filter with
    | .error e => .error e
    | .ok m => .ok (.complement m)
  | .regex field pattern => .ok (.regex field pattern)
  | .notRegex field pattern => .ok (.complement (.regex field pattern))
  | .fieldEqual left right => .ok (.fieldEqual left right)
  | .qualified datasets filter =>
    if datasets.contains dataset then Filter.truthWith lucene dataset filter
    else .ok (.constant 1)
  | .lucene _ queries => lucene queries
  | .sample .. => .error (.unsupported "Sample cannot be used as a metric")
  | .sampleMetric .. => .error (.unsupported "Sample cannot be used as a metric")
  | .stringIn field terms => .ok (.hasSome field (terms.map .string))
  | .intIn field terms => .ok (.hasSome field (terms.map .ofInt))
  | .inQuery .. => .error (.unsupported "FIELD IN (subquery) cannot be used as a metric")
  | .always => .ok (.constant 1)
  | .never => .ok (.constant 0)

def Filter.truthsWith (lucene : List (String × Query) → CompileM Metric) (dataset : String) :
    List Filter → CompileM (List Metric)
  | [] => .ok []
  | f :: rest =>
    match Filter.truthWith lucene dataset f with
    | .error e => .error e
    | .ok m =>
      match Filter.truthsWith lucene dataset rest with
      | .error e => .error e
      | .ok ms => .ok (m :: ms)

end

/-- The truth metric of an index query. The filter of an index query has no index query inside, so
what is given for those plays no part. -/
def Query.truth (dataset : String) (queries : List (String × Query)) : CompileM Metric :=
  match Dictionary.find? dataset queries with
  | none => .error (.unknownDataset dataset)
  | some query =>
    match query.toFilter dataset with
    | .error e => .error e
    | .ok filter => filter.truthWith (fun _ => .error (.unknownDataset dataset)) dataset

/-- The truth metric of a filter in a dataset. -/
def Filter.truth (dataset : String) (filter : Filter) : CompileM Metric :=
  filter.truthWith (Query.truth dataset) dataset

/-! ## Depth -/

mutual

def Query.depth : Query → Nat
  | .term _ => 0
  | .boolean _ operands => Query.depthOfAll operands + 3
  | .range .. => 3

def Query.depthOfAll : List Query → Nat
  | [] => 0
  | q :: rest => max q.depth (Query.depthOfAll rest)

end

def Query.depthOfEntries : List (String × Query) → Nat
  | [] => 0
  | (_, q) :: rest => max q.depth (Query.depthOfEntries rest)

mutual

/-- How deep the parts of a metric are nested, truth metrics included. -/
def Metric.depth : Metric → Nat
  | .log m _ => m.depth + 1
  | .exponentiate m _ => m.depth + 1
  | .negate m => m.depth + 1
  | .abs m => m.depth + 1
  | .signum m => m.depth + 1
  | .add ms => Metric.depthOfAll ms + 1
  | .least ms => Metric.depthOfAll ms + 1
  | .greatest ms => Metric.depthOfAll ms + 1
  | .arithmetic _ l r => max l.depth r.depth + 1
  | .compare _ l r => max l.depth r.depth + 1
  | .ifThenElse c y n => max c.depth (max y.depth n.depth) + 1
  | .qualified _ m => m.depth + 1
  | .perDataset ms => Metric.depthOfEntries ms + 1
  | .sampleMetric m _ _ _ => m.depth + 1
  | .randomMetric m _ _ => m.depth + 1
  | _ => 0

def Metric.depthOfAll : List Metric → Nat
  | [] => 0
  | m :: rest => max m.depth (Metric.depthOfAll rest)

def Metric.depthOfEntries : List (String × Metric) → Nat
  | [] => 0
  | (_, m) :: rest => max m.depth (Metric.depthOfEntries rest)

/-- A bound on the depth of the truth metric of a filter in any dataset. -/
def Filter.depth : Filter → Nat
  | .fieldIsnt .. => 1
  | .between .. => 3
  | .compare _ l r => max l.depth r.depth + 1
  | .and fs => Filter.depthOfAll fs + 2
  | .or fs => Filter.depthOfAll fs + 2
  | .not f => f.depth + 1
  | .notRegex .. => 1
  | .qualified _ f => f.depth
  | .lucene _ queries => Query.depthOfEntries queries
  | .stringIn .. => 2
  | .intIn .. => 2
  | _ => 0

def Filter.depthOfAll : List Filter → Nat
  | [] => 0
  | f :: rest => max f.depth (Filter.depthOfAll rest)

end

attribute [local simp] Metric.depth Metric.depthOfAll Filter.depth Filter.depthOfAll

theorem Metric.depthOfAll_append (as bs : List Metric) :
    depthOfAll (as ++ bs) = max (depthOfAll as) (depthOfAll bs) := by
  induction as with
  | nil => simp
  | cons a as ih => simp [ih, Nat.max_assoc]

theorem Filter.depthOfAll_append (as bs : List Filter) :
    depthOfAll (as ++ bs) = max (depthOfAll as) (depthOfAll bs) := by
  induction as with
  | nil => simp
  | cons a as ih => simp [ih, Nat.max_assoc]

theorem Metric.depthOfAll_filter_le (p : Metric → Bool) (ms : List Metric) :
    depthOfAll (ms.filter p) ≤ depthOfAll ms := by
  induction ms with
  | nil => simp
  | cons m ms ih =>
    by_cases h : p m <;> simp only [List.filter_cons, h, if_true, depthOfAll] <;> grind

theorem Filter.depthOfAll_filter_le (p : Filter → Bool) (fs : List Filter) :
    depthOfAll (fs.filter p) ≤ depthOfAll fs := by
  induction fs with
  | nil => simp
  | cons f fs ih =>
    by_cases h : p f <;> simp only [List.filter_cons, h, if_true, depthOfAll] <;> grind

theorem Metric.depthOfAll_addends_le (ms : List Metric) :
    depthOfAll (addends ms) ≤ depthOfAll ms := by
  fun_induction addends ms with
  | case1 => simp
  | case2 inner rest ih => simp only [depthOfAll_append, depthOfAll, depth]; omega
  | case3 m rest _ ih => simp only [depthOfAll]; omega

theorem Filter.depthOfAll_conjuncts_le (fs : List Filter) :
    depthOfAll (conjuncts fs) ≤ depthOfAll fs := by
  fun_induction conjuncts fs with
  | case1 => simp
  | case2 inner rest ih => simp only [depthOfAll_append, depthOfAll, depth]; omega
  | case3 f rest _ ih => simp only [depthOfAll]; omega

theorem Filter.depthOfAll_disjuncts_le (fs : List Filter) :
    depthOfAll (disjuncts fs) ≤ depthOfAll fs := by
  fun_induction disjuncts fs with
  | case1 => simp
  | case2 inner rest ih => simp only [depthOfAll_append, depthOfAll, depth]; omega
  | case3 f rest _ ih => simp only [depthOfAll]; omega

theorem Metric.depth_ofTerms_le (ms : List Metric) : (ofTerms ms).depth ≤ depthOfAll ms + 1 := by
  rcases ms with _ | ⟨m, _ | ⟨n, rest⟩⟩ <;> simp only [ofTerms, depth, depthOfAll] <;> omega

theorem Metric.depth_sum_le (ms : List Metric) : (sum ms).depth ≤ depthOfAll ms + 1 := by
  have h₁ := depthOfAll_filter_le (·.constant?.isNone) (addends ms)
  have h₂ := depthOfAll_addends_le ms
  refine Nat.le_trans (depth_ofTerms_le _) ?_
  rw [depthOfAll_append]
  split <;> simp only [depthOfAll, depth] <;> omega

theorem Filter.depth_ofConjuncts_le (fs : List Filter) :
    (ofConjuncts fs).depth ≤ depthOfAll fs + 2 := by
  rcases fs with _ | ⟨f, _ | ⟨g, rest⟩⟩ <;> simp only [ofConjuncts, depth, depthOfAll] <;> omega

theorem Filter.depth_ofDisjuncts_le (fs : List Filter) :
    (ofDisjuncts fs).depth ≤ depthOfAll fs + 2 := by
  rcases fs with _ | ⟨f, _ | ⟨g, rest⟩⟩ <;> simp only [ofDisjuncts, depth, depthOfAll] <;> omega

theorem Filter.depth_all_le (fs : List Filter) : (all fs).depth ≤ depthOfAll fs + 2 := by
  have h := Nat.le_trans (depthOfAll_filter_le (!·.isAlways) _) (depthOfAll_conjuncts_le fs)
  simp only [all]
  split
  · simp
  · exact Nat.le_trans (depth_ofConjuncts_le _) (by omega)

theorem Filter.depth_any_le (fs : List Filter) : (any fs).depth ≤ depthOfAll fs + 2 := by
  have h := Nat.le_trans (depthOfAll_filter_le (!·.isNever) _) (depthOfAll_disjuncts_le fs)
  simp only [any]
  split
  · simp
  · exact Nat.le_trans (depth_ofDisjuncts_le _) (by omega)

theorem Metric.depth_probe (field : FieldSet) (term : Term) : (probe field term).depth = 0 := by
  cases term <;> simp [probe]

theorem Metric.depthOfAll_map_probe (field : FieldSet) (terms : List Term) :
    depthOfAll (terms.map (probe field)) = 0 := by
  induction terms with
  | nil => simp
  | cons t ts ih => simp [depth_probe, ih]

theorem Metric.depth_complement (m : Metric) : m.complement.depth = m.depth + 1 := by
  simp [complement, subtract]

theorem Metric.depth_allOf_le (n : Nat) (ms : List Metric) :
    (allOf n ms).depth ≤ depthOfAll ms + 2 := by
  have := depth_sum_le ms
  simp only [allOf, depth]
  omega

theorem Metric.depth_someOf_le (ms : List Metric) : (someOf ms).depth ≤ depthOfAll ms + 2 := by
  have := depth_sum_le ms
  simp only [someOf, depth]
  omega

theorem Metric.depth_hasSome_le (field : FieldSet) (terms : List Term) :
    (hasSome field terms).depth ≤ 2 := by
  unfold hasSome
  split
  · simp
  · simp [depth_probe]
  · have := depth_someOf_le (terms.map (probe field))
    rw [depthOfAll_map_probe] at this
    exact this

theorem Metric.depth_inRange_le (field : FieldSet) (lower upper : Int64) (inclusive : Bool) :
    (inRange field lower upper inclusive).depth ≤ 3 := by
  unfold inRange
  refine Nat.le_trans (depth_allOf_le _ _) ?_
  simp

mutual

theorem Query.depth_toFilter_le (dataset : String) (q : Query) (f : Filter)
    (h : q.toFilter dataset = .ok f) : f.depth ≤ q.depth := by
  match q with
  | .term start =>
    simp only [toFilter, Except.ok.injEq] at h
    simp [← h, Filter.depth]
  | .range start stop inclusive =>
    simp only [toFilter] at h
    split at h
    · simp only [Except.ok.injEq] at h
      simp [← h, Filter.depth, depth]
    · simp at h
  | .boolean operator operands =>
    simp only [toFilter] at h
    split at h
    · simp at h
    · rename_i fs hfs
      have hd := Query.depth_toFilters_le dataset operands fs hfs
      have hall := Filter.depth_all_le fs
      have hany := Filter.depth_any_le fs
      cases operator <;> simp only [Except.ok.injEq] at h <;> subst h <;>
        simp only [depth, Filter.depth] <;> omega

theorem Query.depth_toFilters_le (dataset : String) (qs : List Query) (fs : List Filter)
    (h : Query.toFilters dataset qs = .ok fs) : Filter.depthOfAll fs ≤ Query.depthOfAll qs := by
  match qs with
  | [] =>
    simp only [toFilters, Except.ok.injEq] at h
    simp [← h, Filter.depthOfAll]
  | q :: rest =>
    simp only [toFilters] at h
    split at h
    · simp at h
    · rename_i f hf
      split at h
      · simp at h
      · rename_i fs' hfs
        simp only [Except.ok.injEq] at h
        have h₁ := Query.depth_toFilter_le dataset q f hf
        have h₂ := Query.depth_toFilters_le dataset rest fs' hfs
        subst h
        simp only [Filter.depthOfAll, depthOfAll]
        omega

end

mutual

theorem Filter.depth_truthWith_le (lucene : List (String × Query) → CompileM Metric)
    (dataset : String)
    (hl : ∀ queries m, lucene queries = .ok m → m.depth ≤ Query.depthOfEntries queries)
    (f : Filter) (m : Metric) (h : f.truthWith lucene dataset = .ok m) : m.depth ≤ f.depth := by
  match f with
  | .fieldIs field term =>
    simp only [truthWith, Except.ok.injEq] at h
    simp [← h, Metric.depth_probe]
  | .fieldIsnt field term =>
    simp only [truthWith, Except.ok.injEq] at h
    simp [← h, Metric.depth_complement, Metric.depth_probe, depth]
  | .between field lower upper inclusive =>
    simp only [truthWith, Except.ok.injEq] at h
    rw [← h]
    exact Metric.depth_inRange_le ..
  | .compare op left right =>
    simp only [truthWith, Except.ok.injEq] at h
    simp [← h, Metric.depth, depth]
  | .and fs =>
    simp only [truthWith] at h
    split at h
    · simp at h
    · rename_i ms hms
      simp only [Except.ok.injEq] at h
      have h₁ := Filter.depth_truthsWith_le lucene dataset hl fs ms hms
      have h₂ := Metric.depth_allOf_le fs.length ms
      subst h
      simp only [depth]
      omega
  | .or fs =>
    simp only [truthWith] at h
    split at h
    · simp at h
    · rename_i ms hms
      simp only [Except.ok.injEq] at h
      have h₁ := Filter.depth_truthsWith_le lucene dataset hl fs ms hms
      have h₂ := Metric.depth_someOf_le ms
      subst h
      simp only [depth]
      omega
  | .not f =>
    simp only [truthWith] at h
    split at h
    · simp at h
    · rename_i m' hm
      simp only [Except.ok.injEq] at h
      have h₁ := Filter.depth_truthWith_le lucene dataset hl f m' hm
      subst h
      simp only [depth, Metric.depth_complement]
      omega
  | .regex field pattern =>
    simp only [truthWith, Except.ok.injEq] at h
    simp [← h, Metric.depth]
  | .notRegex field pattern =>
    simp only [truthWith, Except.ok.injEq] at h
    simp [← h, Metric.depth_complement, Metric.depth, depth]
  | .fieldEqual left right =>
    simp only [truthWith, Except.ok.injEq] at h
    simp [← h, Metric.depth]
  | .qualified datasets f =>
    simp only [truthWith] at h
    split at h
    · simpa only [depth] using Filter.depth_truthWith_le lucene dataset hl f m h
    · simp only [Except.ok.injEq] at h
      simp [← h, Metric.depth]
  | .lucene text queries =>
    simp only [truthWith] at h
    simpa only [depth] using hl queries m h
  | .sample .. => simp [truthWith] at h
  | .sampleMetric .. => simp [truthWith] at h
  | .stringIn field terms =>
    simp only [truthWith, Except.ok.injEq] at h
    rw [← h]
    exact Metric.depth_hasSome_le ..
  | .intIn field terms =>
    simp only [truthWith, Except.ok.injEq] at h
    rw [← h]
    exact Metric.depth_hasSome_le ..
  | .inQuery .. => simp [truthWith] at h
  | .always =>
    simp only [truthWith, Except.ok.injEq] at h
    simp [← h, Metric.depth]
  | .never =>
    simp only [truthWith, Except.ok.injEq] at h
    simp [← h, Metric.depth]

theorem Filter.depth_truthsWith_le (lucene : List (String × Query) → CompileM Metric)
    (dataset : String)
    (hl : ∀ queries m, lucene queries = .ok m → m.depth ≤ Query.depthOfEntries queries)
    (fs : List Filter) (ms : List Metric) (h : Filter.truthsWith lucene dataset fs = .ok ms) :
    Metric.depthOfAll ms ≤ Filter.depthOfAll fs := by
  match fs with
  | [] =>
    simp only [truthsWith, Except.ok.injEq] at h
    simp [← h, Metric.depthOfAll]
  | f :: rest =>
    simp only [truthsWith] at h
    split at h
    · simp at h
    · rename_i m hm
      split at h
      · simp at h
      · rename_i ms' hms
        simp only [Except.ok.injEq] at h
        have h₁ := Filter.depth_truthWith_le lucene dataset hl f m hm
        have h₂ := Filter.depth_truthsWith_le lucene dataset hl rest ms' hms
        subst h
        simp only [Metric.depthOfAll, depthOfAll]
        omega

end

theorem Query.depth_le_of_find (dataset : String) (queries : List (String × Query)) (q : Query)
    (h : Dictionary.find? dataset queries = some q) : q.depth ≤ depthOfEntries queries := by
  induction queries with
  | nil => simp [Dictionary.find?] at h
  | cons e rest ih =>
    obtain ⟨d, p⟩ := e
    simp only [Dictionary.find?] at h
    simp only [depthOfEntries]
    split at h
    · simp only [Option.some.injEq] at h
      subst h
      omega
    · have := ih h
      omega

theorem Query.depth_truth_le (dataset : String) (queries : List (String × Query)) (m : Metric)
    (h : Query.truth dataset queries = .ok m) : m.depth ≤ depthOfEntries queries := by
  unfold truth at h
  split at h
  · simp at h
  · rename_i q hq
    split at h
    · simp at h
    · rename_i f hf
      have h₁ := Filter.depth_truthWith_le _ dataset (by simp) f m h
      have h₂ := Query.depth_toFilter_le dataset q f hf
      have h₃ := Query.depth_le_of_find dataset queries q hq
      omega

/-- The truth metric of a filter is no deeper than the filter. -/
theorem Filter.depth_truth_le (dataset : String) (f : Filter) (m : Metric)
    (h : f.truth dataset = .ok m) : m.depth ≤ f.depth :=
  Filter.depth_truthWith_le _ dataset (Query.depth_truth_le dataset) f m h

end Groupwise.Doc
