import Groupwise.Proofs.Doc.Nodes
import Groupwise.Proofs.Doc.Validation

/-!
# Valid expressions have programs

A document metric that passes validation in a dataset has a program there, and so has the truth
metric of a filter. Validation knows nothing of the filters that have no truth metric: those that
draw samples or ask other queries, and index queries with ranges over strings. As long as none of
them occurs, whatever a program is made from is valid, the truth metrics of conditions included.
-/
namespace Groupwise.Doc

variable {schema : Schema} {dataset : String}

/-! ## Filters with truth metrics -/

mutual

/-- All ranges of an index query are ranges of integers. -/
def Query.hasIntRanges : Query → Bool
  | .term _ => true
  | .boolean _ operands => Query.haveIntRanges operands
  | .range start stop _ => start.isIntField && start.intTerm.isSome && stop.intTerm.isSome

def Query.haveIntRanges : List Query → Bool
  | [] => true
  | q :: rest => q.hasIntRanges && Query.haveIntRanges rest

end

/-- The filter is of a kind that can be measured. Filters inside it need not be. -/
def Filter.isMeasurable : Filter → Bool
  | .sample .. => false
  | .sampleMetric .. => false
  | .inQuery .. => false
  | .lucene _ queries => queries.all (·.2.hasIntRanges)
  | _ => true

/-- All filters in an expression can be measured. -/
def Node.Measurable (whole : Node) : Prop :=
  ∀ f, Within (.filter f) whole → f.isMeasurable = true

namespace Node

theorem measurable_metric {m : Metric} :
    (Node.metric m).Measurable ↔ ∀ part ∈ (Node.metric m).parts, part.Measurable := by
  constructor
  · exact fun measurable part hp f within => measurable f (within.tail hp)
  · intro parts f within
    rcases within.cases_tail with same | ⟨part, within, hp⟩
    · cases same
    · exact parts part hp f within

theorem measurable_filter {f : Filter} : (Node.filter f).Measurable ↔
    f.isMeasurable = true ∧ ∀ part ∈ (Node.filter f).parts, part.Measurable := by
  constructor
  · exact fun measurable => ⟨measurable f .refl, fun part hp g within =>
      measurable g (within.tail hp)⟩
  · rintro ⟨own, parts⟩ g within
    rcases within.cases_tail with same | ⟨part, within, hp⟩
    · cases same
      exact own
    · exact parts part hp g within

theorem Measurable.of_part {part whole : Node} (measurable : whole.Measurable)
    (hp : part ∈ whole.parts) : part.Measurable :=
  fun f within => measurable f (within.tail hp)

end Node

namespace Metric

/-- Metrics without parts have no filters in them. -/
theorem measurable_of_parts_eq_nil {m : Metric} (h : (Node.metric m).parts = []) :
    (Node.metric m).Measurable := by
  rw [Node.measurable_metric, h]
  exact List.forall_mem_nil _

theorem measurable_add {ms : List Metric} :
    (Node.metric (.add ms)).Measurable ↔ ∀ m ∈ ms, (Node.metric m).Measurable :=
  Node.measurable_metric.trans List.forall_mem_map

theorem compositional_measurable : Compositional fun m => (Node.metric m).Measurable where
  constant _ := measurable_of_parts_eq_nil rfl
  sum h := property_sum (P := fun m => (Node.metric m).Measurable)
    (fun _ => measurable_of_parts_eq_nil rfl) (fun _ => measurable_add.mp)
    (fun _ _ => measurable_add.mpr) h
  subtract hl hr := Node.measurable_metric.mpr
    (List.forall_mem_cons.mpr ⟨hl, List.forall_mem_singleton.mpr hr⟩)
  compare hl hr := Node.measurable_metric.mpr
    (List.forall_mem_cons.mpr ⟨hl, List.forall_mem_singleton.mpr hr⟩)

theorem measurable_probe (field : FieldSet) (term : Term) :
    (Node.metric (.probe field term)).Measurable := by
  cases term <;> exact measurable_of_parts_eq_nil rfl

theorem measurable_hasSome (field : FieldSet) (terms : List Term) :
    (Node.metric (.hasSome field terms)).Measurable := by
  unfold hasSome
  split
  · exact measurable_of_parts_eq_nil rfl
  · exact measurable_probe field _
  · exact compositional_measurable.compare (compositional_measurable.sum
      (List.forall_mem_map.mpr fun term _ => measurable_probe field term))
      (compositional_measurable.constant 0)

theorem measurable_inRange (field : FieldSet) (lower upper : Int64) (inclusive : Bool) :
    (Node.metric (.inRange field lower upper inclusive)).Measurable := by
  have bound (op : Comparison) (v : Int64) :
      (Node.metric (.compare op (.field field) (.constant v))).Measurable :=
    compositional_measurable.compare (measurable_of_parts_eq_nil rfl)
      (compositional_measurable.constant v)
  refine compositional_measurable.compare (compositional_measurable.sum ?_)
    (compositional_measurable.constant 2)
  exact List.forall_mem_cons.mpr ⟨bound _ _, List.forall_mem_singleton.mpr (bound _ _)⟩

end Metric

/-! ## Truth metrics -/

section Truth

variable {lucene : List (String × Query) → CompileM Metric}

mutual

/-- A filter has a truth metric if its leaves have. -/
theorem Filter.succeeds_truthWith_of_leaves (f : Filter)
    (leaves : ∀ g ∈ f.leaves dataset, Succeeds (g.truthWith lucene dataset)) :
    Succeeds (f.truthWith lucene dataset) := by
  match f with
  | .and fs | .or fs =>
    obtain ⟨ms, hms⟩ := Filter.succeeds_truthsWith_of_leaves fs leaves
    rw [Filter.truthWith, hms]
    exact .ok _
  | .not f =>
    obtain ⟨m, hm⟩ := Filter.succeeds_truthWith_of_leaves f leaves
    rw [Filter.truthWith, hm]
    exact .ok _
  | .qualified ds f =>
    rw [Filter.leaves] at leaves
    rw [Filter.truthWith]
    split
    · rename_i inside
      rw [if_pos inside] at leaves
      exact Filter.succeeds_truthWith_of_leaves f leaves
    · exact .ok _
  | .fieldIs .. | .fieldIsnt .. | .between .. | .compare .. | .regex .. | .notRegex ..
  | .fieldEqual .. | .lucene .. | .sample .. | .sampleMetric .. | .stringIn .. | .intIn ..
  | .inQuery .. | .always | .never => exact leaves _ (List.mem_singleton_self _)

theorem Filter.succeeds_truthsWith_of_leaves (fs : List Filter)
    (leaves : ∀ g ∈ Filter.leavesOfAll dataset fs, Succeeds (g.truthWith lucene dataset)) :
    Succeeds (Filter.truthsWith lucene dataset fs) := by
  match fs with
  | [] => exact .ok _
  | f :: rest =>
    rw [Filter.leavesOfAll, List.forall_mem_append] at leaves
    obtain ⟨m, hm⟩ := Filter.succeeds_truthWith_of_leaves f leaves.1
    obtain ⟨ms, hms⟩ := Filter.succeeds_truthsWith_of_leaves rest leaves.2
    rw [Filter.truthsWith, hm, hms]
    exact .ok _

end

/-- The filter has a truth metric, and this has no other conditions in it than such that can be
measured. -/
def Filter.Measured (lucene : List (String × Query) → CompileM Metric) (dataset : String)
    (f : Filter) : Prop :=
  ∃ m, f.truthWith lucene dataset = .ok m ∧ (Node.metric m).Measurable

theorem Filter.measured_of_leaves {f : Filter}
    (leaves : ∀ g ∈ f.leaves dataset, g.Measured lucene dataset) : f.Measured lucene dataset := by
  have succeeds : Succeeds (f.truthWith lucene dataset) :=
    f.succeeds_truthWith_of_leaves fun g hg =>
      have ⟨m, hm, _⟩ := leaves g hg
      ⟨m, hm⟩
  obtain ⟨m, hm⟩ := succeeds
  refine ⟨m, hm, f.property_truthWith_of_leaves Metric.compositional_measurable m ?_ hm⟩
  intro g hg n hn
  obtain ⟨m', hm', measurable⟩ := leaves g hg
  exact Except.ok.inj (hm'.symm.trans hn) ▸ measurable

end Truth

mutual

theorem Query.succeeds_toFilter (q : Query) (ranges : q.hasIntRanges = true) :
    Succeeds (q.toFilter dataset) := by
  match q with
  | .term _ => exact .ok _
  | .boolean op operands =>
    obtain ⟨fs, hfs⟩ := Query.succeeds_toFilters operands ranges
    rw [Query.toFilter, hfs]
    cases op <;> exact .ok _
  | .range start stop inclusive =>
    rw [Query.hasIntRanges, Bool.and_eq_true, Bool.and_eq_true] at ranges
    obtain ⟨⟨int, first⟩, last⟩ := ranges
    obtain ⟨lower, hlower⟩ := Option.isSome_iff_exists.mp first
    obtain ⟨upper, hupper⟩ := Option.isSome_iff_exists.mp last
    rw [Query.toFilter, hlower, hupper, int]
    exact .ok _

theorem Query.succeeds_toFilters (qs : List Query) (ranges : Query.haveIntRanges qs = true) :
    Succeeds (Query.toFilters dataset qs) := by
  match qs with
  | [] => exact .ok _
  | q :: rest =>
    rw [Query.haveIntRanges, Bool.and_eq_true] at ranges
    obtain ⟨f, hf⟩ := Query.succeeds_toFilter q ranges.1
    obtain ⟨fs, hfs⟩ := Query.succeeds_toFilters rest ranges.2
    rw [Query.toFilters, hf, hfs]
    exact .ok _

end

/-- An index query with integer ranges that is given for the dataset can be measured. -/
theorem Query.measured_truth {queries : List (String × Query)} {q : Query}
    (given : Dictionary.find? dataset queries = some q) (ranges : q.hasIntRanges = true) :
    ∃ m, Query.truth dataset queries = .ok m ∧ (Node.metric m).Measurable := by
  have covers : Query.Covers dataset q.fields fun g => ∀ lucene, g.Measured lucene dataset :=
    { always := fun _ => ⟨_, rfl, Metric.measurable_of_parts_eq_nil rfl⟩
      never := fun _ => ⟨_, rfl, Metric.measurable_of_parts_eq_nil rfl⟩
      term := fun _ _ _ => ⟨_, rfl, Metric.measurable_probe _ _⟩
      range := fun _ _ _ _ _ _ => ⟨_, rfl, Metric.measurable_inRange _ _ _ _⟩ }
  have made : Succeeds (q.toFilter dataset) := q.succeeds_toFilter ranges
  obtain ⟨f, hf⟩ := made
  simp only [Query.truth, given, hf]
  exact Filter.measured_of_leaves fun g hg => q.forall_mem_leaves_toFilter f covers hf g hg _

mutual

theorem Filter.within_of_mem_leaves (f : Filter) :
    ∀ g ∈ f.leaves dataset, Node.Within (.filter g) (.filter f) := by
  match f with
  | .and fs | .or fs =>
    intro g hg
    obtain ⟨part, hp, within⟩ := Filter.within_of_mem_leavesOfAll fs g hg
    exact within.tail (List.mem_map_of_mem hp)
  | .not f =>
    exact fun g hg => (Filter.within_of_mem_leaves f g hg).tail (List.mem_singleton_self _)
  | .qualified ds f =>
    rw [Filter.leaves]
    split
    · exact fun g hg => (Filter.within_of_mem_leaves f g hg).tail (List.mem_singleton_self _)
    · exact List.forall_mem_nil _
  | .fieldIs .. | .fieldIsnt .. | .between .. | .compare .. | .regex .. | .notRegex ..
  | .fieldEqual .. | .lucene .. | .sample .. | .sampleMetric .. | .stringIn .. | .intIn ..
  | .inQuery .. | .always | .never => exact List.forall_mem_singleton.mpr .refl

theorem Filter.within_of_mem_leavesOfAll (fs : List Filter) :
    ∀ g ∈ Filter.leavesOfAll dataset fs, ∃ f ∈ fs, Node.Within (.filter g) (.filter f) := by
  match fs with
  | [] => exact List.forall_mem_nil _
  | f :: rest =>
    refine List.forall_mem_append.mpr ⟨fun g hg => ?_, fun g hg => ?_⟩
    · exact ⟨f, List.mem_cons_self, Filter.within_of_mem_leaves f g hg⟩
    · obtain ⟨part, hp, within⟩ := Filter.within_of_mem_leavesOfAll rest g hg
      exact ⟨part, List.mem_cons_of_mem f hp, within⟩

end

/-- A valid leaf of a kind that can be measured is measured. -/
theorem Filter.measured_of_isElementary {g : Filter} (leaf : g.isElementary = true)
    (valid : g.Valid schema dataset) (measurable : (Node.filter g).Measurable) :
    g.Measured (Query.truth dataset) dataset := by
  have own := (Node.measurable_filter.mp measurable).1
  cases g with
  | and | or | not | qualified => exact absurd leaf Bool.false_ne_true
  | sample | sampleMetric | inQuery => exact absurd own Bool.false_ne_true
  | lucene _ queries =>
    obtain ⟨q, given, -⟩ := valid
    exact Query.measured_truth given
      (List.all_eq_true.mp own _ (Dictionary.mem_of_find? given))
  | compare op l r =>
    exact ⟨_, rfl, Node.measurable_metric.mpr (Node.measurable_filter.mp measurable).2⟩
  | fieldIs field term => exact ⟨_, rfl, Metric.measurable_probe field term⟩
  | between => exact ⟨_, rfl, Metric.measurable_inRange _ _ _ _⟩
  | intIn | stringIn => exact ⟨_, rfl, Metric.measurable_hasSome _ _⟩
  | fieldIsnt field term =>
    exact ⟨_, rfl, Metric.compositional_measurable.subtract
      (Metric.measurable_of_parts_eq_nil rfl) (Metric.measurable_probe field term)⟩
  | notRegex =>
    exact ⟨_, rfl, Metric.compositional_measurable.subtract
      (Metric.measurable_of_parts_eq_nil rfl) (Metric.measurable_of_parts_eq_nil rfl)⟩
  | regex | fieldEqual | always | never => exact ⟨_, rfl, Metric.measurable_of_parts_eq_nil rfl⟩

/-- A valid filter all of whose filters can be measured has a truth metric of which the same
holds. -/
theorem Filter.measured_truth {f : Filter} (valid : f.Valid schema dataset)
    (measurable : (Node.filter f).Measurable) :
    ∃ m, f.truth dataset = .ok m ∧ m.Valid schema dataset ∧ (Node.metric m).Measurable := by
  have measured : f.Measured (Query.truth dataset) dataset :=
    Filter.measured_of_leaves fun g hg => by
      obtain ⟨leaf, valid⟩ := f.valid_of_mem_leaves valid g hg
      exact Filter.measured_of_isElementary leaf valid fun part within =>
        measurable part (within.trans (f.within_of_mem_leaves g hg))
  obtain ⟨m, hm, measurable⟩ := measured
  exact ⟨m, hm, Filter.valid_truth valid hm, measurable⟩

/-! ## Programs -/

mutual

theorem Metric.succeeds_pushes (m : Metric) (valid : m.Valid schema dataset)
    (measurable : (Node.metric m).Measurable) : Succeeds (m.pushes dataset) := by
  have parts := Node.measurable_metric.mp measurable
  match m with
  | .constant _ | .count | .docId =>
    rw [Metric.pushes]
    exact .ok _
  | .field f | .hasInt f _ | .hasString f _ | .hasIntField f
  | .hasStringField f | .floatScale f .. | .stringLength f | .intTermCount f | .stringTermCount f
  | .sample f .. | .random f .. =>
    rw [Metric.pushes]
    exact Succeeds.bind_pure_iff.mpr (FieldSet.Named.succeeds valid)
  | .regex f _ | .extract f .. =>
    rw [Metric.pushes]
    exact Succeeds.bind_pure_iff.mpr (FieldSet.Named.succeeds valid.1)
  | .fieldEqual f g =>
    rw [Metric.pushes]
    exact (Succeeds.bind_iff fun _ => Succeeds.bind_pure_iff).mpr
      ⟨FieldSet.Named.succeeds valid.1, FieldSet.Named.succeeds valid.2⟩
  | .log m _ | .exponentiate m _ | .negate m | .abs m | .signum m | .sampleMetric m ..
  | .randomMetric m .. =>
    rw [Metric.pushes]
    exact Succeeds.bind_pure_iff.mpr
      (Metric.succeeds_pushes m valid (parts _ (List.mem_singleton_self _)))
  | .add ms | .least ms | .greatest ms =>
    rw [Metric.pushes]
    exact Succeeds.bind_pure_iff.mpr
      (Metric.succeeds_pushesOfAll ms valid (List.forall_mem_map.mp parts))
  | .arithmetic _ l r | .compare _ l r =>
    obtain ⟨left, right⟩ := List.forall_mem_cons.mp parts
    rw [Metric.pushes]
    exact (Succeeds.bind_iff fun _ => Succeeds.bind_pure_iff).mpr
      ⟨Metric.succeeds_pushes l valid.1 left,
        Metric.succeeds_pushes r valid.2 (List.forall_mem_singleton.mp right)⟩
  | .ifThenElse c yes no =>
    obtain ⟨condition, branches⟩ := List.forall_mem_cons.mp parts
    obtain ⟨first, second⟩ := List.forall_mem_cons.mp branches
    -- The truth metric is no part of the choice; that it is no deeper ends the recursion.
    obtain ⟨truth, ht, truthValid, truthMeasurable⟩ := Filter.measured_truth valid.1.1 condition
    have bound := Filter.depth_truth_le _ _ _ ht
    obtain ⟨t, lowered⟩ := Metric.succeeds_pushes truth truthValid truthMeasurable
    rw [Metric.pushes]
    split
    · rename_i e he
      exact absurd (ht.symm.trans he) nofun
    · rename_i truth' ht'
      obtain rfl := Except.ok.inj (ht.symm.trans ht')
      rw [lowered]
      exact (Succeeds.bind_iff fun _ => Succeeds.bind_pure_iff).mpr
        ⟨Metric.succeeds_pushes yes valid.1.2 first,
          Metric.succeeds_pushes no valid.2 (List.forall_mem_singleton.mp second)⟩
  | .lucene _ queries =>
    obtain ⟨q, given, -⟩ := valid
    rw [Metric.pushes, given]
    exact .ok _
  | .qualified d m =>
    rw [Metric.pushes, if_pos (beq_iff_eq.mpr valid.1)]
    exact Metric.succeeds_pushes m valid.2 (parts _ (List.mem_singleton_self _))
  | .perDataset ms =>
    rw [Metric.pushes]
    exact Metric.succeeds_pushesOfEntry ms valid (List.forall_mem_map.mp parts)
termination_by (m.depth, 0)
decreasing_by
  all_goals
    simp only [Metric.depth, Prod.lex_def]
    omega

theorem Metric.succeeds_pushesOfAll (ms : List Metric) (valid : Metric.AllValid schema dataset ms)
    (measurable : ∀ m ∈ ms, (Node.metric m).Measurable) :
    Succeeds (Metric.pushesOfAll dataset ms) := by
  match ms with
  | [] =>
    rw [Metric.pushesOfAll]
    exact .ok _
  | m :: rest =>
    rw [List.forall_mem_cons] at measurable
    rw [Metric.pushesOfAll]
    exact (Succeeds.bind_iff fun _ => Succeeds.bind_pure_iff).mpr
      ⟨Metric.succeeds_pushes m valid.1 measurable.1,
        Metric.succeeds_pushesOfAll rest valid.2 measurable.2⟩
termination_by (Metric.depthOfAll ms, ms.length + 1)
decreasing_by
  all_goals
    simp only [Metric.depthOfAll, Prod.lex_def, List.length_cons]
    omega

theorem Metric.succeeds_pushesOfEntry (ms : List (String × Metric))
    (valid : Metric.EntryValid schema dataset ms)
    (measurable : ∀ e ∈ ms, (Node.metric e.2).Measurable) :
    Succeeds (Metric.pushesOfEntry dataset ms) := by
  match ms with
  | [] => exact valid.elim
  | (d, m) :: rest =>
    rw [List.forall_mem_cons] at measurable
    rw [Metric.EntryValid] at valid
    rw [Metric.pushesOfEntry]
    split at valid
    · rename_i here
      rw [if_pos here]
      exact Metric.succeeds_pushes m valid measurable.1
    · rename_i elsewhere
      rw [if_neg elsewhere]
      exact Metric.succeeds_pushesOfEntry rest valid measurable.2
termination_by (Metric.depthOfEntries ms, ms.length + 1)
decreasing_by
  all_goals
    simp only [Metric.depthOfEntries, Prod.lex_def, List.length_cons]
    omega

end

/-- What passes validation has a program, as long as all filters in it can be measured. -/
theorem pushes_of_validated :
    (∀ (m : Metric) (found : Findings), (Node.metric m).Measurable →
        (m.check schema dataset found).errors = [] → ∃ program, m.pushes dataset = .ok program) ∧
      ∀ (f : Filter) (found : Findings), (Node.filter f).Measurable →
        (f.check schema dataset found).errors = [] →
        ∃ m program, f.truth dataset = .ok m ∧ m.pushes dataset = .ok program := by
  refine ⟨fun m found measurable clean => ?_, fun f found measurable clean => ?_⟩
  · exact m.succeeds_pushes ((m.judges_check found).mp clean).2 measurable
  · obtain ⟨m, hm, valid, measurable⟩ :=
      Filter.measured_truth ((f.judges_check found).mp clean).2 measurable
    obtain ⟨program, lowered⟩ := m.succeeds_pushes valid measurable
    exact ⟨m, program, hm, lowered⟩

/-- A choice whose condition has an index query for clicks in a range, and a comparison. -/
theorem pushes_of_validated_choice :
    let schema : Schema := ⟨[("ads", { name := "ads", intFields := ["clicks"] })]⟩
    let clicks : FieldSet := .single "ads" "clicks"
    let several : Filter := .lucene "clicks:[2 TO 5]" [("ads", .intRange "clicks" 2 5 true)]
    let f : Filter := .and [several, .not (.compare .eq (.field clicks) (.constant 3))]
    let m : Metric := .ifThenElse f (.signum (.field clicks)) (.least [.count, .constant 7])
    (Node.metric m).Measurable ∧ (m.check schema "ads" {}).errors = [] ∧
      (∃ program, m.pushes "ads" = .ok program) ∧
      (Node.filter f).Measurable ∧ (f.check schema "ads" {}).errors = [] ∧
      ∃ truth program, f.truth "ads" = .ok truth ∧ truth.pushes "ads" = .ok program := by
  intro schema clicks several f m
  have measurable : (Node.metric m).Measurable := by
    simp [m, f, several, Node.measurable_metric, Node.measurable_filter, Node.parts,
      Filter.isMeasurable, Query.hasIntRanges, Query.intRange, FieldTerm.int]
  have condition : (Node.filter f).Measurable := measurable.of_part List.mem_cons_self
  have clean : (m.check schema "ads" {}).errors = [] := rfl
  have cleanCondition : (f.check schema "ads" {}).errors = [] := rfl
  exact ⟨measurable, clean, pushes_of_validated.1 m {} measurable clean, condition,
    cleanCondition, pushes_of_validated.2 f {} condition cleanCondition⟩

end Groupwise.Doc
