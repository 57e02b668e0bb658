import Groupwise.Proofs.Aggregate.Validation
import Groupwise.Proofs.Compilation.Fitness
import Groupwise.Proofs.Plan.Commands

/-!
# What compiled queries take from documents

The sums over documents in the commands of a compiled query are valid in their datasets. The
programs in its commands are not validated: they are those of the metrics by which the filter and
the groupings of the query test and measure documents, and they are programs of valid metrics if the
filter and the groupings are valid.
-/
namespace Groupwise

open Aggregate

/-! ## Checks of commands -/

theorem FieldSet.judges_checkEach {check : String → String → String → Findings → Findings}
    {required : String → String → Prop} {context : String}
    (judges : ∀ dataset name, Judges (check dataset name context) (required dataset name))
    (f : FieldSet) : Judges (f.checkEach check context) (∀ e ∈ f.names, required e.1 e.2) :=
  Judges.foldl (fun e : String × String => judges e.1 e.2) f.names

theorem Action.certifies_check {schema : Schema} (a : Action) :
    Certifies (a.check schema) True := by
  have fields {check : String → String → String → Findings → Findings}
      {required : String → String → Prop}
      (judges : ∀ d name, Judges (check d name "filter") (required d name))
      (scope : Names) (field : FieldSet) :
      Certifies (Action.checkFieldIn check scope field) True :=
    (Certifies.foldlM (fun d => .named (judges d)) scope).imp fun _ => trivial
  cases a with
  | query _ queries =>
    exact (Judges.foldl (fun e : String × Doc.Query => e.2.judges_check) queries).certifies.imp
      fun _ => trivial
  | regex | sample | inQuery =>
    exact fields (fun _ name => Schema.judges_checkField name "filter") _ _
  | intOr => exact fields (fun _ name => Schema.judges_checkIntField name "filter") _ _
  | stringOr => exact fields (fun _ name => Schema.judges_checkStringField name "filter") _ _
  | metric | sampleMetric | unconditional => exact .pass

variable {ν : Type} [Numeric ν] {schema : Schema} {scope : Names}

theorem certifies_checkOption {α : Type} {check : α → Findings → CompileM Findings}
    {good : α → Prop} (certifies : ∀ a, Certifies (check a) (good a)) (a : Option α) :
    Certifies (checkOption check a) (∀ b ∈ a, good b) := by
  cases a with
  | none => exact Certifies.pass.imp fun _ => nofun
  | some a => exact (certifies a).imp fun good b hb => Option.some.inj hb ▸ good

theorem certifies_checkFilter (f : Option (Aggregate.Filter ν)) :
    Certifies (checkOption (Filter.check schema scope) f)
      (SumsValid schema (Filter.nodesOption f)) := by
  refine (certifies_checkOption Filter.certifies_check f).imp fun valid => ?_
  cases f with
  | none => exact .nil
  | some f => exact valid f rfl

theorem certifies_checkEachMetric (ms : List (Metric ν)) :
    Certifies (checkEachMetric schema scope ms) (SumsValid schema (Metric.nodesOfAll ms)) := by
  rw [Metric.nodesOfAll, Metric.collectAll_eq_flatMap]
  exact (Certifies.foldlM Metric.certifies_check ms).imp .flatMap

theorem TermWalk.certifies_check (w : TermWalk ν) :
    Certifies (w.check schema scope) (SumsValid schema w.nodes) := by
  refine ((certifies_checkFilter w.filter).comp
    (certifies_checkOption Metric.certifies_check _)).imp fun valid => valid.1.append ?_
  cases h : w.top.bind (·.metric) with
  | none => exact .nil
  | some m => exact valid.2 m h

theorem certifies_checkWalk (context : String) (field : FieldSet) (m : Metric ν)
    (f : Option (Aggregate.Filter ν)) : Certifies (checkWalk schema context field m f)
      (SumsValid schema (m.nodes ++ Filter.nodesOption f)) :=
  (Certifies.after (field.judges_checkEach fun _ name => Schema.judges_checkField name context)
    (m.certifies_check.comp (certifies_checkFilter f))).imp fun valid => valid.2.1.append valid.2.2

theorem Measurement.certifies_check (m : Measurement ν) :
    Certifies (m.check schema scope) (SumsValid schema m.nodes) := by
  cases m with
  | stats metrics => exact certifies_checkEachMetric metrics
  | distinct field f =>
    exact (Certifies.after (field.judges_checkEach fun _ name => Schema.judges_checkField name _)
      (certifies_checkFilter f)).imp And.right
  | percentiles field levels =>
    have level (p : Float) : Judges (checkPercentile · p) (0.0 ≤ p && p ≤ 100.0) := .guard _ _
    exact ((Judges.foldl level levels).comp
      (field.judges_checkEach fun _ name => Schema.judges_checkIntField name _)).certifies.imp
        fun _ => .nil
  | extreme field m f | sumAcross field m f | bootstrap field f _ m =>
    exact certifies_checkWalk _ field m f

namespace Command

theorem judges_checkBuckets (min max interval : Int64) :
    Judges (checkBuckets min max interval) (0 < interval ∧ min < max) := by
  exact (Judges.guard (0 < interval) _).comp (Judges.guard (min < max) _)

theorem certifies_checkTimeField (context : String) (field : Option FieldSet) :
    Certifies (checkTimeField schema context field) True :=
  (certifies_checkOption (fun f => (f.judges_checkEach fun _ name =>
    Schema.judges_checkField name context).certifies) field).imp fun _ => trivial

/-- The validation of a command reaches every sum over documents in it. -/
theorem certifies_check (c : Command ν) :
    Certifies (c.check schema scope) (SumsValid schema c.nodes) := by
  have known (context : String) (field : FieldSet) :=
    field.judges_checkEach fun dataset name =>
      (Schema.judges_checkField name context : Judges (schema.checkField dataset name context) _)
  cases c with
  | filterDocuments actions =>
    exact (Certifies.foldlM Action.certifies_check actions).imp fun _ => .nil
  | filterGroups f => exact f.certifies_check
  | explodeTerms field walk =>
    exact (Certifies.after (known _ field) walk.certifies_check).imp And.right
  | iterate field walk ms =>
    exact (Certifies.after (known _ field)
      (walk.certifies_check.comp (certifies_checkEachMetric ms))).imp
        fun valid => valid.2.1.append valid.2.2
  | explodeGroups field | explodeRandom field => exact (known _ field).certifies.imp fun _ => .nil
  | explodeQuantiles field count =>
    exact ((Judges.guardNot _ _).comp (field.judges_checkEach fun _ name =>
      Schema.judges_checkIntField name _)).certifies.imp fun _ => .nil
  | regroupByMetric => exact (judges_checkBuckets _ _ _).certifies.imp fun _ => .nil
  | regroupByTime | explodeTimeBuckets | explodeMonth =>
    exact (certifies_checkTimeField _ _).imp fun _ => .nil
  | measure m | keep m => exact m.certifies_check
  | keepAll ms => exact (Certifies.foldlM (fun e => e.1.certifies_check) ms).imp .flatMap
  | regroupByRandomMetric => exact (Judges.guardNot _ _).certifies.imp fun _ => .nil
  | explodeDayOfWeek | explodeSessionNames | regroupIntoParent =>
    exact Certifies.pass.imp fun _ => .nil

theorem certifies_checkAll (commands : List (Command Float)) :
    Certifies (checkAll schema scope commands) (∀ c ∈ commands, SumsValid schema c.nodes) :=
  .foldlM certifies_check commands

end Command

/-! ## Sound metrics -/

namespace Doc.Metric

/-- Validation finds no error in a metric in a dataset, and the program of the metric pushes no
field as an integer there that is not one. -/
def Sound (schema : Schema) (dataset : String) (m : Doc.Metric) : Prop :=
  (m.check schema dataset {}).errors = [] ∧
    ∀ name, m.PushesField dataset name → schema.containsIntField dataset name = true

theorem Valid.sound {dataset : String} {m : Doc.Metric} (valid : m.Valid schema dataset) :
    m.Sound schema dataset :=
  ⟨(m.judges_check {}).mpr ⟨rfl, valid⟩, fun _ => containsIntField_of_pushesField valid⟩

end Doc.Metric

omit [Numeric ν] in
/-- What validation finds in a dataset in the expression by which a grouping measures documents. -/
def Aggregate.Grouping.findings (schema : Schema) (dataset : String) : Grouping ν → Findings
  | .buckets m .. => m.check schema dataset {}
  | .predicate f => f.check schema dataset {}
  | .randomMetric m .. => m.check schema dataset {}
  | _ => {}

omit [Numeric ν] in
theorem Aggregate.Grouping.valid_of_mem_measured {g : Grouping ν} {dataset : String}
    {m : Doc.Metric} (clean : (g.findings schema dataset).errors = [])
    (hm : m ∈ g.measured dataset) : m.Valid schema dataset := by
  cases g with
  | buckets n | randomMetric n =>
    obtain rfl := List.mem_singleton.mp hm
    exact ((m.judges_check {}).mp clean).2
  | predicate f =>
    have truth := Option.mem_toList.mp hm
    cases h : f.truth dataset with
    | error => rw [h] at truth; exact absurd truth nofun
    | ok n =>
      rw [h] at truth
      obtain rfl := Option.some.inj truth
      exact Doc.Filter.valid_truth ((f.judges_check {}).mp clean).2 h
  | _ => exact absurd hm List.not_mem_nil

namespace Extracted

/-- Validation finds no error in a dataset in the expressions by which an extracted plan tests and
measures documents. -/
def Valid (schema : Schema) (dataset : String) (e : Extracted ν) : Prop :=
  (∀ f ∈ e.plan.filter, (f.check schema dataset {}).errors = []) ∧
    ∀ g ∈ e.groupings, (g.findings schema dataset).errors = []

omit [Numeric ν] in
theorem Valid.sound {e : Extracted ν} {dataset : String} {m : Doc.Metric}
    (valid : e.Valid schema dataset) (hm : m ∈ e.measured dataset) : m.Sound schema dataset := by
  refine Doc.Metric.Valid.sound ?_
  rcases List.mem_append.mp hm with hm | hm
  · obtain ⟨f, hf, hm⟩ := List.mem_flatMap.mp hm
    have clean := valid.1 f (Option.mem_toList.mp hf)
    exact Doc.Filter.valid_of_mem_tested ((f.judges_check {}).mp clean).2 hm
  · obtain ⟨g, hg, hm⟩ := List.mem_flatMap.mp hm
    exact Grouping.valid_of_mem_measured (valid.2 g hg) hm

end Extracted

/-! ## Compilation -/

theorem Findings.errors_of_toExcept {found : Findings} {warnings : List String}
    (h : found.toExcept = .ok warnings) : found.errors = [] := by
  unfold Findings.toExcept at h
  split at h
  · exact List.isEmpty_iff.mp ‹_›
  · exact absurd h nofun

namespace Query

variable {catalog : Catalog} {settings : Settings} {now : Timestamp}

/-- The plan of a text with its computations taken out, and what its fields are checked against. -/
def extracted? (catalog : Catalog) (settings : Settings) (now : Timestamp) (text : String) :
    Option (Schema × Extracted Float) := do
  let q ← (parse text).toOption
  let planned ← (q.plan catalog settings now).toOption
  let plan ← planned.plan.substitute.toOption
  let extracted ← plan.simplify.filterTopTerms.extract.toOption
  pure (planned.resolver.schema, extracted)

/-- In the commands of a compiled text every sum over documents is one of a sound metric. Every
program is that of a metric by which the plan tests or measures the documents of the dataset, and if
what it tests and measures by is valid there, then the metric is sound. -/
theorem sound_of_compileText {text : String} {compiled : Compiled}
    (h : compileText catalog settings now text = .ok compiled) :
    ∃ schema e, extracted? catalog settings now text = some (schema, e) ∧
      (∀ c ∈ compiled.commands, ∀ dataset m, .docStatsIn dataset m ∈ c.nodes →
        m.Sound schema dataset) ∧
      ∀ c ∈ compiled.commands, ∀ p ∈ c.programs, ∃ m ∈ e.measured p.1,
        m.pushes p.1 = .ok p.2 ∧ (e.Valid schema p.1 → m.Sound schema p.1) := by
  obtain ⟨q, hq, h⟩ := compile_of_compileText h
  simp only [compile, bind_eq_ok, pure_eq_ok] at h
  obtain ⟨planned, hplanned, _, _, program, hprogram, commands, hcommands, found, checked, _, clean,
    rfl⟩ := h
  have steps := hprogram
  simp only [Plan.program, bind_eq_ok] at steps
  obtain ⟨plan, hplan, e, he, -⟩ := steps
  refine ⟨planned.resolver.schema, e, ?_, fun c hc dataset m hm => ?_, fun c hc p hp => ?_⟩
  · simp [extracted?, hq, hplanned, hplan, he, Except.toOption]
  · have valid :=
      Command.certifies_checkAll commands _ _ checked (Findings.errors_of_toExcept clean)
    exact (valid.2 c hc dataset m hm).sound
  · obtain ⟨m, hm, written⟩ := Plan.writtenFrom_program hplan he hprogram hcommands p
      (List.mem_flatMap.mpr ⟨c, hc, hp⟩)
    exact ⟨m, hm, written, fun valid => valid.sound hm⟩

/-! ### Documents above a bound -/

/-- One dataset with fields of both types. -/
def adsAlone : Catalog where
  datasets := [{ name := "ads", intFields := ["clicks"], stringFields := ["country", "q"] }]

/-- Count the documents with more than five of a field. -/
def countAbove (field : String) : Query where
  sources := [{ name := "ads" }]
  filter := some (.compare .gt (.name { name := field }) (.int 5))
  selects := [{ metric := .docSum .count }]

def isCountAbove (field : String) : Except QueryError Query → Bool
  | .ok { sources := [{ name, start := none, finish := none, label := none, fieldAliases := [] }]
          filter := some (.compare .gt (.name ⟨none, f⟩) (.int n))
          stages := []
          selects := [{ metric := .docSum .count, label := none, format := none }]
          limit := none } =>
    name == "ads" && f == field && n == 5
  | _ => false

theorem eq_of_isCountAbove {field : String} {x : Except QueryError Query}
    (h : isCountAbove field x = true) : x = .ok (countAbove field) := by
  unfold isCountAbove at h
  split at h
  · simp only [Bool.and_eq_true, beq_iff_eq] at h
    obtain ⟨⟨rfl, rfl⟩, rfl⟩ := h
    rfl
  · contradiction

/-- Whether there is more than five of a field. -/
def above (field : String) : Doc.Metric := .compare .gt (.field (.single "ads" field)) (.constant 5)

theorem pushes_above (field : String) : (above field).pushes "ads" = .ok [field, "5", ">"] := by
  have named : (FieldSet.single "ads" field).nameIn "ads" = .ok field := rfl
  simp only [above, Doc.Metric.pushes, named]
  rfl

theorem documentActions_above (field : String) :
    Doc.Filter.documentActions ["ads"]
      (some (.compare .gt (.field (.single "ads" field)) (.constant 5))) =
      .ok (some [.metric ["ads"] [("ads", [field, "5", ">"])] ⟨1, 1, 0⟩]) := by
  have everywhere : Doc.comparisonScope ["ads"] (.field (.single "ads" field)) (.constant 5) =
      .ok ["ads"] := rfl
  have program := pushes_above field
  have action : (Doc.Filter.compare .gt (.field (.single "ads" field)) (.constant 5)).leafAction
      ["ads"] ⟨1, 1, 0⟩ = .ok (.metric ["ads"] [("ads", [field, "5", ">"])] ⟨1, 1, 0⟩) := by
    rw [above] at program
    simp [Doc.Filter.leafAction, everywhere, Doc.Filter.metricAction, Dictionary.collect,
      Doc.Filter.pushes, Doc.Filter.truth, Doc.Filter.truthWith, program, bind, Except.bind, pure,
      Except.pure]
  simp [Doc.Filter.documentActions, Doc.Filter.actions, action, bind, Except.bind, pure,
    Except.pure, Action.mergeQueries, Action.mergeInto]

/-- A query compiles if its stages find no fault. -/
theorem exists_compiled {q : Query} {planned : Planned} {program : Program Float}
    {commands : List (Command Float)} {found : Findings}
    (hplanned : q.plan catalog settings now = .ok planned) (clean : planned.found.errors = [])
    (hprogram : planned.plan.program = .ok program) (hcommands : program.commands = .ok commands)
    (checked : Command.checkAll planned.resolver.schema planned.plan.scope commands planned.found =
      .ok found) (valid : found.errors = []) :
    ∃ compiled, q.compile catalog settings now = .ok compiled ∧ compiled.commands = commands := by
  have resolved : planned.found.toExcept = .ok planned.found.warnings := by
    rw [Findings.toExcept, clean]
    rfl
  have passed : found.toExcept = .ok found.warnings := by
    rw [Findings.toExcept, valid]
    rfl
  simp only [compile, bind_eq_ok, pure_eq_ok]
  exact ⟨_, ⟨planned, hplanned, _, resolved, program, hprogram, commands, hcommands, found, checked,
    _, passed, rfl⟩, rfl⟩

/-- The bound is put on a field of either type. -/
theorem compileText_countAbove {text field : String} (hq : parse text = .ok (countAbove field))
    (known : field = "clicks" ∨ field = "country") :
    ∃ compiled schema e, compileText adsAlone {} default text = .ok compiled ∧
      extracted? adsAlone {} default text = some (schema, e) ∧
      compiled.commands = [
        .filterDocuments [.metric ["ads"] [("ads", [field, "5", ">"])] ⟨1, 1, 0⟩],
        .measure (.stats [.docStatsIn "ads" .count] [none] true)] ∧
      e.plan.filter = some (.compare .gt (.field (.single "ads" field)) (.constant 5)) ∧
      e.groupings = [] ∧
      schema.containsIntField "ads" field = (field == "clicks") := by
  have stages : ∃ planned plan e steps found,
      (countAbove field).plan adsAlone {} default = .ok planned ∧
      planned.found.errors = [] ∧ planned.plan.substitute = .ok plan ∧
      plan.simplify.filterTopTerms.extract = .ok e ∧ e.plan.scope = ["ads"] ∧
      e.plan.filter = some (.compare .gt (.field (.single "ads" field)) (.constant 5)) ∧
      e.groupings = [] ∧ e.steps = .ok steps ∧
      Step.merge e.plan.rowLimit steps = [.stats [.docStatsIn "ads" .count] [none]] ∧
      Command.checkAll planned.resolver.schema planned.plan.scope [
        .filterDocuments [.metric ["ads"] [("ads", [field, "5", ">"])] ⟨1, 1, 0⟩],
        .measure (.stats [.docStatsIn "ads" .count] [none] true)] planned.found = .ok found ∧
      found.errors = [] ∧
      planned.resolver.schema.containsIntField "ads" field = (field == "clicks") := by
    rcases known with rfl | rfl <;>
      exact ⟨_, _, _, _, _, rfl, rfl, rfl, rfl, rfl, rfl, rfl, rfl, rfl, rfl, rfl, rfl⟩
  obtain ⟨planned, plan, e, steps, found, hplanned, clean, hplan, he, scope, filter, groupings,
    hsteps, merged, checked, valid, typed⟩ := stages
  have program : planned.plan.program = .ok {
      filter := some [.metric ["ads"] [("ads", [field, "5", ">"])] ⟨1, 1, 0⟩]
      steps := [.stats [.docStatsIn "ads" .count] [none]] } := by
    simp only [Plan.program, hplan, he, bind, Except.bind, scope, filter, documentActions_above,
      hsteps, merged]
    rfl
  obtain ⟨compiled, hcompiled, commands⟩ :=
    exists_compiled hplanned clean program rfl checked valid
  refine ⟨compiled, planned.resolver.schema, e, ?_, ?_, commands, filter, groupings, typed⟩
  · simp [compileText, hq, hcompiled, bind, Except.bind]
  · simp [extracted?, hq, hplanned, hplan, he, Except.toOption]

/-- The clicks of the documents of one dataset are compared with a bound. -/
theorem sound_of_compileText_countAbove :
    ∃ compiled schema e, compileText adsAlone {} default
        "FROM ads WHERE clicks > 5 SELECT count()" = .ok compiled ∧
      extracted? adsAlone {} default "FROM ads WHERE clicks > 5 SELECT count()" =
        some (schema, e) ∧
      (∃ c ∈ compiled.commands, .docStatsIn "ads" .count ∈ c.nodes) ∧
      Doc.Metric.count.Sound schema "ads" ∧ e.Valid schema "ads" ∧
      (∃ c ∈ compiled.commands, ("ads", ["clicks", "5", ">"]) ∈ c.programs) ∧
      ∃ m ∈ e.measured "ads", m.pushes "ads" = .ok ["clicks", "5", ">"] ∧
        m.Sound schema "ads" := by
  have hq : parse "FROM ads WHERE clicks > 5 SELECT count()" = .ok (countAbove "clicks") :=
    eq_of_isCountAbove (by decide +kernel)
  obtain ⟨compiled, schema, e, h, found, commands, filter, groupings, typed⟩ :=
    compileText_countAbove hq (.inl rfl)
  obtain ⟨_, _, found', sums, programs⟩ := sound_of_compileText h
  obtain ⟨rfl, rfl⟩ := Prod.mk.inj (Option.some.inj (found.symm.trans found'))
  have counts : ∃ c ∈ compiled.commands, .docStatsIn "ads" .count ∈ c.nodes := by
    rw [commands]
    exact ⟨_, List.mem_cons_of_mem _ (List.mem_singleton_self _), List.mem_singleton_self _⟩
  have tests : ∃ c ∈ compiled.commands, ("ads", ["clicks", "5", ">"]) ∈ c.programs := by
    rw [commands]
    exact ⟨_, List.mem_cons_self .., List.mem_singleton_self _⟩
  have valid : e.Valid schema "ads" := by
    refine ⟨fun f hf => ?_, ?_⟩
    · obtain rfl := Option.some.inj (filter.symm.trans hf)
      exact ((Doc.Filter.judges_check _ {}).mpr
        ⟨rfl, FieldSet.named_single (typed.trans rfl), trivial⟩)
    · rw [groupings]
      exact List.forall_mem_nil _
  obtain ⟨c, hc, counted⟩ := counts
  obtain ⟨c', hc', tested⟩ := tests
  obtain ⟨m, hm, written, sound⟩ := programs c' hc' _ tested
  exact ⟨compiled, schema, e, h, found, ⟨c, hc, counted⟩, sums c hc _ _ counted, valid,
    ⟨c', hc', tested⟩, m, hm, written, sound valid⟩

/-- The terms of a string field are compared with a bound as if they were integers. -/
theorem compileText_pushes_string_field :
    ∃ compiled schema e m, compileText adsAlone {} default
        "FROM ads WHERE country > 5 SELECT count()" = .ok compiled ∧
      extracted? adsAlone {} default "FROM ads WHERE country > 5 SELECT count()" =
        some (schema, e) ∧
      m ∈ e.measured "ads" ∧ m.pushes "ads" = .ok ["country", "5", ">"] ∧
      (∃ c ∈ compiled.commands, ("ads", ["country", "5", ">"]) ∈ c.programs) ∧
      m.PushesField "ads" "country" ∧ schema.containsIntField "ads" "country" = false ∧
      (m.check schema "ads" {}).errors ≠ [] := by
  have hq : parse "FROM ads WHERE country > 5 SELECT count()" = .ok (countAbove "country") :=
    eq_of_isCountAbove (by decide +kernel)
  obtain ⟨compiled, schema, e, h, found, commands, filter, -, typed⟩ :=
    compileText_countAbove hq (.inr rfl)
  have pushed : (above "country").PushesField "ads" "country" := .compareLeft (.field rfl)
  have untyped : schema.containsIntField "ads" "country" = false := typed.trans rfl
  refine ⟨compiled, schema, e, above "country", h, found, ?_, pushes_above _, ?_, pushed, untyped,
    fun clean => ?_⟩
  · rw [Extracted.measured, filter]
    exact List.mem_append_left _ (List.mem_singleton_self _)
  · rw [commands]
    exact ⟨_, List.mem_cons_self .., List.mem_singleton_self _⟩
  · have valid := (((above "country").judges_check {}).mp clean).2
    exact absurd (Doc.Metric.containsIntField_of_pushesField valid pushed)
      (ne_true_of_eq_false untyped)

end Query

end Groupwise
