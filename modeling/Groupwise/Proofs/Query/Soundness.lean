import Groupwise.Proofs.Query.Resolution

/-!
# Planned queries name what is there

A query that is planned without an error names datasets of its scope alone, and a field that it
names in a dataset is one of the fields that the catalog lists for it, in the catalog's spelling.
-/
namespace Groupwise

variable {resolver : Resolver} {r : Resolution}

namespace Query

/-! ## Group expressions -/

theorem ensures_checkGroupCount (groups : Nat) (what : String) :
    Ensures (checkGroupCount r groups what) fun _ => True :=
  .checked

theorem ensures_checkBuckets (min max interval : Int64) :
    Ensures (checkBuckets r min max interval) fun _ => True := by
  unfold checkBuckets
  split
  · exact Ensures.report.imp fun _ _ => trivial
  · exact ensures_checkGroupCount _ _

theorem ensures_checkPercentile (percentile : Float) :
    Ensures (checkPercentile percentile) fun _ => True :=
  .checked

theorem ensures_timeGrouping {ν : Type} (period : String) (field : Option FieldSet)
    (format : Option String) :
    Ensures (timeGrouping period field format : Reporting (Aggregate.Grouping ν)) fun g =>
      g.mentions = FieldSet.mentionsOption field := by
  unfold timeGrouping
  refine .check ?_
  split
  · exact .pure fun _ => rfl
  split
  · exact .pure fun _ => rfl
  · exact .check (.pure fun _ _ => rfl)

theorem ensures_termsGrouping {ν : Type} (n : ScopedName) (terms : List Term) (withDefault : Bool)
    (scope : Scope) :
    Ensures (termsGrouping n terms withDefault scope : Reporting (Aggregate.Grouping ν)) fun g =>
      scope.In resolver → resolver.Knows g.mentions := by
  refine .bind (n.ensures_resolveField scope resolver) fun field => ?_
  split
  · have noted (message : String) : Ensures (report message) fun _ => True :=
      Ensures.report.imp fun _ _ => trivial
    exact .bind (n.ensures_fittingTerms noted terms) fun _ => .pure fun _ hfield => hfield
  · exact .pure id

theorem ensures_randomGrouping {ν : Type} (n : ScopedName) (parts : Nat) (salt : Option String)
    (scope : Scope) :
    Ensures (randomGrouping n parts salt scope : Reporting (Aggregate.Grouping ν)) fun g =>
      scope.In resolver → resolver.Knows g.mentions :=
  .check (.bind (n.ensures_resolveField scope resolver) fun _ => .pure fun hfield _ => hfield)

theorem ensures_resolveName (sound : r.Sound resolver) (scope : Scope) (n : ScopedName) :
    Ensures (resolveName r scope n) fun m => scope.In resolver → resolver.Knows m.mentions := by
  unfold resolveName
  split
  · exact .pure fun _ => Resolver.knows_nil
  · exact .bind (n.ensures_resolveMetric scope sound) fun _ => .pure id

theorem knows_operate (op : Calculation) {left right : Aggregate.Metric Float}
    (hl : resolver.Knows left.mentions) (hr : resolver.Knows right.mentions) :
    resolver.Knows (operate op left right).mentions := by
  cases op with
  | add =>
    refine Aggregate.Metric.forall_mentions_sum ?_
    exact Resolver.knows_append.mpr ⟨hl, Resolver.knows_append.mpr ⟨hr, Resolver.knows_nil⟩⟩
  | subtract | multiply | divide | modulus | power => exact Resolver.knows_append.mpr ⟨hl, hr⟩

theorem ensures_resolveOptionalField (scope : Scope) (n : Option ScopedName) :
    Ensures (resolveOptionalField scope n) fun f =>
      scope.In resolver → resolver.Knows (FieldSet.mentionsOption f) := by
  cases n with
  | none => exact .pure fun _ => Resolver.knows_nil
  | some n => exact .bind (n.ensures_resolveField scope resolver) fun _ => .pure id

theorem knows_qualifyAggregate (n : ScopedName) {field : FieldSet} {m : Aggregate.Metric Float}
    (hfield : resolver.Knows field.mentions) (hm : resolver.Knows m.mentions) :
    resolver.Knows (n.qualifyAggregate field m).mentions := by
  unfold ScopedName.qualifyAggregate Aggregate.Metric.qualify
  split
  · split
    · exact Resolver.knows_append.mpr ⟨Resolver.knows_datasets_of_field hfield, hm⟩
    · exact hm
  · exact hm

theorem knows_topTerms {field : FieldSet} {limit : Option Nat}
    {metric : Option (Aggregate.Metric Float)} {withDefault : Bool}
    (hfield : resolver.Knows field.mentions)
    (hm : resolver.Knows (Aggregate.Metric.mentionsOption metric)) :
    resolver.Knows
      (Aggregate.Grouping.topTerms field none limit metric withDefault).mentions := by
  refine Resolver.knows_append.mpr
    ⟨Resolver.knows_append.mpr ⟨hfield, Resolver.knows_nil⟩, ?_⟩
  cases metric with
  | some metric => cases limit <;> exact hm
  | none => cases limit <;> exact Resolver.knows_nil

mutual

/-- What a group metric is resolved to names datasets and fields of the query. -/
theorem Metric.ensures_resolve (sound : r.Sound resolver) (scope : Scope) (m : Metric) :
    Ensures (m.resolve r scope) fun m' => scope.In resolver → resolver.Knows m'.mentions := by
  match m with
  | .number _ =>
    rw [Metric.resolve]
    exact .pure fun _ => Resolver.knows_nil
  | .name n =>
    rw [Metric.resolve]
    exact ensures_resolveName sound scope n
  | .docSum m =>
    rw [Metric.resolve]
    exact .bind (m.ensures_resolve sound scope) fun _ => .pure id
  | .negate m | .abs m | .log m | .floor m | .ceil m | .round m | .average m | .parent m | .lag _ m
  | .running m =>
    rw [Metric.resolve]
    exact .bind (Metric.ensures_resolve sound scope m) fun _ => .pure id
  | .binary op left right =>
    rw [Metric.resolve]
    exact .bind (Metric.ensures_resolve sound scope left) fun _ =>
      .bind (Metric.ensures_resolve sound scope right) fun _ =>
        .pure fun hr hl hs => knows_operate op (hl hs) (hr hs)
  | .min ms | .max ms =>
    rw [Metric.resolve]
    exact .bind (Metric.ensures_resolveAll sound scope ms) fun _ => .pure id
  | .distinct n having _ =>
    rw [Metric.resolve]
    exact .bind (n.ensures_resolveField scope resolver) fun _ =>
      .bind (Filter.ensures_resolveOption sound scope having) fun _ => .pure fun hx hf hs =>
        knows_qualifyAggregate n (hf hs) (Resolver.knows_append.mpr ⟨hf hs, hx hs⟩)
  | .percentile n percentile =>
    rw [Metric.resolve]
    exact .bind (ensures_checkPercentile percentile) fun _ =>
      .bind (n.ensures_resolveField scope resolver) fun _ => .pure fun hf _ hs =>
        knows_qualifyAggregate n (hf hs) (hf hs)
  | .fieldMin n metric | .fieldMax n metric =>
    rw [Metric.resolve]
    exact .bind (n.ensures_resolveField scope resolver) fun _ =>
      .bind (Metric.ensures_resolveOption sound scope metric) fun _ => .pure fun hm hf hs =>
        knows_qualifyAggregate n (hf hs) (Resolver.knows_append.mpr
          ⟨Resolver.knows_append.mpr ⟨hf hs, hm hs⟩, Resolver.knows_nil⟩)
  | .window size m =>
    rw [Metric.resolve]
    exact .check (.bind (Metric.ensures_resolve sound scope m) fun _ => .pure fun hm _ => hm)
  | .sumAcross grouping m =>
    rw [Metric.resolve]
    exact .bind (Grouping.ensures_resolve sound scope grouping) fun _ =>
      .bind (Metric.ensures_resolve sound scope m) fun _ =>
        .pure fun hm hg hs => Resolver.knows_append.mpr ⟨hg hs, hm hs⟩
  | .ifThenElse condition yes no =>
    rw [Metric.resolve]
    exact .bind (Filter.ensures_resolve sound scope condition) fun _ =>
      .bind (Metric.ensures_resolve sound scope yes) fun _ =>
        .bind (Metric.ensures_resolve sound scope no) fun _ => .pure fun hn hy hc hs =>
          Resolver.knows_append.mpr ⟨Resolver.knows_append.mpr ⟨hc hs, hy hs⟩, hn hs⟩
  | .qualified datasets m =>
    rw [Metric.resolve]
    refine .bind (ensures_resolveDatasets scope datasets) fun names =>
      .bind (Metric.ensures_resolve sound (scope.narrow names) m) fun inner =>
        .pure fun hm hnames hs => ?_
    have sub := List.Subset.trans hnames hs.names_subset
    have hinner := hm (hs.narrow sub)
    split
    · exact Resolver.knows_append.mpr ⟨Resolver.knows_datasets sub, hinner⟩
    · exact hinner

theorem Metric.ensures_resolveAll (sound : r.Sound resolver) (scope : Scope) (ms : List Metric) :
    Ensures (Metric.resolveAll r scope ms) fun ms' =>
      scope.In resolver → resolver.Knows (Aggregate.Metric.mentionsOfAll ms') := by
  match ms with
  | [] =>
    rw [Metric.resolveAll]
    exact .pure fun _ => Resolver.knows_nil
  | m :: rest =>
    rw [Metric.resolveAll]
    exact .bind (Metric.ensures_resolve sound scope m) fun _ =>
      .bind (Metric.ensures_resolveAll sound scope rest) fun _ =>
        .pure fun hrest hm hs => Resolver.knows_append.mpr ⟨hm hs, hrest hs⟩

theorem Metric.ensures_resolveOption (sound : r.Sound resolver) (scope : Scope)
    (m : Option Metric) :
    Ensures (Metric.resolveOption r scope m) fun m' =>
      scope.In resolver → resolver.Knows (Aggregate.Metric.mentionsOption m') := by
  match m with
  | none =>
    rw [Metric.resolveOption]
    exact .pure fun _ => Resolver.knows_nil
  | some m =>
    rw [Metric.resolveOption]
    exact .bind (Metric.ensures_resolve sound scope m) fun _ => .pure id

/-- What a group filter is resolved to names datasets and fields of the query. -/
theorem Filter.ensures_resolve (sound : r.Sound resolver) (scope : Scope) (f : Filter) :
    Ensures (f.resolve r scope) fun f' => scope.In resolver → resolver.Knows f'.mentions := by
  match f with
  | .compare _ left right =>
    rw [Filter.resolve]
    exact .bind (Metric.ensures_resolve sound scope left) fun _ =>
      .bind (Metric.ensures_resolve sound scope right) fun _ =>
        .pure fun hr hl hs => Resolver.knows_append.mpr ⟨hl hs, hr hs⟩
  | .termIs _ =>
    rw [Filter.resolve]
    exact .pure fun _ => Resolver.knows_nil
  | .termRegex pattern =>
    rw [Filter.resolve]
    exact .bind (ensures_checkPattern pattern) fun _ => .pure fun _ _ => Resolver.knows_nil
  | .bool value =>
    cases value <;>
    · rw [Filter.resolve]
      exact .pure fun _ => Resolver.knows_nil
  | .and fs =>
    rw [Filter.resolve]
    exact .bind (Filter.ensures_resolveAll sound scope fs) fun _ =>
      .pure fun hfs hs => Aggregate.Filter.forall_mentions_merge (c := .and) (hfs hs)
  | .or fs =>
    rw [Filter.resolve]
    exact .bind (Filter.ensures_resolveAll sound scope fs) fun _ =>
      .pure fun hfs hs => Aggregate.Filter.forall_mentions_merge (c := .or) (hfs hs)
  | .not f =>
    rw [Filter.resolve]
    exact .bind (Filter.ensures_resolve sound scope f) fun _ => .pure id

theorem Filter.ensures_resolveAll (sound : r.Sound resolver) (scope : Scope) (fs : List Filter) :
    Ensures (Filter.resolveAll r scope fs) fun fs' =>
      scope.In resolver → resolver.Knows (Aggregate.Filter.mentionsOfAll fs') := by
  match fs with
  | [] =>
    rw [Filter.resolveAll]
    exact .pure fun _ => Resolver.knows_nil
  | f :: rest =>
    rw [Filter.resolveAll]
    exact .bind (Filter.ensures_resolve sound scope f) fun _ =>
      .bind (Filter.ensures_resolveAll sound scope rest) fun _ =>
        .pure fun hrest hf hs => Resolver.knows_append.mpr ⟨hf hs, hrest hs⟩

theorem Filter.ensures_resolveOption (sound : r.Sound resolver) (scope : Scope)
    (f : Option Filter) :
    Ensures (Filter.resolveOption r scope f) fun f' =>
      scope.In resolver → resolver.Knows (Aggregate.Filter.mentionsOption f') := by
  match f with
  | none =>
    rw [Filter.resolveOption]
    exact .pure fun _ => Resolver.knows_nil
  | some f =>
    rw [Filter.resolveOption]
    exact .bind (Filter.ensures_resolve sound scope f) fun _ => .pure id

/-- What a grouping is resolved to names datasets and fields of the query. -/
theorem Grouping.ensures_resolve (sound : r.Sound resolver) (scope : Scope) (g : Grouping) :
    Ensures (g.resolve r scope) fun g' => scope.In resolver → resolver.Knows g'.mentions := by
  match g with
  | .field n limit metric withDefault =>
    have terms : Ensures (do
        let field ← n.resolveField scope
        let metric ← Metric.resolveOption r scope metric
        pure (.topTerms field none limit metric withDefault)) fun g' =>
          scope.In resolver → resolver.Knows (Aggregate.Grouping.mentions g') :=
      .bind (n.ensures_resolveField scope resolver) fun _ =>
        .bind (Metric.ensures_resolveOption sound scope metric) fun _ =>
          .pure fun hm hf hs => knows_topTerms (hf hs) (hm hs)
    cases limit with
    | none =>
      simp only [Grouping.resolve]
      exact terms
    | some limit =>
      simp only [Grouping.resolve]
      exact .bind (ensures_checkGroupCount limit _) fun _ => terms.imp fun _ hg _ => hg
  | .fieldIn n terms withDefault =>
    rw [Grouping.resolve]
    exact ensures_termsGrouping n terms withDefault scope
  | .bucket m min max interval _ _ =>
    rw [Grouping.resolve]
    exact .bind (ensures_checkBuckets min max interval) fun _ =>
      .bind (m.ensures_resolve sound scope) fun _ => .pure fun hm _ => hm
  | .time period n format =>
    rw [Grouping.resolve]
    exact .bind (ensures_resolveOptionalField scope n) fun field =>
      (ensures_timeGrouping period field format).imp fun _ names hf hs => names ▸ hf hs
  | .dayOfWeek | .month | .dataset =>
    rw [Grouping.resolve]
    exact .pure fun _ => Resolver.knows_nil
  | .quantiles n _ =>
    rw [Grouping.resolve]
    exact .bind (n.ensures_resolveField scope resolver) fun _ => .pure id
  | .predicate f =>
    rw [Grouping.resolve]
    exact .bind (f.ensures_resolve sound scope) fun _ => .pure id
  | .random n parts salt =>
    rw [Grouping.resolve]
    exact ensures_randomGrouping n parts salt scope

end

end Query

/-! ## Sources -/

/-- The dataset that a source reads, provided that the source goes by a name. -/
def Catalog.called? (catalog : Catalog) (name typed : String) (label : Option String) :
    Option Dataset :=
  match catalog.resolve typed with
  | .ok dataset => if label.getD dataset.name = name then some dataset else none
  | .error _ => none

namespace Resolver

/-- A resolver knows the datasets that some sources read, each under the name of its source. -/
structure Backed (catalog : Catalog) (sources : List Source) (resolver : Resolver) : Prop where
  known : ∀ name e, resolver.entries.find? name = some e → e.isKnown
  datasets : ∀ name, ((resolver.entries.find? name).map (·.dataset)).toList =
    sources.filterMap fun s => catalog.called? name s.dataset s.label

variable {catalog : Catalog} {done : List Source}

theorem ensures_lookUp (catalog : Catalog) (s : Source) :
    Ensures (lookUp catalog s) fun (s', e) => e.isKnown ∧
      ∀ name, catalog.called? name s.dataset s.label =
        if s'.scopeName = name then some e.dataset else none := by
  unfold lookUp
  split
  · rename_i dataset found
    refine .pure ⟨rfl, fun name => ?_⟩
    simp only [Catalog.called?, found]
    rfl
  · exact .afterReport (.pure (Q := fun _ => True) trivial)

theorem Backed.insert {s s' : Source} {e : Entry} (h : resolver.Backed catalog done)
    (known : e.isKnown) (free : (resolver.entries.find? s'.scopeName).isSome = false)
    (called : ∀ name, catalog.called? name s.dataset s.label =
      if s'.scopeName = name then some e.dataset else none) :
    Backed catalog (done ++ [s])
      { resolver with entries := resolver.entries.insert s'.scopeName e } where
  known name e' he := by
    rw [Dictionary.find?_insert] at he
    split at he
    · exact Option.some.inj he ▸ known
    · exact h.known name e' he
  datasets name := by
    dsimp only
    rw [List.filterMap_append, ← h.datasets, Dictionary.find?_insert, List.filterMap_cons, called]
    split
    · rename_i same
      subst same
      rw [Option.isSome_eq_false_iff, Option.isNone_iff_eq_none] at free
      simp [free]
    · simp

theorem ensures_addSource (catalog : Catalog) (resolver : Resolver) (s : Source) :
    Ensures (resolver.addSource catalog s) fun (extended, s') =>
      (∀ done, resolver.Backed catalog done → extended.Backed catalog (done ++ [s])) ∧
        ∀ name ∈ extended.names, name = s'.scopeName ∨ name ∈ resolver.names := by
  refine .bind (ensures_lookUp catalog s) fun (s', e) => .check (.pure fun free looked => ?_)
  refine ⟨fun done h => h.insert looked.1 (Bool.eq_false_of_not_eq_true free) looked.2, ?_⟩
  intro name hn
  obtain ⟨entry, he, rfl⟩ := List.mem_map.mp hn
  rcases Dictionary.mem_insert he with rfl | there
  · exact .inl rfl
  · exact .inr (List.mem_map_of_mem there)

theorem ensures_addSources (catalog : Catalog) (resolver : Resolver) (sources : List Source) :
    Ensures (resolver.addSources catalog sources) fun (extended, sources') =>
      (∀ done, resolver.Backed catalog done → extended.Backed catalog (done ++ sources)) ∧
        ∀ name ∈ extended.names, name ∈ sources'.map (·.scopeName) ∨ name ∈ resolver.names := by
  induction sources generalizing resolver with
  | nil => exact .pure ⟨fun done h => by rwa [List.append_nil], fun _ => .inr⟩
  | cons s rest ih =>
    rw [addSources]
    refine .bind (ensures_addSource catalog resolver s) fun (middle, s') =>
      .bind (ih middle) fun (extended, rest') => .pure fun others first => ?_
    refine ⟨fun done h => ?_, fun name hn => ?_⟩
    · have backed := others.1 _ (first.1 done h)
      rwa [List.append_assoc] at backed
    · rw [List.map_cons, List.mem_cons, or_assoc, or_left_comm]
      exact (others.2 name hn).imp_right (first.2 name)

/-- A resolver of sources knows what they read, and no other names. -/
theorem ensures_ofSources (catalog : Catalog) (sources : List Source) (metricNames : Names) :
    Ensures (ofSources catalog sources metricNames) fun (resolver, sources') =>
      resolver.Backed catalog sources ∧ ∀ name ∈ resolver.names,
        name ∈ sources'.map (·.scopeName) :=
  (ensures_addSources catalog { metricNames } sources).imp fun _ ⟨backed, names⟩ =>
    ⟨backed [] ⟨nofun, fun _ => rfl⟩, fun name hn => (names name hn).resolve_right nofun⟩

end Resolver

/-! ## Plans -/

namespace Query

theorem ensures_resolveTime (now : Timestamp) (t : Option TimePoint) :
    Ensures (resolveTime now t) fun _ => True := by
  unfold resolveTime
  split
  · exact .pure trivial
  · split
    · exact .pure trivial
    · exact .standIn

theorem ensures_checkTimes (name : String) (start finish : Option Timestamp) :
    Ensures (checkTimes name start finish) fun _ => True := by
  unfold checkTimes
  split
  · exact .checked
  · exact .pure trivial

/-- A source reads the dataset that the query names, under the name that the query gives it. -/
theorem From.ensures_source (now : Timestamp) (f : From) :
    Ensures (f.source now) fun s => s.dataset = f.name ∧ s.label = f.label :=
  .bind (ensures_resolveTime now f.start) fun _ => .bind (ensures_resolveTime now f.finish) fun _ =>
    .bind (ensures_checkTimes f.name _ _) fun _ => .pure fun _ _ _ => ⟨rfl, rfl⟩

theorem Stage.ensures_resolve (sound : r.Sound resolver) (scope : Scope) (s : Stage) :
    Ensures (s.resolve r scope) fun s' => scope.In resolver → resolver.Knows s'.mentions :=
  .bind (s.grouping.ensures_resolve sound scope) fun _ =>
    .bind (Filter.ensures_resolveOption sound scope s.having) fun _ =>
      .pure fun hx hg hs => Resolver.knows_append.mpr ⟨hg hs, hx hs⟩

theorem Select.ensures_resolve (sound : r.Sound resolver) (scope : Scope) (s : Select) :
    Ensures (s.resolve r scope) fun m => scope.In resolver → resolver.Knows m.mentions := by
  refine .bind (s.metric.ensures_resolve sound scope) fun m => .pure fun hm hs => ?_
  split
  · exact hm hs
  · exact hm hs

theorem ensures_resolveFilter (sound : r.Sound resolver) (scope : Scope) (f : Option DocFilter) :
    Ensures (resolveFilter r scope f) fun f' => scope.In resolver →
      resolver.Knows (match f' with | none => [] | some f => f.mentions) := by
  cases f with
  | none => exact .pure fun _ => Resolver.knows_nil
  | some f => exact .bind (f.ensures_resolve sound scope) fun _ => .pure id

/-- The datasets that a name of a query stands for. -/
def datasetsCalled (catalog : Catalog) (q : Query) (name : String) : List Dataset :=
  q.sources.filterMap fun f => catalog.called? name f.name f.label

theorem filterMap_called {catalog : Catalog} {fs : List From} {sources : List Source}
    (h : List.Forall₂ (fun f s => s.dataset = f.name ∧ s.label = f.label) fs sources)
    (name : String) :
    (sources.filterMap fun s => catalog.called? name s.dataset s.label) =
      fs.filterMap fun f => catalog.called? name f.name f.label := by
  induction h with
  | nil => rfl
  | cons same _ ih => rw [List.filterMap_cons, List.filterMap_cons, same.1, same.2, ih]

/-- A plan without errors is about the datasets that the query reads, and its resolver knows all
that it names. -/
theorem ensures_resolve (catalog : Catalog) (settings : Settings) (now : Timestamp) (q : Query) :
    Ensures (q.resolve catalog settings now) fun (plan, resolver) =>
      resolver.Knows plan.mentions ∧ resolver.names ⊆ plan.scope ∧
        (∀ name e, resolver.entries.find? name = some e → e.isKnown) ∧
        ∀ name, ((resolver.entries.find? name).map (·.dataset)).toList =
          q.datasetsCalled catalog name := by
  refine .bind (.mapM_forall₂ q.sources (From.ensures_source now)) fun typed =>
    .bind (Resolver.ensures_ofSources catalog typed _) fun (resolver, sources) => ?_
  have sound : (Resolution.ofResolver settings resolver).Sound resolver :=
    Resolution.sound_ofResolver settings
  have whole : resolver.scope.In resolver := ⟨rfl, List.Subset.refl _⟩
  refine .bind (ensures_resolveFilter sound resolver.scope q.filter) fun filter =>
    .bind (.mapM q.stages fun s _ => s.ensures_resolve sound resolver.scope) fun stages =>
      .bind (.mapM q.selects fun s _ => s.ensures_resolve sound resolver.scope) fun selects =>
        .pure fun hselects hstages hfilter backed same => ?_
  refine ⟨?_, fun name hn => ?_, backed.1.known, fun name => ?_⟩
  · refine Resolver.knows_append.mpr ⟨Resolver.knows_append.mpr ⟨hfilter whole, ?_⟩, ?_⟩
    · exact List.forall_mem_flatMap.mpr fun s hs => hstages s hs whole
    · exact List.forall_mem_flatMap.mpr fun m hm => hselects m hm whole
  · exact Names.mem_ofList.mpr (backed.2 name hn)
  · exact (backed.1.datasets name).trans (filterMap_called same name)

end Query

/-- A dataset is one of the scope, and a field is one of those that the catalog lists for the one
dataset that goes by that name. -/
def Mention.Sound (catalog : Catalog) (q : Query) (scope : Names) : Mention → Prop
  | .dataset d => d ∈ scope
  | .field d name => d ∈ scope ∧ ∃ dataset, q.datasetsCalled catalog d = [dataset] ∧
      (name ∈ dataset.intFields ∨ name ∈ dataset.stringFields)

namespace Query

variable {catalog : Catalog} {settings : Settings} {now : Timestamp} {q : Query}
  {planned : Planned}

/-- The plan of a query is what its resolution at some moment gives. -/
theorem run_resolve_of_plan (h : q.plan catalog settings now = .ok planned) :
    ∃ moment, (q.resolve catalog settings moment).run {} =
      ((planned.plan, planned.resolver), planned.found) := by
  unfold plan at h
  simp only [bind_eq_ok] at h
  obtain ⟨offset, -, h⟩ := h
  split at h
  · cases h
  · rcases run : (q.resolve catalog settings (now.withOffset offset)).run {} with
      ⟨⟨plan, resolver⟩, found⟩
    rw [run] at h
    obtain rfl := Except.ok.inj h
    exact ⟨_, run⟩

/-- A query that is planned without an error names datasets of its scope and fields that the catalog
lists for them, and nothing else. -/
theorem mentions_sound (h : q.plan catalog settings now = .ok planned)
    (none : planned.found.errors = []) :
    ∀ x ∈ planned.plan.mentions, x.Sound catalog q planned.plan.scope := by
  obtain ⟨moment, run⟩ := run_resolve_of_plan h
  have ensured := q.ensures_resolve catalog settings moment {} (by rw [run]; exact none)
  rw [run] at ensured
  obtain ⟨-, knows, scope, isKnown, datasets⟩ := ensured
  intro x hx
  have known := knows x hx
  cases x with
  | dataset d => exact scope known
  | field d name =>
    obtain ⟨e, found, listed⟩ := known
    have called := datasets d
    simp only [found, Option.map_some, Option.toList_some] at called
    have here : d ∈ planned.resolver.names :=
      Dictionary.mem_keys.mpr (Option.isSome_of_eq_some found)
    exact ⟨scope here, e.dataset, called.symm, listed (isKnown d e found)⟩

/-- Resolution finds the spelling of the catalog under the names that a query gives to a dataset and
to a field, in a scope that is narrowed to one dataset. -/
theorem mentions_sound_spelled :
    let catalog : Catalog := { datasets := [
      { name := "ads", intFields := ["clicks"], stringFields := ["country"] },
      { name := "news", intFields := ["reads"], fieldAliases := [("visits", "reads")] }] }
    let q : Query := {
      sources := [{ name := "ADS", label := some "a" }, { name := "news" }]
      filter := some (.fieldIs ⟨some "A", "Country"⟩ (.string "us") false)
      selects := [{ metric := .docSum (.name ⟨some "News", "VISITS"⟩) }] }
    ∃ planned, q.plan catalog {} default = .ok planned ∧ planned.found.errors = [] ∧
      planned.plan.mentions = [.dataset "a", .field "a" "country", .dataset "news",
        .field "news" "reads"] ∧
      ∀ x ∈ planned.plan.mentions, x.Sound catalog q planned.plan.scope := by
  intro catalog q
  have seen : ((q.plan catalog {} default).toOption.map fun p => (p.found.errors, p.plan.mentions)) =
      some ([], [.dataset "a", .field "a" "country", .dataset "news", .field "news" "reads"]) := by
    decide +kernel
  obtain ⟨planned, made, seen⟩ := Option.map_eq_some_iff.mp seen
  obtain ⟨none, mentions⟩ := Prod.mk.inj seen
  have made := eq_ok_of_toOption made
  exact ⟨planned, made, none, mentions, mentions_sound made none⟩

end Query

end Groupwise
