import Groupwise.Compilation
import Groupwise.Proofs.Query.Dimensions

/-!
# Dimensions that lead back to themselves are reported

Where the expansion of a dimension comes back to one that is being expanded, an error is noted. As
no step takes an error back, it is enough that every name in a query is resolved, and a query with
such a dimension is not compiled.
-/
namespace Groupwise

open Query Resolution

variable {settings : Settings} {r : Resolution} {Q : String → Scope → Prop}

theorem Ensures.mapM_all {α β : Type} {f : α → Reporting β} {P : α → Prop} (as : List α)
    (h : ∀ a, Ensures (f a) fun _ => P a) : Ensures (as.mapM f) fun _ => ∀ a ∈ as, P a := by
  induction as with
  | nil => exact .pure nofun
  | cons a rest ih =>
    rw [List.mapM_cons]
    exact .bind (h a) fun _ => .bind ih fun _ => .pure fun others first =>
      List.forall_mem_cons.mpr ⟨first, others⟩

/-- Unless an error is noted, a property holds of the dimensions among some names. -/
def Clears {α : Type} (Q : String → Scope → Prop) (x : Reporting α) (names : List Occurrence) :
    Prop :=
  Ensures x fun _ => ForDimensions names Q

/-- A dimension is expanded without an error only if a property holds of it. -/
def Resolution.Checks (r : Resolution) (Q : String → Scope → Prop) : Prop :=
  ∀ name scope, Ensures (r.expand name scope) fun _ => Q name scope

namespace Clears

variable {α β : Type} {x : Reporting α} {k : α → Reporting β} {R : α → Prop}
variable {names others : List Occurrence}

theorem nothing (hx : Ensures x R) : Clears Q x [] := hx.imp fun _ _ => nofun

theorem pure {a : α} : Clears Q (Pure.pure a) [] := Ensures.pure nofun

theorem bind (hx : Clears Q x names) (hk : ∀ a, Clears Q (k a) others) :
    Clears Q (x >>= k) (names ++ others) :=
  Ensures.bind hx fun a => (hk a).imp fun _ rest first => forDimensions_append.mpr ⟨first, rest⟩

theorem after (hx : Ensures x R) (hk : ∀ a, Clears Q (k a) names) : Clears Q (x >>= k) names :=
  Ensures.bind hx fun a => (hk a).imp fun _ cleared _ => cleared

theorem before {R : α → β → Prop} (hx : Clears Q x names) (hk : ∀ a, Ensures (k a) (R a)) :
    Clears Q (x >>= k) names :=
  Ensures.bind hx fun a => (hk a).imp fun _ _ cleared => cleared

theorem map {f : α → β} (hx : Clears Q x names) : Clears Q (do Pure.pure (f (← x))) names :=
  Ensures.bind hx fun _ => .pure id

theorem mapM {f : α → Reporting β} {namesOf : α → List Occurrence} (as : List α)
    (h : ∀ a, Clears Q (f a) (namesOf a)) : Clears Q (as.mapM f) (as.flatMap namesOf) :=
  (Ensures.mapM_all as h).imp fun _ => List.forall_mem_flatMap.mpr

end Clears

/-! ## Names of fields -/

namespace ScopedName

variable (n : ScopedName) (scope : Scope)

/-- A field is not a dimension. -/
theorem clears_resolveField : Clears Q (n.resolveField scope) [⟨n, scope⟩] := by
  refine Ensures.bind (n.ensures_within scope) fun w => .check ?_
  refine (w.ensures_field scope.resolver n.name).imp fun _ _ field within => ?_
  subst within
  exact forDimensions_singleton.mpr fun dimension => absurd dimension field

theorem clears_probe (make : FieldSet → Doc.Metric) :
    Clears Q (n.probe scope make) [⟨n, scope⟩] :=
  .before (n.clears_resolveField scope) fun field =>
    n.ensures_qualifyMetric scope.resolver field (make field)

theorem clears_resolveMetric (checks : r.Checks Q) :
    Clears Q (n.resolveMetric r scope) [⟨n, scope⟩] := by
  refine Ensures.bind (n.ensures_within scope) fun w => ?_
  dsimp only
  by_cases dimension : w.hasDimension n.name = true
  · rw [if_pos dimension]
    refine .bind (checks n.name w) fun _ => .pure fun cleared within => ?_
    subst within
    exact forDimensions_singleton.mpr fun _ => cleared
  · rw [if_neg dimension]
    have field : Ensures (w.field n.name) fun _ => True :=
      (w.ensures_field scope.resolver n.name).imp fun _ _ => trivial
    refine .bind (.map (R := fun _ => True) field) fun _ => .pure fun _ within => ?_
    subst within
    exact forDimensions_singleton.mpr fun here => absurd here dimension

theorem clears_dimensionIs (checks : r.Checks Q) (term : Term) (negated : Bool) :
    Clears Q (n.dimensionIs r term negated scope) [⟨n, scope⟩] := by
  unfold dimensionIs
  split
  · exact .map (n.clears_resolveMetric scope checks)
  · exact .standIn

theorem clears_fieldIs (term : Term) (negated : Bool) :
    Clears Q (n.fieldIs term negated scope) [⟨n, scope⟩] := by
  refine .before (n.clears_resolveField scope) (R := fun _ _ => True) fun field => ?_
  dsimp only
  split
  · exact .bind .remark fun _ => .pure fun _ => trivial
  · exact .pure trivial

theorem clears_fieldFilter {make : FieldSet → Reporting Doc.Filter}
    {R : FieldSet → Doc.Filter → Prop} (made : ∀ field, Ensures (make field) (R field)) :
    Clears Q (n.fieldFilter scope make) [⟨n, scope⟩] := by
  refine .after (n.ensures_isDimension scope) fun isDimension => ?_
  split
  · exact .standIn
  · exact .before (R := fun _ _ => True) (n.clears_resolveField scope) fun field =>
      .bind (made field) fun _ => .pure fun _ => trivial

end ScopedName

/-! ## Document expressions -/

namespace Query

/-- The names in a qualified expression are looked up in the datasets that it is qualified with. -/
theorem clears_narrow {β : Type} {scope : Scope} (datasets : List String)
    {k : Names → Reporting β} (namesIn : Scope → List Occurrence)
    (hk : ∀ found, Clears Q (k found) (namesIn (scope.narrow found))) :
    Clears Q (resolveDatasets scope datasets >>= k) (namesIn (scope.narrowTo datasets)) := by
  refine Ensures.bind ((ensures_resolveDatasets scope datasets).returns
    (returns_resolveDatasets scope datasets)) fun found => (hk found).imp fun _ cleared called => ?_
  subst called
  exact cleared

mutual

/-- Every name in a document metric is resolved. -/
theorem DocMetric.clears_resolve (checks : r.Checks Q) (scope : Scope) (m : DocMetric) :
    Clears Q (m.resolve r scope) (m.names scope) := by
  match m with
  | .name n =>
    rw [DocMetric.resolve]
    exact n.clears_resolveMetric scope checks
  | .int _ | .count | .docId =>
    rw [DocMetric.resolve]
    exact .pure
  | .negate m | .abs m | .signum m | .log m _ | .exp m _ =>
    rw [DocMetric.resolve]
    exact .map (DocMetric.clears_resolve checks scope m)
  | .binary _ left right =>
    rw [DocMetric.resolve]
    exact .bind (DocMetric.clears_resolve checks scope left) fun _ =>
      .map (DocMetric.clears_resolve checks scope right)
  | .min ms | .max ms =>
    rw [DocMetric.resolve]
    exact .map (DocMetric.clears_resolveAll checks scope ms)
  | .hasInt n _ | .hasString n _ | .hasIntField n | .hasStringField n | .length n | .intTermCount n
  | .stringTermCount n | .floatScale n .. =>
    rw [DocMetric.resolve]
    exact n.clears_probe scope _
  | .extract n pattern _ =>
    rw [DocMetric.resolve]
    exact .after (ensures_checkPattern pattern) fun _ => n.clears_probe scope _
  | .ifThenElse condition yes no =>
    rw [DocMetric.resolve]
    exact .bind (DocFilter.clears_resolve checks scope condition) fun _ =>
      .bind (DocMetric.clears_resolve checks scope yes) fun _ =>
        .map (DocMetric.clears_resolve checks scope no)

theorem DocMetric.clears_resolveAll (checks : r.Checks Q) (scope : Scope) (ms : List DocMetric) :
    Clears Q (DocMetric.resolveAll r scope ms) (DocMetric.namesOfAll scope ms) := by
  match ms with
  | [] =>
    rw [DocMetric.resolveAll]
    exact .pure
  | m :: rest =>
    rw [DocMetric.resolveAll]
    exact .bind (DocMetric.clears_resolve checks scope m) fun _ =>
      .map (DocMetric.clears_resolveAll checks scope rest)

/-- Every name in a document filter is resolved. -/
theorem DocFilter.clears_resolve (checks : r.Checks Q) (scope : Scope) (f : DocFilter) :
    Clears Q (f.resolve r scope) (f.names scope) := by
  match f with
  | .fieldIs n term negated =>
    rw [DocFilter.resolve]
    refine .after (n.ensures_isDimension scope) fun isDimension => ?_
    split
    · exact n.clears_dimensionIs scope checks term negated
    · exact n.clears_fieldIs scope term negated
  | .regex n pattern _ =>
    rw [DocFilter.resolve]
    refine .after (n.ensures_isDimension scope) fun isDimension => ?_
    split
    · exact .standIn
    · exact .after (ensures_checkPattern pattern) fun _ => .map (n.clears_resolveField scope)
  | .fieldIn n terms _ =>
    rw [DocFilter.resolve]
    exact .map (n.clears_fieldFilter scope fun field =>
      n.ensures_termsFilter scope.resolver field terms _)
  | .between n lower upper =>
    rw [DocFilter.resolve]
    exact n.clears_fieldFilter scope (R := fun _ _ => True) fun _ => .pure trivial
  | .compare _ left right =>
    rw [DocFilter.resolve]
    exact .bind (DocMetric.clears_resolve checks scope left) fun _ =>
      .map (DocMetric.clears_resolve checks scope right)
  | .lucene text =>
    rw [DocFilter.resolve]
    exact .nothing (@ensures_indexFilter scope.resolver text scope)
  | .sample n _ _ _ =>
    rw [DocFilter.resolve]
    exact .after .checked fun _ => .map (n.clears_resolveField scope)
  | .bool value =>
    cases value <;>
    · rw [DocFilter.resolve]
      exact .pure
  | .and fs | .or fs =>
    rw [DocFilter.resolve]
    exact .map (DocFilter.clears_resolveAll checks scope fs)
  | .not f =>
    rw [DocFilter.resolve]
    exact .map (DocFilter.clears_resolve checks scope f)
  | .qualified datasets f =>
    rw [DocFilter.resolve]
    exact clears_narrow datasets (DocFilter.names · f) fun _ =>
      .map (DocFilter.clears_resolve checks _ f)

theorem DocFilter.clears_resolveAll (checks : r.Checks Q) (scope : Scope) (fs : List DocFilter) :
    Clears Q (DocFilter.resolveAll r scope fs) (DocFilter.namesOfAll scope fs) := by
  match fs with
  | [] =>
    rw [DocFilter.resolveAll]
    exact .pure
  | f :: rest =>
    rw [DocFilter.resolveAll]
    exact .bind (DocFilter.clears_resolve checks scope f) fun _ =>
      .map (DocFilter.clears_resolveAll checks scope rest)

end

end Query

/-! ## Expansions that come back -/

namespace Resolution

variable {expand : String → Scope → Reporting Doc.Metric} {o : Opening}

/-- A dimension leads to one that is being expanded, at once or through further ones. -/
def Opening.Recurs (o : Opening) : Prop :=
  ∃ later, Relation.ReflTransGen Opening.Leads o later ∧ later.Again

theorem Opening.recurs_iff : o.Recurs ↔ o.Again ∨ ∃ next, o.Leads next ∧ next.Recurs := by
  constructor
  · rintro ⟨later, leads, again⟩
    rcases leads.cases_head with rfl | ⟨next, first, rest⟩
    · exact .inl again
    · exact .inr ⟨next, first, later, rest, again⟩
  · rintro (again | ⟨next, first, later, rest, again⟩)
    · exact ⟨o, .refl, again⟩
    · exact ⟨later, .head first rest, again⟩

theorem ensures_entryMetric_names {dataset : String}
    (checks : Checks ⟨settings, expand⟩ Q) :
    Ensures (entryMetric ⟨settings, expand⟩ o.scope o.name dataset) fun _ =>
      ForDimensions (o.namesIn dataset) Q := by
  unfold entryMetric
  dsimp only
  split
  · rename_i field
    rw [Opening.namesIn_of_field field]
    exact .bind ((o.scope.narrow [dataset]).ensures_field o.scope.resolver o.name) fun _ =>
      .pure fun _ => nofun
  · rename_i text stands
    split
    · rename_i m parsed
      rw [Opening.namesIn_of_parse stands parsed]
      exact m.clears_resolve checks _
    · exact .standIn

/-- Whatever the depth, an expansion that comes back is reported. -/
theorem ensures_expansion (settings : Settings) (depth : Nat) (o : Opening) :
    Ensures (expansion settings depth o.opened o.name o.scope) fun _ => ¬o.Recurs := by
  induction depth generalizing o with
  | zero => exact .standIn
  | succ depth ih =>
    by_cases again : o.Again
    · rw [expansion_of_again again]
      exact .standIn
    · rw [expansion_of_fresh again]
      have inner : Checks ⟨settings, expansion settings depth (o.opened ++ [o.name])⟩ fun name s =>
          ¬Opening.Recurs ⟨o.opened ++ [o.name], name, s⟩ := fun name s => ih ⟨_, name, s⟩
      refine .bind (.mapM_all o.scope.names fun dataset =>
        .bind (ensures_entryMetric_names inner) fun _ => .pure id) fun _ => .pure ?_
      intro below recurs
      rcases Opening.recurs_iff.mp recurs with here | ⟨next, leads, later⟩
      · exact again here
      · obtain ⟨inScope, named, dimension⟩ := leads
        exact below _ inScope _ named dimension later

end Resolution

/-! ## Queries -/

namespace Query

mutual

/-- The names in a group metric that can be those of dimensions. A bare name is that of another
metric first. -/
def Metric.names (scope : Scope) : Metric → List Occurrence
  | .number _ => []
  | .name n =>
    if n.scope.isNone && (scope.resolver.metricName? n.name).isSome then [] else [⟨n, scope⟩]
  | .docSum m => m.names scope
  | .negate m | .abs m | .log m | .floor m | .ceil m | .round m | .average m | .parent m | .lag _ m
  | .running m | .window _ m => m.names scope
  | .binary _ left right => left.names scope ++ right.names scope
  | .min ms | .max ms => Metric.namesOfAll scope ms
  | .distinct n having _ => ⟨n, scope⟩ :: Filter.namesOfOption scope having
  | .percentile n _ => [⟨n, scope⟩]
  | .fieldMin n metric | .fieldMax n metric => ⟨n, scope⟩ :: Metric.namesOfOption scope metric
  | .sumAcross grouping m => grouping.names scope ++ m.names scope
  | .ifThenElse condition yes no => condition.names scope ++ (yes.names scope ++ no.names scope)
  | .qualified datasets m => m.names (scope.narrowTo datasets)

def Metric.namesOfAll (scope : Scope) : List Metric → List Occurrence
  | [] => []
  | m :: rest => m.names scope ++ Metric.namesOfAll scope rest

def Metric.namesOfOption (scope : Scope) : Option Metric → List Occurrence
  | none => []
  | some m => m.names scope

/-- The names in a group filter that can be those of dimensions. -/
def Filter.names (scope : Scope) : Filter → List Occurrence
  | .compare _ left right => left.names scope ++ right.names scope
  | .termIs _ | .termRegex _ | .bool _ => []
  | .and fs | .or fs => Filter.namesOfAll scope fs
  | .not f => f.names scope

def Filter.namesOfAll (scope : Scope) : List Filter → List Occurrence
  | [] => []
  | f :: rest => f.names scope ++ Filter.namesOfAll scope rest

def Filter.namesOfOption (scope : Scope) : Option Filter → List Occurrence
  | none => []
  | some f => f.names scope

/-- The names in a grouping that can be those of dimensions. -/
def Grouping.names (scope : Scope) : Grouping → List Occurrence
  | .field n _ metric _ => ⟨n, scope⟩ :: Metric.namesOfOption scope metric
  | .fieldIn n _ _ | .quantiles n _ | .random n _ _ => [⟨n, scope⟩]
  | .bucket m .. => m.names scope
  | .time _ n _ => n.toList.map fun n => ⟨n, scope⟩
  | .dayOfWeek | .month | .dataset => []
  | .predicate f => f.names scope

end

/-- The names in a query that can be those of dimensions. -/
def names (scope : Scope) (q : Query) : List Occurrence :=
  q.filter.toList.flatMap (·.names scope) ++
    (q.stages.flatMap (fun s => s.grouping.names scope ++ Filter.namesOfOption scope s.having) ++
      q.selects.flatMap (·.metric.names scope))

theorem clears_resolveName (checks : r.Checks Q) (scope : Scope) (n : ScopedName) :
    Clears Q (resolveName r scope n) (Metric.names scope (.name n)) := by
  unfold resolveName Metric.names
  cases bare : n.scope.isNone with
  | false => exact .map (n.clears_resolveMetric scope checks)
  | true =>
    cases scope.resolver.metricName? n.name with
    | some metric => exact .pure
    | none => exact .map (n.clears_resolveMetric scope checks)

theorem clears_resolveOptionalField (scope : Scope) (n : Option ScopedName) :
    Clears Q (resolveOptionalField scope n) (n.toList.map fun n => ⟨n, scope⟩) := by
  cases n with
  | none => exact .pure
  | some n => exact .map (n.clears_resolveField scope)

theorem clears_termsGrouping {ν : Type} (n : ScopedName) (terms : List Term) (withDefault : Bool)
    (scope : Scope) :
    Clears Q (termsGrouping n terms withDefault scope : Reporting (Aggregate.Grouping ν))
      [⟨n, scope⟩] := by
  refine .before (R := fun _ _ => True) (n.clears_resolveField scope) fun field => ?_
  split
  · have noted (message : String) : Ensures (report message) fun _ => True :=
      Ensures.report.imp fun _ _ => trivial
    exact .bind (n.ensures_fittingTerms noted terms) fun _ => .pure fun _ => trivial
  · exact .pure trivial

mutual

/-- Every name in a group metric is resolved. -/
theorem Metric.clears_resolve (checks : r.Checks Q) (scope : Scope) (m : Metric) :
    Clears Q (m.resolve r scope) (m.names scope) := by
  match m with
  | .number _ =>
    rw [Metric.resolve]
    exact .pure
  | .name n =>
    rw [Metric.resolve]
    exact clears_resolveName checks scope n
  | .docSum m =>
    rw [Metric.resolve]
    exact .map (m.clears_resolve checks scope)
  | .negate m | .abs m | .log m | .floor m | .ceil m | .round m | .average m | .parent m | .lag _ m
  | .running m =>
    rw [Metric.resolve]
    exact .map (Metric.clears_resolve checks scope m)
  | .binary _ left right =>
    rw [Metric.resolve]
    exact .bind (Metric.clears_resolve checks scope left) fun _ =>
      .map (Metric.clears_resolve checks scope right)
  | .min ms | .max ms =>
    rw [Metric.resolve]
    exact .map (Metric.clears_resolveAll checks scope ms)
  | .distinct n having _ =>
    rw [Metric.resolve]
    exact .bind (n.clears_resolveField scope) fun _ =>
      .map (Filter.clears_resolveOption checks scope having)
  | .percentile n percentile =>
    rw [Metric.resolve]
    exact .after (ensures_checkPercentile percentile) fun _ => .map (n.clears_resolveField scope)
  | .fieldMin n metric | .fieldMax n metric =>
    rw [Metric.resolve]
    exact .bind (n.clears_resolveField scope) fun _ =>
      .map (Metric.clears_resolveOption checks scope metric)
  | .window _ m =>
    rw [Metric.resolve]
    exact .check ((Clears.map (Metric.clears_resolve checks scope m)).imp fun _ h _ => h)
  | .sumAcross grouping m =>
    rw [Metric.resolve]
    exact .bind (Grouping.clears_resolve checks scope grouping) fun _ =>
      .map (Metric.clears_resolve checks scope m)
  | .ifThenElse condition yes no =>
    rw [Metric.resolve]
    exact .bind (Filter.clears_resolve checks scope condition) fun _ =>
      .bind (Metric.clears_resolve checks scope yes) fun _ =>
        .map (Metric.clears_resolve checks scope no)
  | .qualified datasets m =>
    rw [Metric.resolve]
    exact clears_narrow datasets (Metric.names · m) fun _ =>
      .map (Metric.clears_resolve checks _ m)

theorem Metric.clears_resolveAll (checks : r.Checks Q) (scope : Scope) (ms : List Metric) :
    Clears Q (Metric.resolveAll r scope ms) (Metric.namesOfAll scope ms) := by
  match ms with
  | [] =>
    rw [Metric.resolveAll]
    exact .pure
  | m :: rest =>
    rw [Metric.resolveAll]
    exact .bind (Metric.clears_resolve checks scope m) fun _ =>
      .map (Metric.clears_resolveAll checks scope rest)

theorem Metric.clears_resolveOption (checks : r.Checks Q) (scope : Scope) (m : Option Metric) :
    Clears Q (Metric.resolveOption r scope m) (Metric.namesOfOption scope m) := by
  match m with
  | none =>
    rw [Metric.resolveOption]
    exact .pure
  | some m =>
    rw [Metric.resolveOption]
    exact .map (Metric.clears_resolve checks scope m)

/-- Every name in a group filter is resolved. -/
theorem Filter.clears_resolve (checks : r.Checks Q) (scope : Scope) (f : Filter) :
    Clears Q (f.resolve r scope) (f.names scope) := by
  match f with
  | .compare _ left right =>
    rw [Filter.resolve]
    exact .bind (Metric.clears_resolve checks scope left) fun _ =>
      .map (Metric.clears_resolve checks scope right)
  | .termIs _ =>
    rw [Filter.resolve]
    exact .pure
  | .termRegex pattern =>
    rw [Filter.resolve]
    exact .after (ensures_checkPattern pattern) fun _ => .pure
  | .bool value =>
    cases value <;>
    · rw [Filter.resolve]
      exact .pure
  | .and fs | .or fs =>
    rw [Filter.resolve]
    exact .map (Filter.clears_resolveAll checks scope fs)
  | .not f =>
    rw [Filter.resolve]
    exact .map (Filter.clears_resolve checks scope f)

theorem Filter.clears_resolveAll (checks : r.Checks Q) (scope : Scope) (fs : List Filter) :
    Clears Q (Filter.resolveAll r scope fs) (Filter.namesOfAll scope fs) := by
  match fs with
  | [] =>
    rw [Filter.resolveAll]
    exact .pure
  | f :: rest =>
    rw [Filter.resolveAll]
    exact .bind (Filter.clears_resolve checks scope f) fun _ =>
      .map (Filter.clears_resolveAll checks scope rest)

theorem Filter.clears_resolveOption (checks : r.Checks Q) (scope : Scope) (f : Option Filter) :
    Clears Q (Filter.resolveOption r scope f) (Filter.namesOfOption scope f) := by
  match f with
  | none =>
    rw [Filter.resolveOption]
    exact .pure
  | some f =>
    rw [Filter.resolveOption]
    exact .map (Filter.clears_resolve checks scope f)

/-- Every name in a grouping is resolved. -/
theorem Grouping.clears_resolve (checks : r.Checks Q) (scope : Scope) (g : Grouping) :
    Clears Q (g.resolve r scope) (g.names scope) := by
  match g with
  | .field n limit metric withDefault =>
    have terms : Clears Q (do
        let field ← n.resolveField scope
        let metric ← Metric.resolveOption r scope metric
        pure (.topTerms field none limit metric withDefault : Aggregate.Grouping Float))
        (⟨n, scope⟩ :: Metric.namesOfOption scope metric) :=
      .bind (n.clears_resolveField scope) fun _ =>
        .map (Metric.clears_resolveOption checks scope metric)
    cases limit with
    | none =>
      simp only [Grouping.resolve]
      exact terms
    | some limit =>
      simp only [Grouping.resolve]
      exact .after (ensures_checkGroupCount limit _) fun _ => terms
  | .fieldIn n terms withDefault =>
    rw [Grouping.resolve]
    exact clears_termsGrouping n terms withDefault scope
  | .bucket m min max interval _ _ =>
    rw [Grouping.resolve]
    exact .after (ensures_checkBuckets min max interval) fun _ =>
      .map (m.clears_resolve checks scope)
  | .time period n format =>
    rw [Grouping.resolve]
    exact .before (clears_resolveOptionalField scope n) fun field =>
      ensures_timeGrouping period field format
  | .dayOfWeek | .month | .dataset =>
    rw [Grouping.resolve]
    exact .pure
  | .quantiles n _ =>
    rw [Grouping.resolve]
    exact .map (n.clears_resolveField scope)
  | .predicate f =>
    rw [Grouping.resolve]
    exact .map (f.clears_resolve checks scope)
  | .random n parts salt =>
    rw [Grouping.resolve]
    exact .check ((Clears.map (n.clears_resolveField scope)).imp fun _ h _ => h)

end

/-- The expansion of a dimension reaches one that is being expanded. -/
def Circular (name : String) (scope : Scope) : Prop := Opening.Recurs ⟨[], name, scope⟩

/-- Some name is that of a circular dimension where it is looked up. -/
def Circles (names : List Occurrence) : Prop :=
  ∃ o ∈ names, o.name.IsDimension o.scope ∧ Circular o.name.name (o.name.within o.scope)

theorem errors_of_circles {α : Type} {x : Reporting α} {names : α → List Occurrence}
    (cleared : Ensures x fun a => ForDimensions (names a) fun name s => ¬Circular name s)
    (found : Findings) (circles : Circles (names (x.run found).1)) :
    (x.run found).2.errors ≠ [] := by
  intro none
  obtain ⟨o, ho, dimension, circular⟩ := circles
  exact (cleared found none).2 o ho dimension circular

theorem checks_ofResolver (settings : Settings) (resolver : Resolver) :
    (ofResolver settings resolver).Checks fun name s => ¬Circular name s :=
  fun name s => ensures_expansion settings _ ⟨[], name, s⟩

theorem clears_resolveFilter (checks : r.Checks Q) (scope : Scope) (f : Option DocFilter) :
    Clears Q (resolveFilter r scope f) (f.toList.flatMap (·.names scope)) := by
  cases f with
  | none => exact .pure
  | some f =>
    rw [Option.toList_some, List.flatMap_singleton]
    exact .map (f.clears_resolve checks scope)

theorem Stage.clears_resolve (checks : r.Checks Q) (scope : Scope) (s : Stage) :
    Clears Q (s.resolve r scope) (s.grouping.names scope ++ Filter.namesOfOption scope s.having) :=
  .bind (s.grouping.clears_resolve checks scope) fun _ =>
    .map (Filter.clears_resolveOption checks scope s.having)

theorem Select.clears_resolve (checks : r.Checks Q) (scope : Scope) (s : Select) :
    Clears Q (s.resolve r scope) (s.metric.names scope) :=
  .map (s.metric.clears_resolve checks scope)

/-- A plan without errors is one of a query without circular dimensions. -/
theorem ensures_not_circular (catalog : Catalog) (settings : Settings) (now : Timestamp)
    (q : Query) :
    Ensures (q.resolve catalog settings now) fun (_, resolver) =>
      ForDimensions (q.names resolver.scope) fun name s => ¬Circular name s := by
  refine .bind (.mapM_forall₂ q.sources (From.ensures_source now)) fun typed =>
    .bind (Resolver.ensures_ofSources catalog typed _) fun (resolver, sources) => ?_
  have checks := checks_ofResolver settings resolver
  refine .bind (clears_resolveFilter checks resolver.scope q.filter) fun _ =>
    .bind (Clears.mapM q.stages (Stage.clears_resolve checks resolver.scope)) fun _ =>
      .bind (Clears.mapM q.selects (Select.clears_resolve checks resolver.scope)) fun _ =>
        .pure fun selects stages filter _ _ => ?_
  exact forDimensions_append.mpr ⟨filter, forDimensions_append.mpr ⟨stages, selects⟩⟩

variable {catalog : Catalog} {now : Timestamp} {q : Query} {planned : Planned}

theorem compile_of_errors (h : q.plan catalog settings now = .ok planned)
    (errors : planned.found.errors ≠ []) :
    q.compile catalog settings now = .error (.validation planned.found.errors) := by
  rw [compile, h]
  show planned.found.toExcept >>= _ = _
  rw [Findings.toExcept, if_neg (by simpa using errors)]
  rfl

/-- Every dimension is expanded, and every document expression lowered, by a finite tree of
dimensions, whatever the expressions of the catalog are. Where the tree comes back to a dimension
that is being expanded, an error is noted, and a query in which that happens is not compiled. -/
theorem expansion_ends_and_circles_are_reported (settings : Settings) :
    (∀ name scope result, Expanded settings ⟨[], name, scope⟩ result ↔
      (ofResolver settings scope.resolver).expand name scope = result) ∧
    (∀ (m : DocMetric) scope result, m.Lowered settings scope result ↔
      m.resolve (ofResolver settings scope.resolver) scope = result) ∧
    (∀ (f : DocFilter) scope result, f.Lowered settings scope result ↔
      f.resolve (ofResolver settings scope.resolver) scope = result) ∧
    (∀ (m : DocMetric) scope, Circles (m.names scope) → ∀ found,
      ((m.resolve (ofResolver settings scope.resolver) scope).run found).2.errors ≠ []) ∧
    (∀ (f : DocFilter) scope, Circles (f.names scope) → ∀ found,
      ((f.resolve (ofResolver settings scope.resolver) scope).run found).2.errors ≠ []) ∧
    ∀ catalog now q planned, plan catalog settings now q = .ok planned →
      Circles (q.names planned.resolver.scope) → planned.found.errors ≠ [] ∧
        q.compile catalog settings now = .error (.validation planned.found.errors) := by
  refine ⟨fun _ _ _ => expanded_iff, fun _ _ _ => DocMetric.lowered_iff,
    fun _ _ _ => DocFilter.lowered_iff, fun m scope => ?_, fun f scope => ?_, ?_⟩
  · exact fun circles found => errors_of_circles
      (m.clears_resolve (checks_ofResolver settings _) scope) found circles
  · exact fun circles found => errors_of_circles
      (f.clears_resolve (checks_ofResolver settings _) scope) found circles
  · intro catalog now q planned h circles
    obtain ⟨moment, run⟩ := run_resolve_of_plan h
    have errors := errors_of_circles (q.ensures_not_circular catalog settings moment) {}
    rw [run] at errors
    exact ⟨errors circles, compile_of_errors h (errors circles)⟩

/-- Two dimensions that stand for each other are found to be circular in any letter case, next to
one that cannot be parsed. -/
theorem expansion_ends_and_circles_are_reported_rates :
    let ads : Dataset := {
      name := "ads", intFields := ["clicks"]
      dimensions := [("broken", "+"), ("ctr", "RATE"), ("Rate", "Ctr")] }
    let catalog : Catalog := { datasets := [ads] }
    let q : Query := {
      sources := [{ name := "ads" }]
      selects := [{ metric := .docSum (.name ⟨none, "CTR"⟩) },
        { metric := .docSum (.name ⟨none, "broken"⟩) }] }
    ∃ planned, plan catalog {} default q = .ok planned ∧
      Circles (q.names planned.resolver.scope) ∧
      planned.found.errors = ["Dimension defined in terms of itself: CTR -> RATE -> Ctr",
        "Invalid dimension 'broken' in \"ads\": Parse error at line 1, column 1: " ++
          "Unexpected input: '+'"] ∧
      q.compile catalog {} default = .error (.validation planned.found.errors) := by
  intro ads catalog q
  let resolver : Resolver := { entries := [("ads", ⟨ads, [], true⟩)] }
  have seen : (plan catalog {} default q).toOption.map (fun p => (p.resolver, p.found.errors)) =
      some (resolver, ["Dimension defined in terms of itself: CTR -> RATE -> Ctr",
        "Invalid dimension 'broken' in \"ads\": Parse error at line 1, column 1: " ++
          "Unexpected input: '+'"]) := by
    decide +kernel
  obtain ⟨planned, made, seen⟩ := Option.map_eq_some_iff.mp seen
  obtain ⟨known, errors⟩ := Prod.mk.inj seen
  have made := eq_ok_of_toOption made
  have ctr : Opening.Leads ⟨[], "CTR", resolver.scope⟩ ⟨["CTR"], "RATE", resolver.scope⟩ :=
    @Opening.Leads.named ⟨[], "CTR", resolver.scope⟩ "ads" ⟨⟨none, "RATE"⟩, resolver.scope⟩
      (.head _) (by decide +kernel) (by decide +kernel)
  have rate : Opening.Leads ⟨["CTR"], "RATE", resolver.scope⟩
      ⟨["CTR", "RATE"], "Ctr", resolver.scope⟩ :=
    @Opening.Leads.named ⟨["CTR"], "RATE", resolver.scope⟩ "ads" ⟨⟨none, "Ctr"⟩, resolver.scope⟩
      (.head _) (by decide +kernel) (by decide +kernel)
  have circles : Circles (q.names planned.resolver.scope) := by
    rw [known]
    exact ⟨⟨⟨none, "CTR"⟩, resolver.scope⟩, .head _, by decide +kernel,
      ⟨["CTR", "RATE"], "Ctr", resolver.scope⟩, .head ctr (.single rate), by decide +kernel⟩
  exact ⟨planned, made, circles, errors,
    ((expansion_ends_and_circles_are_reported {}).2.2.2.2.2 _ _ _ _ made circles).2⟩

end Query

end Groupwise
