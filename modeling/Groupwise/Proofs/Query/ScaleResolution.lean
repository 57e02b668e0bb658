import Groupwise.Proofs.Query.LiteralReading
import Groupwise.Proofs.Query.PlannedScales
import Groupwise.Proofs.Query.Resolution
import Groupwise.Query.Planning

/-!
# Resolution keeps the scales

A resolved expression has the scales of the expression that it comes from and those of the
dimensions that were expanded, each around what the scaled metric was resolved to. Names that cannot
be resolved do not matter here, for what stands in for them has no scales.
-/
namespace Groupwise

open Query (Scaling)

/-! ## Results of resolution -/

/-- Whatever was noted before, the result of a computation has a property. -/
structure Always {α : Type} (x : Reporting α) (Q : α → Prop) : Prop where
  result : ∀ found : Findings, Q (x.run found).1

namespace Always

variable {α β : Type} {x : Reporting α} {k : α → Reporting β} {P : α → Prop} {R : β → Prop}

theorem pure {a : α} (h : P a) : Always (Pure.pure a) P := ⟨fun _ => h⟩

theorem bind (hx : Always x P) (hk : ∀ a, P a → Always (k a) R) : Always (x >>= k) R :=
  ⟨fun found => (hk _ (hx.result found)).result _⟩

/-- What stands behind a computation has a property whatever the computation gives. -/
theorem behind (hk : ∀ a, Always (k a) R) : Always (x >>= k) R := ⟨fun _ => (hk _).result _⟩

theorem check {c : Prop} [Decidable c] {message : String} (hx : Always x P) :
    Always (if c then do report message; x else x) P := by
  split
  · exact behind fun _ => hx
  · exact hx

theorem mapM {f : α → Reporting β} (as : List α) (h : ∀ a ∈ as, Always (f a) R) :
    Always (as.mapM f) fun bs => ∀ b ∈ bs, R b := by
  induction as with
  | nil => exact pure nofun
  | cons a rest ih =>
    rw [List.forall_mem_cons] at h
    rw [List.mapM_cons]
    exact bind h.1 fun _ first => bind (ih h.2) fun _ others =>
      pure (List.forall_mem_cons.mpr ⟨first, others⟩)

end Always

/-- What stands for dimensions has scales of some kind, and what a scaled metric is resolved to has
the scale of the metric. -/
structure Resolution.Carries (resolver : Resolver) (Q : Scaling → Query.DocMetric → Int → Prop)
    (Q' : Scaling → Doc.Metric → Int → Prop) (r : Resolution) : Prop where
  expand : ∀ name scope, scope.resolver = resolver →
    Always (r.expand name scope) (Doc.Metric.EachScale Q')
  scaled : ∀ f m scale scope found, scope.resolver = resolver → Q f m scale →
    Q' f ((Query.DocMetric.resolve r scope m).run found).1 scale

variable {resolver : Resolver} {r : Resolution} {Q : Scaling → Query.DocMetric → Int → Prop}
  {Q' : Scaling → Doc.Metric → Int → Prop}

namespace ScopedName

variable (n : ScopedName) (scope : Scope)

theorem always_scopeWithin :
    Always (n.scopeWithin scope) fun within => within.resolver = scope.resolver := by
  unfold scopeWithin
  split
  · exact .pure rfl
  · exact .behind fun _ => .pure rfl

theorem always_resolveMetric (carries : r.Carries resolver Q Q') (hs : scope.resolver = resolver) :
    Always (n.resolveMetric r scope) (Doc.Metric.EachScale Q') := by
  refine .bind (always_scopeWithin n scope) fun within same => ?_
  dsimp only
  split
  · refine .bind (carries.expand _ _ (same.trans hs)) fun m hm => .pure ?_
    split
    · split <;> exact hm
    · exact hm
  · refine .bind (P := Doc.Metric.EachScale Q') ⟨fun _ => trivial⟩ fun m hm => .pure ?_
    split
    · split <;> exact hm
    · exact hm

theorem always_probe {make : FieldSet → Doc.Metric} (made : ∀ f, (make f).EachScale Q') :
    Always (n.probe scope make) (Doc.Metric.EachScale Q') := by
  refine .behind fun field => ?_
  unfold qualifyMetric
  split
  · exact .pure (made field)
  split
  · rename_i q hq
    refine .pure ?_
    unfold FieldSet.qualifyMetric at hq
    split at hq
    · exact Except.ok.inj hq ▸ made field
    split at hq
    · exact Except.ok.inj hq ▸ made field
    · cases hq
  · exact .behind fun _ => .pure trivial

theorem eachScale_qualifyFilter {field : FieldSet} {f : Doc.Filter} (h : f.EachScale Q') :
    (n.qualifyFilter field f).EachScale Q' := by
  unfold qualifyFilter FieldSet.qualifyFilter
  split
  · split <;> exact h
  · exact h

theorem always_dimensionIs (carries : r.Carries resolver Q Q') (hs : scope.resolver = resolver)
    (term : Term) (negated : Bool) :
    Always (n.dimensionIs r term negated scope) (Doc.Filter.EachScale Q') := by
  unfold dimensionIs
  split
  · exact .bind (always_resolveMetric n scope carries hs) fun _ hm => .pure ⟨hm, trivial⟩
  · exact .behind fun _ => .pure trivial

theorem always_fieldIs (term : Term) (negated : Bool) :
    Always (n.fieldIs term negated scope) (Doc.Filter.EachScale Q') := by
  refine .behind fun field => ?_
  have result : (n.qualifyFilter field
      (if negated then .isntTerm field term (scope.isIntField field)
        else .isTerm field term (scope.isIntField field))).EachScale Q' := by
    refine eachScale_qualifyFilter n ?_
    unfold Doc.Filter.isntTerm Doc.Filter.isTerm
    split <;> split <;> trivial
  dsimp only
  split
  · exact .behind fun _ => .pure result
  · exact .pure result

theorem always_termsFilter (field : FieldSet) (terms : List Term) (isInt : Bool) :
    Always (n.termsFilter field terms isInt) (Doc.Filter.EachScale Q') := by
  unfold termsFilter
  split
  · exact .behind fun _ => .pure (by split <;> trivial)
  · exact .pure (by split <;> trivial)

theorem always_fieldFilter {make : FieldSet → Reporting Doc.Filter}
    (made : ∀ field, Always (make field) (Doc.Filter.EachScale Q')) :
    Always (n.fieldFilter scope make) (Doc.Filter.EachScale Q') := by
  refine .behind fun isDimension => ?_
  split
  · exact .behind fun _ => .pure trivial
  · exact .behind fun field => .bind (made field) fun _ hf => .pure (eachScale_qualifyFilter n hf)

end ScopedName

namespace Query

theorem always_indexFilter (text : String) (scope : Scope) :
    Always (indexFilter text scope) (Doc.Filter.EachScale Q') := by
  unfold indexFilter
  split
  · exact .behind fun _ => .pure trivial
  · exact .behind fun _ => .pure trivial

theorem eachScale_make (op : DocOperator) {left right : Doc.Metric} (hl : left.EachScale Q')
    (hr : right.EachScale Q') : (op.make left right).EachScale Q' := by
  cases op with
  | add =>
    refine Doc.Metric.eachScale_sum ?_
    simpa using ⟨hl, hr⟩
  | arithmetic op => exact ⟨hl, hr⟩

mutual

/-- What a document metric is resolved to has its scales and those of dimensions. -/
theorem DocMetric.always_resolve (carries : r.Carries resolver Q Q') {scope : Scope}
    (hs : scope.resolver = resolver) (m : DocMetric) (h : m.EachScale Q) :
    Always (m.resolve r scope) (Doc.Metric.EachScale Q') := by
  match m with
  | .name n =>
    rw [DocMetric.resolve]
    exact n.always_resolveMetric scope carries hs
  | .int _ | .count | .docId =>
    rw [DocMetric.resolve]
    exact .pure trivial
  | .negate m | .abs m | .signum m =>
    rw [DocMetric.resolve]
    exact .bind (DocMetric.always_resolve carries hs m h) fun _ hm => .pure hm
  | .log m scale =>
    rw [DocMetric.resolve]
    exact ⟨fun found => ⟨carries.scaled .log m scale scope found hs h.1,
      (DocMetric.always_resolve carries hs m h.2).result found⟩⟩
  | .exp m scale =>
    rw [DocMetric.resolve]
    exact ⟨fun found => ⟨carries.scaled .exp m scale scope found hs h.1,
      (DocMetric.always_resolve carries hs m h.2).result found⟩⟩
  | .binary op left right =>
    rw [DocMetric.resolve]
    exact .bind (DocMetric.always_resolve carries hs left h.1) fun _ hl =>
      .bind (DocMetric.always_resolve carries hs right h.2) fun _ hr =>
        .pure (eachScale_make op hl hr)
  | .min ms | .max ms =>
    rw [DocMetric.resolve]
    exact .bind (DocMetric.always_resolveAll carries hs ms h) fun _ hms =>
      .pure (Doc.Metric.eachScale_extreme hms)
  | .hasInt n _ | .hasString n _ | .hasIntField n | .hasStringField n | .length n | .intTermCount n
  | .stringTermCount n | .floatScale n .. =>
    rw [DocMetric.resolve]
    exact n.always_probe scope fun _ => trivial
  | .extract n pattern _ =>
    rw [DocMetric.resolve]
    exact .behind fun _ => n.always_probe scope fun _ => trivial
  | .ifThenElse condition yes no =>
    rw [DocMetric.resolve]
    exact .bind (DocFilter.always_resolve carries hs condition h.1) fun _ hc =>
      .bind (DocMetric.always_resolve carries hs yes h.2.1) fun _ hy =>
        .bind (DocMetric.always_resolve carries hs no h.2.2) fun _ hn => .pure ⟨hc, hy, hn⟩

theorem DocMetric.always_resolveAll (carries : r.Carries resolver Q Q') {scope : Scope}
    (hs : scope.resolver = resolver) (ms : List DocMetric) (h : DocMetric.EachScaleOfAll Q ms) :
    Always (DocMetric.resolveAll r scope ms) fun ms' => ∀ m ∈ ms', m.EachScale Q' := by
  match ms with
  | [] =>
    rw [DocMetric.resolveAll]
    exact .pure nofun
  | m :: rest =>
    rw [DocMetric.resolveAll]
    exact .bind (DocMetric.always_resolve carries hs m h.1) fun _ hm =>
      .bind (DocMetric.always_resolveAll carries hs rest h.2) fun _ hrest =>
        .pure (List.forall_mem_cons.mpr ⟨hm, hrest⟩)

/-- What a document filter is resolved to has its scales and those of dimensions. -/
theorem DocFilter.always_resolve (carries : r.Carries resolver Q Q') {scope : Scope}
    (hs : scope.resolver = resolver) (f : DocFilter) (h : f.EachScale Q) :
    Always (f.resolve r scope) (Doc.Filter.EachScale Q') := by
  match f with
  | .fieldIs n term negated =>
    rw [DocFilter.resolve]
    refine .behind fun isDimension => ?_
    split
    · exact n.always_dimensionIs scope carries hs term negated
    · exact n.always_fieldIs scope term negated
  | .regex n pattern negated =>
    rw [DocFilter.resolve]
    refine .behind fun isDimension => ?_
    split
    · exact .behind fun _ => .pure trivial
    · refine .behind fun _ => .behind fun field => .pure (n.eachScale_qualifyFilter ?_)
      cases negated <;> trivial
  | .fieldIn n terms negated =>
    rw [DocFilter.resolve]
    refine .bind (P := Doc.Filter.EachScale Q')
      (n.always_fieldFilter scope fun field => n.always_termsFilter field terms _)
      fun f hf => .pure ?_
    cases negated <;> exact hf
  | .between n lower upper =>
    rw [DocFilter.resolve]
    exact n.always_fieldFilter scope fun _ => .pure trivial
  | .compare _ left right =>
    rw [DocFilter.resolve]
    exact .bind (DocMetric.always_resolve carries hs left h.1) fun _ hl =>
      .bind (DocMetric.always_resolve carries hs right h.2) fun _ hr => .pure ⟨hl, hr⟩
  | .lucene text =>
    rw [DocFilter.resolve]
    exact always_indexFilter text scope
  | .sample n numerator denominator seed =>
    rw [DocFilter.resolve]
    exact .behind fun _ => .behind fun _ => .pure (n.eachScale_qualifyFilter trivial)
  | .bool value =>
    cases value <;>
    · rw [DocFilter.resolve]
      exact .pure trivial
  | .and fs =>
    rw [DocFilter.resolve]
    exact .bind (DocFilter.always_resolveAll carries hs fs h) fun _ hfs =>
      .pure (Doc.Filter.eachScale_all hfs)
  | .or fs =>
    rw [DocFilter.resolve]
    exact .bind (DocFilter.always_resolveAll carries hs fs h) fun _ hfs =>
      .pure (Doc.Filter.eachScale_any hfs)
  | .not f =>
    rw [DocFilter.resolve]
    exact .bind (DocFilter.always_resolve carries hs f h) fun _ hf => .pure hf
  | .qualified datasets f =>
    rw [DocFilter.resolve]
    refine .behind fun names => ?_
    have same : (scope.narrow names).resolver = resolver := hs
    refine .bind (DocFilter.always_resolve carries same f h) fun inner hf => .pure ?_
    split <;> exact hf

theorem DocFilter.always_resolveAll (carries : r.Carries resolver Q Q') {scope : Scope}
    (hs : scope.resolver = resolver) (fs : List DocFilter) (h : DocFilter.EachScaleOfAll Q fs) :
    Always (DocFilter.resolveAll r scope fs) fun fs' => ∀ f ∈ fs', f.EachScale Q' := by
  match fs with
  | [] =>
    rw [DocFilter.resolveAll]
    exact .pure nofun
  | f :: rest =>
    rw [DocFilter.resolveAll]
    exact .bind (DocFilter.always_resolve carries hs f h.1) fun _ hf =>
      .bind (DocFilter.always_resolveAll carries hs rest h.2) fun _ hrest =>
        .pure (List.forall_mem_cons.mpr ⟨hf, hrest⟩)

end

end Query

/-! ## Dimensions -/

/-- A text is the expression of a dimension in a dataset that a resolver knows. -/
def Resolver.DefinesDimension (resolver : Resolver) (expression : String) : Prop :=
  ∃ dataset entry name, resolver.entries.find? dataset = some entry ∧
    (name, expression) ∈ entry.dataset.dimensions

theorem Resolver.definesDimension_of_dimension? {scope : Scope} {dataset name expression : String}
    (hs : scope.resolver = resolver) (h : scope.dimension? dataset name = some expression) :
    resolver.DefinesDimension expression := by
  obtain ⟨entry, found, h⟩ := Option.bind_eq_some_iff.mp h
  unfold Entry.dimension? at h
  split at h
  · cases h
  · obtain ⟨⟨typed, _⟩, there, rfl⟩ := Option.map_eq_some_iff.mp h
    exact ⟨dataset, entry, typed, hs ▸ found, List.mem_of_find?_eq_some there⟩

namespace Resolution

/-- A metric of a query is resolved to a metric of its plan, while some dimensions are being
expanded or none. -/
def Resolves (settings : Settings) (resolver : Resolver) (m : Query.DocMetric)
    (m' : Doc.Metric) : Prop :=
  ∃ depth opened scope found, scope.resolver = resolver ∧
    ((m.resolve ⟨settings, expansion settings depth opened⟩ scope).run found).1 = m'

variable {settings : Settings}

theorem always_entryMetric (dimensions : ∀ expression, resolver.DefinesDimension expression →
      ∀ f m scale, Query.Grammar.ScaleWritten expression.toList f m scale → Q f m scale)
    (carries : r.Carries resolver Q Q') {scope : Scope} (hs : scope.resolver = resolver)
    (name dataset : String) :
    Always (r.entryMetric scope name dataset) (Doc.Metric.EachScale Q') := by
  have same : (scope.narrow [dataset]).resolver = resolver := hs
  unfold entryMetric
  dsimp only
  split
  · exact .behind fun _ => .pure trivial
  · rename_i expression found
    have defined := Resolver.definesDimension_of_dimension? same found
    split
    · rename_i metric parsed
      exact metric.always_resolve carries same
        (Query.DocMetric.eachScale_of_parse (dimensions _ defined) parsed)
    · exact .behind fun _ => .pure trivial

/-- However many dimensions may still be opened, the scales of what stands for them are written in
their expressions. -/
theorem carries_expansion (dimensions : ∀ expression, resolver.DefinesDimension expression →
      ∀ f m scale, Query.Grammar.ScaleWritten expression.toList f m scale → Q f m scale)
    (scaled : ∀ f m scale m', Q f m scale → Resolves settings resolver m m' → Q' f m' scale)
    (depth : Nat) (opened : List String) :
    Carries resolver Q Q' ⟨settings, expansion settings depth opened⟩ := by
  refine ⟨?_, fun f m scale scope found hs written =>
    scaled f m scale _ written ⟨depth, opened, scope, found, hs, rfl⟩⟩
  induction depth generalizing opened with
  | zero => exact fun name scope _ => .behind fun _ => .pure trivial
  | succ depth ih =>
    intro name scope hs
    have inner : Carries resolver Q Q'
        ⟨settings, expansion settings depth (opened ++ [name])⟩ :=
      ⟨ih _, fun f m scale scope found hs written =>
        scaled f m scale _ written ⟨depth, _, scope, found, hs, rfl⟩⟩
    dsimp only
    rw [expansion]
    split
    · exact .behind fun _ => .pure trivial
    · refine .bind (.mapM (R := fun e => e.2.EachScale Q')
        scope.names fun dataset _ =>
          .bind (always_entryMetric dimensions inner hs name dataset) fun _ hm => .pure hm)
          fun metrics known => .pure ?_
      unfold join
      split
      · exact known _ (List.mem_singleton_self _)
      · exact Doc.Metric.eachScaleOfEntries_iff.mpr known

end Resolution

/-! ## Group expressions -/

namespace Query

variable {W : String → Prop}

theorem always_resolveName (carries : r.Carries resolver Q Q') {scope : Scope}
    (hs : scope.resolver = resolver) (n : ScopedName) :
    Always (resolveName r scope n) (Aggregate.Metric.EachScale Q') := by
  unfold resolveName
  split
  · exact .pure trivial
  · exact .bind (n.always_resolveMetric scope carries hs) fun _ hm => .pure hm

theorem eachScale_operate (op : Calculation) {left right : Aggregate.Metric Float}
    (hl : left.EachScale Q') (hr : right.EachScale Q') :
    (operate op left right).EachScale Q' := by
  cases op with
  | add =>
    refine Aggregate.Metric.eachScale_sum ?_
    simpa using ⟨hl, hr⟩
  | subtract | multiply | divide | modulus | power => exact ⟨hl, hr⟩

theorem eachScale_qualifyAggregate (n : ScopedName) {field : FieldSet}
    {m : Aggregate.Metric Float} (h : m.EachScale Q') :
    (n.qualifyAggregate field m).EachScale Q' := by
  unfold ScopedName.qualifyAggregate Aggregate.Metric.qualify
  split
  · split <;> exact h
  · exact h

theorem eachScale_topTerms {field : FieldSet} {limit : Option Nat}
    {metric : Option (Aggregate.Metric Float)} {withDefault : Bool}
    (h : Aggregate.Metric.EachScaleOfOption Q' metric) :
    (Aggregate.Grouping.topTerms field none limit metric withDefault).EachScale Q' := by
  refine ⟨trivial, ?_⟩
  cases metric with
  | some metric => cases limit <;> exact h
  | none => cases limit <;> trivial

theorem always_timeGrouping (period : String) (field : Option FieldSet) (format : Option String) :
    Always (timeGrouping period field format)
      fun g : Aggregate.Grouping Float => g.EachScale Q' := by
  unfold timeGrouping
  refine .check ?_
  split
  · exact .pure trivial
  split
  · exact .pure trivial
  · exact .check (.pure trivial)

theorem always_termsGrouping (n : ScopedName) (terms : List Term) (withDefault : Bool)
    (scope : Scope) :
    Always (termsGrouping n terms withDefault scope)
      fun g : Aggregate.Grouping Float => g.EachScale Q' := by
  refine .behind fun field => ?_
  split
  · exact .behind fun _ => .pure trivial
  · exact .pure trivial

theorem always_randomGrouping (n : ScopedName) (parts : Nat) (salt : Option String)
    (scope : Scope) :
    Always (randomGrouping n parts salt scope)
      fun g : Aggregate.Grouping Float => g.EachScale Q' :=
  .check (.behind fun _ => .pure trivial)

mutual

/-- What a group metric is resolved to has its scales and those of dimensions. -/
theorem Metric.always_resolve (carries : r.Carries resolver Q Q') {scope : Scope}
    (hs : scope.resolver = resolver) (m : Metric) (h : m.EachLiteral Q W) :
    Always (m.resolve r scope) (Aggregate.Metric.EachScale Q') := by
  match m with
  | .number _ =>
    rw [Metric.resolve]
    exact .pure trivial
  | .name n =>
    rw [Metric.resolve]
    exact always_resolveName carries hs n
  | .docSum m =>
    rw [Metric.resolve]
    exact .bind (m.always_resolve carries hs h) fun _ hm => .pure hm
  | .negate m | .abs m | .log m | .floor m | .ceil m | .round m | .average m | .parent m | .lag _ m
  | .running m =>
    rw [Metric.resolve]
    exact .bind (Metric.always_resolve carries hs m h) fun _ hm => .pure hm
  | .binary op left right =>
    rw [Metric.resolve]
    exact .bind (Metric.always_resolve carries hs left h.1) fun _ hl =>
      .bind (Metric.always_resolve carries hs right h.2) fun _ hr =>
        .pure (eachScale_operate op hl hr)
  | .min ms | .max ms =>
    rw [Metric.resolve]
    exact .bind (Metric.always_resolveAll carries hs ms h) fun _ hms => .pure hms
  | .distinct n having _ =>
    rw [Metric.resolve]
    exact .behind fun _ => .bind (Filter.always_resolveOption carries hs having h) fun _ hx =>
      .pure (eachScale_qualifyAggregate n hx)
  | .percentile n percentile =>
    rw [Metric.resolve]
    exact .behind fun _ => .behind fun _ => .pure (eachScale_qualifyAggregate n trivial)
  | .fieldMin n metric | .fieldMax n metric =>
    rw [Metric.resolve]
    exact .behind fun _ => .bind (Metric.always_resolveOption carries hs metric h) fun _ hm =>
      .pure (eachScale_qualifyAggregate n ⟨hm, trivial⟩)
  | .window size m =>
    rw [Metric.resolve]
    exact .check (.bind (Metric.always_resolve carries hs m h) fun _ hm => .pure hm)
  | .sumAcross grouping m =>
    rw [Metric.resolve]
    exact .bind (Grouping.always_resolve carries hs grouping h.1) fun _ hg =>
      .bind (Metric.always_resolve carries hs m h.2) fun _ hm => .pure ⟨hg, hm⟩
  | .ifThenElse condition yes no =>
    rw [Metric.resolve]
    exact .bind (Filter.always_resolve carries hs condition h.1) fun _ hc =>
      .bind (Metric.always_resolve carries hs yes h.2.1) fun _ hy =>
        .bind (Metric.always_resolve carries hs no h.2.2) fun _ hn => .pure ⟨hc, hy, hn⟩
  | .qualified datasets m =>
    rw [Metric.resolve]
    refine .behind fun names => ?_
    have same : (scope.narrow names).resolver = resolver := hs
    refine .bind (Metric.always_resolve carries same m h) fun inner hm => .pure ?_
    split <;> exact hm

theorem Metric.always_resolveAll (carries : r.Carries resolver Q Q') {scope : Scope}
    (hs : scope.resolver = resolver) (ms : List Metric) (h : Metric.EachLiteralOfAll Q W ms) :
    Always (Metric.resolveAll r scope ms) (Aggregate.Metric.EachScaleOfAll Q') := by
  match ms with
  | [] =>
    rw [Metric.resolveAll]
    exact .pure trivial
  | m :: rest =>
    rw [Metric.resolveAll]
    exact .bind (Metric.always_resolve carries hs m h.1) fun _ hm =>
      .bind (Metric.always_resolveAll carries hs rest h.2) fun _ hrest => .pure ⟨hm, hrest⟩

theorem Metric.always_resolveOption (carries : r.Carries resolver Q Q') {scope : Scope}
    (hs : scope.resolver = resolver) (m : Option Metric) (h : Metric.EachLiteralOfOption Q W m) :
    Always (Metric.resolveOption r scope m) (Aggregate.Metric.EachScaleOfOption Q') := by
  match m with
  | none =>
    rw [Metric.resolveOption]
    exact .pure trivial
  | some m =>
    rw [Metric.resolveOption]
    exact .bind (Metric.always_resolve carries hs m h) fun _ hm => .pure hm

/-- What a group filter is resolved to has its scales and those of dimensions. -/
theorem Filter.always_resolve (carries : r.Carries resolver Q Q') {scope : Scope}
    (hs : scope.resolver = resolver) (f : Filter) (h : f.EachLiteral Q W) :
    Always (f.resolve r scope) (Aggregate.Filter.EachScale Q') := by
  match f with
  | .compare _ left right =>
    rw [Filter.resolve]
    exact .bind (Metric.always_resolve carries hs left h.1) fun _ hl =>
      .bind (Metric.always_resolve carries hs right h.2) fun _ hr => .pure ⟨hl, hr⟩
  | .termIs _ =>
    rw [Filter.resolve]
    exact .pure trivial
  | .termRegex pattern =>
    rw [Filter.resolve]
    exact .behind fun _ => .pure trivial
  | .bool value =>
    cases value <;>
    · rw [Filter.resolve]
      exact .pure trivial
  | .and fs =>
    rw [Filter.resolve]
    exact .bind (Filter.always_resolveAll carries hs fs h) fun _ hfs =>
      .pure (Aggregate.Filter.eachScale_merge (c := .and) hfs)
  | .or fs =>
    rw [Filter.resolve]
    exact .bind (Filter.always_resolveAll carries hs fs h) fun _ hfs =>
      .pure (Aggregate.Filter.eachScale_merge (c := .or) hfs)
  | .not f =>
    rw [Filter.resolve]
    exact .bind (Filter.always_resolve carries hs f h) fun _ hf => .pure hf

theorem Filter.always_resolveAll (carries : r.Carries resolver Q Q') {scope : Scope}
    (hs : scope.resolver = resolver) (fs : List Filter) (h : Filter.EachLiteralOfAll Q W fs) :
    Always (Filter.resolveAll r scope fs) fun fs' => ∀ f ∈ fs', f.EachScale Q' := by
  match fs with
  | [] =>
    rw [Filter.resolveAll]
    exact .pure nofun
  | f :: rest =>
    rw [Filter.resolveAll]
    exact .bind (Filter.always_resolve carries hs f h.1) fun _ hf =>
      .bind (Filter.always_resolveAll carries hs rest h.2) fun _ hrest =>
        .pure (List.forall_mem_cons.mpr ⟨hf, hrest⟩)

theorem Filter.always_resolveOption (carries : r.Carries resolver Q Q') {scope : Scope}
    (hs : scope.resolver = resolver) (f : Option Filter) (h : Filter.EachLiteralOfOption Q W f) :
    Always (Filter.resolveOption r scope f) (Aggregate.Filter.EachScaleOfOption Q') := by
  match f with
  | none =>
    rw [Filter.resolveOption]
    exact .pure trivial
  | some f =>
    rw [Filter.resolveOption]
    exact .bind (Filter.always_resolve carries hs f h) fun _ hf => .pure hf

/-- What a grouping is resolved to has its scales and those of dimensions. -/
theorem Grouping.always_resolve (carries : r.Carries resolver Q Q') {scope : Scope}
    (hs : scope.resolver = resolver) (g : Grouping) (h : g.EachLiteral Q W) :
    Always (g.resolve r scope) (Aggregate.Grouping.EachScale Q') := by
  match g with
  | .field n limit metric withDefault =>
    have terms : Always (do
        let field ← n.resolveField scope
        let metric ← Metric.resolveOption r scope metric
        pure (.topTerms field none limit metric withDefault))
          (Aggregate.Grouping.EachScale Q') :=
      .behind fun _ => .bind (Metric.always_resolveOption carries hs metric h) fun _ hm =>
        .pure (eachScale_topTerms hm)
    cases limit with
    | none =>
      simp only [Grouping.resolve]
      exact terms
    | some limit =>
      simp only [Grouping.resolve]
      exact .behind fun _ => terms
  | .fieldIn n terms withDefault =>
    rw [Grouping.resolve]
    exact always_termsGrouping n terms withDefault scope
  | .bucket m min max interval _ _ =>
    rw [Grouping.resolve]
    exact .behind fun _ => .bind (m.always_resolve carries hs h) fun _ hm => .pure hm
  | .time period n format =>
    rw [Grouping.resolve]
    exact .behind fun field => always_timeGrouping period field format
  | .dayOfWeek | .month | .dataset =>
    rw [Grouping.resolve]
    exact .pure trivial
  | .quantiles n _ =>
    rw [Grouping.resolve]
    exact .behind fun _ => .pure trivial
  | .predicate f =>
    rw [Grouping.resolve]
    exact .bind (f.always_resolve carries hs h) fun _ hf => .pure hf
  | .random n parts salt =>
    rw [Grouping.resolve]
    exact always_randomGrouping n parts salt scope

end

/-! ## Plans -/

theorem always_resolveFilter (carries : r.Carries resolver Q Q') {scope : Scope}
    (hs : scope.resolver = resolver) (f : Option DocFilter) (h : ∀ g ∈ f, g.EachScale Q) :
    Always (resolveFilter r scope f) fun f' => ∀ g ∈ f', g.EachScale Q' := by
  cases f with
  | none => exact .pure nofun
  | some f =>
    refine .bind (f.always_resolve carries hs (h f rfl)) fun f' hf => .pure ?_
    rintro _ ⟨⟩
    exact hf

theorem Stage.always_resolve (carries : r.Carries resolver Q Q') {scope : Scope}
    (hs : scope.resolver = resolver) (s : Stage)
    (h : s.grouping.EachLiteral Q W ∧ Filter.EachLiteralOfOption Q W s.having) :
    Always (s.resolve r scope) fun s' =>
      s'.grouping.EachScale Q' ∧ Aggregate.Filter.EachScaleOfOption Q' s'.having :=
  .bind (s.grouping.always_resolve carries hs h.1) fun _ hg =>
    .bind (Filter.always_resolveOption carries hs s.having h.2) fun _ hx => .pure ⟨hg, hx⟩

theorem Select.always_resolve (carries : r.Carries resolver Q Q') {scope : Scope}
    (hs : scope.resolver = resolver) (s : Select) (h : s.metric.EachLiteral Q W) :
    Always (s.resolve r scope) (Aggregate.Metric.EachScale Q') := by
  refine .bind (s.metric.always_resolve carries hs h) fun m hm => .pure ?_
  split <;> exact hm

/-- The scales of a plan are those of the query and of dimensions that a dataset of the query
has. -/
theorem always_resolve (catalog : Catalog) (settings : Settings) (now : Timestamp) (q : Query) :
    Always (q.resolve catalog settings now) fun made =>
      ∀ (Q : Scaling → DocMetric → Int → Prop) (Q' : Scaling → Doc.Metric → Int → Prop)
        (W : String → Prop),
        (∀ expression, made.2.DefinesDimension expression →
          ∀ f m scale, Grammar.ScaleWritten expression.toList f m scale → Q f m scale) →
        (∀ f m scale m', Q f m scale → Resolution.Resolves settings made.2 m m' →
          Q' f m' scale) →
        q.EachLiteral Q W → made.1.EachScale Q' := by
  refine .behind fun _ => .behind fun built => ?_
  obtain ⟨resolver, sources⟩ := built
  refine ⟨fun found Q Q' W dimensions scaled literals => ?_⟩
  have carries : (Resolution.ofResolver settings resolver).Carries resolver Q Q' :=
    Resolution.carries_expansion dimensions scaled _ _
  have whole : resolver.scope.resolver = resolver := rfl
  exact (Always.bind (always_resolveFilter carries whole q.filter literals.filter) fun _ filter =>
    .bind (.mapM q.stages fun s hs => s.always_resolve carries whole (literals.stages s hs))
      fun _ stages => .bind (.mapM q.selects fun s hs =>
        s.always_resolve carries whole (literals.selects s hs)) fun _ selects =>
          .pure (P := fun made : Plan Float × Resolver => made.1.EachScale Q')
            ⟨filter, stages, selects⟩).result found

end Query

end Groupwise
