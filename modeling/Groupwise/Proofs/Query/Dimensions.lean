import Groupwise.Proofs.Query.Soundness

/-!
# Every dimension is expanded to an end

A dimension stands for an expression, whose names may stand for further expressions, in each dataset
where it is looked up. A name that is being expanded is not expanded again, in whatever case its
letters are, so that there are always fewer dimensions left to open. So every expansion is that of a
finite tree of dimensions, which is what an expression is lowered by.
-/
namespace Groupwise

/-! ## Where names are looked up -/

/-- What a computation returns does not depend on what was found before. -/
def Returns {α : Type} (x : Reporting α) (a : α) : Prop := ∀ found, (x.run found).1 = a

namespace Returns

variable {α β : Type} {x : Reporting α} {a : α}

/-- Only what is done with the value that is returned matters. -/
theorem bind_congr {k k' : α → Reporting β} (h : Returns x a) (same : k a = k' a) :
    x >>= k = x >>= k' := by
  funext found
  show (k (x.run found).1).run _ = (k' (x.run found).1).run _
  rw [h found, same]

theorem pure (a : α) : Returns (Pure.pure a) a := fun _ => rfl

theorem map {f : α → β} (h : Returns x a) : Returns (do Pure.pure (f (← x))) (f a) :=
  fun found => congrArg f (h found)

theorem mapM {f : α → Reporting β} {g : α → β} (as : List α) (h : ∀ a, Returns (f a) (g a)) :
    Returns (as.mapM f) (as.map g) := by
  induction as with
  | nil => exact fun _ => rfl
  | cons a rest ih =>
    intro found
    rw [List.mapM_cons, List.map_cons, ← h a found, ← ih ((f a).run found).2]
    rfl

end Returns

theorem mapM_congr {α β : Type} {f g : α → Reporting β} {as : List α} (h : ∀ a ∈ as, f a = g a) :
    as.mapM f = as.mapM g := by
  induction as with
  | nil => rfl
  | cons a rest ih =>
    rw [List.forall_mem_cons] at h
    rw [List.mapM_cons, List.mapM_cons, h.1, ih h.2]

theorem Ensures.returns {α : Type} {x : Reporting α} {Q : α → Prop} {a : α} (h : Ensures x Q)
    (returned : Returns x a) : Ensures x fun b => b = a :=
  fun found none => ⟨(h found none).1, returned found⟩

namespace Scope

/-- The dataset that a typed name means, or what stands in for it. -/
def called (s : Scope) (typed : String) : String :=
  match seek id typed s.names with
  | .ok name => name
  | .error _ => Resolver.failedDataset

/-- The scope of the datasets that some typed names mean. -/
def narrowTo (s : Scope) (typed : List String) : Scope :=
  s.narrow (Names.ofList (typed.map s.called))

theorem returns_dataset (s : Scope) (typed : String) :
    Returns (s.dataset typed) (s.called typed) := by
  intro found
  rw [dataset, called]
  cases seek id typed s.names <;> rfl

end Scope

namespace ScopedName

/-- The scope in which a name is looked up. -/
def within (n : ScopedName) (scope : Scope) : Scope :=
  match n.scope with
  | none => scope
  | some typed => scope.narrow [scope.called typed]

/-- A name stands for a dimension where it is looked up. -/
def IsDimension (n : ScopedName) (scope : Scope) : Prop :=
  (n.within scope).hasDimension n.name = true

instance (n : ScopedName) (scope : Scope) : Decidable (n.IsDimension scope) :=
  inferInstanceAs (Decidable (_ = true))

theorem resolver_within (n : ScopedName) (scope : Scope) :
    (n.within scope).resolver = scope.resolver := by
  unfold within
  split <;> rfl

theorem returns_scopeWithin (n : ScopedName) (scope : Scope) :
    Returns (n.scopeWithin scope) (n.within scope) := by
  rw [scopeWithin, within]
  cases n.scope with
  | none => exact Returns.pure _
  | some typed => exact (scope.returns_dataset typed).map

theorem ensures_within (n : ScopedName) (scope : Scope) :
    Ensures (n.scopeWithin scope) fun w => w = n.within scope :=
  (n.ensures_scopeWithin scope scope.resolver).returns (n.returns_scopeWithin scope)

end ScopedName

namespace Query

theorem returns_resolveDatasets (scope : Scope) (typed : List String) :
    Returns (resolveDatasets scope typed) (Names.ofList (typed.map scope.called)) :=
  (Returns.mapM typed scope.returns_dataset).map

/-- A name in an expression. -/
structure Occurrence where
  name : ScopedName
  /-- The scope of the expression around the name. -/
  scope : Scope
  deriving DecidableEq

mutual

/-- The names in a document metric. -/
def DocMetric.names (scope : Scope) : DocMetric → List Occurrence
  | .name n | .hasInt n _ | .hasString n _ | .hasIntField n | .hasStringField n | .length n
  | .intTermCount n | .stringTermCount n | .floatScale n _ _ | .extract n _ _ => [⟨n, scope⟩]
  | .int _ | .count | .docId => []
  | .negate m | .abs m | .signum m | .log m _ | .exp m _ => m.names scope
  | .binary _ left right => left.names scope ++ right.names scope
  | .min ms | .max ms => DocMetric.namesOfAll scope ms
  | .ifThenElse condition yes no => condition.names scope ++ (yes.names scope ++ no.names scope)

def DocMetric.namesOfAll (scope : Scope) : List DocMetric → List Occurrence
  | [] => []
  | m :: rest => m.names scope ++ DocMetric.namesOfAll scope rest

/-- The names in a document filter. Those in an index query are names of fields, and left out. -/
def DocFilter.names (scope : Scope) : DocFilter → List Occurrence
  | .fieldIs n _ _ | .regex n _ _ | .fieldIn n _ _ | .between n _ _ | .sample n _ _ _ =>
    [⟨n, scope⟩]
  | .compare _ left right => left.names scope ++ right.names scope
  | .lucene _ | .bool _ => []
  | .and fs | .or fs => DocFilter.namesOfAll scope fs
  | .not f => f.names scope
  | .qualified datasets f => f.names (scope.narrowTo datasets)

def DocFilter.namesOfAll (scope : Scope) : List DocFilter → List Occurrence
  | [] => []
  | f :: rest => f.names scope ++ DocFilter.namesOfAll scope rest

end

/-- A property of the dimensions among some names, in the scopes where they are looked up. -/
def ForDimensions (names : List Occurrence) (Q : String → Scope → Prop) : Prop :=
  ∀ o ∈ names, o.name.IsDimension o.scope → Q o.name.name (o.name.within o.scope)

variable {names others : List Occurrence} {Q : String → Scope → Prop}

theorem forDimensions_append :
    ForDimensions (names ++ others) Q ↔ ForDimensions names Q ∧ ForDimensions others Q :=
  List.forall_mem_append

theorem forDimensions_singleton {n : ScopedName} {scope : Scope} :
    ForDimensions [⟨n, scope⟩] Q ↔ (n.IsDimension scope → Q n.name (n.within scope)) :=
  List.forall_mem_singleton

mutual

theorem DocMetric.resolver_names (scope : Scope) (m : DocMetric) :
    ∀ o ∈ m.names scope, o.scope.resolver = scope.resolver := by
  match m with
  | .name _ | .hasInt .. | .hasString .. | .hasIntField _ | .hasStringField _ | .length _
  | .intTermCount _ | .stringTermCount _ | .floatScale .. | .extract .. =>
    exact List.forall_mem_singleton.mpr rfl
  | .int _ | .count | .docId => exact nofun
  | .negate m | .abs m | .signum m | .log m _ | .exp m _ => exact DocMetric.resolver_names scope m
  | .binary _ left right =>
    exact List.forall_mem_append.mpr
      ⟨DocMetric.resolver_names scope left, DocMetric.resolver_names scope right⟩
  | .min ms | .max ms => exact DocMetric.resolver_namesOfAll scope ms
  | .ifThenElse condition yes no =>
    exact List.forall_mem_append.mpr ⟨DocFilter.resolver_names scope condition,
      List.forall_mem_append.mpr
        ⟨DocMetric.resolver_names scope yes, DocMetric.resolver_names scope no⟩⟩

theorem DocMetric.resolver_namesOfAll (scope : Scope) (ms : List DocMetric) :
    ∀ o ∈ DocMetric.namesOfAll scope ms, o.scope.resolver = scope.resolver := by
  match ms with
  | [] => exact nofun
  | m :: rest =>
    exact List.forall_mem_append.mpr
      ⟨DocMetric.resolver_names scope m, DocMetric.resolver_namesOfAll scope rest⟩

theorem DocFilter.resolver_names (scope : Scope) (f : DocFilter) :
    ∀ o ∈ f.names scope, o.scope.resolver = scope.resolver := by
  match f with
  | .fieldIs .. | .regex .. | .fieldIn .. | .between .. | .sample .. =>
    exact List.forall_mem_singleton.mpr rfl
  | .compare _ left right =>
    exact List.forall_mem_append.mpr
      ⟨DocMetric.resolver_names scope left, DocMetric.resolver_names scope right⟩
  | .lucene _ | .bool _ => exact nofun
  | .and fs | .or fs => exact DocFilter.resolver_namesOfAll scope fs
  | .not f => exact DocFilter.resolver_names scope f
  | .qualified datasets f => exact DocFilter.resolver_names (scope.narrowTo datasets) f

theorem DocFilter.resolver_namesOfAll (scope : Scope) (fs : List DocFilter) :
    ∀ o ∈ DocFilter.namesOfAll scope fs, o.scope.resolver = scope.resolver := by
  match fs with
  | [] => exact nofun
  | f :: rest =>
    exact List.forall_mem_append.mpr
      ⟨DocFilter.resolver_names scope f, DocFilter.resolver_namesOfAll scope rest⟩

end

end Query

/-! ## Only the dimensions that are named are expanded -/

open Query

variable {settings : Settings} {expand expand' : String → Scope → Reporting Doc.Metric}

namespace ScopedName

theorem resolveMetric_congr {n : ScopedName} {scope : Scope}
    (same : n.IsDimension scope →
      expand n.name (n.within scope) = expand' n.name (n.within scope)) :
    n.resolveMetric ⟨settings, expand⟩ scope = n.resolveMetric ⟨settings, expand'⟩ scope := by
  refine (n.returns_scopeWithin scope).bind_congr ?_
  dsimp only
  split
  · rw [same ‹_›]
  · rfl

theorem dimensionIs_congr {n : ScopedName} {scope : Scope} (term : Term) (negated : Bool)
    (same : n.IsDimension scope →
      expand n.name (n.within scope) = expand' n.name (n.within scope)) :
    n.dimensionIs ⟨settings, expand⟩ term negated scope =
      n.dimensionIs ⟨settings, expand'⟩ term negated scope := by
  unfold dimensionIs
  rw [resolveMetric_congr same]

end ScopedName

namespace Query

mutual

/-- How a document metric is resolved depends only on what the dimensions in it stand for. -/
theorem DocMetric.resolve_congr (scope : Scope) (m : DocMetric)
    (same : ForDimensions (m.names scope) fun name s => expand name s = expand' name s) :
    m.resolve ⟨settings, expand⟩ scope = m.resolve ⟨settings, expand'⟩ scope := by
  match m with
  | .name n =>
    rw [DocMetric.resolve, DocMetric.resolve]
    exact ScopedName.resolveMetric_congr (forDimensions_singleton.mp same)
  | .int _ | .count | .docId | .hasInt .. | .hasString .. | .hasIntField _ | .hasStringField _
  | .length _ | .intTermCount _ | .stringTermCount _ | .floatScale .. | .extract .. =>
    rw [DocMetric.resolve, DocMetric.resolve]
  | .negate m | .abs m | .signum m | .log m _ | .exp m _ =>
    rw [DocMetric.resolve, DocMetric.resolve, DocMetric.resolve_congr scope m same]
  | .binary op left right =>
    have parts := forDimensions_append.mp same
    rw [DocMetric.resolve, DocMetric.resolve, DocMetric.resolve_congr scope left parts.1,
      DocMetric.resolve_congr scope right parts.2]
  | .min ms | .max ms =>
    rw [DocMetric.resolve, DocMetric.resolve, DocMetric.resolveAll_congr scope ms same]
  | .ifThenElse condition yes no =>
    have parts := forDimensions_append.mp same
    have branches := forDimensions_append.mp parts.2
    rw [DocMetric.resolve, DocMetric.resolve, DocFilter.resolve_congr scope condition parts.1,
      DocMetric.resolve_congr scope yes branches.1, DocMetric.resolve_congr scope no branches.2]

theorem DocMetric.resolveAll_congr (scope : Scope) (ms : List DocMetric)
    (same : ForDimensions (DocMetric.namesOfAll scope ms) fun name s =>
      expand name s = expand' name s) :
    DocMetric.resolveAll ⟨settings, expand⟩ scope ms =
      DocMetric.resolveAll ⟨settings, expand'⟩ scope ms := by
  match ms with
  | [] => rw [DocMetric.resolveAll, DocMetric.resolveAll]
  | m :: rest =>
    have parts := forDimensions_append.mp same
    rw [DocMetric.resolveAll, DocMetric.resolveAll, DocMetric.resolve_congr scope m parts.1,
      DocMetric.resolveAll_congr scope rest parts.2]

/-- How a document filter is resolved depends only on what the dimensions in it stand for. -/
theorem DocFilter.resolve_congr (scope : Scope) (f : DocFilter)
    (same : ForDimensions (f.names scope) fun name s => expand name s = expand' name s) :
    f.resolve ⟨settings, expand⟩ scope = f.resolve ⟨settings, expand'⟩ scope := by
  match f with
  | .fieldIs n term negated =>
    rw [DocFilter.resolve, DocFilter.resolve,
      ScopedName.dimensionIs_congr term negated (forDimensions_singleton.mp same)]
  | .regex .. | .fieldIn .. | .between .. | .lucene _ | .sample .. =>
    rw [DocFilter.resolve, DocFilter.resolve]
  | .bool value => cases value <;> rw [DocFilter.resolve, DocFilter.resolve]
  | .compare op left right =>
    have parts := forDimensions_append.mp same
    rw [DocFilter.resolve, DocFilter.resolve, DocMetric.resolve_congr scope left parts.1,
      DocMetric.resolve_congr scope right parts.2]
  | .and fs | .or fs =>
    rw [DocFilter.resolve, DocFilter.resolve, DocFilter.resolveAll_congr scope fs same]
  | .not f => rw [DocFilter.resolve, DocFilter.resolve, DocFilter.resolve_congr scope f same]
  | .qualified datasets f =>
    rw [DocFilter.resolve, DocFilter.resolve]
    refine (returns_resolveDatasets scope datasets).bind_congr ?_
    have inner := DocFilter.resolve_congr (scope.narrowTo datasets) f same
    rw [Scope.narrowTo] at inner
    rw [inner]

theorem DocFilter.resolveAll_congr (scope : Scope) (fs : List DocFilter)
    (same : ForDimensions (DocFilter.namesOfAll scope fs) fun name s =>
      expand name s = expand' name s) :
    DocFilter.resolveAll ⟨settings, expand⟩ scope fs =
      DocFilter.resolveAll ⟨settings, expand'⟩ scope fs := by
  match fs with
  | [] => rw [DocFilter.resolveAll, DocFilter.resolveAll]
  | f :: rest =>
    have parts := forDimensions_append.mp same
    rw [DocFilter.resolveAll, DocFilter.resolveAll, DocFilter.resolve_congr scope f parts.1,
      DocFilter.resolveAll_congr scope rest parts.2]

end

end Query

/-! ## Dimensions left to open -/

theorem sameIgnoringCase_iff {a b : String} :
    sameIgnoringCase a b = true ↔ a.toList.map Char.toLower = b.toList.map Char.toLower :=
  beq_iff_eq

theorem sameIgnoringCase_comm (a b : String) : sameIgnoringCase a b = sameIgnoringCase b a :=
  BEq.comm

theorem sameIgnoringCase_trans {a b c : String} (h : sameIgnoringCase a b = true)
    (h' : sameIgnoringCase b c = true) : sameIgnoringCase a c = true :=
  sameIgnoringCase_iff.mpr ((sameIgnoringCase_iff.mp h).trans (sameIgnoringCase_iff.mp h'))

namespace Resolver

/-- The dimensions of all datasets, but for those that are being expanded. -/
def unopened (resolver : Resolver) (opened : List String) : List String :=
  (resolver.entries.flatMap fun e => e.2.dataset.dimensions.keys).filter fun d =>
    !opened.any (sameIgnoringCase · d)

theorem length_unopened_nil (resolver : Resolver) :
    (resolver.unopened []).length = resolver.dimensionCount := by
  simp [unopened, dimensionCount, List.length_flatMap, Dictionary.keys, List.sum_eq_foldl]

end Resolver

/-- The dimensions of a dataset are found under their names in any letter case. -/
theorem Scope.exists_of_dimension? {s : Scope} {dataset name text : String}
    (h : s.dimension? dataset name = some text) :
    ∃ d ∈ s.resolver.entries.flatMap fun e => e.2.dataset.dimensions.keys,
      sameIgnoringCase d name = true := by
  unfold dimension? at h
  obtain ⟨e, he, h⟩ := Option.bind_eq_some_iff.mp h
  unfold Resolver.Entry.dimension? at h
  split at h
  · cases h
  · obtain ⟨d, hd, -⟩ := Option.map_eq_some_iff.mp h
    have found : sameIgnoringCase d.1 name = true :=
      List.find?_some (p := fun e : String × String => sameIgnoringCase e.1 name) hd
    refine ⟨d.1, List.mem_flatMap.mpr ⟨_, Dictionary.mem_of_find? he, ?_⟩, found⟩
    exact List.mem_map_of_mem (List.mem_of_find?_eq_some hd)

namespace Resolution

/-- A dimension that is to be expanded in a scope, while others are being expanded. -/
structure Opening where
  opened : List String
  name : String
  scope : Scope

namespace Opening

/-- The dimension is being expanded already, in whatever case its letters are. -/
def Again (o : Opening) : Prop := o.opened.any (sameIgnoringCase · o.name) = true

instance (o : Opening) : Decidable o.Again := inferInstanceAs (Decidable (_ = true))

/-- The names in what the dimension stands for in a dataset, if that can be parsed. -/
def namesIn (o : Opening) (dataset : String) : List Occurrence :=
  match o.scope.dimension? dataset o.name with
  | none => []
  | some text =>
    match DocMetric.parse text with
    | .ok m => m.names (o.scope.narrow [dataset])
    | .error _ => []

/-- A dimension is named in what another one stands for in some dataset. -/
inductive Leads : Opening → Opening → Prop
  | named {o : Opening} {dataset : String} {inner : Occurrence} (inScope : dataset ∈ o.scope.names)
      (named : inner ∈ o.namesIn dataset) (dimension : inner.name.IsDimension inner.scope) :
      Leads o ⟨o.opened ++ [o.name], inner.name.name, inner.name.within inner.scope⟩

variable {o next : Opening} {dataset text : String} {m : DocMetric}

theorem namesIn_of_field (field : o.scope.dimension? dataset o.name = none) :
    o.namesIn dataset = [] := by
  simp only [namesIn, field]

theorem namesIn_of_parse (stands : o.scope.dimension? dataset o.name = some text)
    (parsed : DocMetric.parse text = .ok m) :
    o.namesIn dataset = m.names (o.scope.narrow [dataset]) := by
  simp only [namesIn, stands, parsed]

theorem exists_of_mem_namesIn {inner : Occurrence} (h : inner ∈ o.namesIn dataset) :
    ∃ text m, o.scope.dimension? dataset o.name = some text ∧ DocMetric.parse text = .ok m ∧
      inner ∈ m.names (o.scope.narrow [dataset]) := by
  unfold namesIn at h
  split at h
  · cases h
  · split at h
    · exact ⟨_, _, ‹_›, ‹_›, h⟩
    · cases h

theorem Leads.opened_eq (h : o.Leads next) : next.opened = o.opened ++ [o.name] := by
  cases h
  rfl

theorem Leads.resolver_eq (h : o.Leads next) : next.scope.resolver = o.scope.resolver := by
  obtain ⟨-, named, -⟩ := h
  obtain ⟨_, m, -, -, inner⟩ := exists_of_mem_namesIn named
  rw [ScopedName.resolver_within, m.resolver_names _ _ inner]
  rfl

/-- A dimension that is opened is not left to open below it. -/
theorem Leads.length_unopened_lt (h : o.Leads next) (fresh : ¬o.Again) :
    (next.scope.resolver.unopened next.opened).length <
      (o.scope.resolver.unopened o.opened).length := by
  rw [h.resolver_eq, h.opened_eq]
  obtain ⟨-, named, -⟩ := h
  obtain ⟨_, _, stands, -⟩ := exists_of_mem_namesIn named
  obtain ⟨d, hd, same⟩ := Scope.exists_of_dimension? stands
  have fewer : o.scope.resolver.unopened (o.opened ++ [o.name]) =
      (o.scope.resolver.unopened o.opened).filter fun d => !sameIgnoringCase o.name d := by
    rw [Resolver.unopened, Resolver.unopened, List.filter_filter]
    refine List.filter_congr fun d _ => ?_
    simp [Bool.and_comm]
  rw [fewer]
  refine List.length_filter_lt_length_iff_exists.mpr ⟨d, List.mem_filter.mpr ⟨hd, ?_⟩, ?_⟩
  · rw [Bool.not_eq_true', ← Bool.not_eq_true]
    intro again
    obtain ⟨other, ho, there⟩ := List.any_eq_true.mp again
    exact fresh (List.any_eq_true.mpr ⟨other, ho, sameIgnoringCase_trans there same⟩)
  · rw [sameIgnoringCase_comm, same]
    exact Bool.false_ne_true

end Opening

/-! ## Expansion ends -/

/-- The metric of a dimension that is opened. -/
def openedMetric (r : Resolution) (name : String) (scope : Scope) : Reporting Doc.Metric := do
  let metrics ← scope.names.mapM fun dataset => do
    pure (dataset, ← r.entryMetric scope name dataset)
  pure (join metrics)

/-- What a dimension is expanded to, by a finite tree of dimensions: one that is being expanded is
reported, and any other one is opened, where all dimensions that it leads to are expanded. -/
inductive Expanded (settings : Settings) : Opening → Reporting Doc.Metric → Prop
  | again {o : Opening} (again : o.Again) : Expanded settings o (circular o.opened o.name)
  | opened {o : Opening} {expand : String → Scope → Reporting Doc.Metric} (fresh : ¬o.Again)
      (below : ∀ next, o.Leads next → Expanded settings next (expand next.name next.scope)) :
      Expanded settings o (openedMetric ⟨settings, expand⟩ o.name o.scope)

variable {o : Opening} {depth : Nat} {result : Reporting Doc.Metric}

theorem expansion_of_again (again : o.Again) :
    expansion settings depth o.opened o.name o.scope = circular o.opened o.name := by
  cases depth with
  | zero => rfl
  | succ depth => exact if_pos again

theorem expansion_of_fresh (fresh : ¬o.Again) :
    expansion settings (depth + 1) o.opened o.name o.scope =
      openedMetric ⟨settings, expansion settings depth (o.opened ++ [o.name])⟩ o.name o.scope :=
  if_neg fresh

theorem entryMetric_congr {dataset : String} (inScope : dataset ∈ o.scope.names)
    (same : ∀ next, o.Leads next → expand next.name next.scope = expand' next.name next.scope) :
    entryMetric ⟨settings, expand⟩ o.scope o.name dataset =
      entryMetric ⟨settings, expand'⟩ o.scope o.name dataset := by
  have within : ForDimensions (o.namesIn dataset) fun name s => expand name s = expand' name s :=
    fun inner named dimension => same _ (.named inScope named dimension)
  unfold entryMetric
  dsimp only
  split
  · rfl
  · rename_i text stands
    split
    · rename_i m parsed
      exact m.resolve_congr _ (Opening.namesIn_of_parse stands parsed ▸ within)
    · rfl

theorem openedMetric_congr
    (same : ∀ next, o.Leads next → expand next.name next.scope = expand' next.name next.scope) :
    openedMetric ⟨settings, expand⟩ o.name o.scope =
      openedMetric ⟨settings, expand'⟩ o.name o.scope := by
  unfold openedMetric
  rw [mapM_congr fun dataset inScope => by rw [entryMetric_congr inScope same]]

/-- The given depth is never reached if it exceeds the number of dimensions left to open. -/
theorem expanded_expansion (enough : (o.scope.resolver.unopened o.opened).length < depth) :
    Expanded settings o (expansion settings depth o.opened o.name o.scope) := by
  -- one step down costs one unit of depth and one of the dimensions left to open
  induction depth generalizing o with
  | zero => exact absurd enough (Nat.not_lt_zero _)
  | succ depth ih =>
    by_cases again : o.Again
    · rw [expansion_of_again again]
      exact .again again
    · rw [expansion_of_fresh again]
      refine .opened again fun next leads => ?_
      rw [← leads.opened_eq]
      exact ih (Nat.lt_of_lt_of_le (leads.length_unopened_lt again) (Nat.le_of_lt_succ enough))

theorem expansion_eq_of_expanded (h : Expanded settings o result)
    (enough : (o.scope.resolver.unopened o.opened).length < depth) :
    expansion settings depth o.opened o.name o.scope = result := by
  induction h generalizing depth with
  | again again => exact expansion_of_again again
  | @opened o expand fresh below ih =>
    obtain ⟨depth, rfl⟩ := Nat.exists_eq_succ_of_ne_zero (Nat.ne_of_gt (Nat.zero_lt_of_lt enough))
    rw [expansion_of_fresh fresh]
    refine openedMetric_congr fun next leads => ?_
    rw [← leads.opened_eq]
    exact ih next leads
      (Nat.lt_of_lt_of_le (leads.length_unopened_lt fresh) (Nat.le_of_lt_succ enough))

/-- Every dimension is expanded by a finite tree, to one metric only. -/
theorem expanded_iff {name : String} {scope : Scope} :
    Expanded settings ⟨[], name, scope⟩ result ↔
      (ofResolver settings scope.resolver).expand name scope = result := by
  have enough : (scope.resolver.unopened []).length < scope.resolver.dimensionCount + 1 := by
    rw [scope.resolver.length_unopened_nil]
    exact Nat.lt_succ_self _
  exact ⟨fun h => expansion_eq_of_expanded h enough,
    fun h => h ▸ expanded_expansion (o := ⟨[], name, scope⟩) enough⟩

end Resolution

namespace Query

open Resolution

/-- The dimensions among some names are expanded by finite trees. -/
def Expands (settings : Settings) (expand : String → Scope → Reporting Doc.Metric)
    (names : List Occurrence) : Prop :=
  ForDimensions names fun name s => Expanded settings ⟨[], name, s⟩ (expand name s)

variable {names : List Occurrence} {scope : Scope}

theorem expands_ofResolver (known : ∀ o ∈ names, o.scope.resolver = scope.resolver) :
    Expands settings (ofResolver settings scope.resolver).expand names := by
  intro o ho _
  rw [expanded_iff, ScopedName.resolver_within, known o ho]

theorem Expands.eq_ofResolver (h : Expands settings expand names)
    (known : ∀ o ∈ names, o.scope.resolver = scope.resolver) :
    ForDimensions names fun name s =>
      expand name s = (ofResolver settings scope.resolver).expand name s := by
  intro o ho dimension
  have expanded := expanded_iff.mp (h o ho dimension)
  rw [ScopedName.resolver_within, known o ho] at expanded
  exact expanded.symm

/-- A document metric is lowered with its dimensions expanded by finite trees. -/
def DocMetric.Lowered (settings : Settings) (scope : Scope) (m : DocMetric)
    (result : Reporting Doc.Metric) : Prop :=
  ∃ expand, Expands settings expand (m.names scope) ∧ m.resolve ⟨settings, expand⟩ scope = result

def DocFilter.Lowered (settings : Settings) (scope : Scope) (f : DocFilter)
    (result : Reporting Doc.Filter) : Prop :=
  ∃ expand, Expands settings expand (f.names scope) ∧ f.resolve ⟨settings, expand⟩ scope = result

theorem DocMetric.lowered_iff {m : DocMetric} {result : Reporting Doc.Metric} :
    m.Lowered settings scope result ↔
      m.resolve (ofResolver settings scope.resolver) scope = result := by
  have known := m.resolver_names scope
  constructor
  · rintro ⟨expand, expands, rfl⟩
    exact (m.resolve_congr scope (expands.eq_ofResolver known)).symm
  · exact fun h => ⟨_, expands_ofResolver known, h⟩

theorem DocFilter.lowered_iff {f : DocFilter} {result : Reporting Doc.Filter} :
    f.Lowered settings scope result ↔
      f.resolve (ofResolver settings scope.resolver) scope = result := by
  have known := f.resolver_names scope
  constructor
  · rintro ⟨expand, expands, rfl⟩
    exact (f.resolve_congr scope (expands.eq_ofResolver known)).symm
  · exact fun h => ⟨_, expands_ofResolver known, h⟩

end Query

end Groupwise
