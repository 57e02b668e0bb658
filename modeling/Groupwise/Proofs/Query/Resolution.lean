import Groupwise.Proofs.Names
import Groupwise.Proofs.Query.Mentions
import Groupwise.Query.Planning

/-!
# Resolution finds what it names

Resolution goes on behind a name that it cannot resolve, with a stand-in for what the name should
mean, and reports the failure. So what it produces is right only if nothing was reported, and it is
stated that way throughout: no step takes a report back, and a step from whose end on nothing has
been reported has named datasets of the query and fields of these datasets alone.
-/
namespace Groupwise

/-- If no error is noted when a computation has ended, none was noted before it, and its result has
a property. -/
def Ensures {α : Type} (x : Reporting α) (Q : α → Prop) : Prop :=
  ∀ found : Findings, (x.run found).2.errors = [] → found.errors = [] ∧ Q (x.run found).1

namespace Ensures

variable {α β : Type} {x : Reporting α} {k : α → Reporting β} {Q Q' : α → Prop}
variable {R R' : β → Prop}

theorem pure {a : α} (h : Q a) : Ensures (Pure.pure a) Q := fun _ none => ⟨none, h⟩

/-- The rest of a computation takes no error back, whatever it starts from. It may rely on what the
beginning ensures only for its own result. -/
theorem bind (hx : Ensures x Q) (hk : ∀ a, Ensures (k a) fun b => Q a → R b) :
    Ensures (x >>= k) R := by
  intro found none
  obtain ⟨before, result⟩ := hk (x.run found).1 (x.run found).2 none
  obtain ⟨start, first⟩ := hx found before
  exact ⟨start, result first⟩

theorem imp (hx : Ensures x Q) (h : ∀ a, Q a → Q' a) : Ensures x Q' :=
  fun found none => ⟨(hx found none).1, h _ (hx found none).2⟩

theorem map {f : α → β} (hx : Ensures x fun a => R (f a)) : Ensures (f <$> x) R := hx

theorem note_ne_nil (message : String) (messages : List String) :
    Findings.note message messages ≠ [] := by
  unfold Findings.note
  split
  · rename_i there
    exact List.ne_nil_of_mem (List.contains_iff_mem.mp there)
  · simp

theorem report {message : String} : Ensures (report message) fun _ => False :=
  fun found none => absurd none (note_ne_nil message found.errors)

/-- Nothing has to be ensured behind an error. -/
theorem afterReport {message : String} {y : Reporting β} (hy : Ensures y R') :
    Ensures (do Groupwise.report message; y) R :=
  bind report fun _ => hy.imp fun _ _ => False.elim

theorem remark {message : String} : Ensures (remark message) fun _ => True :=
  fun _ none => ⟨none, trivial⟩

/-- Whatever stands in for what could not be resolved will do. -/
theorem standIn {message : String} {a : α} :
    Ensures (do Groupwise.report message; Pure.pure a) Q :=
  afterReport (pure (Q := fun _ => True) trivial)

/-- What is checked on the way holds behind the check. -/
theorem check {c : Prop} [Decidable c] {message : String} {y : Reporting β}
    (hy : Ensures y fun b => ¬c → R b) :
    Ensures (if c then do Groupwise.report message; y else y) R := by
  split
  · exact afterReport hy
  · exact hy.imp fun _ h => h ‹_›

theorem checked {c : Prop} [Decidable c] {message : String} :
    Ensures (if c then Groupwise.report message else Pure.pure ()) fun _ => True := by
  split
  · exact report.imp fun _ _ => trivial
  · exact pure trivial

/-- Two ways to start are as good as one. -/
theorem choose {c : Prop} [Decidable c] {y : Reporting α} (hx : Ensures x Q) (hy : Ensures y Q)
    (hk : ∀ a, Ensures (k a) fun b => Q a → R b) :
    Ensures (if c then x >>= k else y >>= k) R := by
  split
  · exact bind hx hk
  · exact bind hy hk

theorem mapM_forall₂ {f : α → Reporting β} {S : α → β → Prop} (as : List α)
    (h : ∀ a, Ensures (f a) (S a)) : Ensures (as.mapM f) (List.Forall₂ S as) := by
  induction as with
  | nil => exact pure .nil
  | cons a rest ih =>
    rw [List.mapM_cons]
    exact bind (h a) fun _ => bind ih fun _ => pure fun others first => .cons first others

theorem mapM {f : α → Reporting β} (as : List α) (h : ∀ a ∈ as, Ensures (f a) R) :
    Ensures (as.mapM f) fun bs => ∀ b ∈ bs, R b := by
  induction as with
  | nil => exact pure nofun
  | cons a rest ih =>
    rw [List.forall_mem_cons] at h
    rw [List.mapM_cons]
    exact bind h.1 fun _ => bind (ih h.2) fun _ =>
      pure fun others first => List.forall_mem_cons.mpr ⟨first, others⟩

end Ensures

/-! ## Known names -/

/-- A name is that of a dataset of the query, or that of a field which its dataset has if the
catalog knows the dataset. -/
def Mention.KnownTo (resolver : Resolver) : Mention → Prop
  | .dataset d => d ∈ resolver.names
  | .field d name => ∃ e, resolver.entries.find? d = some e ∧
      (e.isKnown → name ∈ e.dataset.intFields ∨ name ∈ e.dataset.stringFields)

def Resolver.Knows (resolver : Resolver) (mentions : List Mention) : Prop :=
  ∀ x ∈ mentions, x.KnownTo resolver

variable {resolver : Resolver}

namespace Resolver

theorem knows_nil : resolver.Knows [] := nofun

theorem knows_append {xs ys : List Mention} :
    resolver.Knows (xs ++ ys) ↔ resolver.Knows xs ∧ resolver.Knows ys :=
  List.forall_mem_append

theorem knows_datasets {names : List String} (h : names ⊆ resolver.names) :
    resolver.Knows (names.map .dataset) :=
  List.forall_mem_map.mpr fun _ hd => h hd

/-- The datasets of a known field are known. -/
theorem knows_datasets_of_field {f : FieldSet} (h : resolver.Knows f.mentions) :
    resolver.Knows (f.datasets.map .dataset) := by
  refine knows_datasets fun d hd => ?_
  obtain ⟨e, he, rfl⟩ := List.mem_map.mp hd
  obtain ⟨entry, found, -⟩ := List.forall_mem_map.mp h e he
  exact Dictionary.mem_keys.mpr (Option.isSome_of_eq_some found)

theorem mem_of_findField? {fields : List String} {typed name : String}
    (h : Dataset.findField? fields typed = some name) : name ∈ fields := by
  unfold Dataset.findField? at h
  split at h
  · obtain rfl := Option.some.inj h
    exact List.mem_of_find?_eq_some ‹_›
  · exact List.mem_of_find?_eq_some h

theorem Entry.mem_of_field? {e : Entry} {typed name : String} (known : e.isKnown)
    (h : e.field? typed = some name) :
    name ∈ e.dataset.intFields ∨ name ∈ e.dataset.stringFields := by
  rw [field?, known] at h
  cases int : e.dataset.intField? (e.target typed) with
  | some field =>
    simp only [int, Bool.not_true, Bool.false_eq_true, if_false, Option.orElse_some] at h
    obtain rfl := Option.some.inj h
    exact .inl (mem_of_findField? int)
  | none =>
    simp only [int, Bool.not_true, Bool.false_eq_true, if_false, Option.orElse_none] at h
    exact .inr (mem_of_findField? h)

end Resolver

/-- A name that is found is one of those that are there. -/
theorem mem_of_seek {α : Type} {nameOf : α → String} {name : String} {items : List α} {item : α}
    (h : seek nameOf name items = .ok item) : item ∈ items := by
  unfold seek at h
  split at h
  · obtain rfl := Except.ok.inj h
    exact List.mem_of_find?_eq_some ‹_›
  · split at h
    · rename_i single
      obtain rfl := Except.ok.inj h
      exact (List.mem_filter.mp (single ▸ List.mem_singleton_self _)).1
    all_goals cases h

/-! ## Scopes -/

namespace Scope

/-- The datasets of a scope are some of those that a resolver knows. -/
structure In (resolver : Resolver) (s : Scope) : Prop where
  resolver_eq : s.resolver = resolver
  names_subset : s.names ⊆ resolver.names

variable {s : Scope}

theorem In.narrow {names : Names} (h : s.In resolver) (sub : names ⊆ resolver.names) :
    (s.narrow names).In resolver where
  resolver_eq := h.resolver_eq
  names_subset := sub

theorem ensures_dataset (s : Scope) (typed : String) :
    Ensures (s.dataset typed) fun name => name ∈ s.names := by
  unfold dataset
  split
  · exact .pure (mem_of_seek ‹_›)
  · exact .standIn

theorem known_of_fieldIn {typed dataset name : String} (h : s.fieldIn typed dataset = .ok name)
    (hs : s.In resolver) : (Mention.field dataset name).KnownTo resolver := by
  rw [fieldIn, hs.resolver_eq] at h
  split at h
  · cases h
  · split at h
    · cases h
    · rename_i entry found
      split at h
      · rename_i field resolved
        obtain rfl := Except.ok.inj h
        exact ⟨entry, found, fun known => entry.mem_of_field? known resolved⟩
      · cases h

theorem ensures_field (resolver : Resolver) (s : Scope) (typed : String) :
    Ensures (s.field typed) fun f => s.In resolver → resolver.Knows f.mentions := by
  unfold field
  refine .bind (.mapM (R := fun e => s.In resolver → (Mention.field e.1 e.2).KnownTo resolver)
    _ fun d _ => ?_) fun names => .pure fun fields hs => ?_
  · split
    · exact .pure (known_of_fieldIn ‹_›)
    · exact .standIn
  · exact List.forall_mem_map.mpr fun e he => fields e he hs

end Scope

/-! ## Names of fields -/

/-- What stands for dimensions names datasets and fields of the query. -/
def Resolution.Sound (resolver : Resolver) (r : Resolution) : Prop :=
  ∀ name scope, Ensures (r.expand name scope) fun m =>
    scope.In resolver → resolver.Knows m.mentions

namespace ScopedName

variable {r : Resolution} (n : ScopedName) (scope : Scope)

theorem ensures_scopeWithin (resolver : Resolver) :
    Ensures (n.scopeWithin scope) fun w => scope.In resolver → w.In resolver := by
  unfold scopeWithin
  split
  · exact .pure id
  · refine .bind (scope.ensures_dataset _) fun d => .pure fun hd hs => hs.narrow ?_
    exact List.cons_subset.mpr ⟨hs.names_subset hd, List.nil_subset _⟩

theorem ensures_isDimension : Ensures (n.isDimension scope) fun _ => True :=
  .bind (ensures_scopeWithin n scope scope.resolver) fun _ => .pure fun _ => trivial

theorem ensures_resolveField (resolver : Resolver) :
    Ensures (n.resolveField scope) fun f => scope.In resolver → resolver.Knows f.mentions := by
  refine .bind (ensures_scopeWithin n scope resolver) fun within => .check ?_
  exact (within.ensures_field resolver _).imp fun f hf _ within hs => hf (within hs)

theorem knows_qualifyFilter {field : FieldSet} {f : Doc.Filter}
    (hfield : resolver.Knows field.mentions) (hf : resolver.Knows f.mentions) :
    resolver.Knows (n.qualifyFilter field f).mentions := by
  unfold qualifyFilter FieldSet.qualifyFilter
  split
  · split
    · exact Resolver.knows_append.mpr ⟨Resolver.knows_datasets_of_field hfield, hf⟩
    · exact hf
  · exact hf

theorem ensures_qualifyMetric (resolver : Resolver) (field : FieldSet) (m : Doc.Metric) :
    Ensures (n.qualifyMetric field m) fun q =>
      resolver.Knows field.mentions → resolver.Knows m.mentions → resolver.Knows q.mentions := by
  unfold qualifyMetric
  split
  · exact .pure fun _ hm => hm
  split
  · rename_i q hq
    refine .pure fun hfield hm => ?_
    unfold FieldSet.qualifyMetric at hq
    split at hq
    · obtain rfl := Except.ok.inj hq
      exact hm
    split at hq
    · rename_i dataset only
      obtain rfl := Except.ok.inj hq
      have datasets := Resolver.knows_datasets_of_field hfield
      rw [only] at datasets
      exact Resolver.knows_append.mpr ⟨datasets, hm⟩
    · cases hq
  · exact .standIn

theorem ensures_resolveMetric (sound : r.Sound resolver) :
    Ensures (n.resolveMetric r scope) fun m =>
      scope.In resolver → resolver.Knows m.mentions := by
  refine .bind (ensures_scopeWithin n scope resolver) fun within =>
    .choose (sound n.name within) (.map (within.ensures_field resolver n.name)) fun m =>
      .pure fun hm hwithin hs => ?_
  have inner := hm (hwithin hs)
  split
  · rename_i dataset _ _ names
    split
    · have here : dataset ∈ within.names := by
        rw [names]
        exact List.mem_cons_self ..
      exact List.forall_mem_cons.mpr ⟨(hwithin hs).names_subset here, inner⟩
    · exact inner
  · exact inner

theorem ensures_probe {make : FieldSet → Doc.Metric}
    (names : ∀ f, (make f).mentions = f.mentions) :
    Ensures (n.probe scope make) fun m => scope.In resolver → resolver.Knows m.mentions := by
  refine .bind (ensures_resolveField n scope resolver) fun field => ?_
  refine (ensures_qualifyMetric n resolver field _).imp fun q hq hfield hs => ?_
  exact hq (hfield hs) (names field ▸ hfield hs)

theorem ensures_fittingTerms {misfit : String → Reporting Unit}
    (noted : ∀ message, Ensures (misfit message) fun _ => True) (terms : List Term) :
    Ensures (n.fittingTerms misfit terms) fun _ => True := by
  induction terms with
  | nil => exact .pure trivial
  | cons term rest ih =>
    rw [fittingTerms]
    split
    · exact .bind ih fun _ => .pure fun _ => trivial
    · exact .bind (noted _) fun _ => ih.imp fun _ _ _ => trivial

theorem ensures_dimensionIs (sound : r.Sound resolver) (term : Term) (negated : Bool) :
    Ensures (n.dimensionIs r term negated scope) fun f =>
      scope.In resolver → resolver.Knows f.mentions := by
  unfold dimensionIs
  split
  · exact .bind (ensures_resolveMetric n scope sound) fun _ =>
      .pure fun hm hs => Resolver.knows_append.mpr ⟨hm hs, Resolver.knows_nil⟩
  · exact .standIn

theorem knows_isTerm {field : FieldSet} (h : resolver.Knows field.mentions) (term : Term)
    (isInt : Bool) : resolver.Knows (Doc.Filter.isTerm field term isInt).mentions := by
  unfold Doc.Filter.isTerm
  split
  · exact h
  · exact Resolver.knows_nil

theorem knows_isntTerm {field : FieldSet} (h : resolver.Knows field.mentions) (term : Term)
    (isInt : Bool) : resolver.Knows (Doc.Filter.isntTerm field term isInt).mentions := by
  unfold Doc.Filter.isntTerm
  split
  · exact h
  · exact Resolver.knows_nil

theorem ensures_fieldIs (term : Term) (negated : Bool) :
    Ensures (n.fieldIs term negated scope) fun f =>
      scope.In resolver → resolver.Knows f.mentions := by
  refine .bind (ensures_resolveField n scope resolver) fun field => ?_
  have result : resolver.Knows field.mentions → resolver.Knows (n.qualifyFilter field
      (if negated then .isntTerm field term (scope.isIntField field)
        else .isTerm field term (scope.isIntField field))).mentions := by
    intro hfield
    refine knows_qualifyFilter n hfield ?_
    split
    · exact knows_isntTerm hfield term _
    · exact knows_isTerm hfield term _
  dsimp only
  split
  · exact .bind .remark fun _ => .pure fun _ hfield hs => result (hfield hs)
  · exact .pure fun hfield hs => result (hfield hs)

theorem ensures_termsFilter (resolver : Resolver) (field : FieldSet) (terms : List Term)
    (isInt : Bool) : Ensures (n.termsFilter field terms isInt) fun f =>
      resolver.Knows field.mentions → resolver.Knows f.mentions := by
  unfold termsFilter
  split
  · refine .bind (ensures_fittingTerms n (fun _ => .remark) terms) fun values =>
      .pure fun _ hfield => ?_
    split
    · exact Resolver.knows_nil
    · exact hfield
  · refine .pure fun hfield => ?_
    split
    · exact Resolver.knows_nil
    · exact hfield

theorem ensures_fieldFilter {make : FieldSet → Reporting Doc.Filter}
    (made : ∀ field, Ensures (make field) fun f =>
      resolver.Knows field.mentions → resolver.Knows f.mentions) :
    Ensures (n.fieldFilter scope make) fun f =>
      scope.In resolver → resolver.Knows f.mentions := by
  refine .bind (ensures_isDimension n scope) fun isDimension => ?_
  split
  · exact .standIn
  · refine .bind (ensures_resolveField n scope resolver) fun field =>
      .bind (made field) fun f => .pure ?_
    exact fun hf hfield _ hs => knows_qualifyFilter n (hfield hs) (hf (hfield hs))

end ScopedName

/-! ## Index queries -/

namespace Lucene.Query

variable {field? : String → CompileM (String × Bool)} {P : String → Prop}

mutual

/-- A resolved index query names what its fields were resolved to. -/
theorem forall_terms_resolve
    (resolved : ∀ typed name isInt, field? typed = .ok (name, isInt) → P name) (q : Query)
    {q' : Doc.Query} (h : q.resolve field? = .ok q') : ∀ t ∈ q'.terms, P t.field := by
  match q with
  | .term field value =>
    simp only [resolve, bind_eq_ok] at h
    obtain ⟨⟨name, isInt⟩, hname, h⟩ := h
    have known := resolved field name isInt hname
    cases isInt with
    | true =>
      simp only [if_true, bind_eq_ok, pure_eq_ok] at h
      obtain ⟨_, -, rfl⟩ := h
      simpa [Doc.Query.terms, Doc.FieldTerm.int] using known
    | false =>
      obtain rfl := by simpa [pure_eq_ok] using h
      simpa [Doc.Query.terms, Doc.FieldTerm.string] using known
  | .range field lower upper inclusive =>
    simp only [resolve, bind_eq_ok] at h
    obtain ⟨⟨name, isInt⟩, hname, h⟩ := h
    have known := resolved field name isInt hname
    cases isInt with
    | true =>
      simp only [if_true, bind_eq_ok, pure_eq_ok] at h
      obtain ⟨_, -, _, -, rfl⟩ := h
      simpa [Doc.Query.intRange, Doc.Query.terms, Doc.FieldTerm.int] using known
    | false =>
      obtain rfl := by simpa [pure_eq_ok] using h
      simpa [Doc.Query.terms, Doc.FieldTerm.string] using known
  | .and queries | .or queries =>
    simp only [resolve, bind_eq_ok, pure_eq_ok] at h
    obtain ⟨operands, ho, rfl⟩ := h
    exact forall_terms_resolveAll resolved queries ho
  | .not query =>
    simp only [resolve, bind_eq_ok, pure_eq_ok] at h
    obtain ⟨operand, ho, rfl⟩ := h
    simpa [Doc.Query.terms, Doc.Query.termsOfAll] using forall_terms_resolve resolved query ho

theorem forall_terms_resolveAll
    (resolved : ∀ typed name isInt, field? typed = .ok (name, isInt) → P name) (qs : List Query)
    {qs' : List Doc.Query} (h : resolveAll field? qs = .ok qs') :
    ∀ t ∈ Doc.Query.termsOfAll qs', P t.field := by
  match qs with
  | [] =>
    obtain rfl := Except.ok.inj h
    nofun
  | q :: rest =>
    simp only [resolveAll, bind_eq_ok, pure_eq_ok] at h
    obtain ⟨first, hf, others, ho, rfl⟩ := h
    exact List.forall_mem_append.mpr
      ⟨forall_terms_resolve resolved q hf, forall_terms_resolveAll resolved rest ho⟩

end

end Lucene.Query

namespace Query

theorem known_of_indexField {scope : Scope} {dataset typed name : String} {isInt : Bool}
    (hs : scope.In resolver) (hd : dataset ∈ resolver.names)
    (h : indexField scope dataset typed = .ok (name, isInt)) :
    (Mention.field dataset name).KnownTo resolver := by
  rcases hrun : ((scope.narrow [dataset]).field typed).run {} with ⟨field, found⟩
  rw [indexField, hrun] at h
  dsimp only at h
  split at h
  · cases h
  · rename_i none
    simp only [bind_eq_ok, pure_eq_ok, Prod.mk.injEq] at h
    obtain ⟨_, hname, rfl, -⟩ := h
    have within := hs.narrow (List.cons_subset.mpr ⟨hd, List.nil_subset _⟩)
    have knows := (scope.narrow [dataset]).ensures_field resolver typed {}
    rw [hrun] at knows
    have knows := (knows none).2 within
    unfold FieldSet.nameIn at hname
    split at hname
    · rename_i found
      obtain rfl := Except.ok.inj hname
      exact List.forall_mem_map.mp knows _ (Dictionary.mem_of_find? found)
    · cases hname

theorem ensures_indexQueries (scope : Scope) (query : Lucene.Query) (datasets : List String) :
    Ensures (indexQueries scope query datasets) fun queries => scope.In resolver →
      datasets ⊆ resolver.names → resolver.Knows (Doc.Query.mentionsOfEntries queries) := by
  induction datasets with
  | nil => exact .pure fun _ _ => Resolver.knows_nil
  | cons d rest ih =>
    rw [indexQueries]
    split
    · rename_i q hq
      refine .bind ih fun _ => .pure fun others hs hds => ?_
      obtain ⟨hd, hrest⟩ := List.cons_subset.mp hds
      refine Resolver.knows_append.mpr ⟨List.forall_mem_cons.mpr ⟨hd, ?_⟩, others hs hrest⟩
      exact List.forall_mem_map.mpr (Lucene.Query.forall_terms_resolve
        (P := fun name => (Mention.field d name).KnownTo resolver)
        (fun _ _ _ h => known_of_indexField hs hd h) query hq)
    · exact .afterReport ih

theorem ensures_indexFilter (text : String) (scope : Scope) :
    Ensures (indexFilter text scope) fun f =>
      scope.In resolver → resolver.Knows f.mentions := by
  unfold indexFilter
  split
  · exact .standIn
  · exact .bind (ensures_indexQueries scope _ scope.names) fun _ =>
      .pure fun known hs => known hs hs.names_subset

theorem ensures_resolveDatasets (scope : Scope) (typed : List String) :
    Ensures (resolveDatasets scope typed) fun names => names ⊆ scope.names := by
  refine .bind (.mapM typed fun t _ => scope.ensures_dataset t) fun found => .pure fun known => ?_
  exact fun d hd => known d (Names.mem_ofList.mp hd)

theorem ensures_checkPattern (pattern : String) : Ensures (checkPattern pattern) fun _ => True := by
  intro found none
  refine ⟨?_, trivial⟩
  change (Pattern.check pattern found).errors = [] at none
  unfold Pattern.check at none
  split at none
  · exact none
  · exact absurd none (Ensures.note_ne_nil _ _)

/-! ## Document expressions -/

variable {r : Resolution}

theorem knows_make (op : DocOperator) {left right : Doc.Metric}
    (hl : resolver.Knows left.mentions) (hr : resolver.Knows right.mentions) :
    resolver.Knows (op.make left right).mentions := by
  cases op with
  | add =>
    refine Doc.Metric.forall_mentions_sum ?_
    exact Resolver.knows_append.mpr ⟨hl, Resolver.knows_append.mpr ⟨hr, Resolver.knows_nil⟩⟩
  | arithmetic op => exact Resolver.knows_append.mpr ⟨hl, hr⟩

mutual

/-- What a document metric is resolved to names datasets and fields of the query. -/
theorem DocMetric.ensures_resolve (sound : r.Sound resolver) (scope : Scope) (m : DocMetric) :
    Ensures (m.resolve r scope) fun m' => scope.In resolver → resolver.Knows m'.mentions := by
  match m with
  | .name n =>
    rw [DocMetric.resolve]
    exact n.ensures_resolveMetric scope sound
  | .int _ | .count | .docId =>
    rw [DocMetric.resolve]
    exact .pure fun _ => Resolver.knows_nil
  | .negate m | .abs m | .signum m | .log m _ | .exp m _ =>
    rw [DocMetric.resolve]
    exact .bind (DocMetric.ensures_resolve sound scope m) fun _ => .pure id
  | .binary op left right =>
    rw [DocMetric.resolve]
    exact .bind (DocMetric.ensures_resolve sound scope left) fun _ =>
      .bind (DocMetric.ensures_resolve sound scope right) fun _ =>
        .pure fun hr hl hs => knows_make op (hl hs) (hr hs)
  | .min ms | .max ms =>
    rw [DocMetric.resolve]
    exact .bind (DocMetric.ensures_resolveAll sound scope ms) fun _ =>
      .pure fun hms hs => Doc.Metric.forall_mentions_extreme (hms hs)
  | .hasInt n _ | .hasString n _ | .hasIntField n | .hasStringField n | .length n | .intTermCount n
  | .stringTermCount n | .floatScale n .. =>
    rw [DocMetric.resolve]
    exact n.ensures_probe scope fun _ => rfl
  | .extract n pattern _ =>
    rw [DocMetric.resolve]
    exact .bind (ensures_checkPattern pattern) fun _ =>
      (n.ensures_probe scope fun _ => rfl).imp fun _ hm _ => hm
  | .ifThenElse condition yes no =>
    rw [DocMetric.resolve]
    exact .bind (DocFilter.ensures_resolve sound scope condition) fun _ =>
      .bind (DocMetric.ensures_resolve sound scope yes) fun _ =>
        .bind (DocMetric.ensures_resolve sound scope no) fun _ => .pure fun hn hy hc hs =>
          Resolver.knows_append.mpr ⟨Resolver.knows_append.mpr ⟨hc hs, hy hs⟩, hn hs⟩

theorem DocMetric.ensures_resolveAll (sound : r.Sound resolver) (scope : Scope)
    (ms : List DocMetric) :
    Ensures (DocMetric.resolveAll r scope ms) fun ms' =>
      scope.In resolver → resolver.Knows (Doc.Metric.mentionsOfAll ms') := by
  match ms with
  | [] =>
    rw [DocMetric.resolveAll]
    exact .pure fun _ => Resolver.knows_nil
  | m :: rest =>
    rw [DocMetric.resolveAll]
    exact .bind (DocMetric.ensures_resolve sound scope m) fun _ =>
      .bind (DocMetric.ensures_resolveAll sound scope rest) fun _ =>
        .pure fun hrest hm hs => Resolver.knows_append.mpr ⟨hm hs, hrest hs⟩

/-- What a document filter is resolved to names datasets and fields of the query. -/
theorem DocFilter.ensures_resolve (sound : r.Sound resolver) (scope : Scope) (f : DocFilter) :
    Ensures (f.resolve r scope) fun f' => scope.In resolver → resolver.Knows f'.mentions := by
  match f with
  | .fieldIs n term negated =>
    rw [DocFilter.resolve]
    refine .bind (n.ensures_isDimension scope) fun isDimension => ?_
    split
    · exact (n.ensures_dimensionIs scope sound term negated).imp fun _ hf _ => hf
    · exact (n.ensures_fieldIs scope term negated).imp fun _ hf _ => hf
  | .regex n pattern negated =>
    rw [DocFilter.resolve]
    refine .bind (n.ensures_isDimension scope) fun isDimension => ?_
    split
    · exact .standIn
    · refine .bind (ensures_checkPattern pattern) fun _ =>
        .bind (n.ensures_resolveField scope resolver) fun field => .pure fun hfield _ _ hs => ?_
      refine n.knows_qualifyFilter (hfield hs) ?_
      cases negated <;> exact hfield hs
  | .fieldIn n terms negated =>
    rw [DocFilter.resolve]
    refine .bind
      (n.ensures_fieldFilter scope fun field => n.ensures_termsFilter resolver field terms _)
      fun f => .pure fun hf hs => ?_
    cases negated <;> exact hf hs
  | .between n lower upper =>
    rw [DocFilter.resolve]
    exact n.ensures_fieldFilter scope fun _ => .pure id
  | .compare _ left right =>
    rw [DocFilter.resolve]
    exact .bind (DocMetric.ensures_resolve sound scope left) fun _ =>
      .bind (DocMetric.ensures_resolve sound scope right) fun _ =>
        .pure fun hr hl hs => Resolver.knows_append.mpr ⟨hl hs, hr hs⟩
  | .lucene text =>
    rw [DocFilter.resolve]
    exact ensures_indexFilter text scope
  | .sample n numerator denominator seed =>
    rw [DocFilter.resolve]
    refine .bind (Q := fun _ => True) ?_ fun _ =>
      .bind (n.ensures_resolveField scope resolver) fun field => .pure fun hfield _ hs =>
        n.knows_qualifyFilter (hfield hs) (hfield hs)
    exact .checked
  | .bool value =>
    cases value <;>
    · rw [DocFilter.resolve]
      exact .pure fun _ => Resolver.knows_nil
  | .and fs =>
    rw [DocFilter.resolve]
    exact .bind (DocFilter.ensures_resolveAll sound scope fs) fun _ =>
      .pure fun hfs hs => Doc.Filter.forall_mentions_all (hfs hs)
  | .or fs =>
    rw [DocFilter.resolve]
    exact .bind (DocFilter.ensures_resolveAll sound scope fs) fun _ =>
      .pure fun hfs hs => Doc.Filter.forall_mentions_any (hfs hs)
  | .not f =>
    rw [DocFilter.resolve]
    exact .bind (DocFilter.ensures_resolve sound scope f) fun _ => .pure id
  | .qualified datasets f =>
    rw [DocFilter.resolve]
    refine .bind (ensures_resolveDatasets scope datasets) fun names =>
      .bind (DocFilter.ensures_resolve sound (scope.narrow names) f) fun inner =>
        .pure fun hf hnames hs => ?_
    have sub := List.Subset.trans hnames hs.names_subset
    have hinner := hf (hs.narrow sub)
    split
    · exact Resolver.knows_append.mpr ⟨Resolver.knows_datasets sub, hinner⟩
    · exact hinner

theorem DocFilter.ensures_resolveAll (sound : r.Sound resolver) (scope : Scope)
    (fs : List DocFilter) :
    Ensures (DocFilter.resolveAll r scope fs) fun fs' =>
      scope.In resolver → resolver.Knows (Doc.Filter.mentionsOfAll fs') := by
  match fs with
  | [] =>
    rw [DocFilter.resolveAll]
    exact .pure fun _ => Resolver.knows_nil
  | f :: rest =>
    rw [DocFilter.resolveAll]
    exact .bind (DocFilter.ensures_resolve sound scope f) fun _ =>
      .bind (DocFilter.ensures_resolveAll sound scope rest) fun _ =>
        .pure fun hrest hf hs => Resolver.knows_append.mpr ⟨hf hs, hrest hs⟩

end

end Query

/-! ## Dimensions -/

namespace Resolution

variable {r : Resolution}

theorem ensures_entryMetric (sound : r.Sound resolver) (scope : Scope) (name dataset : String) :
    Ensures (r.entryMetric scope name dataset) fun m =>
      dataset ∈ resolver.names → scope.In resolver → resolver.Knows m.mentions := by
  have only (hd : dataset ∈ resolver.names) (hs : scope.In resolver) :
      (scope.narrow [dataset]).In resolver :=
    hs.narrow (List.cons_subset.mpr ⟨hd, List.nil_subset _⟩)
  unfold entryMetric
  dsimp only
  split
  · exact .bind ((scope.narrow [dataset]).ensures_field resolver name) fun _ =>
      .pure fun hf hd hs => hf (only hd hs)
  · split
    · rename_i metric _
      exact (metric.ensures_resolve sound _).imp fun _ hm hd hs => hm (only hd hs)
    · exact .standIn

theorem knows_join {metrics : List (String × Doc.Metric)}
    (h : ∀ e ∈ metrics, e.1 ∈ resolver.names ∧ resolver.Knows e.2.mentions) :
    resolver.Knows (join metrics).mentions := by
  unfold join
  split
  · exact (h _ (List.mem_singleton_self _)).2
  · exact Doc.Metric.forall_mentionsOfEntries.mpr h

/-- What stands for a dimension names datasets and fields of the query, however many dimensions may
still be opened. -/
theorem sound_expansion (settings : Settings) (depth : Nat) (opened : List String) :
    Resolution.Sound resolver ⟨settings, expansion settings depth opened⟩ := by
  induction depth generalizing opened with
  | zero => exact fun name scope => .standIn
  | succ depth ih =>
    intro name scope
    dsimp only
    rw [expansion]
    split
    · exact .standIn
    · refine .bind (.mapM (R := fun e => scope.In resolver →
          e.1 ∈ resolver.names ∧ resolver.Knows e.2.mentions) scope.names fun dataset hd => ?_)
        fun metrics => .pure fun known hs => knows_join fun e he => known e he hs
      exact .bind (ensures_entryMetric (ih _) scope name dataset) fun _ => .pure fun hm hs =>
        have here := hs.names_subset hd
        ⟨here, hm here hs⟩

theorem sound_ofResolver (settings : Settings) : (ofResolver settings resolver).Sound resolver :=
  sound_expansion settings _ []

end Resolution

end Groupwise
