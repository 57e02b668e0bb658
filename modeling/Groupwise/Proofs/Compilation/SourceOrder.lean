import Groupwise.Proofs.Compilation.Validation
import Groupwise.Proofs.OrderedSet
import Groupwise.Proofs.Outcome
import Groupwise.Proofs.Query.Soundness
import Mathlib.Data.List.Forall2

/-!
# The order of the sources of a query

The datasets that a query reads can be listed in any order: what the query compiles to is the same
but for the list of datasets itself. A source that is looked up without an error reports nothing and
does not depend on those before it, and the resolver and the scope of the plan keep the sources in
the order of their names. Two sources of one name are an error, so no order of names is ambiguous.
-/
namespace Groupwise

/-- A computation reports nothing, whatever was found before it, and has a certain result. -/
def Gives {α : Type} (x : Reporting α) (a : α) : Prop := ∀ found, x.run found = (a, found)

namespace Gives

variable {α β : Type} {x : Reporting α} {k : α → Reporting β} {a : α} {b : β}

theorem pure (a : α) : Gives (Pure.pure a) a := fun _ => rfl

theorem bind (hx : Gives x a) (hk : Gives (k a) b) : Gives (x >>= k) b := by
  intro found
  rw [StateT.run_bind, hx found]
  exact hk found

theorem mapM {f : α → Reporting β} {as : List α} {bs : List β}
    (h : List.Forall₂ (fun a b => Gives (f a) b) as bs) : Gives (as.mapM f) bs := by
  induction h with
  | nil => exact pure []
  | cons first _ ih =>
    rw [List.mapM_cons]
    exact first.bind (ih.bind (pure _))

/-- Where all reports are errors, nothing was reported if no error is noted at the end. -/
theorem ensures_bind (hx : Ensures x (Gives x)) (hk : ∀ a, Ensures (k a) (Gives (k a))) :
    Ensures (x >>= k) (Gives (x >>= k)) := by
  apply Ensures.bind hx
  intro a
  exact (hk a).imp fun b later first => first.bind later

theorem ensures_pure (a : α) : Ensures (Pure.pure a) (Gives (Pure.pure a)) := .pure (pure a)

end Gives

/-! ## Looking up -/

namespace Query

theorem ensures_gives_resolveTime (now : Timestamp) (t : Option TimePoint) :
    Ensures (resolveTime now t) (Gives (resolveTime now t)) := by
  unfold resolveTime
  split
  · exact Gives.ensures_pure none
  · split
    · exact Gives.ensures_pure _
    · exact .standIn

theorem ensures_gives_checkTimes (name : String) (start finish : Option Timestamp) :
    Ensures (checkTimes name start finish) (Gives (checkTimes name start finish)) := by
  unfold checkTimes
  split
  · split
    · exact Ensures.report.imp fun _ => False.elim
    · exact Gives.ensures_pure ()
  · exact Gives.ensures_pure ()

theorem From.ensures_gives_source (now : Timestamp) (f : From) :
    Ensures (f.source now) (Gives (f.source now)) := by
  apply Gives.ensures_bind (ensures_gives_resolveTime now f.start)
  intro start
  apply Gives.ensures_bind (ensures_gives_resolveTime now f.finish)
  intro finish
  apply Gives.ensures_bind (ensures_gives_checkTimes f.name start finish)
  intro _
  exact Gives.ensures_pure _

end Query

namespace Resolver

theorem ensures_gives_lookUp (catalog : Catalog) (source : Source) :
    Ensures (lookUp catalog source) (Gives (lookUp catalog source)) := by
  unfold lookUp
  split
  · exact Gives.ensures_pure _
  · exact .standIn

/-- The resolver with sources that were looked up, each under its own name. -/
def enter (resolver : Resolver) (looked : List (Source × Entry)) : Resolver :=
  { resolver with
    entries := looked.foldl (fun entries l => entries.insert l.1.scopeName l.2) resolver.entries }

/-- The catalog knows all of some sources, and they go by different names that are not yet taken. -/
structure Admits (catalog : Catalog) (resolver : Resolver) (sources : List Source)
    (looked : List (Source × Entry)) : Prop where
  gives : List.Forall₂ (fun s l => Gives (lookUp catalog s) l) sources looked
  distinct : (looked.map (·.1.scopeName)).Nodup
  free : ∀ l ∈ looked, (resolver.entries.find? l.1.scopeName).isSome = false

variable {catalog : Catalog} {resolver : Resolver} {sources : List Source}
  {looked : List (Source × Entry)}

theorem Admits.cons {s : Source} {l : Source × Entry} (gives : Gives (lookUp catalog s) l)
    (free : (resolver.entries.find? l.1.scopeName).isSome = false)
    (later : (resolver.enter [l]).Admits catalog sources looked) :
    resolver.Admits catalog (s :: sources) (l :: looked) where
  gives := .cons gives later.gives
  distinct := by
    rw [List.map_cons, List.nodup_cons]
    refine ⟨?_, later.distinct⟩
    intro taken
    obtain ⟨other, there, same⟩ := List.mem_map.mp taken
    have free := later.free other there
    simp [enter, Dictionary.find?_insert, same] at free
  free := by
    rw [List.forall_mem_cons]
    refine ⟨free, ?_⟩
    intro other there
    have free := later.free other there
    simp only [enter, List.foldl_cons, List.foldl_nil, Dictionary.find?_insert] at free
    split at free
    · cases free
    · exact free

/-- Without an error, the catalog knows a source that is added, and no other goes by its name. -/
theorem ensures_enter_addSource (catalog : Catalog) (resolver : Resolver) (s : Source) :
    Ensures (resolver.addSource catalog s) fun (extended, s') =>
      ∃ e, Gives (lookUp catalog s) (s', e) ∧
        (resolver.entries.find? s'.scopeName).isSome = false ∧
          extended = resolver.enter [(s', e)] := by
  apply Ensures.bind (ensures_gives_lookUp catalog s)
  rintro ⟨s', e⟩
  exact .check (.pure fun free gives => ⟨e, gives, Bool.eq_false_of_not_eq_true free, rfl⟩)

/-- Without an error, the catalog knows all sources, and no two of them go by one name. -/
theorem ensures_admits (catalog : Catalog) (resolver : Resolver) (sources : List Source) :
    Ensures (resolver.addSources catalog sources) fun (extended, sources') =>
      ∃ looked, resolver.Admits catalog sources looked ∧ extended = resolver.enter looked ∧
        sources' = looked.map (·.1) := by
  induction sources generalizing resolver with
  | nil => exact .pure ⟨[], ⟨.nil, .nil, by simp⟩, rfl, rfl⟩
  | cons s rest ih =>
    rw [addSources]
    apply Ensures.bind (ensures_enter_addSource catalog resolver s)
    rintro ⟨extended, s'⟩
    apply Ensures.bind (ih extended)
    rintro ⟨final, rest'⟩
    apply Ensures.pure
    rintro ⟨looked, later, rfl, rfl⟩ ⟨e, gives, free, rfl⟩
    exact ⟨(s', e) :: looked, .cons gives free later, rfl, rfl⟩

/-- Sources that are admitted are added without a report. -/
theorem Admits.gives_addSources (admits : resolver.Admits catalog sources looked) :
    Gives (resolver.addSources catalog sources) (resolver.enter looked, looked.map (·.1)) := by
  rcases admits with ⟨gives, distinct, free⟩
  induction gives generalizing resolver with
  | nil => exact .pure _
  | @cons s l sources looked first _ ih =>
    rw [List.map_cons, List.nodup_cons] at distinct
    rw [List.forall_mem_cons] at free
    have added : Gives (resolver.addSource catalog s) (resolver.enter [l], l.1) := by
      apply first.bind
      simp only [free.1]
      exact .pure _
    have later : ∀ other ∈ looked,
        ((resolver.enter [l]).entries.find? other.1.scopeName).isSome = false := by
      intro other there
      have differ : l.1.scopeName ≠ other.1.scopeName := by
        intro same
        exact distinct.1 (same ▸ List.mem_map_of_mem there)
      simpa [enter, Dictionary.find?_insert, differ] using free.2 other there
    rw [addSources]
    exact added.bind ((ih distinct.2 later).bind (.pure _))

/-- The order in which sources are added does not matter to the resolver. -/
theorem Admits.perm {sources' : List Source} (admits : resolver.Admits catalog sources looked)
    (perm : sources'.Perm sources) : ∃ looked', resolver.Admits catalog sources' looked' ∧
      looked'.Perm looked ∧ resolver.enter looked' = resolver.enter looked := by
  obtain ⟨looked', gives, same⟩ := List.perm_comp_forall₂ perm admits.gives
  have distinct := ((same.map (·.1.scopeName)).nodup_iff).mpr admits.distinct
  refine ⟨looked', ⟨gives, distinct, ?_⟩, same, ?_⟩
  · intro l there
    exact admits.free l (same.mem_iff.mp there)
  · unfold enter
    rw [Dictionary.foldl_insert_eq_of_perm same distinct]

end Resolver

/-! ## Planning -/

namespace Plan

variable {ν : Type} [Numeric ν]

/-- The program of a plan knows of the sources nothing but the scope. -/
theorem program_of_scope_eq {p : Plan ν} {sources : List Source}
    (same : Names.ofList (sources.map (·.scopeName)) = p.scope) :
    ({ p with sources } : Plan ν).program = p.program := by
  simp only [program, substitute, traverse, bind_assoc, pure_bind, simplify, revise, filterTopTerms,
    extract, extractM, StateT.run_bind, StateT.run_pure, Extracted.steps, scope] at same ⊢
  rw [same]

end Plan

namespace Query

/-- What is planned once the sources are known. -/
def resolveWith (settings : Settings) (q : Query) (resolver : Resolver) (sources : List Source) :
    Reporting (Plan Float × Resolver) := do
  let r := Resolution.ofResolver settings resolver
  let filter ← resolveFilter r resolver.scope q.filter
  let stages ← q.stages.mapM (Stage.resolve r resolver.scope)
  let selects ← q.selects.mapM (Select.resolve r resolver.scope)
  pure ({ sources, filter, stages, selects, formats := q.selects.map (·.format),
          options := if settings.isLegacy then ["legacy"] else [],
          rowLimit := q.limit.orElse fun _ => settings.rowLimit }, resolver)

/-- The resolver of a query before its sources are added. -/
def emptyResolver (q : Query) : Resolver where
  metricNames := .ofList (q.selects.filterMap (·.label))

/-- The sources of a query can be looked up without a report. -/
def Admits (catalog : Catalog) (now : Timestamp) (q : Query)
    (looked : List (Source × Resolver.Entry)) : Prop :=
  ∃ typed, List.Forall₂ (fun f s => Gives (From.source now f) s) q.sources typed ∧
    q.emptyResolver.Admits catalog typed looked

variable {catalog : Catalog} {settings : Settings} {now : Timestamp} {q : Query}
  {looked : List (Source × Resolver.Entry)}

theorem Admits.run_resolve (admits : q.Admits catalog now looked) (found : Findings) :
    (q.resolve catalog settings now).run found =
      (q.resolveWith settings (q.emptyResolver.enter looked) (looked.map (·.1))).run found := by
  obtain ⟨typed, sources, admits⟩ := admits
  change (q.sources.mapM (From.source now) >>= fun typed =>
    q.emptyResolver.addSources catalog typed >>= fun (resolver, sources) =>
      q.resolveWith settings resolver sources).run found = _
  rw [StateT.run_bind, Gives.mapM sources found]
  change (q.emptyResolver.addSources catalog typed >>= fun (resolver, sources) =>
      q.resolveWith settings resolver sources).run found = _
  rw [StateT.run_bind, admits.gives_addSources found]
  rfl

/-- Without an error, all sources can be looked up. -/
theorem ensures_exists_admits (catalog : Catalog) (settings : Settings) (now : Timestamp)
    (q : Query) : Ensures (q.resolve catalog settings now) fun _ =>
      ∃ looked, q.Admits catalog now looked := by
  apply Ensures.bind (.mapM_forall₂ q.sources (From.ensures_gives_source now))
  intro typed
  apply Ensures.bind (q.emptyResolver.ensures_admits catalog typed)
  rintro ⟨resolver, sources⟩
  have sound : (Resolution.ofResolver settings resolver).Sound resolver :=
    Resolution.sound_ofResolver settings
  apply Ensures.bind (ensures_resolveFilter sound resolver.scope q.filter)
  intro filter
  apply Ensures.bind (.mapM q.stages fun s _ => s.ensures_resolve sound resolver.scope)
  intro stages
  apply Ensures.bind (.mapM q.selects fun s _ => s.ensures_resolve sound resolver.scope)
  intro selects
  apply Ensures.pure
  rintro - - - ⟨looked, admits, -, -⟩ typed
  exact ⟨looked, _, typed, admits⟩

theorem Admits.perm {sources : List From} (admits : q.Admits catalog now looked)
    (perm : sources.Perm q.sources) : ∃ looked',
      ({ q with sources } : Query).Admits catalog now looked' ∧ looked'.Perm looked ∧
        q.emptyResolver.enter looked' = q.emptyResolver.enter looked := by
  obtain ⟨typed, gives, admits⟩ := admits
  obtain ⟨typed', gives', same⟩ := List.perm_comp_forall₂ perm gives
  obtain ⟨looked', admits', permuted, entered⟩ := admits.perm same
  exact ⟨looked', ⟨typed', gives', admits'⟩, permuted, entered⟩

/-- A plan without errors is the same for sources in another order, but for their list. -/
theorem exists_run_resolve_of_perm {sources : List From} {plan : Plan Float} {resolver : Resolver}
    {found : Findings} (perm : sources.Perm q.sources)
    (run : (q.resolve catalog settings now).run {} = ((plan, resolver), found))
    (clean : found.errors = []) : ∃ sources', sources'.Perm plan.sources ∧
      (({ q with sources } : Query).resolve catalog settings now).run {} =
        (({ plan with sources := sources' }, resolver), found) := by
  obtain ⟨-, looked, admits⟩ := q.ensures_exists_admits catalog settings now {}
    (by rw [run]; exact clean)
  obtain ⟨looked', admits', permuted, entered⟩ := admits.perm perm
  rw [admits.run_resolve] at run
  have planned : plan.sources = looked.map (·.1) :=
    congrArg (fun result => result.1.1.sources) run.symm
  refine ⟨looked'.map (·.1), ?_, ?_⟩
  · rw [planned]
    exact permuted.map _
  · rw [admits'.run_resolve]
    change (q.resolveWith settings (q.emptyResolver.enter looked') (looked'.map (·.1))).run {} = _
    rw [entered]
    exact congrArg (fun result : (Plan Float × Resolver) × Findings =>
      ((({ result.1.1 with sources := looked'.map (·.1) } : Plan Float), result.1.2), result.2)) run

/-- A query is planned at the time by its clock if the times of its sources can be counted. -/
theorem plan_eq_ok {planned : Planned} : q.plan catalog settings now = .ok planned ↔
    ∃ offset, clockOffset settings = .ok offset ∧
      q.sources.all (From.isCountable (now.withOffset offset)) = true ∧
      (q.resolve catalog settings (now.withOffset offset)).run {} =
        ((planned.plan, planned.resolver), planned.found) := by
  simp only [plan, bind_eq_ok]
  apply exists_congr
  intro offset
  apply and_congr_right
  intro _
  cases countable : q.sources.all (From.isCountable (now.withOffset offset)) with
  | false => simp [bind, Except.bind]
  | true =>
    rcases (q.resolve catalog settings (now.withOffset offset)).run {} with
      ⟨⟨plan, resolver⟩, found⟩
    rcases planned with ⟨plan', resolver', found'⟩
    simp only [pure_eq_ok, Bool.not_true, Bool.false_eq_true, if_false, true_and, Planned.mk.injEq]
    constructor
    · rintro ⟨rfl, rfl, rfl⟩
      rfl
    · intro same
      cases same
      exact ⟨rfl, rfl, rfl⟩

theorem exists_plan_of_perm {sources : List From} {planned : Planned}
    (perm : sources.Perm q.sources) (h : q.plan catalog settings now = .ok planned)
    (clean : planned.found.errors = []) : ∃ sources', sources'.Perm planned.plan.sources ∧
      ({ q with sources } : Query).plan catalog settings now =
        .ok { planned with plan := { planned.plan with sources := sources' } } := by
  obtain ⟨offset, hoffset, fit, run⟩ := plan_eq_ok.mp h
  obtain ⟨sources', permuted, run'⟩ := exists_run_resolve_of_perm perm run clean
  refine ⟨sources', permuted, plan_eq_ok.mpr ⟨offset, hoffset, ?_, run'⟩⟩
  exact perm.all_eq.trans fit

/-- The order in which a query lists its sources does not matter: in any order it compiles, with the
same commands and the same warnings, if it compiles in one. -/
theorem compile_of_perm_sources {sources : List From} {compiled : Compiled}
    (perm : sources.Perm q.sources) (h : q.compile catalog settings now = .ok compiled) :
    ∃ compiled', ({ q with sources } : Query).compile catalog settings now = .ok compiled' ∧
      compiled'.commands = compiled.commands ∧ compiled'.warnings = compiled.warnings ∧
        compiled'.sources.Perm compiled.sources := by
  simp only [compile, bind_eq_ok, pure_eq_ok] at h
  obtain ⟨planned, hplan, _, clean, program, hprogram, commands, hcommands, found, hfound, warnings,
    hwarnings, rfl⟩ := h
  obtain ⟨sources', permuted, hplan'⟩ :=
    exists_plan_of_perm perm hplan (Findings.errors_of_toExcept clean)
  have scope : Names.ofList (sources'.map (·.scopeName)) = planned.plan.scope :=
    Names.ofList_eq_of_perm (permuted.map _)
  have hprogram' := (Plan.program_of_scope_eq scope).trans hprogram
  simp only [compile, bind_eq_ok, pure_eq_ok]
  refine ⟨_, ⟨_, hplan', _, clean, program, hprogram', commands, hcommands, found, ?_, warnings,
    hwarnings, rfl⟩, rfl, rfl, permuted⟩
  change Command.checkAll planned.resolver.schema (Names.ofList (sources'.map (·.scopeName)))
    commands planned.found = _
  rw [scope, hfound]

/-- Two datasets trade places. A term that the field which they have in common cannot have is
remarked upon. -/
theorem compile_of_perm_sources_swapped :
    let catalog : Catalog := { datasets := [
      { name := "ads", intFields := ["clicks", "zone"] },
      { name := "news", intFields := ["reads", "zone"] }] }
    let news : From := { name := "News" }
    let ads : From := { name := "ads", label := some "a" }
    let q : Query := {
      sources := [news, ads]
      filter := some (.fieldIs ⟨none, "Zone"⟩ (.string "north") false)
      selects := [{ metric := .docSum (.name ⟨some "a", "clicks"⟩) },
        { metric := .docSum (.name ⟨some "news", "reads"⟩) }] }
    [ads, news].Perm q.sources ∧ ∃ compiled compiled',
      q.compile catalog {} default = .ok compiled ∧
        ({ q with sources := [ads, news] } : Query).compile catalog {} default = .ok compiled' ∧
          compiled'.commands = compiled.commands ∧ compiled'.warnings = compiled.warnings ∧
            compiled'.sources.Perm compiled.sources := by
  intro catalog news ads q
  have swap : [ads, news].Perm q.sources := .swap ..
  have compiles : (q.compile catalog {} default).isOk = true := by decide +kernel
  obtain ⟨compiled, h⟩ := exists_of_isOk compiles
  obtain ⟨compiled', result⟩ := compile_of_perm_sources swap h
  exact ⟨swap, compiled, compiled', h, result⟩

end Query

end Groupwise
