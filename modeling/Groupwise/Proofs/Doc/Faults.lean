import Groupwise.Doc.Routing
import Groupwise.Proofs.Outcome

/-!
# Programs and actions meet no fault

A compilation may refuse a query for many reasons. An internal fault is none of them: it is reported
when a stage is handed what an earlier stage should have replaced. Writing the program of a document
metric never is at fault, nor is lowering a document filter to actions.
-/
namespace Groupwise

variable {α β : Type}

/-- A computation does not end in an internal fault. -/
def Faultless (x : CompileM α) : Prop := ∀ reason, x ≠ .error (.internal reason)

namespace Faultless

theorem ok (a : α) : Faultless (.ok a : CompileM α) := nofun

theorem pure (a : α) : Faultless (Pure.pure a : CompileM α) := nofun

theorem bind_ok {x : CompileM α} {k : α → CompileM β} (hx : Faultless x)
    (hk : ∀ a, x = .ok a → Faultless (k a)) : Faultless (x >>= k) := by
  intro reason
  cases x with
  | error e => exact fun h => hx reason (congrArg _ (Except.error.inj h))
  | ok a => exact hk a rfl reason

theorem bind {x : CompileM α} {k : α → CompileM β} (hx : Faultless x) (hk : ∀ a, Faultless (k a)) :
    Faultless (x >>= k) :=
  hx.bind_ok fun a _ => hk a

/-- What another computation failed with is passed on. -/
theorem error {x : CompileM α} {e : CompileError} (hx : Faultless x) (h : x = .error e) :
    Faultless (.error e : CompileM β) :=
  fun reason he => hx reason (h.trans (congrArg _ (Except.error.inj he)))

theorem mapM {f : α → CompileM β} {as : List α} (hf : ∀ a ∈ as, Faultless (f a)) :
    Faultless (as.mapM f) := by
  induction as with
  | nil => exact .pure []
  | cons a rest ih =>
    rw [List.forall_mem_cons] at hf
    rw [List.mapM_cons]
    exact hf.1.bind fun _ => (ih hf.2).bind fun _ => .pure _

theorem foldlM {f : β → α → CompileM β} {as : List α} (hf : ∀ b, ∀ a ∈ as, Faultless (f b a))
    (b : β) : Faultless (as.foldlM f b) := by
  induction as generalizing b with
  | nil => exact .pure b
  | cons a rest ih =>
    rw [List.foldlM_cons]
    exact (hf b a (List.mem_cons_self ..)).bind
      (ih fun b c hc => hf b c (List.mem_cons_of_mem a hc))

theorem collect {f : String → CompileM α} (hf : ∀ name, Faultless (f name)) (names : Names) :
    Faultless (Dictionary.collect names f) :=
  .mapM fun name _ => (hf name).bind fun _ => .pure _

end Faultless

theorem FieldSet.faultless_nameIn (f : FieldSet) (dataset : String) :
    Faultless (f.nameIn dataset) := by
  unfold nameIn
  split <;> rintro _ ⟨⟩

namespace Doc

variable {dataset : String}

mutual

theorem Query.faultless_toFilter (q : Query) : Faultless (q.toFilter dataset) := by
  match q with
  | .term _ => exact .ok _
  | .boolean op qs =>
    rw [Query.toFilter]
    split
    · rename_i e he
      exact (Query.faultless_toFilters qs).error he
    · cases op <;> exact .ok _
  | .range .. =>
    rw [Query.toFilter]
    split <;> rintro _ ⟨⟩

theorem Query.faultless_toFilters (qs : List Query) : Faultless (Query.toFilters dataset qs) := by
  match qs with
  | [] => exact .ok _
  | q :: rest =>
    rw [Query.toFilters]
    split
    · rename_i e he
      exact (Query.faultless_toFilter q).error he
    · split
      · rename_i e he
        exact (Query.faultless_toFilters rest).error he
      · exact .ok _

end

variable {lucene : List (String × Query) → CompileM Metric}

mutual

theorem Filter.faultless_truthWith (known : ∀ queries, Faultless (lucene queries)) (f : Filter) :
    Faultless (f.truthWith lucene dataset) := by
  match f with
  | .and fs | .or fs =>
    rw [Filter.truthWith]
    split
    · rename_i e he
      exact (Filter.faultless_truthsWith known fs).error he
    · exact .ok _
  | .not f =>
    rw [Filter.truthWith]
    split
    · rename_i e he
      exact (Filter.faultless_truthWith known f).error he
    · exact .ok _
  | .qualified datasets f =>
    rw [Filter.truthWith]
    split
    · exact Filter.faultless_truthWith known f
    · exact .ok _
  | .lucene text queries => exact known queries
  | .sample .. | .sampleMetric .. | .inQuery .. => rintro _ ⟨⟩
  | .fieldIs .. | .fieldIsnt .. | .between .. | .compare .. | .regex .. | .notRegex ..
  | .fieldEqual .. | .stringIn .. | .intIn .. | .always | .never => exact .ok _

theorem Filter.faultless_truthsWith (known : ∀ queries, Faultless (lucene queries))
    (fs : List Filter) : Faultless (Filter.truthsWith lucene dataset fs) := by
  match fs with
  | [] => exact .ok _
  | f :: rest =>
    rw [Filter.truthsWith]
    split
    · rename_i e he
      exact (Filter.faultless_truthWith known f).error he
    · split
      · rename_i e he
        exact (Filter.faultless_truthsWith known rest).error he
      · exact .ok _

end

theorem Query.faultless_truth (queries : List (String × Query)) :
    Faultless (Query.truth dataset queries) := by
  unfold Query.truth
  split
  · rintro _ ⟨⟩
  · rename_i query _
    split
    · rename_i e he
      exact (Query.faultless_toFilter query).error he
    · rename_i f _
      exact Filter.faultless_truthWith (fun _ _ h => by cases h) f

theorem Filter.faultless_truth (f : Filter) : Faultless (f.truth dataset) :=
  Filter.faultless_truthWith Query.faultless_truth f

mutual

/-- Writing the program of a metric is never at fault. -/
theorem Metric.faultless_pushes (m : Metric) : Faultless (m.pushes dataset) := by
  match m with
  | .constant _ | .count | .docId =>
    rw [Metric.pushes]
    exact .ok _
  | .field f | .regex f _ | .extract f .. | .hasInt f _ | .hasString f _ | .hasIntField f
  | .hasStringField f | .floatScale f .. | .stringLength f | .intTermCount f | .stringTermCount f
  | .sample f .. | .random f .. =>
    rw [Metric.pushes]
    exact (f.faultless_nameIn dataset).bind fun _ => .pure _
  | .fieldEqual f g =>
    rw [Metric.pushes]
    exact (f.faultless_nameIn dataset).bind fun _ =>
      (g.faultless_nameIn dataset).bind fun _ => .pure _
  | .log m _ | .exponentiate m _ | .negate m | .abs m | .signum m | .sampleMetric m ..
  | .randomMetric m .. =>
    rw [Metric.pushes]
    exact (Metric.faultless_pushes m).bind fun _ => .pure _
  | .add ms | .least ms | .greatest ms =>
    rw [Metric.pushes]
    exact (Metric.faultless_pushesOfAll ms).bind fun _ => .pure _
  | .arithmetic _ l r | .compare _ l r =>
    rw [Metric.pushes]
    exact (Metric.faultless_pushes l).bind fun _ =>
      (Metric.faultless_pushes r).bind fun _ => .pure _
  | .ifThenElse c yes no =>
    rw [Metric.pushes]
    split
    · rename_i e he
      exact (Filter.faultless_truth c).error he
    · rename_i truth ht
      have bound := Filter.depth_truth_le _ _ _ ht
      exact (Metric.faultless_pushes truth).bind fun _ =>
        (Metric.faultless_pushes yes).bind fun _ =>
          (Metric.faultless_pushes no).bind fun _ => .pure _
  | .lucene _ queries =>
    rw [Metric.pushes]
    split
    · rintro _ ⟨⟩
    · exact .ok _
  | .qualified d m =>
    rw [Metric.pushes]
    split
    · exact Metric.faultless_pushes m
    · rintro _ ⟨⟩
  | .perDataset ms =>
    rw [Metric.pushes]
    exact Metric.faultless_pushesOfEntry ms
termination_by (m.depth, 0)
decreasing_by
  all_goals
    simp only [Metric.depth, Prod.lex_def]
    omega

theorem Metric.faultless_pushesOfAll (ms : List Metric) :
    Faultless (Metric.pushesOfAll dataset ms) := by
  match ms with
  | [] =>
    rw [Metric.pushesOfAll]
    exact .ok _
  | m :: rest =>
    rw [Metric.pushesOfAll]
    exact (Metric.faultless_pushes m).bind fun _ =>
      (Metric.faultless_pushesOfAll rest).bind fun _ => .pure _
termination_by (Metric.depthOfAll ms, ms.length + 1)
decreasing_by
  all_goals
    simp only [Metric.depthOfAll, Prod.lex_def, List.length_cons]
    omega

theorem Metric.faultless_pushesOfEntry (ms : List (String × Metric)) :
    Faultless (Metric.pushesOfEntry dataset ms) := by
  match ms with
  | [] =>
    rw [Metric.pushesOfEntry]
    rintro _ ⟨⟩
  | (d, m) :: rest =>
    rw [Metric.pushesOfEntry]
    split
    · exact Metric.faultless_pushes m
    · exact Metric.faultless_pushesOfEntry rest
termination_by (Metric.depthOfEntries ms, ms.length + 1)
decreasing_by
  all_goals
    simp only [Metric.depthOfEntries, Prod.lex_def, List.length_cons]
    omega

end

/-! ## Actions -/

theorem faultless_checkScope (scope : Names) (f : FieldSet) : Faultless (f.checkScope scope) := by
  unfold FieldSet.checkScope
  split <;> rintro _ ⟨⟩

theorem faultless_comparisonScope (scope : Names) (left right : Metric) :
    Faultless (comparisonScope scope left right) := by
  unfold comparisonScope
  dsimp only
  split
  · rintro _ ⟨⟩
  · split <;> rintro _ ⟨⟩

namespace Filter

variable {scope : Names} {r : Route}

theorem faultless_metricAction (f : Filter) : Faultless (f.metricAction scope r) :=
  (Faultless.collect (fun _ => f.faultless_truth.bind fun m => m.faultless_pushes) scope).bind
    fun _ => .pure _

theorem faultless_leafAction (f : Filter) : Faultless (f.leafAction scope r) := by
  cases f with
  | fieldIs field term | between field =>
    exact (faultless_checkScope scope field).bind fun _ =>
      (Faultless.collect (fun d => (field.faultless_nameIn d).bind fun _ => .pure _) scope).bind
        fun _ => .pure _
  | compare _ left right =>
    exact (faultless_comparisonScope scope left right).bind fun _ => faultless_metricAction _
  | fieldEqual => exact faultless_metricAction _
  | regex field | sample field | stringIn field | intIn field =>
    exact (faultless_checkScope scope field).bind fun _ => .pure _
  | lucene _ queries =>
    refine Faultless.bind (.collect (fun d => ?_) scope) fun _ => .pure _
    split <;> rintro _ ⟨⟩
  | sampleMetric m =>
    exact (Faultless.collect (fun _ => m.faultless_pushes) scope).bind fun _ => .pure _
  | _ => exact .ok _

mutual

/-- Lowering a filter to actions is never at fault. -/
theorem faultless_actions (scope : Names) (r : Route) (f : Filter) (pool : GroupPool) :
    Faultless (f.actions scope r pool) := by
  match f with
  | .fieldIsnt .. | .notRegex .. =>
    exact (faultless_leafAction _).bind fun _ => .pure _
  | .not f => exact faultless_actions scope _ f pool
  | .qualified datasets f =>
    rw [Filter.actions]
    split
    · exact faultless_actions datasets r f pool
    · rintro _ ⟨⟩
  | .and fs | .or fs =>
    rw [Filter.actions]
    split
    · exact .ok _
    · split
      · exact faultless_actionsUpTo scope _ r fs pool
      · dsimp only
        split
        · rename_i e he
          exact (faultless_actionsOfAll scope _ fs _).error he
        · exact .ok _
  | .fieldIs .. | .between .. | .compare .. | .regex .. | .fieldEqual .. | .lucene .. | .sample ..
  | .sampleMetric .. | .stringIn .. | .intIn .. | .inQuery .. | .always | .never =>
    exact (faultless_leafAction _).bind fun _ => .pure _

theorem faultless_actionsOfAll (scope : Names) (r : Route) (fs : List Filter) (pool : GroupPool) :
    Faultless (Filter.actionsOfAll scope r fs pool) := by
  match fs with
  | [] => exact .ok _
  | f :: rest =>
    rw [Filter.actionsOfAll]
    split
    · rename_i e he
      exact (faultless_actions scope r f pool).error he
    · split
      · rename_i e he
        exact (faultless_actionsOfAll scope r rest _).error he
      · exact .ok _

theorem faultless_actionsUpTo (scope : Names) (r last : Route) (fs : List Filter)
    (pool : GroupPool) : Faultless (Filter.actionsUpTo scope r last fs pool) := by
  match fs with
  | [] => exact .ok _
  | f :: rest =>
    rw [Filter.actionsUpTo]
    split
    · exact faultless_actions scope last f pool
    · split
      · rename_i e he
        exact (faultless_actions scope r f pool).error he
      · split
        · rename_i e he
          exact (faultless_actionsUpTo scope r last rest _).error he
        · exact .ok _

end

end Filter

end Doc

end Groupwise
