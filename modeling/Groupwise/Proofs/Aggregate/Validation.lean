import Groupwise.Aggregate.Validation
import Groupwise.Proofs.Aggregate.Nodes
import Groupwise.Proofs.Doc.Validation

/-!
# What the validation of expressions over groups establishes

Validation reaches every sum over documents in an expression: when it ends without errors, all of
them are valid in their datasets.
-/
namespace Groupwise

/-- A check that can break off: when it ends without errors, there were none before and something is
valid. -/
def Certifies (check : Findings → CompileM Findings) (valid : Prop) : Prop :=
  ∀ found found', check found = .ok found' → found'.errors = [] → found.errors = [] ∧ valid

theorem Judges.certifies {check : Findings → Findings} {valid : Prop}
    (judges : Judges check valid) : Certifies (fun found => .ok (check found)) valid := by
  rintro found _ ⟨⟩ clean
  exact (judges found).mp clean

namespace Certifies

variable {check next : Findings → CompileM Findings} {valid valid' : Prop}

theorem imp (certifies : Certifies check valid) (weaker : valid → valid') :
    Certifies check valid' :=
  fun found found' h clean => (certifies found found' h clean).imp_right weaker

theorem pass : Certifies .ok True := Judges.pass.certifies

theorem fail (e : CompileError) : Certifies (fun _ => .error e) valid := nofun

theorem comp (first : Certifies check valid) (second : Certifies next valid') :
    Certifies (fun found => do next (← check found)) (valid ∧ valid') := by
  intro found found' h clean
  obtain ⟨between, hbetween, h⟩ := bind_eq_ok.mp h
  obtain ⟨clean, known'⟩ := second between found' h clean
  obtain ⟨clean, known⟩ := first found between hbetween clean
  exact ⟨clean, known, known'⟩

/-- A check after one that cannot break off. -/
theorem after {check : Findings → Findings} (first : Judges check valid)
    (second : Certifies next valid') :
    Certifies (fun found => next (check found)) (valid ∧ valid') :=
  first.certifies.comp second

/-- A check of what may not be found, in which case the check breaks off. -/
theorem named {α : Type} {x : CompileM α} {check : α → Findings → Findings} {good : α → Prop}
    (judges : ∀ a, Judges (check a) (good a)) :
    Certifies (fun found => do pure (check (← x) found)) (∃ a, x = .ok a ∧ good a) := by
  intro found found' h clean
  obtain ⟨a, ha, h⟩ := bind_eq_ok.mp h
  obtain rfl := pure_eq_ok.mp h
  exact ((judges a found).mp clean).imp_right fun known => ⟨a, ha, known⟩

theorem foldlM {α : Type} {each : Findings → α → CompileM Findings} {good : α → Prop}
    (certifies : ∀ a, Certifies (each · a) (good a)) (as : List α) :
    Certifies (fun found => as.foldlM each found) (∀ a ∈ as, good a) := by
  induction as with
  | nil => exact pass.imp fun _ => List.forall_mem_nil _
  | cons a rest ih =>
    simp only [List.foldlM_cons]
    exact ((certifies a).comp ih).imp List.forall_mem_cons.mpr

end Certifies

namespace Aggregate

variable {ν : Type}

/-- The sums over documents among some metrics are valid in their datasets. -/
def SumsValid (schema : Schema) (nodes : List (Metric ν)) : Prop :=
  ∀ dataset m, .docStatsIn dataset m ∈ nodes → m.Valid schema dataset

namespace SumsValid

variable {schema : Schema} {nodes more : List (Metric ν)}

theorem nil : SumsValid schema ([] : List (Metric ν)) := nofun

theorem append (first : SumsValid schema nodes) (second : SumsValid schema more) :
    SumsValid schema (nodes ++ more) :=
  fun dataset m hm => (List.mem_append.mp hm).elim (first dataset m) (second dataset m)

/-- A metric that is no sum over documents itself, behind those inside it. -/
theorem snoc (inner : SumsValid schema nodes) {n : Metric ν}
    (other : ∀ dataset m, n ≠ .docStatsIn dataset m) : SumsValid schema (nodes ++ [n]) :=
  inner.append fun dataset m hm => absurd (List.mem_singleton.mp hm).symm (other dataset m)

theorem flatMap {α : Type} {f : α → List (Metric ν)} {as : List α}
    (each : ∀ a ∈ as, SumsValid schema (f a)) : SumsValid schema (as.flatMap f) :=
  fun dataset m hm => have ⟨a, ha, hm⟩ := List.mem_flatMap.mp hm; each a ha dataset m hm

end SumsValid

variable [Numeric ν] {schema : Schema} {scope : Names}

theorem judges_warnOfEquality (filter : Filter ν) (l r : Metric ν) :
    Judges (warnOfEquality filter l r) True := by
  unfold warnOfEquality
  split
  · exact .pass
  · exact .ite (fun _ => .pass) fun _ => .warn _

mutual

/-- Validation of a metric reaches every sum over documents in it. -/
theorem Metric.certifies_check (m : Metric ν) :
    Certifies (m.check schema scope) (SumsValid schema m.nodes) := by
  match m with
  | .docStats m =>
    exact (Judges.foldl (fun d => m.judges_check) scope).certifies.imp fun _ => .snoc .nil nofun
  | .docStatsIn d m =>
    refine m.judges_check.certifies.imp fun valid dataset n hn => ?_
    obtain ⟨rfl, rfl⟩ := Metric.docStatsIn.inj (List.mem_singleton.mp hn)
    exact valid
  | .add ms | .least ms | .greatest ms =>
    exact (Metric.certifies_checkAll ms).imp (.snoc · nofun)
  | .calculate _ a b =>
    exact ((Metric.certifies_check a).comp (Metric.certifies_check b)).imp
      fun valid => .snoc (valid.1.append valid.2) nofun
  | .function _ m | .running _ m => exact (Metric.certifies_check m).imp (.snoc · nofun)
  | .lag _ m | .iterateLag _ m | .window _ m =>
    exact (Certifies.after (.guardNot _ _) (Metric.certifies_check m)).imp
      fun valid => .snoc valid.2 nofun
  | .ifThenElse c y n =>
    exact ((Filter.certifies_check c).comp
      ((Metric.certifies_check y).comp (Metric.certifies_check n))).imp
      fun valid => .snoc ((valid.1.append valid.2.1).append valid.2.2) nofun
  | .lookup _ | .multiLookup _ | .constant _ => exact Certifies.pass.imp fun _ => .snoc .nil nofun
  | .parent _ | .distinct .. | .percentile .. | .fieldMin .. | .fieldMax .. | .sumAcross ..
  | .qualified .. | .bootstrap .. | .average _ | .named .. | .reference _ => exact .fail _

theorem Metric.certifies_checkAll (ms : List (Metric ν)) :
    Certifies (Metric.checkAll schema scope ms) (SumsValid schema (Metric.nodesOfAll ms)) := by
  match ms with
  | [] => exact Certifies.pass.imp fun _ => .nil
  | m :: rest =>
    exact ((Metric.certifies_check m).comp (Metric.certifies_checkAll rest)).imp
      fun valid => valid.1.append valid.2

/-- Validation of a filter reaches every sum over documents in it. -/
theorem Filter.certifies_check (f : Filter ν) :
    Certifies (f.check schema scope) (SumsValid schema f.nodes) := by
  match f with
  | .compare op a b =>
    have operands : Certifies
        (fun found => do b.check schema scope (← a.check schema scope found))
        (SumsValid schema (a.nodes ++ b.nodes)) :=
      ((Metric.certifies_check a).comp (Metric.certifies_check b)).imp
        fun valid => valid.1.append valid.2
    cases op
    case eq | ne =>
      exact (Certifies.after (judges_warnOfEquality _ a b) operands).imp And.right
    all_goals exact operands
  | .and fs | .or fs => exact Filter.certifies_checkAll fs
  | .not f => exact Filter.certifies_check f
  | .regex field p =>
    exact (Certifies.after (Pattern.judges_check p) (.foldlM
      (fun _ => .named fun name => Schema.judges_checkField name _) scope)).imp fun _ => .nil
  | .termRegex p => exact (Pattern.judges_check p).certifies.imp fun _ => .nil
  | .termIs _ | .always | .never | .isDefaultGroup => exact Certifies.pass.imp fun _ => .nil

theorem Filter.certifies_checkAll (fs : List (Filter ν)) :
    Certifies (Filter.checkAll schema scope fs) (SumsValid schema (Filter.nodesOfAll fs)) := by
  match fs with
  | [] => exact Certifies.pass.imp fun _ => .nil
  | f :: rest =>
    exact ((Filter.certifies_check f).comp (Filter.certifies_checkAll rest)).imp
      fun valid => valid.1.append valid.2

end

end Aggregate

end Groupwise
