import Groupwise.Plan
import Groupwise.Proofs.Aggregate.Nodes
import Groupwise.Proofs.Doc.Constructors

/-!
# What a resolved expression names

A resolved expression names datasets, and physical fields in them: a field stands for one physical
field in each of its datasets, an index query names the fields of its dataset, and a qualified part
names the datasets that it is about. The merging constructors name nothing that their operands do
not name.
-/
namespace Groupwise

/-- A dataset under the name that a query gives it, or a physical field of such a dataset. -/
inductive Mention where
  | dataset (name : String)
  | field (dataset name : String)
  deriving Repr, DecidableEq

def FieldSet.mentions (f : FieldSet) : List Mention := f.names.map fun e => .field e.1 e.2

def FieldSet.mentionsOption : Option FieldSet → List Mention
  | none => []
  | some f => f.mentions

namespace Doc

namespace Query

mutual

/-- The terms of an index query, the ends of ranges included. -/
def terms : Query → List FieldTerm
  | .term start => [start]
  | .boolean _ operands => termsOfAll operands
  | .range start stop _ => [start, stop]

def termsOfAll : List Query → List FieldTerm
  | [] => []
  | q :: rest => terms q ++ termsOfAll rest

end

/-- What an index query names in a dataset. -/
def mentions (dataset : String) (q : Query) : List Mention :=
  .dataset dataset :: q.terms.map fun t => .field dataset t.field

def mentionsOfEntries (queries : List (String × Query)) : List Mention :=
  queries.flatMap fun e => e.2.mentions e.1

end Query

mutual

/-- What is named in a document metric. -/
def Metric.mentions : Metric → List Mention
  | .field f | .regex f _ | .extract f .. | .hasInt f _ | .hasString f _ | .hasIntField f
  | .hasStringField f | .floatScale f .. | .stringLength f | .intTermCount f | .stringTermCount f
  | .sample f .. | .random f .. => f.mentions
  | .fieldEqual f g => f.mentions ++ g.mentions
  | .constant _ | .count | .docId => []
  | .log m _ | .exponentiate m _ | .negate m | .abs m | .signum m | .sampleMetric m ..
  | .randomMetric m .. => m.mentions
  | .add ms | .least ms | .greatest ms => Metric.mentionsOfAll ms
  | .arithmetic _ l r | .compare _ l r => l.mentions ++ r.mentions
  | .ifThenElse c yes no => c.mentions ++ yes.mentions ++ no.mentions
  | .lucene _ queries => Query.mentionsOfEntries queries
  | .qualified d m => .dataset d :: m.mentions
  | .perDataset ms => Metric.mentionsOfEntries ms

def Metric.mentionsOfAll : List Metric → List Mention
  | [] => []
  | m :: rest => m.mentions ++ Metric.mentionsOfAll rest

def Metric.mentionsOfEntries : List (String × Metric) → List Mention
  | [] => []
  | (d, m) :: rest => .dataset d :: m.mentions ++ Metric.mentionsOfEntries rest

/-- What is named in a document filter. -/
def Filter.mentions : Filter → List Mention
  | .fieldIs f _ | .fieldIsnt f _ | .between f .. | .regex f _ | .notRegex f _ | .sample f ..
  | .stringIn f _ | .intIn f _ | .inQuery f .. => f.mentions
  | .fieldEqual f g => f.mentions ++ g.mentions
  | .compare _ l r => l.mentions ++ r.mentions
  | .and fs | .or fs => Filter.mentionsOfAll fs
  | .not f => f.mentions
  | .qualified ds f => ds.map .dataset ++ f.mentions
  | .lucene _ queries => Query.mentionsOfEntries queries
  | .sampleMetric m .. => m.mentions
  | .always | .never => []

def Filter.mentionsOfAll : List Filter → List Mention
  | [] => []
  | f :: rest => f.mentions ++ Filter.mentionsOfAll rest

end

theorem Metric.forall_mentionsOfAll {P : Mention → Prop} {ms : List Metric} :
    (∀ x ∈ mentionsOfAll ms, P x) ↔ ∀ m ∈ ms, ∀ x ∈ m.mentions, P x := by
  induction ms with
  | nil => simp [mentionsOfAll]
  | cons m rest ih => rw [mentionsOfAll, List.forall_mem_append, List.forall_mem_cons, ih]

theorem Metric.forall_mentionsOfEntries {P : Mention → Prop} {ms : List (String × Metric)} :
    (∀ x ∈ mentionsOfEntries ms, P x) ↔
      ∀ e ∈ ms, P (.dataset e.1) ∧ ∀ x ∈ e.2.mentions, P x := by
  induction ms with
  | nil => simp [mentionsOfEntries]
  | cons e rest ih =>
    rw [mentionsOfEntries, List.forall_mem_append, List.forall_mem_cons, List.forall_mem_cons, ih]

theorem Filter.forall_mentionsOfAll {P : Mention → Prop} {fs : List Filter} :
    (∀ x ∈ mentionsOfAll fs, P x) ↔ ∀ f ∈ fs, ∀ x ∈ f.mentions, P x := by
  induction fs with
  | nil => simp [mentionsOfAll]
  | cons f rest ih => rw [mentionsOfAll, List.forall_mem_append, List.forall_mem_cons, ih]

section

variable {P : Mention → Prop}

theorem Metric.forall_mentions_sum {ms : List Metric} (h : ∀ x ∈ mentionsOfAll ms, P x) :
    ∀ x ∈ (sum ms).mentions, P x :=
  property_sum (P := fun m => ∀ x ∈ m.mentions, P x) (fun _ => nofun)
    (fun _ => forall_mentionsOfAll.mp) (fun _ _ => forall_mentionsOfAll.mpr)
    (forall_mentionsOfAll.mp h)

theorem Metric.mentions_make (kind : Extreme) (ms : List Metric) :
    (kind.make ms).mentions = mentionsOfAll ms := by
  cases kind <;> rfl

theorem Metric.forall_mentions_extreme {kind : Extreme} {ms : List Metric}
    (h : ∀ x ∈ mentionsOfAll ms, P x) : ∀ x ∈ (extreme kind ms).mentions, P x :=
  property_extreme (P := fun m => ∀ x ∈ m.mentions, P x) (fun _ => nofun)
    (fun _ inner => forall_mentionsOfAll.mp (mentions_make kind _ ▸ inner))
    (fun _ _ terms => mentions_make kind _ ▸ forall_mentionsOfAll.mpr terms)
    (forall_mentionsOfAll.mp h)

theorem Filter.forall_mentions_all {fs : List Filter} (h : ∀ x ∈ mentionsOfAll fs, P x) :
    ∀ x ∈ (all fs).mentions, P x :=
  property_all (P := fun f => ∀ x ∈ f.mentions, P x) nofun nofun
    (fun _ => forall_mentionsOfAll.mp) (fun _ => forall_mentionsOfAll.mpr)
    (forall_mentionsOfAll.mp h)

theorem Filter.forall_mentions_any {fs : List Filter} (h : ∀ x ∈ mentionsOfAll fs, P x) :
    ∀ x ∈ (any fs).mentions, P x :=
  property_any (P := fun f => ∀ x ∈ f.mentions, P x) nofun nofun
    (fun _ => forall_mentionsOfAll.mp) (fun _ => forall_mentionsOfAll.mpr)
    (forall_mentionsOfAll.mp h)

end

end Doc

namespace Aggregate

variable {ν : Type}

mutual

/-- What is named in a group metric. -/
def Metric.mentions : Metric ν → List Mention
  | .add ms | .least ms | .greatest ms => Metric.mentionsOfAll ms
  | .calculate _ l r => l.mentions ++ r.mentions
  | .function _ m | .parent m | .lag _ m | .iterateLag _ m | .window _ m | .running _ m
  | .named m _ | .average m => m.mentions
  | .docStats m => m.mentions
  | .docStatsIn d m => .dataset d :: m.mentions
  | .distinct f x _ => f.mentions ++ Filter.mentionsOption x
  | .percentile f _ => f.mentions
  | .fieldMin f m x | .fieldMax f m x =>
    f.mentions ++ Metric.mentionsOption m ++ Filter.mentionsOption x
  | .sumAcross g m => g.mentions ++ m.mentions
  | .lookup _ | .multiLookup _ | .reference _ | .constant _ => []
  | .ifThenElse c yes no => c.mentions ++ yes.mentions ++ no.mentions
  | .qualified ds m => ds.map .dataset ++ m.mentions
  | .bootstrap f x _ m _ _ => f.mentions ++ Filter.mentionsOption x ++ m.mentions

def Metric.mentionsOfAll : List (Metric ν) → List Mention
  | [] => []
  | m :: rest => m.mentions ++ Metric.mentionsOfAll rest

def Metric.mentionsOption : Option (Metric ν) → List Mention
  | none => []
  | some m => m.mentions

/-- What is named in a group filter. -/
def Filter.mentions : Filter ν → List Mention
  | .termIs _ | .termRegex _ | .always | .never | .isDefaultGroup => []
  | .compare _ l r => l.mentions ++ r.mentions
  | .and fs | .or fs => Filter.mentionsOfAll fs
  | .not f => f.mentions
  | .regex f _ => f.mentions

def Filter.mentionsOfAll : List (Filter ν) → List Mention
  | [] => []
  | f :: rest => f.mentions ++ Filter.mentionsOfAll rest

def Filter.mentionsOption : Option (Filter ν) → List Mention
  | none => []
  | some f => f.mentions

/-- What is named in a grouping. -/
def Grouping.mentions : Grouping ν → List Mention
  | .buckets m .. => m.mentions
  | .time _ f _ _ | .timeBuckets _ f _ | .month f _ => FieldSet.mentionsOption f
  | .termsIn f .. => f.mentions
  | .terms f x _ m _ => f.mentions ++ Filter.mentionsOption x ++ Metric.mentionsOption m
  | .dayOfWeek | .sessionName => []
  | .quantiles f _ => f.mentions
  | .predicate f => f.mentions
  | .random f .. => f.mentions
  | .randomMetric m .. => m.mentions

end

theorem Metric.forall_mentionsOfAll {P : Mention → Prop} {ms : List (Metric ν)} :
    (∀ x ∈ mentionsOfAll ms, P x) ↔ ∀ m ∈ ms, ∀ x ∈ m.mentions, P x := by
  induction ms with
  | nil => simp [mentionsOfAll]
  | cons m rest ih => rw [mentionsOfAll, List.forall_mem_append, List.forall_mem_cons, ih]

theorem Filter.forall_mentionsOfAll {P : Mention → Prop} {fs : List (Filter ν)} :
    (∀ x ∈ mentionsOfAll fs, P x) ↔ ∀ f ∈ fs, ∀ x ∈ f.mentions, P x := by
  induction fs with
  | nil => simp [mentionsOfAll]
  | cons f rest ih => rw [mentionsOfAll, List.forall_mem_append, List.forall_mem_cons, ih]

section

variable {P : Mention → Prop}

theorem Metric.forall_mentions_sum [Numeric ν] {ms : List (Metric ν)}
    (h : ∀ x ∈ mentionsOfAll ms, P x) : ∀ x ∈ (sum ms).mentions, P x :=
  property_sum (P := fun m => ∀ x ∈ m.mentions, P x) (fun _ => nofun)
    (fun _ => forall_mentionsOfAll.mp) (fun _ => forall_mentionsOfAll.mpr)
    (forall_mentionsOfAll.mp h)

theorem Filter.forall_mentions_merge {c : Connective} {fs : List (Filter ν)}
    (h : ∀ x ∈ mentionsOfAll fs, P x) : ∀ x ∈ (c.merge fs).mentions, P x := by
  refine c.property_merge (P := fun f => ∀ x ∈ f.mentions, P x) ?_ ?_ (fun _ inner => ?_)
    (fun _ operands => ?_) (forall_mentionsOfAll.mp h)
  · cases c <;> exact fun _ => nofun
  · cases c <;> exact fun _ => nofun
  · cases c <;> exact forall_mentionsOfAll.mp inner
  · cases c <;> exact forall_mentionsOfAll.mpr operands

end

end Aggregate

variable {ν : Type}

def Stage.mentions (s : Stage ν) : List Mention :=
  s.grouping.mentions ++ Aggregate.Filter.mentionsOption s.having

/-- What is named in the expressions of a plan. -/
def Plan.mentions (p : Plan ν) : List Mention :=
  (match p.filter with
    | none => []
    | some f => f.mentions) ++
  p.stages.flatMap Stage.mentions ++ p.selects.flatMap Aggregate.Metric.mentions

end Groupwise
