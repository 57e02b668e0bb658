import Groupwise.Proofs.Aggregate.Nodes
import Groupwise.Proofs.Plan.Extraction
import Groupwise.Proofs.Plan.Fitness

/-!
# Sums for the parent groups

A sum over documents that is selected for the parent groups is computed before the last grouping and
looked up behind it. The number of documents by which an average is divided is not: it stays a sum
over the documents of the groups themselves. So what is left of the metric has a sum of its own
exactly if an average is exposed in it, that is, if it stands in no computation.
-/
namespace Groupwise

open Aggregate

variable {ν : Type}

namespace Aggregate

/-- The dataset and the document metric of a sum over the documents of the groups. -/
def Metric.ownSum : Metric ν → List (String × Doc.Metric)
  | .docStatsIn dataset m => [(dataset, m)]
  | _ => []

theorem Metric.skipsSums_ownSum : SkipsSums (@Metric.ownSum ν) where
  add _ := rfl
  constant _ := rfl

/-- Whether the metric stands for sums of a dataset or for numbers that are computed already. -/
def Metric.isTaken : Metric ν → Bool
  | .docStatsIn .. => true
  | .lookup _ => true
  | .multiLookup _ => true
  | _ => false

mutual

/-- The metrics in a metric, itself included, that stand in no computation and in no combination
that a constant operand decides. -/
def Metric.exposed : Metric ν → List (Metric ν)
  | .add ms => Metric.exposedInAll ms ++ [.add ms]
  | .calculate op l r => l.exposed ++ r.exposed ++ [.calculate op l r]
  | .function f m => m.exposed ++ [.function f m]
  | .parent m => m.exposed ++ [.parent m]
  | .lag n m => m.exposed ++ [.lag n m]
  | .iterateLag n m => m.exposed ++ [.iterateLag n m]
  | .window n m => m.exposed ++ [.window n m]
  | .running n m => m.exposed ++ [.running n m]
  | .ifThenElse c y n => c.exposed ++ y.exposed ++ n.exposed ++ [.ifThenElse c y n]
  | .least ms => Metric.exposedInAll ms ++ [.least ms]
  | .greatest ms => Metric.exposedInAll ms ++ [.greatest ms]
  | .qualified ds m => m.exposed ++ [.qualified ds m]
  | .named m name => m.exposed ++ [.named m name]
  | .average m => m.exposed ++ [.average m]
  | m => [m]

def Metric.exposedInAll : List (Metric ν) → List (Metric ν)
  | [] => []
  | m :: rest => m.exposed ++ Metric.exposedInAll rest

def Filter.exposed : Filter ν → List (Metric ν)
  | .compare _ l r => l.exposed ++ r.exposed
  | .and fs => if (Filter.constants fs).contains (some false) then [] else Filter.exposedInAll fs
  | .or fs => if (Filter.constants fs).contains (some true) then [] else Filter.exposedInAll fs
  | .not f => f.exposed
  | _ => []

def Filter.exposedInAll : List (Filter ν) → List (Metric ν)
  | [] => []
  | f :: rest => f.exposed ++ Filter.exposedInAll rest

end

end Aggregate

/-- What extraction for groups of some depth above those of the whole expression leaves of an
expression: one that looks up the given names and sums over documents as given. -/
structure Raised (depth : Int) (tasks : List (Task ν)) (exposed : List (Metric ν))
    (names : List String) (sums : List (String × Doc.Metric)) : Prop where
  computed : ∀ name ∈ names, ∃ t ∈ tasks, name ∈ t.outputs ∧ t.depth ≤ depth
  read : ∀ d, .docStats d ∈ exposed → ∃ t ∈ tasks,
    (∃ c, t.computation = .rawStats c ∧ (c = d ∨ (c == d) = true)) ∧ t.depth ≤ depth ∧
      t.name ∈ names
  counts : ∀ s ∈ sums, s.2 = .qualified s.1 .count
  averaged : (∃ s, s ∈ sums) ↔ ∃ m, .average m ∈ exposed

namespace Raised

variable {depth : Int} {tasks after : List (Task ν)} {exposed others : List (Metric ν)}
  {names names' : List String} {sums sums' : List (String × Doc.Metric)} {m : Metric ν}

theorem nil : Raised depth tasks [] [] [] :=
  ⟨nofun, nofun, nofun, by simp⟩

theorem congr (raised : Raised depth tasks exposed names sums)
    (sameNames : ∀ name, name ∈ names' ↔ name ∈ names) (sameSums : ∀ s, s ∈ sums' ↔ s ∈ sums) :
    Raised depth tasks exposed names' sums' where
  computed name hn := raised.computed name ((sameNames name).mp hn)
  read d hd := by
    simpa only [sameNames] using raised.read d hd
  counts s hs := raised.counts s ((sameSums s).mp hs)
  averaged := by
    simpa only [sameSums] using raised.averaged

theorem mono (raised : Raised depth tasks exposed names sums) (grown : tasks <+: after) :
    Raised depth after exposed names sums where
  computed name hn :=
    have ⟨t, ht, known⟩ := raised.computed name hn
    ⟨t, grown.subset ht, known⟩
  read d hd :=
    have ⟨t, ht, known⟩ := raised.read d hd
    ⟨t, grown.subset ht, known⟩
  counts := raised.counts
  averaged := raised.averaged

/-- What is left of two parts of an expression, of which the second is taken after the first. -/
theorem append (first : Raised depth tasks exposed names sums) (grown : tasks <+: after)
    (second : Raised depth after others names' sums') :
    Raised depth after (exposed ++ others) (names ++ names') (sums ++ sums') where
  computed := List.forall_mem_append.mpr ⟨(first.mono grown).computed, second.computed⟩
  read d hd := by
    simp only [List.mem_append]
    rcases List.mem_append.mp hd with hd | hd
    · obtain ⟨t, ht, sum, low, read⟩ := (first.mono grown).read d hd
      exact ⟨t, ht, sum, low, .inl read⟩
    · obtain ⟨t, ht, sum, low, read⟩ := second.read d hd
      exact ⟨t, ht, sum, low, .inr read⟩
  counts := List.forall_mem_append.mpr ⟨first.counts, second.counts⟩
  averaged := by
    simp only [List.mem_append, exists_or, first.averaged, second.averaged]

/-- A metric that is neither a sum over documents nor an average is left around its parts. -/
theorem node (raised : Raised depth tasks exposed names sums) (noSum : ∀ d, m ≠ .docStats d)
    (noAverage : ∀ n, m ≠ .average n) : Raised depth tasks (exposed ++ [m]) names sums where
  computed := raised.computed
  read d hd := by
    simp only [List.mem_append, List.mem_singleton, (noSum d).symm, or_false] at hd
    exact raised.read d hd
  counts := raised.counts
  averaged := by
    simp only [raised.averaged, List.mem_append, List.mem_singleton, (noAverage _).symm, or_false]

theorem ofParent (raised : Raised (depth - 1) tasks exposed names sums) :
    Raised depth tasks exposed names sums where
  computed name hn :=
    have ⟨t, ht, known, low⟩ := raised.computed name hn
    ⟨t, ht, known, by omega⟩
  read d hd :=
    have ⟨t, ht, sum, low, read⟩ := raised.read d hd
    ⟨t, ht, sum, by omega, read⟩
  counts := raised.counts
  averaged := raised.averaged

/-- An average is left as a quotient with the number of documents in at least one dataset. -/
theorem average (raised : Raised depth tasks exposed names sums) (n : Metric ν)
    (counts : ∀ s ∈ sums', s.2 = .qualified s.1 .count) (some : ∃ s, s ∈ sums') :
    Raised depth tasks (exposed ++ [.average n]) names (sums ++ sums') where
  computed := raised.computed
  read d hd := raised.read d (by simpa using hd)
  counts := List.forall_mem_append.mpr ⟨raised.counts, counts⟩
  averaged := by
    have ⟨s, hs⟩ := some
    exact ⟨fun _ => ⟨n, by simp⟩, fun _ => ⟨s, List.mem_append_right _ hs⟩⟩

/-- A combination is left with what is left of its operands, unless one absorbs the others. -/
theorem merge {c : Connective} {fs : List (Aggregate.Filter ν)} {constants : List (Option Bool)}
    (fixed : fs.map Filter.fixed? = constants)
    (raised : constants.contains (some (!c.unit)) = false → Raised depth tasks exposed
      (Filter.lookupsOfAll fs) (Filter.collectAll Metric.ownSum fs)) :
    Raised depth tasks (if constants.contains (some (!c.unit)) then [] else exposed)
      (c.merge fs).lookups ((c.merge fs).collect Metric.ownSum) := by
  have decided : constants.contains (some (!c.unit)) = true ↔ c.absorbing ∈ fs := by
    rw [List.contains_iff_mem, ← fixed, Connective.absorbing_mem]
  cases h : constants.contains (some (!c.unit)) with
  | true =>
    have absorbed := decided.mp h
    exact nil.congr (by simp [Connective.mem_collect_merge, absorbed])
      (by simp [Connective.mem_collect_merge, absorbed])
  | false =>
    have kept : c.absorbing ∉ fs := mt decided.mpr (ne_true_of_eq_false h)
    exact (raised h).congr (by simp [Connective.mem_collect_merge, kept])
      (by simp [Connective.mem_collect_merge, kept])

end Raised

/-! ## Runs -/

section Run

variable [Numeric ν] {p : Place} {c : Computation ν} {before after : List (Task ν)} {m r : Metric ν}

omit [Numeric ν] in
theorem Computation.ownSum_result (c : Computation ν) (name : String) :
    (c.result name).collect Metric.ownSum = [] := by
  cases c <;> simp [Computation.result, Metric.collect, Metric.ownSum]

/-- What is scheduled is the result of a task that does the computation for the groups of the place
or for groups above them. -/
theorem exists_task_of_schedule (h : (schedule p c).run before = .ok (r, after)) :
    ∃ t ∈ after, (t.computation = c ∨ (t.computation == c) = true) ∧ t.depth ≤ p.depth ∧
      r.lookups = t.outputs ∧ r.collect Metric.ownSum = [] := by
  suffices ∃ t ∈ after, (t.computation = c ∨ (t.computation == c) = true) ∧ t.depth ≤ p.depth ∧
      r = c.result t.name by
    obtain ⟨t, ht, same, low, rfl⟩ := this
    refine ⟨t, ht, same, low, ?_, c.ownSum_result t.name⟩
    rw [c.lookups_result, Task.outputs]
    rcases same with same | same
    · rw [same]
    · rw [Computation.outputs_of_beq same]
  obtain ⟨t, ⟨-, -, scheduled⟩, left, found⟩ := run_schedule_cases h
  have low : t.depth ≤ p.depth := by
    unfold Place.scheduleDepth at scheduled
    cases hp : p.phase <;> simp only [hp] at scheduled <;> split_ifs at scheduled <;>
      have depth := Except.ok.inj scheduled <;> omega
  obtain ⟨ht, same, rfl⟩ | ⟨same, -, rfl⟩ := found
  · exact ⟨t, ht, .inr same, low, left⟩
  · exact ⟨t, List.mem_append_right _ (List.mem_singleton_self t), .inl same, low, left⟩

/-- A computation takes everything that stands in it out of the expression. -/
theorem raised_schedule (noSum : ∀ d, m ≠ .docStats d) (noAverage : ∀ n, m ≠ .average n)
    (h : (schedule p c).run before = .ok (r, after)) :
    Raised p.depth after [m] r.lookups (r.collect Metric.ownSum) := by
  obtain ⟨t, ht, -, low, looked, summed⟩ := exists_task_of_schedule h
  have result : Raised p.depth after ([] : List (Metric ν)) t.outputs [] :=
    ⟨fun name hn => ⟨t, ht, hn, low⟩, nofun, nofun, by simp⟩
  rw [summed, looked]
  exact result.node noSum noAverage

/-- A sum over documents is computed as it is and looked up. -/
theorem raised_schedule_rawStats {d : Doc.Metric}
    (h : (schedule p (.rawStats d)).run before = .ok (r, after)) :
    Raised p.depth after [.docStats d] r.lookups (r.collect Metric.ownSum) := by
  obtain ⟨t, ht, same, low, looked, summed⟩ := exists_task_of_schedule h
  have raw : ∃ c, t.computation = .rawStats c ∧ (c = d ∨ (c == d) = true) := by
    rcases same with same | same
    · exact ⟨d, same, .inl rfl⟩
    · change t.computation.beq (.rawStats d) = true at same
      unfold Computation.beq at same
      split at same <;> simp_all
  have output : t.outputs = [t.name] := by
    obtain ⟨c, hc, -⟩ := raw
    rw [Task.outputs, hc, Computation.outputs]
    intro _ _ _ _ _ _ other
    cases other
  rw [summed, looked]
  refine ⟨fun name hn => ⟨t, ht, hn, low⟩, fun e he => ?_, by simp, by simp⟩
  obtain rfl := Metric.docStats.inj (List.mem_singleton.mp he)
  exact ⟨t, ht, raw, low, by simp [output]⟩

theorem Aggregate.Metric.mem_ownSum_sum {datasets : List String} {count : String → Doc.Metric}
    {s : String × Doc.Metric} :
    s ∈ (Metric.sum (datasets.map fun d => .docStatsIn d (count d)) : Metric ν).collect
      Metric.ownSum ↔ ∃ d ∈ datasets, s = (d, count d) := by
  rw [Metric.skipsSums_ownSum.mem_collect_sum, Metric.collectAll_eq_flatMap]
  simp [Metric.collect, Metric.ownSum]

/-- An average is left with what is left of the averaged metric and a number of documents. -/
theorem raised_averaged {n : Metric ν} {depth : Int} {exposed : List (Metric ν)}
    (raised : Raised depth before exposed n.lookups (n.collect Metric.ownSum))
    (h : (averaged n).run before = .ok (r, after)) :
    Raised depth after (exposed ++ [.average m]) r.lookups (r.collect Metric.ownSum) := by
  rw [lookups_averaged h]
  obtain ⟨rfl, datasets, some, rfl⟩ := run_averaged_eq_ok h
  obtain ⟨d, hd⟩ := List.exists_mem_of_ne_nil _ some
  have counts : ∀ s ∈ (Metric.sum (datasets.map fun d => .docStatsIn d (.qualified d .count)) :
      Metric ν).collect Metric.ownSum, s.2 = .qualified s.1 .count := by
    intro s hs
    obtain ⟨d, -, rfl⟩ := Metric.mem_ownSum_sum.mp hs
    rfl
  exact (raised.average m counts ⟨_, Metric.mem_ownSum_sum.mpr ⟨d, hd, rfl⟩⟩).congr
    (fun _ => Iff.rfl) (by simp [Metric.divide, Metric.collect, Metric.ownSum])

end Run

/-! ## Expressions -/

section Expressions

variable [Numeric ν]

namespace Aggregate

section Shape

variable {m n : Metric ν}

omit [Numeric ν] in
theorem Metric.Alike.exposed {ms ns : List (Metric ν)} (h : m.Alike ms n ns) :
    m.exposed = Metric.exposedInAll ms ++ [m] ∧ (∀ d, m ≠ .docStats d) ∧ ∀ k, m ≠ .average k := by
  refine ⟨?_, ?_⟩
  · cases h <;> simp [Metric.exposed, Metric.exposedInAll]
  · cases h <;> exact ⟨nofun, nofun⟩

omit [Numeric ν] in
theorem Metric.Alike.ownSum {ms ns : List (Metric ν)} (h : m.Alike ms n ns) :
    n.collect Metric.ownSum = Metric.collectAll Metric.ownSum ns := by
  have nothing : n.ownSum = [] := by
    cases h <;> rfl
  rw [(h.collect _).2, nothing, List.append_nil]

/-- Nothing is exposed in a metric that is computed but the metric itself. -/
theorem Metric.Prepares.exposed {c : Computation ν} {p : Place} {before after : List (Task ν)}
    (h : m.Prepares p before c after) :
    m.exposed = [m] ∧ (∀ d, m ≠ .docStats d) ∧ ∀ k, m ≠ .average k := by
  cases h <;> exact ⟨rfl, nofun, nofun⟩

end Shape

omit [Numeric ν] in
theorem Metric.raised_of_isKept {m : Metric ν} {depth : Int} {tasks : List (Task ν)}
    (kept : m.isKept = true) (bare : ∀ n ∈ m.exposed, n.isTaken = false) :
    Raised depth tasks m.exposed m.lookups (m.collect Metric.ownSum) := by
  match m, kept with
  | .reference _, _ | .constant _, _ => exact Raised.nil.node nofun nofun
  | .docStatsIn .., _ | .lookup _, _ | .multiLookup _, _ =>
    simp [Metric.exposed, Metric.isTaken] at bare

omit [Numeric ν] in
theorem Filter.raised_of_isKept {f : Filter ν} {depth : Int} {tasks : List (Task ν)}
    (kept : f.isKept = true) :
    Raised depth tasks f.exposed f.lookups (f.collect Metric.ownSum) := by
  cases f <;> first | exact .nil | cases kept

mutual

/-- What extraction leaves of a metric for groups above those of the whole expression. -/
theorem Metric.Extracts.raised {m r : Metric ν} {p : Place} {before after : List (Task ν)}
    (h : m.Extracts p before r after) (above : p.depth < p.startDepth)
    (bare : ∀ n ∈ m.exposed, n.isTaken = false) :
    Raised p.depth after m.exposed r.lookups (r.collect Metric.ownSum) := by
  match h with
  | .kept kept => exact Metric.raised_of_isKept kept bare
  | .parent inner =>
    simp only [Metric.exposed, List.forall_mem_append] at bare
    exact (inner.raised (by dsimp only; omega) bare.1).ofParent.node nofun nofun
  | .qualified inner =>
    simp only [Metric.exposed, List.forall_mem_append] at bare
    exact (inner.raised above bare.1).node nofun nofun
  | .stats here _ => omega
  | .rawStats _ run => exact raised_schedule_rawStats run
  | .distinct _ run => exact raised_schedule nofun nofun run
  | .computed prepared run =>
    obtain ⟨alone, noSum, noAverage⟩ := prepared.exposed
    rw [alone]
    exact raised_schedule noSum noAverage run
  | .average inner run =>
    simp only [Metric.exposed, List.forall_mem_append] at bare
    exact raised_averaged (inner.raised above bare.1) run
  | .add terms =>
    simp only [Metric.exposed, List.forall_mem_append] at bare
    exact ((terms.raised above bare.1).congr (fun _ => Metric.mem_lookups_sum)
      fun _ => Metric.skipsSums_ownSum.mem_collect_sum).node nofun nofun
  | .around alike parts =>
    obtain ⟨exposed, noSum, noAverage⟩ := alike.exposed
    rw [exposed, List.forall_mem_append] at bare
    rw [exposed, alike.lookups.2, alike.ownSum]
    exact (parts.raised above bare.1).node noSum noAverage
  | .ifThenElse condition yes no =>
    simp only [Metric.exposed, List.forall_mem_append] at bare
    have decided := condition.raised above bare.1.1.1
    have first := decided.append yes.grown (yes.raised above bare.1.1.2)
    have both := first.append no.grown (no.raised above bare.1.2)
    exact (both.congr (by simp [Metric.collect, Metric.lookedUp])
      (by simp [Metric.collect, Metric.ownSum])).node nofun nofun

theorem Metric.ExtractsAll.raised {ms ns : List (Metric ν)} {p : Place}
    {before after : List (Task ν)} (h : Metric.ExtractsAll ms p before ns after)
    (above : p.depth < p.startDepth) (bare : ∀ n ∈ Metric.exposedInAll ms, n.isTaken = false) :
    Raised p.depth after (Metric.exposedInAll ms) (Metric.lookupsOfAll ns)
      (Metric.collectAll Metric.ownSum ns) := by
  match h with
  | .nil => exact .nil
  | .cons first more =>
    simp only [Metric.exposedInAll, List.forall_mem_append] at bare
    exact (first.raised above bare.1).append more.grown (more.raised above bare.2)

theorem Filter.Extracts.raised {f g : Filter ν} {p : Place} {before after : List (Task ν)}
    (h : f.Extracts p before g after) (above : p.depth < p.startDepth)
    (bare : ∀ n ∈ f.exposed, n.isTaken = false) :
    Raised p.depth after f.exposed g.lookups (g.collect Metric.ownSum) := by
  match h with
  | .kept kept => exact Filter.raised_of_isKept kept
  | .compare left right =>
    simp only [Filter.exposed, List.forall_mem_append] at bare
    exact (left.raised above bare.1).append right.grown (right.raised above bare.2)
  | .and operands =>
    rw [Filter.exposed] at bare ⊢
    refine Raised.merge (c := .and) operands.fixed?.2 fun undecided => ?_
    change List.contains _ (some false) = false at undecided
    rw [if_neg (ne_true_of_eq_false undecided)] at bare
    exact operands.raised above bare
  | .or operands =>
    rw [Filter.exposed] at bare ⊢
    refine Raised.merge (c := .or) operands.fixed?.2 fun undecided => ?_
    change List.contains _ (some true) = false at undecided
    rw [if_neg (ne_true_of_eq_false undecided)] at bare
    exact operands.raised above bare
  | .not inner => exact inner.raised above bare

theorem Filter.ExtractsAll.raised {fs gs : List (Filter ν)} {p : Place}
    {before after : List (Task ν)} (h : Filter.ExtractsAll fs p before gs after)
    (above : p.depth < p.startDepth) (bare : ∀ n ∈ Filter.exposedInAll fs, n.isTaken = false) :
    Raised p.depth after (Filter.exposedInAll fs) (Filter.lookupsOfAll gs)
      (Filter.collectAll Metric.ownSum gs) := by
  match h with
  | .nil => exact .nil
  | .cons first more =>
    simp only [Filter.exposedInAll, List.forall_mem_append] at bare
    exact (first.raised above bare.1).append more.grown (more.raised above bare.2)

end

theorem Metric.Extracts.of_parent {m r : Metric ν} {p : Place} {before after : List (Task ν)}
    (h : (Metric.parent m).Extracts p before r after) :
    m.Extracts { p with depth := p.depth - 1 } before r after := by
  cases h with
  | parent inner => exact inner
  | kept kept => cases kept
  | computed prepared => cases prepared
  | around alike => cases alike

theorem Metric.ExtractsAll.getElem? {p : Place} {ms ns : List (Metric ν)}
    {before after : List (Task ν)} (h : Metric.ExtractsAll ms p before ns after) {i : Nat}
    {m : Metric ν} (hm : ms[i]? = some m) :
    ∃ n before' after', ns[i]? = some n ∧ m.Extracts p before' n after' ∧ after' <+: after := by
  induction ms generalizing before ns i with
  | nil => simp at hm
  | cons first rest ih =>
    cases h with
    | cons head more =>
      cases i with
      | zero =>
        obtain rfl := Option.some.inj hm
        exact ⟨_, _, _, rfl, head, more.grown⟩
      | succ i =>
        rw [List.getElem?_cons_succ] at hm ⊢
        exact ih more hm

end Aggregate

end Expressions

/-! ## Plans -/

namespace Plan

variable [Numeric ν]

/-- Let a metric be selected for the parent groups, and let nothing exposed in it be taken as it is.
Then what is left of the metric looks up only what is computed before the last grouping, and its
exposed sums over documents are among that. The only sums over the documents of the groups
themselves are the numbers of documents by which exposed averages are divided. -/
theorem extract_parent {p : Plan ν} {e : Extracted ν} (h : p.extract = .ok e) {i : Nat}
    {m : Metric ν} (hm : p.selects[i]? = some (.parent m))
    (bare : ∀ n ∈ m.exposed, n.isTaken = false) :
    ∃ r, e.plan.selects[i]? = some r ∧
      (∀ name ∈ r.lookups, ∃ t ∈ e.tasks, name ∈ t.outputs ∧ t.depth < p.stages.length) ∧
      (∀ d, .docStats d ∈ m.exposed → ∃ t ∈ e.tasks,
        (∃ c, t.computation = .rawStats c ∧ (c = d ∨ (c == d) = true)) ∧
          t.depth < p.stages.length ∧ t.name ∈ r.lookups) ∧
      (∀ dataset d, .docStatsIn dataset d ∈ r.nodes → d = .qualified dataset .count) ∧
      ((∃ dataset d, .docStatsIn dataset d ∈ r.nodes) ↔ ∃ n, .average n ∈ m.exposed) := by
  obtain ⟨between, -, selects⟩ := extracts_extract h
  obtain ⟨r, before, after, hr, extracts, grown⟩ := selects.getElem? hm
  -- The metric is taken for the groups one level above those of the selected metrics.
  have above : (p.stages.length : Int) - 1 < p.stages.length := by omega
  have raised : Raised (p.stages.length - 1) e.tasks m.exposed r.lookups _ :=
    (extracts.of_parent.raised above bare).mono grown
  have summed {dataset : String} {d : Doc.Metric} :
      (dataset, d) ∈ r.collect Metric.ownSum ↔ .docStatsIn dataset d ∈ r.nodes := by
    rw [Metric.collect_eq_flatMap_nodes, List.mem_flatMap]
    constructor
    · rintro ⟨n, hn, hd⟩
      cases n <;> simp_all [Metric.ownSum]
    · exact fun hd => ⟨_, hd, List.mem_singleton_self _⟩
  refine ⟨r, hr, fun name hn => ?_, fun d hd => ?_, fun dataset d hd => ?_, ?_⟩
  · obtain ⟨t, ht, known, low⟩ := raised.computed name hn
    exact ⟨t, ht, known, by omega⟩
  · obtain ⟨t, ht, sum, low, read⟩ := raised.read d hd
    exact ⟨t, ht, sum, by omega, read⟩
  · exact raised.counts _ (summed.mpr hd)
  · rw [← raised.averaged, Prod.exists]
    simp only [summed]

/-- The clicks for each query, in all countries. -/
theorem extract_parent_quotient :
    let clicks : Doc.Metric := .field (.single "ads" "clicks")
    let m : Metric Float :=
      .calculate .divide (.docStats clicks) (.distinct (.single "ads" "q") none none)
    let p : Plan Float :=
      { sources := [{ dataset := "ads" }]
        stages := [{ grouping := .terms (.single "ads" "country") none none none false }]
        selects := [.parent m]
        formats := [none] }
    (∀ n ∈ m.exposed, n.isTaken = false) ∧ .docStats clicks ∈ m.exposed ∧
    ∃ e r, p.extract = .ok e ∧ e.plan.selects[0]? = some r ∧ r.lookups = ["v0", "v1"] ∧
      (∃ t ∈ e.tasks, t.depth < p.stages.length ∧ t.name ∈ r.lookups) ∧
      ¬ ∃ dataset d, .docStatsIn dataset d ∈ r.nodes := by
  intro clicks m p
  have bare : ∀ n ∈ m.exposed, n.isTaken = false := by decide
  have summed : .docStats clicks ∈ m.exposed := by simp [m, Metric.exposed]
  have extracted : ∃ e, p.extract = .ok e ∧
      Metric.lookupsOfAll e.plan.selects = ["v0", "v1"] ∧ e.plan.selects.length = 1 := by
    simp only [p, m, clicks]
    exact ⟨_, rfl, rfl, rfl⟩
  obtain ⟨e, he, looked, single⟩ := extracted
  obtain ⟨r, hr, -, read, -, averaged⟩ := extract_parent he (i := 0) rfl bare
  obtain ⟨t, ht, -, low, name⟩ := read clicks summed
  obtain ⟨s, one⟩ := List.length_eq_one_iff.mp single
  rw [one] at hr looked
  obtain rfl := Option.some.inj hr
  rw [Metric.lookupsOfAll, Metric.collectAll, Metric.collectAll, List.append_nil] at looked
  refine ⟨bare, summed, e, s, he, by rw [one]; rfl, looked, ⟨t, ht, low, name⟩, ?_⟩
  rw [averaged]
  simp [m, Metric.exposed]

/-- The clicks of all countries are divided by the number of documents of each single one. -/
theorem average_for_parent_counts_own_documents :
    let m : Metric Float := .average (.docStats (.field (.single "ads" "clicks")))
    let p : Plan Float :=
      { sources := [{ dataset := "ads" }]
        stages := [{ grouping := .terms (.single "ads" "country") none none none false }]
        selects := [.parent m]
        formats := [none] }
    (∀ n ∈ m.nodes, n.isTaken = false) ∧ ∃ e, p.extract = .ok e ∧
      e.plan.selects =
        [.calculate .divide (.lookup "v0") (.docStatsIn "ads" (.qualified "ads" .count))] := by
  intro m p
  exact ⟨by decide, _, rfl, rfl⟩

end Plan

end Groupwise
