import Groupwise.Aggregate.Simplify
import Groupwise.Computation
import Groupwise.Plan.Substitution
import Groupwise.Proofs.Aggregate.Nodes
import Groupwise.Proofs.Outcome

/-!
# What is found after passes over expressions

A revision by rules that bring nothing about brings nothing about in the whole expression, and
neither does the replacement of references, which moreover leaves no names. Expressions that compare
as equal look up the same names.
-/
namespace Groupwise.Aggregate

variable {ν α : Type} [Numeric ν] {find : Metric ν → List α}

/-! ## Revisions -/

/-- The rules of a revision leave nothing to be found that was not found before. -/
structure Revision.FindsNoMore (r : Revision ν) (find : Metric ν → List α) : Prop where
  metric : ∀ m, (r.metric m).collect find ⊆ m.collect find
  filter : ∀ f, (r.filter f).collect find ⊆ f.collect find
  grouping : ∀ g, (r.grouping g).collect find ⊆ g.collect find

section Revision

variable {r : Revision ν}

omit [Numeric ν] in
theorem Shallow.subset_of_hull (shallow : Shallow find) {m n : Metric ν}
    (same : m.hull = n.hull) : find m ⊆ find n :=
  shallow.eq_of_hull same ▸ List.Subset.refl _

mutual

theorem Metric.collect_revise (shallow : Shallow find) (less : r.FindsNoMore find)
    (m : Metric ν) : (m.revise r).collect find ⊆ m.collect find := by
  match m with
  | .function _ m | .parent m | .lag _ m | .iterateLag _ m | .window _ m | .running _ m
  | .qualified _ m | .named m _ | .average m =>
    refine List.Subset.trans (less.metric _) (append_subset_append ?_ (shallow.subset_of_hull rfl))
    exact Metric.collect_revise shallow less m
  | .calculate _ a b =>
    refine List.Subset.trans (less.metric _) (append_subset_append ?_ (shallow.subset_of_hull rfl))
    exact append_subset_append (Metric.collect_revise shallow less a)
      (Metric.collect_revise shallow less b)
  | .add ms =>
    refine List.Subset.trans (less.metric _) fun _ h => ?_
    rw [Metric.collect, shallow.skipsSums.add, List.append_nil]
    exact Metric.collect_reviseAll shallow less ms (shallow.mem_collect_sum.mp h)
  | .least ms | .greatest ms =>
    refine List.Subset.trans (less.metric _) (append_subset_append ?_ (shallow.subset_of_hull rfl))
    exact Metric.collect_reviseAll shallow less ms
  | .distinct _ x _ =>
    refine List.Subset.trans (less.metric _) (append_subset_append ?_ (shallow.subset_of_hull rfl))
    exact Filter.collect_reviseOption shallow less x
  | .fieldMin _ m x | .fieldMax _ m x =>
    refine List.Subset.trans (less.metric _) (append_subset_append ?_ (shallow.subset_of_hull rfl))
    exact append_subset_append (Metric.collect_reviseOption shallow less m)
      (Filter.collect_reviseOption shallow less x)
  | .sumAcross g m =>
    refine List.Subset.trans (less.metric _) (append_subset_append ?_ (shallow.subset_of_hull rfl))
    exact append_subset_append (Grouping.collect_revise shallow less g)
      (Metric.collect_revise shallow less m)
  | .ifThenElse c y n =>
    refine List.Subset.trans (less.metric _) (append_subset_append ?_ (shallow.subset_of_hull rfl))
    exact append_subset_append
      (append_subset_append (Filter.collect_revise shallow less c)
        (Metric.collect_revise shallow less y))
      (Metric.collect_revise shallow less n)
  | .bootstrap _ x _ m _ _ =>
    refine List.Subset.trans (less.metric _) (append_subset_append ?_ (shallow.subset_of_hull rfl))
    exact append_subset_append (Filter.collect_reviseOption shallow less x)
      (Metric.collect_revise shallow less m)
  | .docStats _ | .docStatsIn .. =>
    exact List.Subset.trans (less.metric _) (shallow.subset_of_hull rfl)
  | .percentile .. | .lookup _ | .multiLookup _ | .reference _ | .constant _ =>
    exact less.metric _

theorem Metric.collect_reviseAll (shallow : Shallow find) (less : r.FindsNoMore find)
    (ms : List (Metric ν)) :
    Metric.collectAll find (Metric.reviseAll r ms) ⊆ Metric.collectAll find ms := by
  match ms with
  | [] => exact List.Subset.refl _
  | m :: rest =>
    exact append_subset_append (Metric.collect_revise shallow less m)
      (Metric.collect_reviseAll shallow less rest)

theorem Metric.collect_reviseOption (shallow : Shallow find) (less : r.FindsNoMore find)
    (m : Option (Metric ν)) :
    Metric.collectOption find (Metric.reviseOption r m) ⊆ Metric.collectOption find m := by
  match m with
  | none => exact List.Subset.refl _
  | some m => exact Metric.collect_revise shallow less m

theorem Filter.collect_revise (shallow : Shallow find) (less : r.FindsNoMore find)
    (f : Filter ν) : (f.revise r).collect find ⊆ f.collect find := by
  match f with
  | .compare _ a b =>
    exact List.Subset.trans (less.filter _)
      (append_subset_append (Metric.collect_revise shallow less a)
        (Metric.collect_revise shallow less b))
  | .and fs =>
    exact List.Subset.trans (less.filter _) (List.Subset.trans
      (Connective.collect_merge_subset _ .and _) (Filter.collect_reviseAll shallow less fs))
  | .or fs =>
    exact List.Subset.trans (less.filter _) (List.Subset.trans
      (Connective.collect_merge_subset _ .or _) (Filter.collect_reviseAll shallow less fs))
  | .not f => exact List.Subset.trans (less.filter _) (Filter.collect_revise shallow less f)
  | .termIs _ | .termRegex _ | .regex .. | .always | .never | .isDefaultGroup =>
    exact less.filter _

theorem Filter.collect_reviseAll (shallow : Shallow find) (less : r.FindsNoMore find)
    (fs : List (Filter ν)) :
    Filter.collectAll find (Filter.reviseAll r fs) ⊆ Filter.collectAll find fs := by
  match fs with
  | [] => exact List.Subset.refl _
  | f :: rest =>
    exact append_subset_append (Filter.collect_revise shallow less f)
      (Filter.collect_reviseAll shallow less rest)

theorem Filter.collect_reviseOption (shallow : Shallow find) (less : r.FindsNoMore find)
    (f : Option (Filter ν)) :
    Filter.collectOption find (Filter.reviseOption r f) ⊆ Filter.collectOption find f := by
  match f with
  | none => exact List.Subset.refl _
  | some f => exact Filter.collect_revise shallow less f

theorem Grouping.collect_revise (shallow : Shallow find) (less : r.FindsNoMore find)
    (g : Grouping ν) : (g.revise r).collect find ⊆ g.collect find := by
  match g with
  | .terms _ x _ m _ =>
    exact List.Subset.trans (less.grouping _)
      (append_subset_append (Filter.collect_reviseOption shallow less x)
        (Metric.collect_reviseOption shallow less m))
  | .buckets .. | .time .. | .timeBuckets .. | .month .. | .termsIn .. | .dayOfWeek
  | .sessionName | .quantiles .. | .predicate _ | .random .. | .randomMetric .. =>
    exact less.grouping _

end

end Revision

omit [Numeric ν] in
theorem Shallow.collect_constant (shallow : Shallow find) (v : ν) :
    (Metric.constant v).collect find = [] :=
  shallow.constant v

theorem Metric.collect_fold (shallow : Shallow find) (m : Metric ν) :
    m.fold.collect find ⊆ m.collect find := by
  unfold Metric.fold
  split
  · split
    · exact shallow.collect_constant _ ▸ List.nil_subset _
    · exact List.Subset.refl _
  · exact shallow.collect_constant _ ▸ List.nil_subset _
  · dsimp only
    split
    · exact shallow.collect_constant _ ▸ List.nil_subset _
    · exact List.Subset.refl _
  · exact List.Subset.refl _

theorem Filter.collect_fold (find : Metric ν → List α) (f : Filter ν) :
    f.fold.collect find ⊆ f.collect find := by
  unfold Filter.fold
  split
  · split <;> exact List.nil_subset _
  · exact List.nil_subset _
  · exact List.nil_subset _
  · exact List.Subset.refl _
  · exact List.Subset.refl _

theorem simplification_findsNoMore (shallow : Shallow find) :
    (simplification : Revision ν).FindsNoMore find where
  metric := Metric.collect_fold shallow
  filter := Filter.collect_fold find
  grouping _ := List.Subset.refl _

/-! ## References -/

section Expansion

variable {refer : String → CompileM (Metric ν)} {found : Metric ν → List α}

/-- A search that finds all that another one finds in metrics without names. -/
def Covers (found find : Metric ν → List α) : Prop :=
  ∀ m, m.isNamed = false → find m ⊆ found m

omit [Numeric ν] in
/-- What one search finds in a metric without its parts, the other finds in any with the same node. -/
theorem Shallow.subset_of_covers (shallow : Shallow find) (covers : Covers found find)
    {m n : Metric ν} (same : m.hull = n.hull) (plain : n.isNamed = false) : find m ⊆ found n :=
  List.Subset.trans (shallow.subset_of_hull same) (covers n plain)

mutual

/-- Replacing references by metrics in which nothing is found leaves no more to be found, and the
names themselves are gone. -/
theorem Metric.collect_expand (shallow : Shallow find) (covers : Covers found find)
    (bare : ∀ name m, refer name = .ok m → m.collect find = []) (m m' : Metric ν)
    (h : m.expand refer = .ok m') : m'.collect find ⊆ m.collect found := by
  match m with
  | .reference name =>
    rw [bare name m' h]
    exact List.nil_subset _
  | .named m _ =>
    exact List.subset_append_of_subset_left _ (Metric.collect_expand shallow covers bare m m' h)
  | .function _ m | .parent m | .lag _ m | .iterateLag _ m | .window _ m | .running _ m
  | .qualified _ m | .average m =>
    simp only [Metric.expand, bind_eq_ok, pure_eq_ok] at h
    obtain ⟨n, hn, rfl⟩ := h
    exact append_subset_append (Metric.collect_expand shallow covers bare m n hn)
      (shallow.subset_of_covers covers rfl rfl)
  | .calculate _ a b =>
    simp only [Metric.expand, bind_eq_ok, pure_eq_ok] at h
    obtain ⟨k, hk, n, hn, rfl⟩ := h
    exact append_subset_append (append_subset_append
      (Metric.collect_expand shallow covers bare a k hk)
      (Metric.collect_expand shallow covers bare b n hn)) (shallow.subset_of_covers covers rfl rfl)
  | .add ms =>
    simp only [Metric.expand, bind_eq_ok, pure_eq_ok] at h
    obtain ⟨ns, hns, rfl⟩ := h
    exact fun a ha => List.mem_append_left _
      (Metric.collect_expandAll shallow covers bare ms ns hns (shallow.mem_collect_sum.mp ha))
  | .least ms | .greatest ms =>
    simp only [Metric.expand, bind_eq_ok, pure_eq_ok] at h
    obtain ⟨ns, hns, rfl⟩ := h
    exact append_subset_append (Metric.collect_expandAll shallow covers bare ms ns hns)
      (shallow.subset_of_covers covers rfl rfl)
  | .distinct _ x _ =>
    simp only [Metric.expand, bind_eq_ok, pure_eq_ok] at h
    obtain ⟨y, hy, rfl⟩ := h
    exact append_subset_append (Filter.collect_expandOption shallow covers bare x y hy)
      (shallow.subset_of_covers covers rfl rfl)
  | .fieldMin _ m x | .fieldMax _ m x =>
    simp only [Metric.expand, bind_eq_ok, pure_eq_ok] at h
    obtain ⟨n, hn, y, hy, rfl⟩ := h
    exact append_subset_append (append_subset_append
      (Metric.collect_expandOption shallow covers bare m n hn)
      (Filter.collect_expandOption shallow covers bare x y hy))
      (shallow.subset_of_covers covers rfl rfl)
  | .sumAcross g m =>
    simp only [Metric.expand, bind_eq_ok, pure_eq_ok] at h
    obtain ⟨k, hk, n, hn, rfl⟩ := h
    exact append_subset_append (append_subset_append
      (Grouping.collect_expand shallow covers bare g k hk)
      (Metric.collect_expand shallow covers bare m n hn)) (shallow.subset_of_covers covers rfl rfl)
  | .ifThenElse c y n =>
    simp only [Metric.expand, bind_eq_ok, pure_eq_ok] at h
    obtain ⟨d, hd, z, hz, o, ho, rfl⟩ := h
    exact append_subset_append (append_subset_append (append_subset_append
      (Filter.collect_expand shallow covers bare c d hd)
      (Metric.collect_expand shallow covers bare y z hz))
      (Metric.collect_expand shallow covers bare n o ho)) (shallow.subset_of_covers covers rfl rfl)
  | .bootstrap _ x _ m _ _ =>
    simp only [Metric.expand, bind_eq_ok, pure_eq_ok] at h
    obtain ⟨y, hy, n, hn, rfl⟩ := h
    exact append_subset_append (append_subset_append
      (Filter.collect_expandOption shallow covers bare x y hy)
      (Metric.collect_expand shallow covers bare m n hn)) (shallow.subset_of_covers covers rfl rfl)
  | .docStats _ | .docStatsIn .. | .percentile .. | .lookup _ | .multiLookup _ | .constant _ =>
    obtain rfl := Except.ok.inj h
    exact covers _ rfl
termination_by structural m

theorem Metric.collect_expandAll (shallow : Shallow find) (covers : Covers found find)
    (bare : ∀ name m, refer name = .ok m → m.collect find = []) (ms ns : List (Metric ν))
    (h : Metric.expandAll refer ms = .ok ns) :
    Metric.collectAll find ns ⊆ Metric.collectAll found ms := by
  match ms with
  | [] =>
    obtain rfl := Except.ok.inj h
    exact List.Subset.refl _
  | m :: rest =>
    simp only [Metric.expandAll, bind_eq_ok, pure_eq_ok] at h
    obtain ⟨n, hn, others, hothers, rfl⟩ := h
    exact append_subset_append (Metric.collect_expand shallow covers bare m n hn)
      (Metric.collect_expandAll shallow covers bare rest others hothers)
termination_by structural ms

theorem Metric.collect_expandOption (shallow : Shallow find) (covers : Covers found find)
    (bare : ∀ name m, refer name = .ok m → m.collect find = []) (m n : Option (Metric ν))
    (h : Metric.expandOption refer m = .ok n) :
    Metric.collectOption find n ⊆ Metric.collectOption found m := by
  match m with
  | none =>
    obtain rfl := Except.ok.inj h
    exact List.Subset.refl _
  | some m =>
    simp only [Metric.expandOption, bind_eq_ok, pure_eq_ok] at h
    obtain ⟨n, hn, rfl⟩ := h
    exact Metric.collect_expand shallow covers bare m n hn
termination_by structural m

theorem Filter.collect_expand (shallow : Shallow find) (covers : Covers found find)
    (bare : ∀ name m, refer name = .ok m → m.collect find = []) (f g : Filter ν)
    (h : f.expand refer = .ok g) : g.collect find ⊆ f.collect found := by
  match f with
  | .compare _ a b =>
    simp only [Filter.expand, bind_eq_ok, pure_eq_ok] at h
    obtain ⟨k, hk, n, hn, rfl⟩ := h
    exact append_subset_append (Metric.collect_expand shallow covers bare a k hk)
      (Metric.collect_expand shallow covers bare b n hn)
  | .and fs =>
    simp only [Filter.expand, bind_eq_ok, pure_eq_ok] at h
    obtain ⟨gs, hgs, rfl⟩ := h
    exact List.Subset.trans (Connective.collect_merge_subset _ .and _)
      (Filter.collect_expandAll shallow covers bare fs gs hgs)
  | .or fs =>
    simp only [Filter.expand, bind_eq_ok, pure_eq_ok] at h
    obtain ⟨gs, hgs, rfl⟩ := h
    exact List.Subset.trans (Connective.collect_merge_subset _ .or _)
      (Filter.collect_expandAll shallow covers bare fs gs hgs)
  | .not f =>
    simp only [Filter.expand, bind_eq_ok, pure_eq_ok] at h
    obtain ⟨k, hk, rfl⟩ := h
    exact Filter.collect_expand shallow covers bare f k hk
  | .termIs _ | .termRegex _ | .regex .. | .always | .never | .isDefaultGroup =>
    obtain rfl := Except.ok.inj h
    exact List.Subset.refl _
termination_by structural f

theorem Filter.collect_expandAll (shallow : Shallow find) (covers : Covers found find)
    (bare : ∀ name m, refer name = .ok m → m.collect find = []) (fs gs : List (Filter ν))
    (h : Filter.expandAll refer fs = .ok gs) :
    Filter.collectAll find gs ⊆ Filter.collectAll found fs := by
  match fs with
  | [] =>
    obtain rfl := Except.ok.inj h
    exact List.Subset.refl _
  | f :: rest =>
    simp only [Filter.expandAll, bind_eq_ok, pure_eq_ok] at h
    obtain ⟨g, hg, others, hothers, rfl⟩ := h
    exact append_subset_append (Filter.collect_expand shallow covers bare f g hg)
      (Filter.collect_expandAll shallow covers bare rest others hothers)
termination_by structural fs

theorem Filter.collect_expandOption (shallow : Shallow find) (covers : Covers found find)
    (bare : ∀ name m, refer name = .ok m → m.collect find = []) (f g : Option (Filter ν))
    (h : Filter.expandOption refer f = .ok g) :
    Filter.collectOption find g ⊆ Filter.collectOption found f := by
  match f with
  | none =>
    obtain rfl := Except.ok.inj h
    exact List.Subset.refl _
  | some f =>
    simp only [Filter.expandOption, bind_eq_ok, pure_eq_ok] at h
    obtain ⟨g, hg, rfl⟩ := h
    exact Filter.collect_expand shallow covers bare f g hg
termination_by structural f

theorem Grouping.collect_expand (shallow : Shallow find) (covers : Covers found find)
    (bare : ∀ name m, refer name = .ok m → m.collect find = []) (g k : Grouping ν)
    (h : g.expand refer = .ok k) : k.collect find ⊆ g.collect found := by
  match g with
  | .terms _ x _ m _ =>
    simp only [Grouping.expand, bind_eq_ok, pure_eq_ok] at h
    obtain ⟨y, hy, n, hn, rfl⟩ := h
    exact append_subset_append (Filter.collect_expandOption shallow covers bare x y hy)
      (Metric.collect_expandOption shallow covers bare m n hn)
  | .buckets .. | .time .. | .timeBuckets .. | .month .. | .termsIn .. | .dayOfWeek
  | .sessionName | .quantiles .. | .predicate _ | .random .. | .randomMetric .. =>
    obtain rfl := Except.ok.inj h
    exact List.Subset.refl _
termination_by structural g

end

end Expansion

/-! ## Equality -/

mutual

theorem Metric.lookups_of_beq (m n : Metric ν) (h : m.beq n = true) : m.lookups = n.lookups := by
  unfold Metric.beq at h
  split at h
  case h_1 | h_19 | h_20 =>
    rename_i ms ns
    simp only [Metric.lookups, Metric.collect, Metric.lookedUp, List.append_nil]
    exact Metric.lookups_of_beqAll ms ns h
  case h_6 | h_26 =>
    rename_i m n
    simp only [Metric.lookups, Metric.collect, Metric.lookedUp, List.append_nil]
    exact Metric.lookups_of_beq m n h
  case h_3 | h_7 | h_8 | h_9 | h_10 | h_21 =>
    rename_i _ m _ n
    rw [Bool.and_eq_true] at h
    simp only [Metric.lookups, Metric.collect, Metric.lookedUp, List.append_nil]
    exact Metric.lookups_of_beq m n h.2
  case h_22 =>
    rename_i m _ n _
    rw [Bool.and_eq_true] at h
    simp only [Metric.lookups, Metric.collect, Metric.lookedUp, List.append_nil]
    exact Metric.lookups_of_beq m n h.1
  case h_2 =>
    rename_i _ a b _ c d
    simp only [Bool.and_eq_true] at h
    simp only [Metric.lookups, Metric.collect, Metric.lookups_of_beq a c h.1.2,
      Metric.lookups_of_beq b d h.2, Metric.lookedUp]
  case h_11 =>
    rename_i _ x _ _ y _
    simp only [Bool.and_eq_true] at h
    simp only [Metric.lookups, Metric.collect, Filter.lookups_of_beqOption x y h.1.2,
      Metric.lookedUp]
  case h_13 | h_14 =>
    rename_i _ m x _ n y
    simp only [Bool.and_eq_true] at h
    simp only [Metric.lookups, Metric.collect, Metric.lookups_of_beqOption m n h.1.2,
      Filter.lookups_of_beqOption x y h.2, Metric.lookedUp]
  case h_15 =>
    rename_i g m k n
    rw [Bool.and_eq_true] at h
    simp only [Metric.lookups, Metric.collect, Grouping.lookups_of_beq g k h.1,
      Metric.lookups_of_beq m n h.2, Metric.lookedUp]
  case h_16 | h_17 =>
    rw [beq_iff_eq] at h
    rw [h]
  case h_18 =>
    rename_i c y n d z o
    simp only [Bool.and_eq_true] at h
    simp only [Metric.lookups, Metric.collect, Filter.lookups_of_beq c d h.1.1,
      Metric.lookups_of_beq y z h.1.2, Metric.lookups_of_beq n o h.2, Metric.lookedUp]
  case h_24 =>
    rename_i _ x _ m _ _ _ y _ n _ _
    simp only [Bool.and_eq_true] at h
    simp only [Metric.lookups, Metric.collect, Filter.lookups_of_beqOption x y h.1.1.1.1.2,
      Metric.lookups_of_beq m n h.1.1.2, Metric.lookedUp]
  case h_4 | h_5 | h_12 | h_23 | h_25 => rfl
  case h_27 => simp at h
termination_by sizeOf m
decreasing_by
  all_goals
    subst_vars
    simp only [Metric.add.sizeOf_spec, Metric.calculate.sizeOf_spec, Metric.function.sizeOf_spec,
      Metric.parent.sizeOf_spec, Metric.lag.sizeOf_spec, Metric.iterateLag.sizeOf_spec,
      Metric.window.sizeOf_spec, Metric.running.sizeOf_spec, Metric.distinct.sizeOf_spec,
      Metric.fieldMin.sizeOf_spec, Metric.fieldMax.sizeOf_spec, Metric.sumAcross.sizeOf_spec,
      Metric.ifThenElse.sizeOf_spec, Metric.least.sizeOf_spec, Metric.greatest.sizeOf_spec,
      Metric.qualified.sizeOf_spec, Metric.named.sizeOf_spec, Metric.bootstrap.sizeOf_spec,
      Metric.average.sizeOf_spec]
    omega

theorem Metric.lookups_of_beqAll (ms ns : List (Metric ν)) (h : Metric.beqAll ms ns = true) :
    Metric.lookupsOfAll ms = Metric.lookupsOfAll ns := by
  unfold Metric.beqAll at h
  split at h
  · rfl
  · rename_i m ms n ns
    rw [Bool.and_eq_true] at h
    simp only [Metric.lookupsOfAll, Metric.collectAll, Metric.lookups_of_beq m n h.1,
      Metric.lookups_of_beqAll ms ns h.2]
  · simp at h
termination_by sizeOf ms
decreasing_by
  all_goals
    subst_vars
    rw [List.cons.sizeOf_spec]
    omega

theorem Metric.lookups_of_beqOption (m n : Option (Metric ν))
    (h : Metric.beqOption m n = true) : Metric.lookupsOption m = Metric.lookupsOption n := by
  unfold Metric.beqOption at h
  split at h
  · rfl
  · rename_i m n
    exact Metric.lookups_of_beq m n h
  · simp at h
termination_by sizeOf m
decreasing_by
  all_goals
    subst_vars
    rw [Option.some.sizeOf_spec]
    omega

theorem Filter.lookups_of_beq (f g : Filter ν) (h : f.beq g = true) : f.lookups = g.lookups := by
  unfold Filter.beq at h
  split at h
  case h_3 =>
    rename_i _ a b _ c d
    simp only [Bool.and_eq_true] at h
    simp only [Filter.lookups, Filter.collect, Metric.lookups_of_beq a c h.1.2,
      Metric.lookups_of_beq b d h.2]
  case h_4 | h_5 =>
    rename_i fs gs
    exact Filter.lookups_of_beqAll fs gs h
  case h_6 =>
    rename_i f g
    exact Filter.lookups_of_beq f g h
  case h_1 | h_2 | h_7 | h_8 | h_9 | h_10 => rfl
  case h_11 => simp at h
termination_by sizeOf f
decreasing_by
  all_goals
    subst_vars
    simp only [Filter.compare.sizeOf_spec, Filter.and.sizeOf_spec, Filter.or.sizeOf_spec,
      Filter.not.sizeOf_spec]
    omega

theorem Filter.lookups_of_beqAll (fs gs : List (Filter ν)) (h : Filter.beqAll fs gs = true) :
    Filter.lookupsOfAll fs = Filter.lookupsOfAll gs := by
  unfold Filter.beqAll at h
  split at h
  · rfl
  · rename_i f fs g gs
    rw [Bool.and_eq_true] at h
    simp only [Filter.lookupsOfAll, Filter.collectAll, Filter.lookups_of_beq f g h.1,
      Filter.lookups_of_beqAll fs gs h.2]
  · simp at h
termination_by sizeOf fs
decreasing_by
  all_goals
    subst_vars
    rw [List.cons.sizeOf_spec]
    omega

theorem Filter.lookups_of_beqOption (f g : Option (Filter ν))
    (h : Filter.beqOption f g = true) : Filter.lookupsOption f = Filter.lookupsOption g := by
  unfold Filter.beqOption at h
  split at h
  · rfl
  · rename_i f g
    exact Filter.lookups_of_beq f g h
  · simp at h
termination_by sizeOf f
decreasing_by
  all_goals
    subst_vars
    rw [Option.some.sizeOf_spec]
    omega

theorem Grouping.lookups_of_beq (g k : Grouping ν) (h : g.beq k = true) :
    g.lookups = k.lookups := by
  unfold Grouping.beq at h
  split at h
  case h_6 =>
    rename_i _ x _ m _ _ y _ n _
    simp only [Bool.and_eq_true] at h
    simp only [Grouping.lookups, Grouping.collect, Filter.lookups_of_beqOption x y h.1.1.1.2,
      Metric.lookups_of_beqOption m n h.1.2]
  case h_1 | h_2 | h_3 | h_4 | h_5 | h_7 | h_8 | h_9 | h_10 | h_11 | h_12 => rfl
  case h_13 => simp at h
termination_by sizeOf g
decreasing_by
  all_goals
    subst_vars
    rw [Grouping.terms.sizeOf_spec]
    omega

end

end Groupwise.Aggregate

namespace Groupwise.Computation

open Aggregate

variable {ν : Type} [Numeric ν]

/-- Computations that compare as equal look up the same names. -/
theorem lookedUp_of_beq {c d : Computation ν} (h : (c == d) = true) : c.lookedUp = d.lookedUp := by
  change c.beq d = true at h
  unfold beq at h
  split at h
  case h_1 =>
    rename_i _ x _ _ y _
    simp only [Bool.and_eq_true] at h
    exact Filter.lookups_of_beqOption x y h.1.2
  case h_4 | h_6 =>
    rename_i _ m x _ n y
    simp only [Bool.and_eq_true] at h
    simp only [lookedUp, Metric.lookups_of_beq m n h.1.2, Filter.lookups_of_beqOption x y h.2]
  case h_5 =>
    rename_i g m k n
    rw [Bool.and_eq_true] at h
    simp only [lookedUp, Grouping.lookups_of_beq g k h.1, Metric.lookups_of_beq m n h.2]
  case h_7 =>
    rename_i _ x _ m _ _ _ y _ n _ _
    simp only [Bool.and_eq_true] at h
    simp only [lookedUp, Filter.lookups_of_beqOption x y h.1.1.1.1.2,
      Metric.lookups_of_beq m n h.1.1.2]
  case h_2 | h_3 => rfl
  case h_8 => simp at h

theorem outputs_of_beq {c d : Computation ν} (h : (c == d) = true) (name : String) :
    c.outputs name = d.outputs name := by
  change c.beq d = true at h
  unfold beq at h
  split at h
  case h_7 =>
    simp only [Bool.and_eq_true, beq_iff_eq] at h
    simp only [outputs, h.2]
  case h_8 => simp at h
  all_goals rfl

end Groupwise.Computation
