import Groupwise.Proofs.Doc.Settled

/-!
# Merging constructors flatten

A combination that is made by its merging constructor may stand in another one of its kind or its
operands may stand there in its place: the outer constructor gives the same tree. Nested combinations
are opened up once only, so that this needs operands which were made by the constructors themselves.
Such expressions are those in which every combination is merged.
-/
namespace Groupwise.Doc

/-! ## Well-built expressions -/

namespace Node

/-- Sums, extremes, conjunctions and disjunctions. -/
def isCombination : Node → Bool
  | .metric (.add _) | .metric (.least _) | .metric (.greatest _) => true
  | .filter (.and _) | .filter (.or _) => true
  | _ => false

/-- Every combination in the expression was made by its merging constructor. -/
inductive WellBuilt : Node → Prop
  | sum {ms : List Metric} (parts : ∀ m ∈ ms, WellBuilt (.metric m)) :
    WellBuilt (.metric (.sum ms))
  | extreme (kind : Metric.Extreme) {ms : List Metric} (parts : ∀ m ∈ ms, WellBuilt (.metric m)) :
    WellBuilt (.metric (.extreme kind ms))
  | all {fs : List Filter} (parts : ∀ f ∈ fs, WellBuilt (.filter f)) :
    WellBuilt (.filter (.all fs))
  | any {fs : List Filter} (parts : ∀ f ∈ fs, WellBuilt (.filter f)) :
    WellBuilt (.filter (.any fs))
  | other {n : Node} (other : n.isCombination = false) (parts : ∀ part ∈ n.parts, WellBuilt part) :
    WellBuilt n

/-- A combination has several operands, none of its own kind, and its constants are folded. -/
def Merged : Node → Prop
  | .metric (.add ms) => 2 ≤ ms.length ∧ ∃ c, c ≠ some 0 ∧ Metric.Merged .add c ms
  | .metric (.least ms) => 2 ≤ ms.length ∧ ∃ c, Metric.Merged .least c ms
  | .metric (.greatest ms) => 2 ≤ ms.length ∧ ∃ c, Metric.Merged .greatest c ms
  | .filter (.and fs) => 2 ≤ fs.length ∧ Filter.Conjoined fs
  | .filter (.or fs) => 2 ≤ fs.length ∧ Filter.Disjoined fs
  | _ => True

theorem allowsMerged_merged : AllowsMerged Merged where
  constant _ := trivial
  add _ := Iff.rfl
  make kind _ := by cases kind <;> exact Iff.rfl
  always := trivial
  never := trivial
  and _ := Iff.rfl
  or _ := Iff.rfl

theorem merged_of_not_isCombination {n : Node} (other : n.isCombination = false) : n.Merged := by
  cases n with
  | metric m =>
    cases m with
    | add | least | greatest => exact absurd other.symm Bool.false_ne_true
    | _ => trivial
  | filter f =>
    cases f with
    | and | or => exact absurd other.symm Bool.false_ne_true
    | _ => trivial

theorem WellBuilt.merged {n : Node} (h : n.WellBuilt) : n.Throughout Merged := by
  induction h with
  | sum _ ih => exact allowsMerged_merged.throughout_sum ih
  | extreme kind _ ih => exact allowsMerged_merged.throughout_extreme kind ih
  | all _ ih => exact allowsMerged_merged.throughout_all ih
  | any _ ih => exact allowsMerged_merged.throughout_any ih
  | other other _ ih => exact throughout_iff.mpr ⟨merged_of_not_isCombination other, ih⟩

end Node

/-! ## Sums -/

namespace Metric

theorem addends_append (xs ys : List Metric) : addends (xs ++ ys) = addends xs ++ addends ys := by
  fun_induction addends xs with
  | case1 => rfl
  | case2 inner rest ih => rw [List.cons_append, addends, ih, List.append_assoc]
  | case3 m rest other ih =>
    rw [List.cons_append, addends, ih, List.cons_append]
    exact other

/-- Put together and opened up again, terms that are no sums are those that they were, but for the
constant zero that stands for none. -/
theorem addends_ofTerms {ms : List Metric} (plain : ∀ m ∈ ms, ∀ inner, m ≠ .add inner) :
    (addends [ofTerms ms]).filter (·.constant?.isNone) = ms.filter (·.constant?.isNone) ∧
      total ((addends [ofTerms ms]).filterMap constant?) = total (ms.filterMap constant?) := by
  rcases ms with _ | ⟨m, _ | ⟨n, rest⟩⟩
  · exact ⟨rfl, by decide⟩
  · have alone : addends [m] = [m] := addends_of_forall plain
    rw [ofTerms, alone]
    exact ⟨rfl, rfl⟩
  · have opened : addends [ofTerms (m :: n :: rest)] = m :: n :: rest := List.append_nil _
    rw [opened]
    exact ⟨rfl, rfl⟩

/-- A sum is known by its terms that are no constants and by the total of those that are. -/
theorem sum_congr {ms ns : List Metric}
    (others : (addends ms).filter (·.constant?.isNone) = (addends ns).filter (·.constant?.isNone))
    (constants : total ((addends ms).filterMap constant?) =
      total ((addends ns).filterMap constant?)) : sum ms = sum ns := by
  rw [sum, sum, foldl_add, foldl_add, constants, others]

theorem filterMap_constant?_others (ms : List Metric) :
    (ms.filter (·.constant?.isNone)).filterMap constant? = [] := by
  refine List.filterMap_eq_nil_iff.mpr fun m hm => ?_
  exact Option.isNone_iff_eq_none.mp (List.mem_filter.mp hm).2

theorem filter_others (ms : List Metric) :
    (ms.filter (·.constant?.isNone)).filter (·.constant?.isNone) =
      ms.filter (·.constant?.isNone) := by
  rw [List.filter_filter]
  simp

/-- Where no sums are left when terms are opened up once, their sum contributes to another one what
they do. -/
theorem addends_sum {ms : List Metric} (plain : ∀ m ∈ addends ms, ∀ inner, m ≠ .add inner) :
    (addends [sum ms]).filter (·.constant?.isNone) = (addends ms).filter (·.constant?.isNone) ∧
      total ((addends [sum ms]).filterMap constant?) =
        total ((addends ms).filterMap constant?) := by
  have others : ∀ m ∈ (addends ms).filter (·.constant?.isNone), ∀ inner, m ≠ .add inner :=
    fun m hm => plain m (List.mem_filter.mp hm).1
  rw [sum, foldl_add, Int64.zero_add]
  by_cases zero : total ((addends ms).filterMap constant?) = 0
  · obtain ⟨kept, constants⟩ := addends_ofTerms others
    rw [if_pos (by simpa using zero), List.append_nil, kept, constants, filter_others,
      filterMap_constant?_others, zero]
    exact ⟨rfl, rfl⟩
  · have plain : ∀ m ∈ (addends ms).filter (·.constant?.isNone) ++
        [.constant (total ((addends ms).filterMap constant?))], ∀ inner, m ≠ .add inner :=
      List.forall_mem_append.mpr
        ⟨others, List.forall_mem_singleton.mpr fun _ => Metric.noConfusion⟩
    obtain ⟨kept, constants⟩ := addends_ofTerms plain
    rw [if_neg (by simpa using zero), kept, constants, List.filter_append, filter_others,
      List.filterMap_append, filterMap_constant?_others]
    exact ⟨List.append_nil _, Int64.add_zero _⟩

/-- A sum may stand among the terms of another one, or its terms in its place. -/
theorem sum_append_sum (xs zs : List Metric) {ys : List Metric}
    (plain : ∀ m ∈ addends ys, ∀ inner, m ≠ .add inner) :
    sum (xs ++ [sum ys] ++ zs) = sum (xs ++ ys ++ zs) := by
  obtain ⟨others, constants⟩ := addends_sum plain
  apply sum_congr
  · simp only [addends_append, List.filter_append, others]
  · simp only [addends_append, List.filterMap_append, total_append, constants]

end Metric

/-! ## Extremes -/

namespace Metric

variable {kind : Extreme}

theorem operands_append (xs ys : List Metric) :
    operands kind (xs ++ ys) = operands kind xs ++ operands kind ys := by
  induction xs with
  | nil => rfl
  | cons m rest ih =>
    by_cases nested : ∃ inner, m = kind.make inner
    · obtain ⟨inner, rfl⟩ := nested
      rw [List.cons_append, operands_make, operands_make, ih, List.append_assoc]
    · have other := not_exists.mp nested
      rw [List.cons_append, operands_of_ne other, operands_of_ne other, ih, List.cons_append]

/-- An extreme is known by its operands that are no constants and by the extreme of those that
are. -/
theorem extreme_congr {ms ns : List Metric}
    (others : (operands kind ms).filter (·.constant?.isNone) =
      (operands kind ns).filter (·.constant?.isNone))
    (constants : extremeConstant? kind ((operands kind ms).filterMap constant?) =
      extremeConstant? kind ((operands kind ns).filterMap constant?)) :
    extreme kind ms = extreme kind ns := by
  rw [extreme, extreme, constants, others]

/-- Folding the constants of some operands into one leaves some operands. -/
theorem folded_ne_nil (kind : Extreme) {ms : List Metric} (some : ms ≠ []) :
    ms.filter (·.constant?.isNone) ++
      ((extremeConstant? kind (ms.filterMap constant?)).map Metric.constant).toList ≠ [] := by
  obtain ⟨m, rest, rfl⟩ := List.exists_cons_of_ne_nil some
  cases h : m.constant? with
  | none =>
    rw [List.filter_cons_of_pos (by simp [h])]
    exact List.cons_ne_nil _ _
  | some v =>
    rw [List.filterMap_cons_some h]
    exact List.append_ne_nil_of_right_ne_nil _ (List.cons_ne_nil _ _)

/-- Where no extremes of the kind are left when some operands are opened up once, opening up their
extreme gives the same with the constants folded into one. -/
theorem operands_extreme {ms : List Metric} (some : operands kind ms ≠ [])
    (plain : ∀ m ∈ operands kind ms, ∀ inner, m ≠ kind.make inner) :
    operands kind [extreme kind ms] = (operands kind ms).filter (·.constant?.isNone) ++
      ((extremeConstant? kind ((operands kind ms).filterMap constant?)).map
        Metric.constant).toList := by
  have left := folded_ne_nil kind some
  have merged := (Merged.of_filter (c := extremeConstant? kind
    ((operands kind ms).filterMap constant?)) plain).forall_ne fun v inner same => by
      cases kind <;> cases same
  revert left merged
  rw [extreme]
  generalize (operands kind ms).filter (·.constant?.isNone) ++
    ((extremeConstant? kind ((operands kind ms).filterMap constant?)).map
      Metric.constant).toList = terms
  intro left merged
  rcases terms with _ | ⟨m, _ | ⟨n, rest⟩⟩
  · exact absurd rfl left
  · exact operands_of_forall merged
  · exact (operands_make ..).trans (List.append_nil _)

/-- An extreme may stand among the operands of another one, or its operands in its place, if there
are any. -/
theorem extreme_append_extreme (xs zs : List Metric) {ys : List Metric}
    (some : operands kind ys ≠ []) (plain : ∀ m ∈ operands kind ys, ∀ inner, m ≠ kind.make inner) :
    extreme kind (xs ++ [extreme kind ys] ++ zs) = extreme kind (xs ++ ys ++ zs) := by
  have opened := operands_extreme some plain
  have others : (operands kind [extreme kind ys]).filter (·.constant?.isNone) =
      (operands kind ys).filter (·.constant?.isNone) := by
    rw [opened, List.filter_append, filter_others]
    cases extremeConstant? kind ((operands kind ys).filterMap constant?) <;>
      exact List.append_nil _
  have constants : extremeConstant? kind ((operands kind [extreme kind ys]).filterMap constant?) =
      extremeConstant? kind ((operands kind ys).filterMap constant?) := by
    rw [opened, List.filterMap_append, filterMap_constant?_others, List.nil_append]
    cases extremeConstant? kind ((operands kind ys).filterMap constant?) <;> rfl
  apply extreme_congr
  · simp only [operands_append, List.filter_append, others]
  · simp only [operands_append, List.filterMap_append, extremeConstant?_append, constants]

theorem operands_ne_nil {ms : List Metric} (some : ms ≠ [])
    (filled : ∀ m ∈ ms, m ≠ kind.make []) : operands kind ms ≠ [] := by
  obtain ⟨m, rest, rfl⟩ := List.exists_cons_of_ne_nil some
  by_cases nested : ∃ inner, m = kind.make inner
  · obtain ⟨inner, rfl⟩ := nested
    rw [operands_make]
    refine List.append_ne_nil_of_left_ne_nil (fun none => ?_) _
    exact filled _ (List.mem_cons_self ..) (none ▸ rfl)
  · rw [operands_of_ne (not_exists.mp nested)]
    exact List.cons_ne_nil _ _

end Metric

/-! ## Conjunctions and disjunctions -/

namespace Filter

/-- The two ways to join filters. -/
inductive Junction where
  | and
  | or

namespace Junction

variable {kind : Junction} {f : Filter} {fs gs : List Filter}

def make : Junction → List Filter → Filter
  | .and => .and
  | .or => .or

/-- The filters of a list with nested ones of the kind opened up once. -/
def opened : Junction → List Filter → List Filter
  | .and => conjuncts
  | .or => disjuncts

/-- Whether a filter stands for no operand. -/
def isNeutral : Junction → Filter → Bool
  | .and => isAlways
  | .or => isNever

def isAbsorbing : Junction → Filter → Bool
  | .and => isNever
  | .or => isAlways

/-- The filter that decides for all operands. -/
def absorbing : Junction → Filter
  | .and => .never
  | .or => .always

def join : Junction → List Filter → Filter
  | .and => ofConjuncts
  | .or => ofDisjuncts

def merge : Junction → List Filter → Filter
  | .and => Filter.all
  | .or => Filter.any

theorem opened_make (inner rest : List Filter) :
    kind.opened (kind.make inner :: rest) = inner ++ kind.opened rest := by
  cases kind <;> rfl

theorem opened_of_ne (other : ∀ inner, f ≠ kind.make inner) (rest : List Filter) :
    kind.opened (f :: rest) = f :: kind.opened rest := by
  cases kind with
  | and => exact conjuncts.eq_3 _ _ other
  | or => exact disjuncts.eq_3 _ _ other

theorem opened_append (fs gs : List Filter) :
    kind.opened (fs ++ gs) = kind.opened fs ++ kind.opened gs := by
  induction fs with
  | nil => cases kind <;> rfl
  | cons f rest ih =>
    by_cases nested : ∃ inner, f = kind.make inner
    · obtain ⟨inner, rfl⟩ := nested
      rw [List.cons_append, opened_make, opened_make, ih, List.append_assoc]
    · have other := not_exists.mp nested
      rw [List.cons_append, opened_of_ne other, opened_of_ne other, ih, List.cons_append]

theorem merge_eq (fs : List Filter) : kind.merge fs =
    if (kind.opened fs).any kind.isAbsorbing then kind.absorbing
    else kind.join ((kind.opened fs).filter (!kind.isNeutral ·)) := by
  cases kind <;> rfl

/-- Merged filters are known by whether some of them is absorbing and by those that are not
neutral. -/
theorem merge_congr
    (absorbed : (kind.opened fs).any kind.isAbsorbing = (kind.opened gs).any kind.isAbsorbing)
    (kept : (kind.opened gs).any kind.isAbsorbing = false →
      (kind.opened fs).filter (!kind.isNeutral ·) = (kind.opened gs).filter (!kind.isNeutral ·)) :
    kind.merge fs = kind.merge gs := by
  rw [merge_eq, merge_eq, absorbed]
  split
  · rfl
  · rename_i possible
    rw [kept (Bool.eq_false_iff.mpr possible)]

/-- Put together and opened up again, filters that are not of the kind are those that they were, but
for the neutral one that stands for none. -/
theorem opened_join (plain : ∀ f ∈ fs, ∀ inner, f ≠ kind.make inner) :
    (kind.opened [kind.join fs]).any kind.isAbsorbing = fs.any kind.isAbsorbing ∧
      (kind.opened [kind.join fs]).filter (!kind.isNeutral ·) =
        fs.filter (!kind.isNeutral ·) := by
  rcases fs with _ | ⟨f, _ | ⟨g, rest⟩⟩
  · cases kind <;> exact ⟨rfl, rfl⟩
  · have alone : kind.opened [f] = [f] := by
      rw [opened_of_ne (plain f (List.mem_singleton_self f))]
      cases kind <;> rfl
    have single : kind.join [f] = f := by cases kind <;> rfl
    rw [single, alone]
    exact ⟨rfl, rfl⟩
  · have several : kind.join (f :: g :: rest) = kind.make (f :: g :: rest) := by
      cases kind <;> rfl
    have nothing : kind.opened [] = [] := by cases kind <;> rfl
    rw [several, opened_make, nothing, List.append_nil]
    exact ⟨rfl, rfl⟩

/-- Where none of the kind are left when some filters are opened up once, what they are merged to
contributes to another one what they do. -/
theorem opened_merge (plain : ∀ f ∈ kind.opened fs, ∀ inner, f ≠ kind.make inner) :
    (kind.opened [kind.merge fs]).any kind.isAbsorbing = (kind.opened fs).any kind.isAbsorbing ∧
      ((kind.opened fs).any kind.isAbsorbing = false →
        (kind.opened [kind.merge fs]).filter (!kind.isNeutral ·) =
          (kind.opened fs).filter (!kind.isNeutral ·)) := by
  rw [merge_eq]
  split
  · rename_i absorbed
    refine ⟨?_, fun possible => absurd (possible.symm.trans absorbed) Bool.false_ne_true⟩
    rw [absorbed]
    cases kind <;> rfl
  · rename_i notAbsorbed
    have possible := Bool.eq_false_iff.mpr notAbsorbed
    have left : ∀ f ∈ (kind.opened fs).filter (!kind.isNeutral ·), ∀ inner, f ≠ kind.make inner :=
      fun f hf => plain f (List.mem_filter.mp hf).1
    obtain ⟨without, kept⟩ := opened_join left
    rw [without, kept, possible, List.filter_filter]
    refine ⟨?_, fun _ => by simp⟩
    exact List.any_eq_false.mpr fun f hf =>
      List.any_eq_false.mp possible f (List.mem_filter.mp hf).1

/-- What filters are merged to may stand among others to be merged, or the filters in its place. -/
theorem merge_append_merge (kind : Junction) (fs hs : List Filter)
    (plain : ∀ g ∈ kind.opened gs, ∀ inner, g ≠ kind.make inner) :
    kind.merge (fs ++ [kind.merge gs] ++ hs) = kind.merge (fs ++ gs ++ hs) := by
  obtain ⟨absorbed, kept⟩ := opened_merge plain
  apply merge_congr
  · simp only [opened_append, List.any_append, absorbed]
  · intro possible
    simp only [opened_append, List.any_append, Bool.or_eq_false_iff] at possible
    simp only [opened_append, List.filter_append, kept possible.1.2]

end Junction

end Filter

/-! ## Well-built operands -/

open Groupwise.Doc.Metric

/-- In an extreme of well-built operands one of which is an extreme itself, the operands of the inner
one may stand in its place. -/
theorem extreme_append_of_wellBuilt (kind : Extreme) (xs zs : List Metric) {ys : List Metric}
    (some : ys ≠ []) (built : ∀ m ∈ ys, (Node.metric m).WellBuilt) :
    extreme kind (xs ++ [extreme kind ys] ++ zs) = extreme kind (xs ++ ys ++ zs) := by
  have merged : ∀ m ∈ ys, (Node.metric m).Throughout Node.Merged := fun m hm => (built m hm).merged
  have filled : ∀ m ∈ ys, m ≠ kind.make [] := by
    rintro m hm rfl
    have several := ((Node.allowsMerged_merged.make kind []).mp (merged _ hm _ .refl)).1
    exact absurd several (by decide)
  exact extreme_append_extreme xs zs (operands_ne_nil some filled) fun m hm =>
    (Node.allowsMerged_merged.throughout_operands kind merged m hm).2

/-- Where some operands are well built, their sum, extreme, conjunction or disjunction may stand
among those of another one of its kind, or they may in its place: the trees are the same. Nothing at
all has a sum, a conjunction and a disjunction without effect, but no such extreme. -/
theorem merging_flattens (xs zs : List Metric) (fs hs : List Filter) {ys : List Metric}
    {gs : List Filter} (metrics : ∀ m ∈ ys, (Node.metric m).WellBuilt)
    (filters : ∀ g ∈ gs, (Node.filter g).WellBuilt) :
    sum (xs ++ [sum ys] ++ zs) = sum (xs ++ ys ++ zs) ∧
      (ys ≠ [] → minimum (xs ++ [minimum ys] ++ zs) = minimum (xs ++ ys ++ zs) ∧
        maximum (xs ++ [maximum ys] ++ zs) = maximum (xs ++ ys ++ zs)) ∧
      Filter.all (fs ++ [Filter.all gs] ++ hs) = Filter.all (fs ++ gs ++ hs) ∧
      Filter.any (fs ++ [Filter.any gs] ++ hs) = Filter.any (fs ++ gs ++ hs) := by
  have allows := Node.allowsMerged_merged
  have merged : ∀ m ∈ ys, (Node.metric m).Throughout Node.Merged :=
    fun m hm => (metrics m hm).merged
  have merged' : ∀ g ∈ gs, (Node.filter g).Throughout Node.Merged :=
    fun g hg => (filters g hg).merged
  refine ⟨?_, fun some => ⟨?_, ?_⟩, ?_, ?_⟩
  · exact sum_append_sum xs zs fun m hm => (allows.throughout_addends merged m hm).2
  · exact extreme_append_of_wellBuilt .min xs zs some metrics
  · exact extreme_append_of_wellBuilt .max xs zs some metrics
  · exact Filter.Junction.merge_append_merge .and fs hs fun g hg =>
      (allows.throughout_conjuncts merged' g hg).2
  · exact Filter.Junction.merge_append_merge .or fs hs fun g hg =>
      (allows.throughout_disjuncts merged' g hg).2

/-- The constants in the inner sum cancel, so that it is its only other term, and the inner
conjunction is its only operand that does not always hold. -/
theorem merging_flattens_collapsed :
    let clicks := Metric.field (.single "ads" "clicks")
    let few := Filter.between (.single "ads" "clicks") 1 5 true
    let ys := [sum [clicks, .count], .constant (-1)]
    let gs := [Filter.all [few, .always], Filter.any [.never, .always]]
    (∀ m ∈ ys, (Node.metric m).WellBuilt) ∧ (∀ g ∈ gs, (Node.filter g).WellBuilt) ∧ ys ≠ [] ∧
      sum ys = clicks ∧ Filter.all gs = few ∧
      sum ([.docId] ++ [sum ys] ++ [clicks]) = sum ([.docId] ++ ys ++ [clicks]) ∧
      maximum ([.docId] ++ [maximum ys] ++ [clicks]) = maximum ([.docId] ++ ys ++ [clicks]) ∧
      Filter.all ([.not few] ++ [Filter.all gs] ++ [few]) =
        Filter.all ([.not few] ++ gs ++ [few]) := by
  intro clicks few ys gs
  have plain {n : Node} (other : n.isCombination = false) (nil : n.parts = []) : n.WellBuilt :=
    .other other (by simp [nil])
  have metrics : ∀ m ∈ ys, (Node.metric m).WellBuilt := by
    refine List.forall_mem_cons.mpr ⟨.sum ?_, List.forall_mem_singleton.mpr (plain rfl rfl)⟩
    exact List.forall_mem_cons.mpr ⟨plain rfl rfl, List.forall_mem_singleton.mpr (plain rfl rfl)⟩
  have filters : ∀ g ∈ gs, (Node.filter g).WellBuilt := by
    refine List.forall_mem_cons.mpr ⟨.all ?_, List.forall_mem_singleton.mpr (.any ?_)⟩ <;>
      exact List.forall_mem_cons.mpr ⟨plain rfl rfl, List.forall_mem_singleton.mpr (plain rfl rfl)⟩
  have some : ys ≠ [] := List.cons_ne_nil _ _
  have inner : sum [clicks, .count] = .add [clicks, .constant 1] := rfl
  have cancels : sum [sum [clicks, .count], .constant (-1)] = clicks := by
    rw [inner]
    rfl
  obtain ⟨sums, extremes, conjunctions, -⟩ :=
    merging_flattens [.docId] [clicks] [.not few] [few] metrics filters
  exact ⟨metrics, filters, some, cancels, rfl, sums, (extremes some).2, conjunctions⟩

/-- A sum inside another one that no constructor made may come to light when constants cancel. -/
example :
    let clicks := Metric.field (.single "ads" "clicks")
    let ys := [Metric.add [.add [clicks, .docId], .constant 5], .constant (-5)]
    sum [sum ys, clicks] = .add [clicks, .docId, clicks] ∧
      sum (ys ++ [clicks]) = .add [.add [clicks, .docId], clicks] := ⟨rfl, rfl⟩

end Groupwise.Doc
