import Groupwise.Proofs.Evaluation.Pointwise

/-!
# Values along the children of a group

Lags and running sums look back along the children of one group. Their values are said here of a
list of children, the latest first, without a word of columns, of walks or of what a metric keeps
between visits.
-/
namespace Groupwise

namespace GroupKeys

/-- The children of a parent among the groups up to a given one, the latest first. -/
def upTo (keys : GroupKeys) (parent : Nat) : Nat → List Nat
  | 0 => []
  | n + 1 =>
    if keys.parent (n + 1) == parent then (n + 1) :: keys.upTo parent n else keys.upTo parent n

/-- A group and the earlier children of its parent, the latest first. -/
abbrev siblings (keys : GroupKeys) (group : Nat) : List Nat := keys.upTo (keys.parent group) group

/-- The children of each parent stand together. -/
def Contiguous (keys : GroupKeys) : Prop :=
  ∀ a b c, 1 ≤ a → a ≤ b → b ≤ c → c ≤ keys.size → keys.parent a = keys.parent c →
    keys.parent b = keys.parent c

variable {keys : GroupKeys}

/-- Where parents do not decrease from group to group, the children of each stand together. -/
theorem contiguous_of_sorted (h : (keys.children.map (·.1)).Pairwise (· ≤ ·)) :
    keys.Contiguous := by
  have parent (group : Nat) (hpos : 1 ≤ group) (hle : group ≤ keys.size) :
      ∃ hlt : group - 1 < (keys.children.map (·.1)).length,
        keys.parent group = (keys.children.map (·.1))[group - 1] := by
    obtain ⟨n, rfl⟩ := Nat.exists_eq_add_of_le' hpos
    have hn : n < keys.children.length := hle
    exact ⟨by simpa using hn, by simp [GroupKeys.parent, child?, hn]⟩
  have mono (a b : Nat) (ha : 1 ≤ a) (hab : a ≤ b) (hb : b ≤ keys.size) :
      keys.parent a ≤ keys.parent b := by
    obtain ⟨ha', hpa⟩ := parent a ha (by omega)
    obtain ⟨hb', hpb⟩ := parent b (by omega) hb
    rw [hpa, hpb]
    rcases Nat.lt_or_eq_of_le hab with hlt | rfl
    · exact List.pairwise_iff_getElem.mp h (a - 1) (b - 1) ha' hb' (by omega)
    · exact Nat.le_refl _
  intro a b c ha hab hbc hc hac
  exact Nat.le_antisymm (mono b c (by omega) hbc hc)
    (hac ▸ mono a b ha hab (by omega))

theorem siblings_eq_cons {group : Nat} (h : 1 ≤ group) :
    keys.siblings group = group :: keys.upTo (keys.parent group) (group - 1) := by
  obtain ⟨n, rfl⟩ := Nat.exists_eq_add_of_le' h
  simp [siblings, upTo]

/-- The children of a parent up to a group are those up to the last of them. -/
theorem upTo_eq_nil_or_siblings (parent n : Nat) :
    keys.upTo parent n = [] ∨
      ∃ group, 1 ≤ group ∧ group ≤ n ∧ keys.parent group = parent ∧
        keys.upTo parent n = keys.siblings group := by
  induction n with
  | zero => exact .inl rfl
  | succ n ih =>
    by_cases h : keys.parent (n + 1) = parent
    · exact .inr ⟨n + 1, by omega, Nat.le_refl _, h, by rw [siblings, h]⟩
    · have : keys.upTo parent (n + 1) = keys.upTo parent n := by simp [upTo, h]
      rw [this]
      exact ih.imp id fun ⟨group, hpos, hle, hparent, heq⟩ =>
        ⟨group, hpos, by omega, hparent, heq⟩

theorem upTo_eq_filter (parent n : Nat) :
    keys.upTo parent n = ((List.range' 1 n).filter (keys.parent · == parent)).reverse := by
  induction n with
  | zero => rfl
  | succ n ih =>
    rw [List.range'_1_concat, List.filter_append, List.reverse_append, ← ih, upTo]
    by_cases h : keys.parent (n + 1) = parent <;> simp [Nat.add_comm 1 n, h]

end GroupKeys

namespace Evaluation

/-- What a function gives for a history and for each earlier one, the latest first. -/
def series {α β : Type} (f : List α → β) : List α → List β
  | [] => []
  | a :: earlier => f (a :: earlier) :: series f earlier

@[simp] theorem length_series {α β : Type} (f : List α → β) (past : List α) :
    (series f past).length = past.length := by
  induction past with
  | nil => rfl
  | cons _ _ ih => simp [series, ih]

/-- What depends on the latest of a history only is taken of each in turn. -/
theorem series_headD {α β : Type} (f : α → β) (default : α) (past : List α) :
    series (fun past => f (past.headD default)) past = past.map f := by
  induction past with
  | nil => rfl
  | cons a earlier ih => rw [series, ih, List.headD_cons, List.map_cons]

variable {ν : Type} [Numeric ν]

/-- The sum of values, the latest first, added up in the order in which they came. -/
def accumulate (values : List ν) : ν := values.foldr (fun v sum => Numeric.add sum v) Numeric.zero

mutual

/-- The value of a metric for the last of some children of one group. A lag counts back along these
children, and a running sum runs over them. -/
def Metric.valueAlong (sum : Push → Option Nat → Nat → ν) : Metric ν → List Nat → ν
  | .constant v, _ => v
  | .function f m, past => Numeric.apply f (m.valueAlong sum past)
  | .calculate op l r, past => Numeric.calculate op (l.valueAlong sum past) (r.valueAlong sum past)
  | .least ms, past => combineValues Numeric.least (Metric.valuesAlong sum ms past)
  | .greatest ms, past => combineValues Numeric.greatest (Metric.valuesAlong sum ms past)
  | .documents push index, past => sum push index (past.headD 0)
  | .lag distance m _, past => ((series (m.valueAlong sum) past)[distance]?).getD Numeric.zero
  | .iterateLag distance m _, past =>
    ((series (m.valueAlong sum) past)[distance]?).getD Numeric.zero
  | .running _ m _ _, past => accumulate (series (m.valueAlong sum) past)
  | .window .., _ => Numeric.zero
  | .ifThenElse .., _ => Numeric.zero
  | .lookup _, _ => Numeric.zero
  | .multiLookup _, _ => Numeric.zero

def Metric.valuesAlong (sum : Push → Option Nat → Nat → ν) : List (Metric ν) → List Nat → List ν
  | [], _ => []
  | m :: rest, past => m.valueAlong sum past :: Metric.valuesAlong sum rest past

end

theorem Metric.valuesAlong_eq_map (sum : Push → Option Nat → Nat → ν) (ms : List (Metric ν))
    (past : List Nat) : Metric.valuesAlong sum ms past = ms.map (·.valueAlong sum past) := by
  induction ms with
  | nil => rfl
  | cons m rest ih => rw [Metric.valuesAlong, ih, List.map_cons]

mutual

/-- Only the programs that a metric reads matter. -/
theorem Metric.valueAlong_congr {sum sum' : Push → Option Nat → Nat → ν} {m : Metric ν}
    (h : ∀ push ∈ m.reads, sum push = sum' push) : m.valueAlong sum = m.valueAlong sum' := by
  funext past
  match m with
  | .constant _ | .lookup _ | .multiLookup _ | .window .. | .ifThenElse .. => rfl
  | .documents push _ => simp only [Metric.valueAlong, h push List.mem_cons_self]
  | .function _ m | .lag _ m _ | .running _ m _ _ | .iterateLag _ m _ =>
    simp only [Metric.valueAlong, Metric.valueAlong_congr (m := m) h]
  | .calculate _ l r =>
    obtain ⟨hl, hr⟩ := List.forall_mem_append.mp h
    simp only [Metric.valueAlong, Metric.valueAlong_congr hl, Metric.valueAlong_congr hr]
  | .least ms | .greatest ms =>
    simp only [Metric.valueAlong, Metric.valuesAlong_congr h]

theorem Metric.valuesAlong_congr {sum sum' : Push → Option Nat → Nat → ν} {ms : List (Metric ν)}
    (h : ∀ push ∈ Metric.readsOfAll ms, sum push = sum' push) :
    Metric.valuesAlong sum ms = Metric.valuesAlong sum' ms := by
  funext past
  match ms with
  | [] => rfl
  | m :: rest =>
    obtain ⟨hm, hrest⟩ := List.forall_mem_append.mp h
    simp only [Metric.valuesAlong, Metric.valueAlong_congr hm, Metric.valuesAlong_congr hrest]

end

/-- Any place will do for a program. -/
def anyPlace (_ : Push) (_ : Option Nat) : Prop := True

mutual

/-- Registration only changes where sums are taken from. -/
theorem Metric.valueAlong_of_register {index : Push → Option Nat}
    {sum : Push → Option Nat → Nat → ν} {m m' : Metric ν} (h : m.register index = .ok m') :
    m'.valueAlong sum = m.valueAlong (fun push _ => sum push (index push)) := by
  funext past
  match m with
  | .constant _ | .lookup _ | .multiLookup _ =>
    cases h
    rfl
  | .documents push _ =>
    simp only [Metric.register] at h
    split at h <;> cases h
    simp_all [Metric.valueAlong]
  | .function f m | .lag _ m _ | .running _ m _ _ | .iterateLag _ m _ =>
    simp only [Metric.register, bind_eq_ok, pure_eq_ok] at h
    obtain ⟨m', hm, rfl⟩ := h
    simp only [Metric.valueAlong, Metric.valueAlong_of_register hm]
  | .window .. =>
    simp only [Metric.register, bind_eq_ok, pure_eq_ok] at h
    obtain ⟨m', hm, rfl⟩ := h
    rfl
  | .calculate op l r =>
    simp only [Metric.register, bind_eq_ok, pure_eq_ok] at h
    obtain ⟨l', hl, r', hr, rfl⟩ := h
    simp only [Metric.valueAlong, Metric.valueAlong_of_register hl,
      Metric.valueAlong_of_register hr]
  | .least ms | .greatest ms =>
    simp only [Metric.register, bind_eq_ok, pure_eq_ok] at h
    obtain ⟨ms', hms, rfl⟩ := h
    simp only [Metric.valueAlong, Metric.valuesAlong_of_registerAll hms]
  | .ifThenElse c y n =>
    simp only [Metric.register, bind_eq_ok, pure_eq_ok] at h
    obtain ⟨c', hc, y', hy, n', hn, rfl⟩ := h
    rfl

theorem Metric.valuesAlong_of_registerAll {index : Push → Option Nat}
    {sum : Push → Option Nat → Nat → ν} {ms ms' : List (Metric ν)}
    (h : Metric.registerAll index ms = .ok ms') :
    Metric.valuesAlong sum ms' = Metric.valuesAlong (fun push _ => sum push (index push)) ms := by
  funext past
  match ms with
  | [] =>
    cases h
    rfl
  | m :: rest =>
    simp only [Metric.registerAll, bind_eq_ok, pure_eq_ok] at h
    obtain ⟨m', hm, rest', hrest, rfl⟩ := h
    simp only [Metric.valuesAlong, Metric.valueAlong_of_register hm,
      Metric.valuesAlong_of_registerAll hrest]

end

end Evaluation

end Groupwise
