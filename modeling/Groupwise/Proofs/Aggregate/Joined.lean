import Groupwise.Evaluation.Lowering
import Groupwise.Proofs.Outcome
import Mathlib.Data.List.Forall2

/-!
# Joined columns

A sum is lowered to additions from the left, and a combination of filters likewise. Evaluated over
whole columns, such a chain joins the columns of its parts place by place. If the operation is
associative and has a unit, parts may be opened up and taken together. The rules for nodes with one
and with two parts say in the same way what a node gives in terms of what its parts give.
-/
namespace Groupwise.Aggregate

section

variable {E F α : Type} {gives : E → List α → Prop} {op : α → α → α} {unit : α} {count : Nat}
  {es : List E} {values : List α}

/-- The columns of several expressions, joined place by place. -/
def Joined (gives : E → List α → Prop) (op : α → α → α) (unit : α) (count : Nat) (es : List E)
    (values : List α) : Prop :=
  ∃ columns, List.Forall₂ gives es columns ∧
    columns.foldr (List.zipWith op) (List.replicate (count + 1) unit) = values

theorem joined_nil : Joined gives op unit count [] values ↔
    List.replicate (count + 1) unit = values := by
  constructor
  · rintro ⟨_, ⟨⟩, joined⟩
    exact joined
  · intro h
    exact ⟨[], .nil, h⟩

theorem joined_cons {e : E} : Joined gives op unit count (e :: es) values ↔
    ∃ first others, gives e first ∧ Joined gives op unit count es others ∧
      List.zipWith op first others = values := by
  constructor
  · rintro ⟨_, _ | ⟨first, rest⟩, joined⟩
    exact ⟨_, _, first, ⟨_, rest, rfl⟩, joined⟩
  · rintro ⟨first, _, here, ⟨columns, rest, rfl⟩, joined⟩
    exact ⟨first :: columns, .cons here rest, joined⟩

theorem length_of_joined (full : ∀ e values, gives e values → values.length = count + 1)
    (h : Joined gives op unit count es values) : values.length = count + 1 := by
  induction es generalizing values with
  | nil =>
    rw [← joined_nil.mp h, List.length_replicate]
  | cons e es ih =>
    obtain ⟨first, others, here, rest, rfl⟩ := joined_cons.mp h
    rw [List.length_zipWith, full e first here, ih rest, Nat.min_self]

theorem zipWith_replicate_left {β γ : Type} (f : α → β → γ) (a : α) {n : Nat} {values : List β}
    (h : values.length = n) : List.zipWith f (List.replicate n a) values = values.map (f a) := by
  subst h
  induction values with
  | nil => rfl
  | cons b rest ih => simp [List.replicate_succ, ih]

theorem zipWith_replicate_right {β γ : Type} (f : α → β → γ) (b : β) {n : Nat} {values : List α}
    (h : values.length = n) :
    List.zipWith f values (List.replicate n b) = values.map (f · b) := by
  rw [List.zipWith_comm, zipWith_replicate_left _ b h]

section Laws

variable [Std.Associative op] [Std.LawfulIdentity op unit]

omit [Std.LawfulIdentity op unit] in
theorem zipWith_assoc (as bs cs : List α) :
    List.zipWith op (List.zipWith op as bs) cs = List.zipWith op as (List.zipWith op bs cs) := by
  induction as generalizing bs cs with
  | nil => simp
  | cons a as ih =>
    rcases bs with _ | ⟨b, bs⟩
    · simp
    rcases cs with _ | ⟨c, cs⟩
    · simp
    simp only [List.zipWith_cons_cons, ih, Std.Associative.assoc]

omit [Std.Associative op] in
theorem zipWith_unit_left (h : values.length = count + 1) :
    List.zipWith op (List.replicate (count + 1) unit) values = values := by
  rw [zipWith_replicate_left op unit h,
    show op unit = id from funext Std.LawfulLeftIdentity.left_id, List.map_id]

omit [Std.Associative op] in
theorem zipWith_unit_right (h : values.length = count + 1) :
    List.zipWith op values (List.replicate (count + 1) unit) = values := by
  rw [zipWith_replicate_right op unit h,
    show (op · unit) = id from funext Std.LawfulRightIdentity.right_id, List.map_id]

variable (full : ∀ e values, gives e values → values.length = count + 1)
include full

omit [Std.Associative op] in
theorem joined_singleton {e : E} :
    Joined gives op unit count [e] values ↔ gives e values := by
  simp only [joined_cons, joined_nil]
  constructor
  · rintro ⟨first, _, here, rfl, rfl⟩
    rwa [zipWith_unit_right (full e first here)]
  · intro here
    exact ⟨values, _, here, rfl, zipWith_unit_right (full e values here)⟩

theorem joined_append {ds : List E} : Joined gives op unit count (ds ++ es) values ↔
    ∃ first others, Joined gives op unit count ds first ∧ Joined gives op unit count es others ∧
      List.zipWith op first others = values := by
  induction ds generalizing values with
  | nil =>
    simp only [List.nil_append, joined_nil]
    constructor
    · intro h
      exact ⟨_, values, rfl, h, zipWith_unit_left (length_of_joined full h)⟩
    · rintro ⟨_, others, rfl, h, rfl⟩
      rwa [zipWith_unit_left (length_of_joined full h)]
  | cons d ds ih =>
    simp only [List.cons_append, joined_cons, ih]
    constructor
    · rintro ⟨first, _, here, ⟨middle, others, rest, behind, rfl⟩, rfl⟩
      exact ⟨_, others, ⟨first, middle, here, rest, rfl⟩, behind, zipWith_assoc ..⟩
    · rintro ⟨_, others, ⟨first, middle, here, rest, rfl⟩, behind, rfl⟩
      exact ⟨first, _, here, ⟨middle, others, rest, behind, rfl⟩, (zipWith_assoc ..).symm⟩

/-- Parts that are joined from the left give what they give one after another. -/
theorem gives_joinAll {join : E → E → E} {empty : E}
    (join_iff : ∀ d e values, gives (join d e) values ↔
      ∃ first others, gives d first ∧ gives e others ∧ List.zipWith op first others = values)
    (empty_iff : ∀ values, gives empty values ↔ List.replicate (count + 1) unit = values) :
    gives (joinAll join empty es) values ↔ Joined gives op unit count es values := by
  cases es with
  | nil => rw [joined_nil, joinAll, empty_iff]
  | cons e es =>
    rw [joinAll, joined_cons]
    induction es generalizing e values with
    | nil => exact (joined_singleton full).symm.trans joined_cons
    | cons next es ih =>
      rw [List.foldl_cons, ih]
      simp only [join_iff, joined_cons]
      constructor
      · rintro ⟨_, others, ⟨first, middle, here, between, rfl⟩, behind, rfl⟩
        exact ⟨first, _, here, ⟨middle, others, between, behind, rfl⟩, (zipWith_assoc ..).symm⟩
      · rintro ⟨first, _, here, ⟨middle, others, between, behind, rfl⟩, rfl⟩
        exact ⟨_, others, ⟨first, middle, here, between, rfl⟩, behind, zipWith_assoc ..⟩

end Laws

theorem forall₂_trans {β γ : Type} {R : α → β → Prop} {S : β → γ → Prop} {as : List α}
    {cs : List γ} : (∃ bs, List.Forall₂ R as bs ∧ List.Forall₂ S bs cs) ↔
      List.Forall₂ (fun a c => ∃ b, R a b ∧ S b c) as cs := by
  constructor
  · rintro ⟨bs, before, behind⟩
    induction before generalizing cs with
    | nil =>
      cases behind
      exact .nil
    | cons hr _ ih =>
      cases behind with
      | cons hs rest => exact .cons ⟨_, hr, hs⟩ (ih rest)
  · intro h
    induction h with
    | nil => exact ⟨[], .nil, .nil⟩
    | cons head _ ih =>
      obtain ⟨b, hr, hs⟩ := head
      obtain ⟨bs, before, behind⟩ := ih
      exact ⟨b :: bs, .cons hr before, .cons hs behind⟩

/-- Expressions that are lowered and evaluated one by one give one column each. -/
theorem given_all {ε ε' β : Type} {lower : E → Except ε F} {column : F → Except ε' β}
    {columns : List β} :
    (∃ fs, es.mapM lower = .ok fs ∧ fs.mapM column = .ok columns) ↔
      List.Forall₂ (fun e values => ∃ f, lower e = .ok f ∧ column f = .ok values) es columns := by
  simp only [mapM_eq_ok_iff, forall₂_trans]

/-- To join what expressions give when they are lowered is to lower them and to join what they
give. -/
theorem joined_lowered {ε : Type} {lower : E → Except ε F} {given : F → List α → Prop} :
    Joined (fun e values => ∃ f, lower e = .ok f ∧ given f values) op unit count es values ↔
      ∃ fs, es.mapM lower = .ok fs ∧ Joined given op unit count fs values := by
  simp only [Joined, mapM_eq_ok_iff, ← forall₂_trans]
  constructor
  · rintro ⟨columns, ⟨fs, lowered, given⟩, joined⟩
    exact ⟨fs, lowered, columns, given, joined⟩
  · rintro ⟨fs, lowered, columns, given, joined⟩
    exact ⟨columns, ⟨fs, lowered, given⟩, joined⟩

end

/-! ## Nodes that are lowered and evaluated -/

section

variable {ε ε' D D' E α β γ : Type} {x : Except ε D} {y : Except ε D'} {build : D → D' → E}
  {column : E → Except ε' γ} {first : D → Except ε' α} {second : D' → Except ε' β} {c : γ}

/-- What a node with one part gives is derived from what the part gives. -/
theorem given_map {build : D → E} {derive : α → γ}
    (evaluated : ∀ d, column (build d) = do pure (derive (← first d))) :
    (∃ e, (do pure (build (← x))) = .ok e ∧ column e = .ok c) ↔
      ∃ a, (∃ d, x = .ok d ∧ first d = .ok a) ∧ derive a = c := by
  simp only [bind_eq_ok, pure_eq_ok]
  constructor
  · rintro ⟨_, ⟨d, hd, rfl⟩, h⟩
    simp only [evaluated, bind_eq_ok, pure_eq_ok] at h
    obtain ⟨a, ha, rfl⟩ := h
    exact ⟨a, ⟨d, hd, ha⟩, rfl⟩
  · rintro ⟨a, ⟨d, hd, ha⟩, rfl⟩
    refine ⟨_, ⟨d, hd, rfl⟩, ?_⟩
    simp only [evaluated, bind_eq_ok, pure_eq_ok]
    exact ⟨a, ha, rfl⟩

/-- What a node with two parts gives is derived from what the parts give. -/
theorem given_map₂ {derive : α → β → γ} (evaluated : ∀ d d',
      column (build d d') = do let a ← first d; pure (derive a (← second d'))) :
    (∃ e, (do let d ← x; pure (build d (← y))) = .ok e ∧ column e = .ok c) ↔
      ∃ a b, (∃ d, x = .ok d ∧ first d = .ok a) ∧ (∃ d', y = .ok d' ∧ second d' = .ok b) ∧
        derive a b = c := by
  simp only [bind_eq_ok, pure_eq_ok]
  constructor
  · rintro ⟨_, ⟨d, hd, d', hd', rfl⟩, h⟩
    simp only [evaluated, bind_eq_ok, pure_eq_ok] at h
    obtain ⟨a, ha, b, hb, rfl⟩ := h
    exact ⟨a, b, ⟨d, hd, ha⟩, ⟨d', hd', hb⟩, rfl⟩
  · rintro ⟨a, b, ⟨d, hd, ha⟩, ⟨d', hd', hb⟩, rfl⟩
    refine ⟨_, ⟨d, hd, d', hd', rfl⟩, ?_⟩
    simp only [evaluated, bind_eq_ok, pure_eq_ok]
    exact ⟨a, ha, b, hb, rfl⟩

/-- Parts that a list is lowered to one by one and joined give what the parts of the list give. -/
theorem given_joinAll {ε ε' : Type} {E F α : Type} {op : α → α → α} {unit : α}
    [Std.Associative op] [Std.LawfulIdentity op unit] {count : Nat} {lower : E → Except ε F}
    {column : F → Except ε' (List α)} {join : F → F → F} {empty : F} {es : List E}
    {values : List α}
    (join_eq : ∀ d e, column (join d e) = do
      let first ← column d
      pure (List.zipWith op first (← column e)))
    (empty_eq : column empty = .ok (List.replicate (count + 1) unit))
    (full : ∀ f values, column f = .ok values → values.length = count + 1) :
    (∃ f, (do pure (joinAll join empty (← es.mapM lower))) = .ok f ∧ column f = .ok values) ↔
      Joined (fun e values => ∃ f, lower e = .ok f ∧ column f = .ok values) op unit count es
        values := by
  have joined (fs : List F) : column (joinAll join empty fs) = .ok values ↔
      Joined (fun f values => column f = .ok values) op unit count fs values :=
    gives_joinAll full (fun d e values => by
      simp only [join_eq, bind_eq_ok, pure_eq_ok, exists_and_left])
      (fun values => by rw [empty_eq, Except.ok.injEq])
  simp only [joined_lowered, bind_eq_ok, pure_eq_ok, ← joined]
  constructor
  · rintro ⟨_, ⟨fs, hfs, rfl⟩, evaluated⟩
    exact ⟨fs, hfs, evaluated⟩
  · rintro ⟨fs, hfs, evaluated⟩
    exact ⟨_, ⟨fs, hfs, rfl⟩, evaluated⟩

end

end Groupwise.Aggregate
