import Groupwise.Error
import Groupwise.Proofs.Names

/-!
# Computations that succeed

A computation that goes through several stages succeeds when each of its stages does.
-/
namespace Groupwise

variable {ε α β : Type}

theorem bind_eq_ok {x : Except ε α} {k : α → Except ε β} {b : β} :
    (x >>= k) = .ok b ↔ ∃ a, x = .ok a ∧ k a = .ok b := by
  cases x with
  | error e => simp [bind, Except.bind]
  | ok a => simp [bind, Except.bind]

theorem pure_eq_ok {a b : α} : (pure a : Except ε α) = .ok b ↔ a = b :=
  ⟨Except.ok.inj, congrArg _⟩

theorem exists_of_isOk {x : Except ε α} (h : x.isOk = true) : ∃ a, x = .ok a := by
  cases x with
  | error e => exact absurd h Bool.false_ne_true
  | ok a => exact ⟨a, rfl⟩

theorem eq_ok_of_toOption {x : Except ε α} {a : α} (h : x.toOption = some a) : x = .ok a := by
  cases x with
  | error e => cases h
  | ok b => exact congrArg _ (Option.some.inj h)

/-- A computation ends with a result. -/
def Succeeds (x : Except ε α) : Prop := ∃ a, x = .ok a

namespace Succeeds

@[simp] theorem ok (a : α) : Succeeds (.ok a : Except ε α) := ⟨a, rfl⟩

@[simp] theorem not_error (e : ε) : ¬Succeeds (.error e : Except ε α) := nofun

theorem not_iff {x : Except ε α} : ¬Succeeds x ↔ ∃ e, x = .error e := by
  cases x with
  | ok a => simp
  | error e => simp

theorem of_bind {x : Except ε α} {k : α → Except ε β} (h : Succeeds (x >>= k)) : Succeeds x := by
  obtain ⟨_, after⟩ := h
  obtain ⟨a, before, -⟩ := bind_eq_ok.mp after
  exact ⟨a, before⟩

/-- Two stages succeed if both do, provided that the second does so whatever the first one gives. -/
theorem bind_iff {x : Except ε α} {k : α → Except ε β} {P : Prop}
    (h : ∀ a, Succeeds (k a) ↔ P) : Succeeds (x >>= k) ↔ Succeeds x ∧ P := by
  simp only [Succeeds, bind_eq_ok] at h ⊢
  constructor
  · rintro ⟨b, a, ha, hb⟩
    exact ⟨⟨a, ha⟩, (h a).mp ⟨b, hb⟩⟩
  · rintro ⟨⟨a, ha⟩, holds⟩
    obtain ⟨b, hb⟩ := (h a).mpr holds
    exact ⟨b, a, ha, hb⟩

/-- What is only put together from a result succeeds with it. -/
theorem bind_pure_iff {x : Except ε α} {f : α → β} :
    Succeeds (x >>= fun a => pure (f a)) ↔ Succeeds x :=
  (bind_iff fun a => iff_true_intro ⟨f a, rfl⟩).trans (iff_of_eq (and_true _))

theorem mapM_iff {f : α → Except ε β} {as : List α} :
    Succeeds (as.mapM f) ↔ ∀ a ∈ as, Succeeds (f a) := by
  induction as with
  | nil => exact iff_of_true ⟨[], rfl⟩ (List.forall_mem_nil _)
  | cons a rest ih =>
    rw [List.mapM_cons, List.forall_mem_cons, ← ih]
    exact bind_iff fun _ => bind_pure_iff

end Succeeds

theorem mapM_eq_ok_mem {f : α → Except ε β} {as : List α} {bs : List β} {b : β}
    (h : as.mapM f = .ok bs) (hb : b ∈ bs) : ∃ a ∈ as, f a = .ok b := by
  induction as generalizing bs with
  | nil =>
    obtain rfl := pure_eq_ok.mp h
    exact absurd hb List.not_mem_nil
  | cons a rest ih =>
    simp only [List.mapM_cons, bind_eq_ok, pure_eq_ok] at h
    obtain ⟨first, hfirst, others, hothers, rfl⟩ := h
    rcases List.mem_cons.mp hb with rfl | hb
    · exact ⟨a, List.mem_cons_self .., hfirst⟩
    · obtain ⟨a, ha, known⟩ := ih hothers hb
      exact ⟨a, List.mem_cons_of_mem _ ha, known⟩

theorem mapM_eq_ok_of_mem {f : α → Except ε β} {as : List α} {bs : List β} {a : α}
    (h : as.mapM f = .ok bs) (ha : a ∈ as) : ∃ b, f a = .ok b := by
  induction as generalizing bs with
  | nil => exact absurd ha List.not_mem_nil
  | cons first rest ih =>
    simp only [List.mapM_cons, bind_eq_ok] at h
    obtain ⟨b, hb, others, hothers, -⟩ := h
    rcases List.mem_cons.mp ha with rfl | ha
    · exact ⟨b, hb⟩
    · exact ih hothers ha

theorem mapM_eq_ok_getElem? {f : α → Except ε β} {as : List α} {bs : List β} {i : Nat} {a : α}
    (h : as.mapM f = .ok bs) (ha : as[i]? = some a) : ∃ b, bs[i]? = some b ∧ f a = .ok b := by
  induction as generalizing bs i with
  | nil => exact absurd ha (by simp)
  | cons first rest ih =>
    simp only [List.mapM_cons, bind_eq_ok, pure_eq_ok] at h
    obtain ⟨b, hb, others, hothers, rfl⟩ := h
    cases i with
    | zero =>
      obtain rfl := Option.some.inj ha
      exact ⟨b, rfl, hb⟩
    | succ i => simpa using ih hothers (by simpa using ha)

theorem mapM_eq_ok_map {f : α → Except ε β} {g : α → β} {as : List α}
    (h : ∀ a ∈ as, f a = .ok (g a)) : as.mapM f = .ok (as.map g) := by
  induction as with
  | nil => rfl
  | cons a rest ih =>
    obtain ⟨first, later⟩ := List.forall_mem_cons.mp h
    rw [List.mapM_cons, first, ih later]
    rfl

theorem mapM_eq_ok_iff {f : α → Except ε β} {as : List α} {bs : List β} :
    as.mapM f = .ok bs ↔ List.Forall₂ (fun a b => f a = .ok b) as bs := by
  induction as generalizing bs with
  | nil =>
    constructor
    · intro h
      obtain rfl := pure_eq_ok.mp h
      exact .nil
    · rintro ⟨⟩
      rfl
  | cons a rest ih =>
    simp only [List.mapM_cons, bind_eq_ok, pure_eq_ok, ih]
    constructor
    · rintro ⟨b, hb, others, hothers, rfl⟩
      exact .cons hb hothers
    · rintro (_ | ⟨hb, hothers⟩)
      exact ⟨_, hb, _, hothers, rfl⟩

/-- What is collected for some names are their values. -/
theorem Dictionary.mem_of_collect {names : Names} {f : String → Except ε α} {d : Dictionary α}
    (h : Dictionary.collect names f = .ok d) {e : String × α} (he : e ∈ d) :
    e.1 ∈ names ∧ f e.1 = .ok e.2 := by
  obtain ⟨name, hname, made⟩ := mapM_eq_ok_mem h he
  simp only [bind_eq_ok, pure_eq_ok] at made
  obtain ⟨a, ha, rfl⟩ := made
  exact ⟨hname, ha⟩

/-- The dictionary that is collected for some names has the value of each of them. -/
theorem Dictionary.find?_of_collect {names : Names} {f : String → Except ε α}
    {d : Dictionary α} (h : Dictionary.collect names f = .ok d) {name : String}
    (hn : name ∈ names) : ∃ a, f name = .ok a ∧ d.find? name = some a := by
  induction names generalizing d with
  | nil => exact absurd hn List.not_mem_nil
  | cons first rest ih =>
    simp only [collect, List.mapM_cons, bind_eq_ok, pure_eq_ok] at h
    obtain ⟨_, ⟨a, ha, rfl⟩, others, hothers, rfl⟩ := h
    simp only [find?]
    by_cases he : first = name
    · subst he
      exact ⟨a, ha, by simp⟩
    · obtain ⟨b, hb, hfind⟩ := ih hothers ((List.mem_cons.mp hn).resolve_left (Ne.symm he))
      exact ⟨b, hb, by simpa [he] using hfind⟩

end Groupwise
