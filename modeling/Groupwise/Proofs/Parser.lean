import Groupwise.Text.Parser
import Mathlib.Data.List.Basic

/-!
# What parsers read

What a compound parser makes of a text follows from what its parts make of it: the parts of a
sequence read one after the other, and a choice reads what its first fitting part reads, so that of
all parts before that one it must be known that they fail.
-/
namespace Groupwise.Parser

variable {α β : Type} {p q : Parser α} {cs rest : List Char} {a : α}

/-- A parser fails at a text. -/
def Fails (p : Parser α) (cs : List Char) : Prop := ∃ place, p cs = .error place

/-- A blank before the text makes no difference to a parser. -/
def SkipsBlank (p : Parser α) : Prop := ∀ cs, p (' ' :: cs) = p cs

/-! ## Sequences -/

theorem bind_ok {k : α → Parser β} (h : p cs = .ok (a, rest)) : (p >>= k) cs = k a rest := by
  change Except.bind (p cs) _ = _
  rw [h]
  rfl

theorem map_ok {f : α → β} (h : p cs = .ok (a, rest)) : (f <$> p) cs = .ok (f a, rest) := by
  change Except.bind (p cs) _ = _
  rw [h]
  rfl

theorem Fails.bind {k : α → Parser β} (h : Fails p cs) : Fails (p >>= k) cs := by
  obtain ⟨place, h⟩ := h
  refine ⟨place, ?_⟩
  change Except.bind (p cs) _ = _
  rw [h]
  rfl

theorem Fails.after {k : α → Parser β} (h : p cs = .ok (a, rest)) (later : Fails (k a) rest) :
    Fails (p >>= k) cs := by
  obtain ⟨place, later⟩ := later
  exact ⟨place, (bind_ok h).trans later⟩

theorem Fails.map {f : α → β} (h : Fails p cs) : Fails (f <$> p) cs := by
  obtain ⟨place, h⟩ := h
  refine ⟨place, ?_⟩
  change Except.bind (p cs) _ = _
  rw [h]
  rfl

theorem Fails.mapOption {f : α → Option β} (h : Fails p cs) : Fails (mapOption p f) cs := by
  obtain ⟨place, h⟩ := h
  exact ⟨place, by rw [Parser.mapOption, h]⟩

theorem fails_mapOption {f : α → Option β} (h : p cs = .ok (a, rest)) (made : f a = none) :
    Fails (mapOption p f) cs :=
  ⟨cs, by rw [mapOption, h]; simp only [made]⟩

theorem mapOption_ok {f : α → Option β} {b : β} (h : p cs = .ok (a, rest)) (made : f a = some b) :
    mapOption p f cs = .ok (b, rest) := by
  rw [mapOption, h]
  simp only [made]

/-! ## Choices -/

theorem orElse_ok {r : α × List Char} (h : p cs = .ok r) : orElse p q cs = .ok r := by
  rw [orElse, h]

theorem orElse_of_fails (h : Fails p cs) : orElse p q cs = q cs := by
  obtain ⟨place, h⟩ := h
  rw [orElse, h]

theorem Fails.orElse (h : Fails p cs) (other : Fails q cs) : Fails (orElse p q) cs := by
  obtain ⟨place, other⟩ := other
  exact ⟨place, (orElse_of_fails h).trans other⟩

theorem choice_ok {r : α × List Char} {ps : List (Parser α)} (h : p cs = .ok r) :
    choice (p :: ps) cs = .ok r := by
  cases ps with
  | nil => exact h
  | cons q ps => exact orElse_ok h

/-- What fails in front of a choice does not change it. -/
theorem choice_append {before after : List (Parser α)} (nonempty : after ≠ [])
    (h : ∀ p ∈ before, Fails p cs) : choice (before ++ after) cs = choice after cs := by
  induction before with
  | nil => rfl
  | cons p before ih =>
    obtain ⟨first, later⟩ := List.forall_mem_cons.mp h
    cases before with
    | nil =>
      cases after with
      | nil => exact absurd rfl nonempty
      | cons q after => exact orElse_of_fails first
    | cons q before => exact (orElse_of_fails first).trans (ih later)

theorem fails_choice {ps : List (Parser α)} (h : ∀ p ∈ ps, Fails p cs) : Fails (choice ps) cs := by
  induction ps with
  | nil => exact ⟨cs, rfl⟩
  | cons p ps ih =>
    obtain ⟨first, later⟩ := List.forall_mem_cons.mp h
    cases ps with
    | nil => exact first
    | cons q ps => exact first.orElse (ih later)

theorem optional_ok (h : p cs = .ok (a, rest)) : optional p cs = .ok (some a, rest) := by
  rw [optional, h]

theorem optional_of_fails (h : Fails p cs) : optional p cs = .ok (none, cs) := by
  obtain ⟨place, h⟩ := h
  rw [optional, h]

theorem absent_of_fails (h : Fails p cs) : absent p cs = .ok ((), cs) := by
  obtain ⟨place, h⟩ := h
  rw [absent, h]

/-! ## Repetitions -/

/-- A parser reads some values one after the other, each of at least one character, and fails behind
them. -/
inductive Repeats (p : Parser α) : List Char → List α → List Char → Prop where
  | stop {cs : List Char} (h : Fails p cs) : Repeats p cs [] cs
  | more {cs mid rest : List Char} {a : α} {as : List α} (h : p cs = .ok (a, mid))
    (shorter : mid.length < cs.length) (later : Repeats p mid as rest) :
    Repeats p cs (a :: as) rest

theorem Repeats.manyUpTo {as : List α} (h : Repeats p cs as rest) {fuel : Nat}
    (enough : cs.length ≤ fuel) : manyUpTo p fuel cs = (as, rest) := by
  induction h generalizing fuel with
  | stop h =>
    obtain ⟨place, h⟩ := h
    cases fuel with
    | zero => rfl
    | succ fuel => simp only [Parser.manyUpTo, h]
  | more h shorter _ ih =>
    cases fuel with
    | zero => omega
    | succ fuel =>
      have left := Nat.le_of_lt_succ (Nat.lt_of_lt_of_le shorter enough)
      simp only [Parser.manyUpTo, h, ih left]

theorem Repeats.many {as : List α} (h : Repeats p cs as rest) : many p cs = .ok (as, rest) := by
  rw [Parser.many, h.manyUpTo (Nat.le_refl _)]

/-! ## Characters -/

theorem isUpper_iff {c : Char} : c.isUpper ↔ 'A'.val ≤ c.val ∧ c.val ≤ 'Z'.val :=
  decide_eq_true_iff

theorem isLower_iff {c : Char} : c.isLower ↔ 'a'.val ≤ c.val ∧ c.val ≤ 'z'.val := by
  delta Char.isLower
  rw [Bool.and_eq_true, decide_eq_true_eq, decide_eq_true_eq]

theorem isDigit_iff {c : Char} : c.isDigit ↔ '0'.val ≤ c.val ∧ c.val ≤ '9'.val := by
  delta Char.isDigit
  rw [Bool.and_eq_true, decide_eq_true_eq, decide_eq_true_eq]

theorem isDigit_of_isAlpha {c : Char} (h : c.isAlpha) : c.isDigit = false := by
  refine Bool.eq_false_iff.mpr fun digit => ?_
  have low := (isDigit_iff.mp digit).2
  rcases (Bool.or_eq_true ..).mp h with upper | lower
  · exact absurd (UInt32.le_trans (isUpper_iff.mp upper).1 low) (by decide)
  · exact absurd (UInt32.le_trans (isLower_iff.mp lower).1 low) (by decide)

theorem toLower_of_not_isUpper {c : Char} (h : ¬ c.isUpper) : c.toLower = c :=
  dif_neg (mt isUpper_iff.mpr h)

theorem not_isUpper_of_isLower {c : Char} (h : c.isLower) : ¬ c.isUpper := fun upper =>
  absurd (UInt32.le_trans (isLower_iff.mp h).1 (isUpper_iff.mp upper).2) (by decide)

theorem toLower_ne {c d : Char} (h : c.isAlpha = false) (hd : d.isLower) : c.toLower ≠ d := by
  obtain ⟨upper, lower⟩ := Bool.or_eq_false_iff.mp h
  rw [toLower_of_not_isUpper (Bool.eq_false_iff.mp upper)]
  rintro rfl
  exact Bool.eq_false_iff.mp lower hd

theorem toLower_of_isLower {c : Char} (h : c.isLower) : c.toLower = c :=
  toLower_of_not_isUpper (not_isUpper_of_isLower h)

theorem run_append {inside : Char → Bool} {text : List Char} (within : ∀ c ∈ text, inside c)
    (ends : ∀ c ∈ rest.head?, inside c = false) : run inside (text ++ rest) = .ok (text, rest) := by
  have none : rest.takeWhile inside = [] ∧ rest.dropWhile inside = rest := by
    cases rest with
    | nil => exact ⟨rfl, rfl⟩
    | cons c rest => simp [ends c rfl]
  rw [run, List.takeWhile_append_of_pos within, List.dropWhile_append_of_pos within, none.1, none.2,
    List.append_nil]

theorem run1_append {inside : Char → Bool} {text : List Char} (nonempty : text ≠ [])
    (within : ∀ c ∈ text, inside c) (ends : ∀ c ∈ rest.head?, inside c = false) :
    run1 inside (text ++ rest) = .ok (text, rest) := by
  have read := run_append within ends
  rw [run, Except.ok.injEq, Prod.mk.injEq] at read
  rw [run1, read.1, read.2]
  cases text with
  | nil => exact absurd rfl nonempty
  | cons c text => rfl

theorem fails_run1 {inside : Char → Bool} (h : ∀ c ∈ cs.head?, inside c = false) :
    Fails (run1 inside) cs := by
  cases cs with
  | nil => exact ⟨[], rfl⟩
  | cons c cs => exact ⟨c :: cs, by simp [run1, h c rfl]⟩

theorem fails_satisfy {inside : Char → Bool} (h : ∀ c ∈ cs.head?, inside c = false) :
    Fails (satisfy inside) cs := by
  cases cs with
  | nil => exact ⟨[], rfl⟩
  | cons c cs => exact ⟨c :: cs, by simp [satisfy, h c rfl]⟩

theorem char_cons (c : Char) : char c (c :: rest) = .ok ((), rest) := by
  have read : satisfy (· = c) (c :: rest) = .ok (c, rest) := by simp [satisfy]
  rw [char, bind_ok read]
  rfl

theorem fails_char {c : Char} (h : ∀ d ∈ cs.head?, d ≠ c) : Fails (char c) cs :=
  Fails.bind (fails_satisfy fun d hd => by simpa using h d hd)

theorem spaces_of_head (h : ∀ c ∈ cs.head?, Scanner.isSpace c = false) :
    spaces cs = .ok ((), cs) := by
  cases cs with
  | nil => rfl
  | cons c cs => simp [spaces, h c rfl]

theorem wordIgnoringCase_append (word : List Char) :
    Scanner.wordIgnoringCase word (word ++ rest) = some ((), rest) := by
  induction word with
  | nil => rfl
  | cons c word ih => simp [Scanner.wordIgnoringCase, ih]

/-- A word that is read at a longer word of letters begins that word. -/
theorem prefix_of_wordIgnoringCase {word letters : List Char} {c : Char} {r : Unit × List Char}
    (spelt : ∀ d ∈ word, d.isLower) (given : ∀ d ∈ letters, d.isLower) (ends : c.isAlpha = false)
    (h : Scanner.wordIgnoringCase word (letters ++ c :: rest) = some r) : word <+: letters := by
  induction word generalizing letters with
  | nil => exact List.nil_prefix
  | cons d word ih =>
    obtain ⟨lower, spelt⟩ := List.forall_mem_cons.mp spelt
    cases letters with
    | nil =>
      simp [Scanner.wordIgnoringCase, toLower_of_isLower lower, toLower_ne ends lower] at h
    | cons e letters =>
      obtain ⟨lower', given⟩ := List.forall_mem_cons.mp given
      rw [List.cons_append, Scanner.wordIgnoringCase, toLower_of_isLower lower,
        toLower_of_isLower lower'] at h
      split at h
      · rename_i same
        rw [same]
        exact List.cons_prefix_cons.mpr ⟨rfl, ih spelt given h⟩
      · cases h

/-! ## Blanks -/

namespace SkipsBlank

theorem bind {k : α → Parser β} (h : SkipsBlank p) : SkipsBlank (p >>= k) := by
  intro cs
  change Except.bind (p (' ' :: cs)) _ = Except.bind (p cs) _
  rw [h]

theorem map {f : α → β} (h : SkipsBlank p) : SkipsBlank (f <$> p) := by
  intro cs
  change Except.bind (p (' ' :: cs)) _ = Except.bind (p cs) _
  rw [h]

theorem orElse (h : SkipsBlank p) (h' : SkipsBlank q) : SkipsBlank (orElse p q) := by
  intro cs
  rw [Parser.orElse, Parser.orElse, h, h']

theorem choice {ps : List (Parser α)} (nonempty : ps ≠ []) (h : ∀ p ∈ ps, SkipsBlank p) :
    SkipsBlank (choice ps) := by
  induction ps with
  | nil => exact absurd rfl nonempty
  | cons p ps ih =>
    obtain ⟨first, later⟩ := List.forall_mem_cons.mp h
    cases ps with
    | nil => exact first
    | cons q ps => exact first.orElse (ih (List.cons_ne_nil q ps) later)

theorem fails (h : SkipsBlank p) (failed : Fails p cs) : Fails p (' ' :: cs) := by
  obtain ⟨place, failed⟩ := failed
  exact ⟨place, (h cs).trans failed⟩

end SkipsBlank

/-! ## Results -/

theorem bind_ok_iff {k : α → Parser β} {b : β} : (p >>= k) cs = .ok (b, rest) ↔
    ∃ a mid, p cs = .ok (a, mid) ∧ k a mid = .ok (b, rest) := by
  change Except.bind (p cs) (fun r => k r.1 r.2) = _ ↔ _
  cases p cs with
  | error place => simp [Except.bind]
  | ok r =>
    obtain ⟨a, mid⟩ := r
    simp [Except.bind]

theorem map_ok_iff {f : α → β} {b : β} :
    (f <$> p) cs = .ok (b, rest) ↔ ∃ a, p cs = .ok (a, rest) ∧ f a = b := by
  rw [map_eq_pure_bind, bind_ok_iff]
  constructor
  · rintro ⟨a, mid, read, made⟩
    cases made
    exact ⟨a, read, rfl⟩
  · rintro ⟨a, read, rfl⟩
    exact ⟨a, rest, read, rfl⟩

theorem mapOption_ok_iff {f : α → Option β} {b : β} :
    mapOption p f cs = .ok (b, rest) ↔ ∃ a, p cs = .ok (a, rest) ∧ f a = some b := by
  rw [mapOption]
  cases p cs with
  | error place => simp
  | ok r =>
    obtain ⟨a, mid⟩ := r
    cases made : f a <;> simp [made, and_comm]

/-- When it starts at an end of a text, a parser leaves an end of the text, and what it gives has a
property. -/
def Yields (t : List Char) (p : Parser α) (P : α → Prop) : Prop :=
  ∀ ⦃cs a rest⦄, cs <:+ t → p cs = .ok (a, rest) → rest <:+ t ∧ P a

namespace Yields

variable {t : List Char} {P P' : α → Prop} {R : β → Prop} {inside : Char → Bool}

theorem pure (h : P a) : Yields t (Pure.pure a) P := by
  rintro cs _ _ sub ⟨⟩
  exact ⟨sub, h⟩

theorem bind {k : α → Parser β} (hp : Yields t p P) (hk : ∀ a, P a → Yields t (k a) R) :
    Yields t (p >>= k) R := by
  intro cs b rest sub h
  obtain ⟨a, mid, first, later⟩ := bind_ok_iff.mp h
  obtain ⟨left, ha⟩ := hp sub first
  exact hk a ha left later

theorem map {f : α → β} (hp : Yields t p fun a => R (f a)) : Yields t (f <$> p) R := by
  intro cs b rest sub h
  obtain ⟨a, read, rfl⟩ := map_ok_iff.mp h
  exact hp sub read

theorem imp (hp : Yields t p P) (h : ∀ a, P a → P' a) : Yields t p P' :=
  fun _ _ _ sub read => (hp sub read).imp_right (h _)

theorem mapOption {f : α → Option β} (hp : Yields t p fun a => ∀ b, f a = some b → R b) :
    Yields t (mapOption p f) R := by
  intro cs b rest sub h
  obtain ⟨a, read, made⟩ := mapOption_ok_iff.mp h
  exact (hp sub read).imp_right fun ha => ha b made

theorem filter {f : α → Bool} (hp : Yields t p P) : Yields t (filter p f) P := by
  refine mapOption (hp.imp fun a ha b made => ?_)
  split at made
  · exact Option.some.inj made ▸ ha
  · cases made

theorem fail : Yields t (fail : Parser α) P := fun _ _ _ _ h => nomatch h

theorem orElse (hp : Yields t p P) (hq : Yields t q P) : Yields t (orElse p q) P := by
  intro cs a rest sub h
  rw [Parser.orElse] at h
  split at h
  · cases h
    exact hp sub ‹_›
  · exact hq sub h

theorem choice {ps : List (Parser α)} (h : ∀ p ∈ ps, Yields t p P) : Yields t (choice ps) P := by
  induction ps with
  | nil => exact fail
  | cons p ps ih =>
    obtain ⟨first, later⟩ := List.forall_mem_cons.mp h
    cases ps with
    | nil => exact first
    | cons q ps => exact first.orElse (ih later)

theorem optional (hp : Yields t p P) : Yields t (optional p) fun o => ∀ a ∈ o, P a := by
  intro cs o rest sub h
  rw [Parser.optional] at h
  split at h
  · rename_i a _ read
    cases h
    exact (hp sub read).imp_right fun ha b hb => Option.some.inj hb ▸ ha
  · cases h
    exact ⟨sub, nofun⟩

theorem absent (q : Parser α) : Yields t (absent q) fun _ => True := by
  intro cs _ rest sub h
  rw [Parser.absent] at h
  split at h
  · cases h
  · cases h
    exact ⟨sub, trivial⟩

theorem manyUpTo (hp : Yields t p P) (fuel : Nat) (sub : cs <:+ t) :
    (manyUpTo p fuel cs).2 <:+ t ∧ ∀ a ∈ (Parser.manyUpTo p fuel cs).1, P a := by
  induction fuel generalizing cs with
  | zero => exact ⟨sub, nofun⟩
  | succ fuel ih =>
    rw [Parser.manyUpTo]
    split
    · exact ⟨sub, nofun⟩
    · rename_i a rest read
      obtain ⟨left, ha⟩ := hp sub read
      obtain ⟨last, others⟩ := ih left
      exact ⟨last, List.forall_mem_cons.mpr ⟨ha, others⟩⟩

theorem many (hp : Yields t p P) : Yields t (many p) fun as => ∀ a ∈ as, P a := by
  intro cs as rest sub h
  have all := manyUpTo hp cs.length sub
  have made : Parser.manyUpTo p cs.length cs = (as, rest) := Except.ok.inj h
  rwa [made] at all

theorem separated {separator : Parser Unit} (hs : Yields t separator fun _ => True)
    (hp : Yields t p P) : Yields t (separated separator p) fun as => ∀ a ∈ as, P a :=
  .bind hp fun _ ha => .bind (.many (.bind hs fun _ _ => hp)) fun _ has =>
    .pure (List.forall_mem_cons.mpr ⟨ha, has⟩)

theorem satisfy (inside : Char → Bool) : Yields t (satisfy inside) fun _ => True := by
  intro cs c rest sub h
  cases cs with
  | nil => cases h
  | cons d cs =>
    rw [Parser.satisfy] at h
    split at h
    · cases h
      exact ⟨(List.suffix_cons ..).trans sub, trivial⟩
    · cases h

theorem char (c : Char) : Yields t (char c) fun _ => True :=
  .bind (satisfy _) fun _ _ => .pure trivial

theorem run (inside : Char → Bool) : Yields t (run inside) fun _ => True := by
  intro cs found rest sub h
  cases h
  exact ⟨(List.dropWhile_suffix _).trans sub, trivial⟩

theorem run1 (inside : Char → Bool) : Yields t (run1 inside) fun _ => True := by
  intro cs found rest sub h
  rw [Parser.run1] at h
  split at h
  · cases h
  · cases h
    exact ⟨(List.dropWhile_suffix _).trans sub, trivial⟩

theorem exactly (count : Nat) (inside : Char → Bool) :
    Yields t (exactly count inside) fun _ => True := by
  intro cs found rest sub h
  simp only [Parser.exactly] at h
  split at h
  · cases h
    exact ⟨(List.drop_suffix ..).trans sub, trivial⟩
  · cases h

theorem spaces : Yields t spaces fun _ => True := by
  intro cs _ rest sub h
  cases h
  exact ⟨(List.dropWhile_suffix _).trans sub, trivial⟩

theorem word_suffix {word : List Char} {r : Unit × List Char}
    (h : Scanner.word word cs = some r) : r.2 <:+ cs := by
  fun_induction Scanner.word word cs with
  | case1 =>
    cases h
    exact List.suffix_refl _
  | case2 _ _ _ ih => exact (ih h).trans (List.suffix_cons ..)
  | case3 | case4 => cases h

theorem wordIgnoringCase_suffix {word : List Char} {r : Unit × List Char}
    (h : Scanner.wordIgnoringCase word cs = some r) : r.2 <:+ cs := by
  fun_induction Scanner.wordIgnoringCase word cs with
  | case1 =>
    cases h
    exact List.suffix_refl _
  | case2 _ _ _ _ _ ih => exact (ih h).trans (List.suffix_cons ..)
  | case3 | case4 => cases h

theorem text (word : String) : Yields t (text word) fun _ => True := by
  intro cs _ rest sub h
  rw [Parser.text] at h
  split at h
  · cases h
    exact ⟨(word_suffix ‹_›).trans sub, trivial⟩
  · cases h

theorem textIgnoringCase (word : String) : Yields t (textIgnoringCase word) fun _ => True := by
  intro cs _ rest sub h
  rw [Parser.textIgnoringCase] at h
  split at h
  · cases h
    exact ⟨(wordIgnoringCase_suffix ‹_›).trans sub, trivial⟩
  · cases h

end Yields

end Groupwise.Parser
