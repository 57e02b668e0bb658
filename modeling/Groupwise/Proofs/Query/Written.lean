import Groupwise.Proofs.Parser
import Groupwise.Query.Text

/-!
# Numbers that are read stand in the text

A token that is read leaves an end of the text, so that every part of an expression is read from
somewhere in the text. In particular the scale of a function is the number that stands behind its
argument, cut to 32 bits, or one where no number stands.
-/
namespace Groupwise.Query.Grammar

open Groupwise.Parser

variable {α β : Type} {t : List Char} {p : Parser α} {P : α → Prop}

/-- When it starts at an end of a text, a parser leaves an end of the text. -/
abbrev Stays (t : List Char) (p : Parser α) : Prop := Yields t p fun _ => True

theorem stays_pure (a : α) : Stays t (pure a) := .pure trivial

theorem stays_optional (h : Stays t p) : Stays t (optional p) :=
  (Yields.optional h).imp fun _ _ => trivial

/-! ## Words and symbols -/

theorem stays_wordEnd : Stays t wordEnd := .absent _

theorem stays_keyword (word : String) : Stays t (keyword word) :=
  .bind .spaces fun _ _ => .bind (.textIgnoringCase word) fun _ _ => stays_wordEnd

theorem stays_symbol (s : String) : Stays t (symbol s) := .bind .spaces fun _ _ => .text s

theorem stays_call (name : String) : Stays t (call name) :=
  .bind .spaces fun _ _ => .bind (.textIgnoringCase name) fun _ _ => .bind .spaces fun _ _ => .char '('

theorem yields_callOf (name : String) (h : Yields t p P) : Yields t (callOf name p) P :=
  .bind (stays_call name) fun _ _ => .bind h fun _ ha => .bind (stays_symbol ")") fun _ _ => .pure ha

theorem yields_between (opening closing : String) (h : Yields t p P) :
    Yields t (between opening closing p) P :=
  .bind (stays_symbol opening) fun _ _ =>
    .bind h fun _ ha => .bind (stays_symbol closing) fun _ _ => .pure ha

theorem yields_afterComma (h : Yields t p P) : Yields t (afterComma p) P :=
  .bind (stays_symbol ",") fun _ _ => h

theorem yields_after (word : String) (h : Yields t p P) : Yields t (after word p) P :=
  .bind (stays_keyword word) fun _ _ => h

theorem yields_commaSeparated (h : Yields t p P) :
    Yields t (commaSeparated p) fun as => ∀ a ∈ as, P a :=
  .separated (stays_symbol ",") h

/-! ## Names -/

theorem stays_name : Stays t name :=
  .bind .spaces fun _ _ => .orElse
    (.bind (.char _) fun _ _ => .bind (.run1 _) fun _ _ => .bind (.char _) fun _ _ => .pure trivial)
    (.filter (.bind (.satisfy _) fun _ _ => .bind (.run _) fun _ _ => .pure trivial))

theorem stays_scopedName : Stays t scopedName := by
  refine .bind stays_name fun first _ =>
    .bind (.optional (.bind (.char '.') fun _ _ => stays_name)) fun second _ => ?_
  cases second <;> exact .pure trivial

/-! ## Numbers -/

theorem stays_digits : Stays t digits := .run1 _

theorem stays_natBelow (bound : Nat) : Stays t (natBelow bound) :=
  .bind .spaces fun _ _ => .mapOption (stays_digits.imp fun _ _ _ _ => trivial)

theorem stays_sign : Stays t sign := .bind (.optional (.char '-')) fun _ _ => .pure trivial

theorem stays_signed : Stays t signed :=
  .bind stays_sign fun _ _ => .bind stays_digits fun _ _ => .pure trivial

theorem stays_integer : Stays t integer :=
  .bind .spaces fun _ _ => .mapOption (stays_signed.imp fun _ _ _ _ => trivial)

theorem stays_plainInteger : Stays t plainInteger :=
  .bind .spaces fun _ _ => .bind (.mapOption (stays_digits.imp fun _ _ _ _ => trivial)) fun _ _ =>
    .bind stays_wordEnd fun _ _ => .pure trivial

theorem stays_decimal : Stays t decimal :=
  .bind .spaces fun _ _ => .bind stays_signed fun _ _ =>
    .bind (.optional (.bind (.char '.') fun _ _ => stays_digits)) fun _ _ =>
      .bind stays_wordEnd fun _ _ => .pure trivial

/-! ## Texts and terms -/

theorem quotedRest_suffix {quote : Char} {cs out : List Char} {r : String × List Char}
    (h : quotedRest quote cs out = some r) : r.2 <:+ cs := by
  fun_induction quotedRest quote cs out with
  | case1 | case3 => cases h
  | case2 =>
    cases h
    exact List.suffix_cons ..
  | case4 _ e rest _ ih =>
    exact (ih h).trans ((List.suffix_cons ..).trans (List.suffix_cons ..))
  | case5 _ _ _ _ _ ih => exact (ih h).trans (List.suffix_cons ..)

theorem stays_quotedBy (quote : Char) : Stays t (quotedBy quote) := by
  intro cs text rest sub h
  unfold quotedBy at h
  split at h
  · split at h
    · cases read : quotedRest quote ‹_› [] with
      | none => simp [read] at h
      | some r =>
        rw [read] at h
        cases h
        exact ⟨(quotedRest_suffix read).trans ((List.suffix_cons ..).trans sub), trivial⟩
    · cases h
  · cases h

theorem stays_quotedText : Stays t quotedText :=
  .bind .spaces fun _ _ => .orElse (stays_quotedBy _) (stays_quotedBy _)

theorem stays_bareTerm : Stays t bareTerm :=
  .bind (P := fun _ => True) (.filter (.map (.run1 _))) fun _ _ => .pure trivial

theorem stays_term : Stays t term :=
  .bind .spaces fun _ _ => .orElse (.map stays_quotedText) stays_bareTerm

theorem stays_termList : Stays t termList :=
  yields_between _ _ (.bind (.optional (yields_commaSeparated stays_term)) fun _ _ => .pure trivial)

theorem stays_firstSymbol (table : List (String × α)) : Stays t (firstSymbol table) :=
  .choice (List.forall_mem_map.mpr fun _ _ => .bind (stays_symbol _) fun _ _ => .pure trivial)

theorem stays_operator (meaning : Char → Option α) : Stays t (operator meaning) :=
  .bind .spaces fun _ _ => .mapOption ((Yields.satisfy _).imp fun _ _ _ _ => trivial)

/-! ## Operands -/

theorem yields_joined {meaning : Char → Option β} {join : β → α → α → α}
    (joins : ∀ op a b, P a → P b → P (join op a b)) (h : Yields t p P) :
    Yields t (joined meaning join p) P := by
  refine .bind h fun first hfirst => .bind (.many (P := fun e => P e.2)
    (.bind (stays_operator meaning) fun _ _ => .bind h fun _ ha => .pure ha)) fun rest hrest =>
      .pure ?_
  induction rest generalizing first with
  | nil => exact hfirst
  | cons e rest ih =>
    obtain ⟨he, hrest⟩ := List.forall_mem_cons.mp hrest
    exact ih _ (joins _ _ _ hfirst he) hrest

theorem yields_joinedBy {word : String} {make : List α → α}
    (makes : ∀ as, (∀ a ∈ as, P a) → P (make as)) (h : Yields t p P) :
    Yields t (joinedBy word make p) P := by
  refine .bind h fun first hfirst => .bind (.many (yields_after word h)) fun rest hrest => ?_
  cases rest with
  | nil => exact .pure hfirst
  | cons a rest => exact .pure (makes _ (List.forall_mem_cons.mpr ⟨hfirst, hrest⟩))

theorem yields_qualifiedBy (h : Yields t p P) : Yields t (qualifiedBy p) fun e => P e.2 :=
  .bind stays_name fun _ _ => .bind (.char '.') fun _ _ =>
    .bind (yields_between "(" ")" h) fun _ ha => .pure ha

end Groupwise.Query.Grammar
