import Groupwise.Proofs.Query.Tokens
import Groupwise.Query.Grammar

/-!
# What the grammar reads

A rule of the grammar reads a text if it gives the value of the text wherever the text ends, with or
without a blank before it. Lists and operators read what is written with them if the parts are read.
-/
namespace Groupwise.Query.Grammar

open Groupwise.Parser

variable {α β : Type} {p : Parser α} {a b : α} {cs rest text signs : List Char}

/-- A parser gives a value for a text wherever the text ends. -/
def Reads (p : Parser α) (text : List Char) (a : α) (signs : List Char) : Prop :=
  ∀ rest, Ends signs rest →
    p (text ++ rest) = .ok (a, rest) ∧ p (' ' :: (text ++ rest)) = .ok (a, rest)

namespace Reads

theorem of_skips (skips : SkipsBlank p)
    (h : ∀ rest, Ends signs rest → p (text ++ rest) = .ok (a, rest)) : Reads p text a signs :=
  fun rest ends => ⟨h rest ends, (skips _).trans (h rest ends)⟩

theorem bare (h : Reads p text a signs) (ends : Ends signs rest) :
    p (text ++ rest) = .ok (a, rest) :=
  (h rest ends).1

theorem blank (h : Reads p text a signs) (ends : Ends signs rest) :
    p (' ' :: (text ++ rest)) = .ok (a, rest) :=
  (h rest ends).2

end Reads

/-! ## Parentheses -/

theorem between_parenthesize (h : Reads p text a signs) (closing : ')' ∉ signs) :
    between "(" ")" p (parenthesize text ++ rest) = .ok (a, rest) := by
  have opened : symbol "(" ('(' :: (text ++ ')' :: rest)) = .ok ((), text ++ ')' :: rest) := rfl
  rw [parenthesize, List.cons_append, List.append_assoc, between]
  exact (bind_ok opened).trans (bind_ok (h.bare (.closing closing)))

/-! ## Lists -/

theorem intercalate_cons (separator first : List α) (more : List (List α)) :
    separator.intercalate (first :: more) = first ++ more.flatMap (separator ++ ·) := by
  induction more generalizing first with
  | nil => simp
  | cons second more ih => rw [List.intercalate_cons_cons, ih]; simp

theorem length_le_intercalate (separator : List α) {text : List α} {texts : List (List α)}
    (h : text ∈ texts) : text.length ≤ (separator.intercalate texts).length := by
  induction texts with
  | nil => exact absurd h List.not_mem_nil
  | cons first texts ih =>
    cases texts with
    | nil => simp_all
    | cons second texts =>
      rw [List.intercalate_cons_cons, List.length_append, List.length_append]
      rcases List.mem_cons.mp h with rfl | there
      · omega
      · have := ih there
        omega

/-- Behind the first of some texts comes a separator or what follows them all. -/
theorem behind_separated (separator rest : List α) (texts : List (List α)) :
    texts.flatMap (separator ++ ·) ++ rest = rest ∨
      ∃ cs, texts.flatMap (separator ++ ·) ++ rest = separator ++ cs := by
  cases texts with
  | nil => exact .inl rfl
  | cons text more =>
    exact .inr ⟨_, by rw [List.flatMap_cons, List.append_assoc, List.append_assoc]⟩

/-- Values behind separators are read one after the other. -/
theorem repeats_separated {q : Parser Unit} {separator : List Char} {write : α → List Char}
    {as : List α} (visible : separator ≠ []) (go : ∀ cs, q (separator ++ cs) = .ok ((), ' ' :: cs))
    (stop : Fails q rest)
    (reads : ∀ a ∈ as, ∀ rest', (rest' = rest ∨ ∃ cs, rest' = separator ++ cs) →
      p (' ' :: (write a ++ rest')) = .ok (a, rest')) :
    Repeats (do q; p) ((as.map write).flatMap (separator ++ ·) ++ rest) as rest := by
  induction as with
  | nil => exact .stop stop.bind
  | cons a as ih =>
    obtain ⟨first, later⟩ := List.forall_mem_cons.mp reads
    rw [List.map_cons, List.flatMap_cons, List.append_assoc, List.append_assoc]
    refine .more ((bind_ok (go _)).trans (first _ (behind_separated ..))) ?_ (ih later)
    have := List.length_pos_iff.mpr visible
    simp only [List.length_append]
    omega

theorem commaSeparated_commas {write : α → List Char} {as : List α} (nonempty : as ≠ [])
    (reads : ∀ a ∈ as, Reads p (write a) a signs) (comma : ',' ∉ signs) (closing : ')' ∉ signs) :
    commaSeparated p (commas (as.map write) ++ ')' :: rest) = .ok (as, ')' :: rest) := by
  have ends (rest' : List Char) (h : rest' = ')' :: rest ∨ ∃ cs, rest' = [',', ' '] ++ cs) :
      Ends signs rest' := by
    obtain rfl | ⟨cs, rfl⟩ := h
    · exact .closing closing
    · exact .comma comma
  have go (cs : List Char) : symbol "," ([',', ' '] ++ cs) = .ok ((), ' ' :: cs) := rfl
  have stop : Fails (symbol ",") (')' :: rest) := ⟨_, rfl⟩
  cases as with
  | nil => exact absurd rfl nonempty
  | cons a as =>
    obtain ⟨first, later⟩ := List.forall_mem_cons.mp reads
    have repeats := repeats_separated (List.cons_ne_nil ',' [' ']) go stop fun b hb rest' h =>
      (later b hb).blank (ends rest' h)
    rw [commas, List.map_cons, intercalate_cons, List.append_assoc, commaSeparated, separated,
      bind_ok (first.bare (ends _ (behind_separated ..))), bind_ok repeats.many]
    rfl

/-! ## Operators -/

theorem joined_alone {meaning : Char → Option β} {join : β → α → α → α} (h : p cs = .ok (a, rest))
    (stop : Fails (operator meaning) rest) : joined meaning join p cs = .ok (a, rest) := by
  rw [joined, bind_ok h, bind_ok (Repeats.stop stop.bind).many]
  rfl

theorem joined_pair {meaning : Char → Option β} {join : β → α → α → α} {c : Char} {op : β}
    (left : p cs = .ok (a, ' ' :: c :: ' ' :: (text ++ rest)))
    (visible : Scanner.isSpace c = false) (means : meaning c = some op)
    (right : p (' ' :: (text ++ rest)) = .ok (b, rest)) (stop : Fails (operator meaning) rest) :
    joined meaning join p cs = .ok (join op a b, rest) := by
  have step : (do let op ← operator meaning; pure (op, ← p) : Parser (β × α))
      (' ' :: c :: ' ' :: (text ++ rest)) = .ok ((op, b), rest) := by
    rw [bind_ok (operator_blank visible means), bind_ok right]
    rfl
  have repeats : Repeats (do let op ← operator meaning; pure (op, ← p) : Parser (β × α))
      (' ' :: c :: ' ' :: (text ++ rest)) [(op, b)] rest := by
    refine .more step ?_ (.stop stop.bind)
    simp only [List.length_cons, List.length_append]
    omega
  rw [joined, bind_ok left, bind_ok repeats.many]
  rfl

/-! ## Connectives -/

theorem joinedBy_alone {word : String} {make : List α → α} (h : p cs = .ok (a, rest))
    (stop : Fails (keyword word) rest) : joinedBy word make p cs = .ok (a, rest) := by
  rw [joinedBy, bind_ok h]
  refine (bind_ok (Repeats.stop (Fails.bind stop)).many).trans ?_
  rfl

theorem joinedBy_several {word : String} {make : List α → α} {separator : List Char}
    {write : α → List Char} {as : List α} (several : 2 ≤ as.length) (visible : separator ≠ [])
    (go : ∀ cs, keyword word (separator ++ cs) = .ok ((), ' ' :: cs))
    (stop : Fails (keyword word) rest)
    (reads : ∀ a ∈ as, ∀ rest', (rest' = rest ∨ ∃ cs, rest' = separator ++ cs) →
      p (write a ++ rest') = .ok (a, rest') ∧ p (' ' :: (write a ++ rest')) = .ok (a, rest')) :
    joinedBy word make p (separator.intercalate (as.map write) ++ rest) = .ok (make as, rest) := by
  cases as with
  | nil => simp at several
  | cons a as =>
    obtain ⟨first, later⟩ := List.forall_mem_cons.mp reads
    have repeats := repeats_separated visible go stop fun b hb rest' h => (later b hb rest' h).2
    rw [List.map_cons, intercalate_cons, List.append_assoc, joinedBy,
      bind_ok (first _ (behind_separated ..)).1]
    refine (bind_ok repeats.many).trans ?_
    cases as with
    | nil => simp at several
    | cons b as => rfl

/-! ## Blanks -/

theorem skips_symbol (t : String) : SkipsBlank (symbol t) := fun _ => rfl

theorem skips_keyword (word : String) : SkipsBlank (keyword word) := fun _ => rfl

theorem skips_callOf (name : String) (p : Parser α) : SkipsBlank (callOf name p) := fun _ => rfl

theorem skips_name : SkipsBlank name := fun _ => rfl

theorem skips_scopedName : SkipsBlank scopedName := fun _ => rfl

theorem skips_integer : SkipsBlank integer := fun _ => rfl

theorem skips_natBelow (bound : Nat) : SkipsBlank (natBelow bound) := fun _ => rfl

theorem skips_quotedText : SkipsBlank quotedText := fun _ => rfl

theorem skips_term : SkipsBlank term := fun _ => rfl

end Groupwise.Query.Grammar
