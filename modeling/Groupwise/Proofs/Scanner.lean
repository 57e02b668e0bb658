import Groupwise.Proofs.Parser
import Mathlib.Data.List.Basic

/-!
# What scanners read

What a scanner finds at the start of a text, and where it finds nothing. A run ends at the first
character that is not of its class, so that it is known from what follows.
-/
namespace Groupwise

namespace Text

/-! ## Sets of characters -/

/-- Where the search in a table succeeds, one of its ranges has the code point. -/
theorem CodePointSet.mem_of_search {ranges : Array (Nat × Nat)} {code low high : Nat}
    (h : search ranges code low high) :
    ∃ r ∈ ranges.toList, r.1 ≤ code ∧ code ≤ r.2 := by
  fun_induction search ranges code low high with
  | case2 low high _ mid first last _ _ ih => exact ih h
  | case3 low high _ mid first last _ _ _ ih => exact ih h
  | case4 low high _ mid first last found above below =>
    refine ⟨(first, last), ?_, Nat.le_of_not_lt above, Nat.le_of_not_lt below⟩
    exact Array.mem_toList_iff.mpr (Array.mem_of_getElem? found)
  | _ => exact absurd h Bool.false_ne_true

/-- What holds of every character in the ranges of a set holds of each character in the set. -/
theorem CodePointSet.of_contains {set : CodePointSet} {p : Char → Bool} {c : Char}
    (h : set.contains c)
    (each : set.ranges.toList.all fun r =>
      (List.range' r.1 (r.2 + 1 - r.1)).all fun n => p (Char.ofNat n)) : p c := by
  obtain ⟨r, mem, least, most⟩ := mem_of_search h
  have inside := List.all_eq_true.mp (List.all_eq_true.mp each r mem) c.toNat
    (List.mem_range'_1.mpr ⟨least, by omega⟩)
  rwa [Char.ofNat_toNat] at inside

/-- Text that neither begins nor ends with a blank stays when it is trimmed. -/
theorem trim_eq_self {cs : List Char} (first : ∀ c ∈ cs.head?, blanks.contains c = false)
    (last : ∀ c ∈ cs.getLast?, blanks.contains c = false) : trim cs = cs := by
  have kept {cs : List Char} (h : ∀ c ∈ cs.head?, blanks.contains c = false) :
      cs.dropWhile blanks.contains = cs := by
    cases cs with
    | nil => rfl
    | cons c rest => exact List.dropWhile_cons_of_neg (by simp [h c rfl])
  rw [trim, kept first, kept, List.reverse_reverse]
  rwa [List.head?_reverse]

end Text

namespace Scanner

variable {α : Type} {p q : Scanner α} {cs rest : List Char}

/-! ## Runs -/

theorem run_append {inside : Char → Bool} {text : List Char} (within : ∀ c ∈ text, inside c)
    (ends : ∀ c ∈ rest.head?, inside c = false) : run inside (text ++ rest) = (text, rest) := by
  have read := Parser.run_append within ends
  exact Except.ok.inj read

theorem run1_append {inside : Char → Bool} {text : List Char} (nonempty : text ≠ [])
    (within : ∀ c ∈ text, inside c) (ends : ∀ c ∈ rest.head?, inside c = false) :
    run1 inside (text ++ rest) = some (text, rest) := by
  rw [run1, run_append within ends]
  cases text with
  | nil => exact absurd rfl nonempty
  | cons c text => rfl

theorem run1_eq_none {inside : Char → Bool} (h : ∀ c ∈ cs.head?, inside c = false) :
    run1 inside cs = none := by
  cases cs with
  | nil => rfl
  | cons c cs => simp [run1, run, h c rfl]

/-! ## Words -/

/-- A word that is read where some text ends with a sign is no longer than the text, if the sign is
none of its characters. -/
theorem suffix_of_wordIgnoringCase {word text : List Char} {sign : Char} {r : Unit × List Char}
    (foreign : ∀ d ∈ word, sign.toLower ≠ d.toLower)
    (h : wordIgnoringCase word (text ++ sign :: rest) = some r) :
    ∃ left, left <:+ text ∧ r.2 = left ++ sign :: rest := by
  induction word generalizing text with
  | nil =>
    obtain rfl := Option.some.inj h
    exact ⟨text, List.suffix_refl text, rfl⟩
  | cons d word ih =>
    obtain ⟨here, later⟩ := List.forall_mem_cons.mp foreign
    cases text with
    | nil => simp [wordIgnoringCase, here] at h
    | cons c text =>
      rw [List.cons_append, wordIgnoringCase] at h
      split at h
      · obtain ⟨left, suffix, same⟩ := ih later h
        exact ⟨left, suffix.trans (List.suffix_cons c text), same⟩
      · cases h

/-! ## Choices and repetitions -/

theorem orElse_some {r : α × List Char} (h : p cs = some r) : orElse p q cs = some r := by
  rw [orElse, h]

theorem orElse_none (h : p cs = none) : orElse p q cs = q cs := by
  rw [orElse, h]

theorem many_of_none (stop : p cs = none) (fuel : Nat) : many p fuel cs = ([], cs) := by
  cases fuel with
  | zero => rfl
  | succ fuel => rw [many, stop]

/-- Items that are read one after the other make up a repetition, if none is read behind them. -/
theorem many_flatMap {item : Scanner α} {write : α → List Char} {as : List α}
    (visible : ∀ a ∈ as, write a ≠ [])
    (reads : ∀ a ∈ as, ∀ more, (more = rest ∨ ∃ b ∈ as, ∃ cs, more = write b ++ cs) →
      item (write a ++ more) = some (a, more))
    (stop : item rest = none) {fuel : Nat} (enough : (as.flatMap write ++ rest).length ≤ fuel) :
    many item fuel (as.flatMap write ++ rest) = (as, rest) := by
  induction as generalizing fuel with
  | nil => exact many_of_none stop fuel
  | cons a as ih =>
    obtain ⟨here, later⟩ := List.forall_mem_cons.mp visible
    have next : as.flatMap write ++ rest = rest ∨
        ∃ b ∈ a :: as, ∃ cs, as.flatMap write ++ rest = write b ++ cs := by
      cases as with
      | nil => exact .inl rfl
      | cons b as => exact .inr ⟨b, by simp, as.flatMap write ++ rest, by simp⟩
    have first := reads a (List.mem_cons_self ..) _ next
    have filled := List.length_pos_iff.mpr here
    rw [List.flatMap_cons, List.append_assoc] at enough ⊢
    rw [List.length_append] at enough
    cases fuel with
    | zero => omega
    | succ fuel =>
      have others : many item fuel (as.flatMap write ++ rest) = (as, rest) :=
        ih later (fun b hb more behind => reads b (List.mem_cons_of_mem _ hb) more
          (behind.imp_right fun ⟨c, hc, cs, same⟩ => ⟨c, List.mem_cons_of_mem _ hc, cs, same⟩))
          (by omega)
      simp only [many, first, others]

end Scanner

end Groupwise
