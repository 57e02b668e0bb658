import Groupwise.Decimal.Numeral

/-!
# Numerals that are read back

The usual text of a whole number is a numeral of that number.
-/
namespace Groupwise.Decimal

theorem readNat?_toDigits (n : Nat) : readNat? (Nat.toDigits 10 n) = some n := by
  have digits : (Nat.toDigits 10 n).all Char.isDigit :=
    List.all_eq_true.mpr fun _ hc =>
      Nat.isDigit_of_mem_toDigits (by decide) (by decide) hc
  rw [readNat?, digits, List.isEmpty_eq_false_iff.mpr Nat.toDigits_ne_nil]
  exact congrArg some Nat.ofDigitChars_ten_toDigits

theorem toDigits_inj {k l : Nat} (h : Nat.toDigits 10 k = Nat.toDigits 10 l) : k = l := by
  have read := congrArg readNat? h
  rw [readNat?_toDigits, readNat?_toDigits] at read
  exact Option.some.inj read

/-- The digits of a natural number have no sign before them. -/
theorem splitSign_toDigits (n : Nat) :
    splitSign (Nat.toDigits 10 n) = (false, Nat.toDigits 10 n) := by
  cases h : Nat.toDigits 10 n with
  | nil => rfl
  | cons c rest =>
    have digit : c.isDigit :=
      Nat.isDigit_of_mem_toDigits (b := 10) (n := n) (by decide) (by decide)
        (h ▸ List.mem_cons_self ..)
    unfold splitSign
    split
    · rename_i heq
      simp [(List.cons.inj heq).1] at digit
    · rename_i heq
      simp [(List.cons.inj heq).1] at digit
    · rfl

theorem readInt?_toString (n : Int) : readInt? (toString n).toList = some n := by
  rw [Int.toString_eq_repr, Int.repr_eq_if]
  split
  · rename_i nonneg
    have value : (n.toNat : Int) = n := Int.toNat_of_nonneg nonneg
    rw [Nat.toList_repr, readInt?, splitSign_toDigits]
    simp [readNat?_toDigits, value]
  · rename_i neg
    have value : ((-n).toNat : Int) = -n := Int.toNat_of_nonneg (by omega)
    have sign : splitSign ("-" ++ (-n).toNat.repr).toList =
        (true, Nat.toDigits 10 (-n).toNat) := by
      simp [splitSign]
    rw [readInt?, sign]
    simp [readNat?_toDigits, value]

theorem readInt64?_toString (v : Int64) : readInt64? (toString v.toInt) = some v := by
  have within : Int64.minValue.toInt ≤ v.toInt ∧ v.toInt ≤ Int64.maxValue.toInt :=
    ⟨Int64.minValue_le_toInt v, Int64.toInt_le v⟩
  rw [readInt64?, readInt?_toString]
  simp only [within.1, within.2, decide_true, Bool.and_true, if_true, Int64.ofInt_toInt]

end Groupwise.Decimal
