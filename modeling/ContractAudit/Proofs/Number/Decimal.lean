import ContractAudit.Number.Numeral

/-!
# Whole numbers in digits

A whole number is written with decimal digits, after a minus sign if it is below zero.  The digits
give back the number, and they start with a zero only if that is all there is.

* `toList_toString_natCast`, `toList_toString_negSucc` -- the characters of a written number;
* `isDigit_or_minus` -- there are no others;
* `head?_toDigits` -- no zero in front;
* `Numeral.ofDigits_toDigits` -- the digits read back.
-/

namespace ContractAudit

theorem toList_toString_natCast (n : Nat) : (toString (n : Int)).toList = Nat.toDigits 10 n := by
  show (toString n).toList = _
  rw [Nat.toString_eq_ofList_toDigits, String.toList_ofList]

theorem toList_toString_negSucc (n : Nat) :
    (toString (Int.negSucc n)).toList = '-' :: Nat.toDigits 10 (n + 1) := by
  show ("-" ++ toString (n + 1)).toList = _
  simp

theorem ne_of_isDigit {c d : Char} (hc : c.isDigit = true) (hd : d.isDigit = false) : c ≠ d := by
  rintro rfl
  rw [hc] at hd
  cases hd

theorem isDigit_of_mem_decimal {n : Nat} {c : Char} (h : c ∈ Nat.toDigits 10 n) :
    c.isDigit = true :=
  Nat.isDigit_of_mem_toDigits (by decide) (by decide) h

/-- A written number has digits and a minus sign, and nothing else. -/
theorem isDigit_or_minus {n : Int} {c : Char} (h : c ∈ (toString n).toList) :
    c.isDigit = true ∨ c = '-' := by
  cases n with
  | ofNat n =>
    rw [Int.ofNat_eq_natCast, toList_toString_natCast] at h
    exact .inl (isDigit_of_mem_decimal h)
  | negSucc n =>
    rw [toList_toString_negSucc, List.mem_cons] at h
    rcases h with rfl | h
    · exact .inr rfl
    · exact .inl (isDigit_of_mem_decimal h)

theorem toList_toString_ne_nil (n : Int) : (toString n).toList ≠ [] := by
  cases n with
  | ofNat n =>
    rw [Int.ofNat_eq_natCast, toList_toString_natCast]
    exact Nat.toDigits_ne_nil
  | negSucc n =>
    rw [toList_toString_negSucc]
    exact List.cons_ne_nil _ _

theorem digitChar_ne_zero {d : Nat} (hpos : 0 < d) (hlt : d < 10) : d.digitChar ≠ '0' := by
  have hall : ∀ d, d < 10 → 0 < d → d.digitChar ≠ '0' := by decide
  exact hall d hlt hpos

/-- A number above zero is written without a zero in front. -/
theorem head?_toDigits {n : Nat} (hpos : 0 < n) : (Nat.toDigits 10 n).head? ≠ some '0' := by
  induction n using Nat.strongRecOn with
  | ind n ih =>
    by_cases hlt : n < 10
    · rw [Nat.toDigits_of_lt_base hlt, List.head?_cons]
      intro h
      exact digitChar_ne_zero hpos hlt (Option.some.inj h)
    · have hfront := ih (n / 10) (by omega) (by omega)
      rw [Nat.toDigits_of_base_le (by decide) (by omega)]
      cases hdigits : Nat.toDigits 10 (n / 10) with
      | nil => exact absurd hdigits Nat.toDigits_ne_nil
      | cons d ds =>
        rw [hdigits] at hfront
        exact hfront

/-- Either the number is zero and a single digit, or there is no zero in front. -/
theorem toDigits_length_or_head? (n : Nat) :
    (Nat.toDigits 10 n).length ≤ 1 ∨ (Nat.toDigits 10 n).head? ≠ some '0' := by
  rcases Nat.eq_zero_or_pos n with rfl | hpos
  · exact .inl (by decide)
  · exact .inr (head?_toDigits hpos)

theorem Numeral.ofDigits_toDigits (n : Nat) : Numeral.ofDigits (Nat.toDigits 10 n) = n :=
  Nat.ofDigitChars_ten_toDigits

end ContractAudit
