import CallScript.Text.Word

/-! # Decimal digits

The digits of a natural number spell that number, and only zero is written with a zero in front. -/

namespace CallScript.Text

theorem digitsToNat_toDigits (n : Nat) : digitsToNat (Nat.toDigits 10 n) = n := by
  have fold : digitsToNat (Nat.toDigits 10 n) = Nat.ofDigitChars 10 (Nat.toDigits 10 n) 0 := by
    unfold digitsToNat Nat.ofDigitChars
    congr 1
    funext m c
    rw [Nat.mul_comm]
  rw [fold, Nat.ofDigitChars_ten_toDigits]

theorem isDigit_of_mem_toDigits {n : Nat} {c : Char} (member : c ∈ Nat.toDigits 10 n) : isDigit c = true :=
  Nat.isDigit_of_mem_toDigits (by decide) (by decide) member

theorem exists_toDigits_cons (n : Nat) : ∃ c more, Nat.toDigits 10 n = c :: more ∧ isDigit c = true := by
  obtain ⟨c, more, digits_eq⟩ := List.exists_cons_of_ne_nil (Nat.toDigits_ne_nil (n := n) (b := 10))
  exact ⟨c, more, digits_eq, isDigit_of_mem_toDigits (digits_eq ▸ List.mem_cons_self)⟩

/-- A number that is written with a zero in front is written with nothing else. -/
theorem toDigits_zero_cons {n : Nat} {more : List Char} (h : Nat.toDigits 10 n = '0' :: more) : more = [] := by
  by_cases small : n < 10
  · rw [Nat.toDigits_of_lt_base small] at h
    exact (List.cons.inj h).2.symm
  have cut := Nat.toDigits_of_base_le (b := 10) (by decide) (Nat.not_lt.mp small)
  obtain ⟨d, front, front_eq, -⟩ := exists_toDigits_cons (n / 10)
  rw [cut, front_eq, List.cons_append] at h
  obtain ⟨rfl, -⟩ := List.cons.inj h
  -- The front is the whole of a smaller number, which is zero only if there is no front.
  have alone : front = [] := toDigits_zero_cons front_eq
  subst alone
  have spelled := digitsToNat_toDigits (n / 10)
  rw [front_eq] at spelled
  have zero : n / 10 = 0 := spelled.symm
  omega
termination_by n

end CallScript.Text
