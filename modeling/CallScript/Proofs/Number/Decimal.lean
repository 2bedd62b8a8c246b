import CallScript.Number.Decimal
import CallScript.Proofs.Number.Rounding
import CallScript.Script.Token

/-! # Numerals as doubles

A numeral is read as the double nearest to it.  Numerals that are too small or too large by their length are
told without rounding, and come to what rounding would come to.  The integer that a double is, if it is one,
is then a matter of the double alone.

* `Decimal.toBinary64_rounds`: a numeral is read as the nearest double, unless it is too large for any.
* `Binary64.toInt?_eq_some_iff`: the integer that a double is.
* `Decimal.integral_iff`, `Decimal.close_of_integral`: a numeral is read as the integer that the nearest
  double is, and how far off that may be. -/

namespace CallScript

namespace Decimal

/-! ### Numerals as rational numbers -/

/-- The rational number that a numeral is. -/
def value (d : Decimal) : ℚ := Binary64.signed d.negative (d.digits * 10 ^ d.exponent)

theorem value_magnitude (d : Decimal) : d.magnitude.value = d.digits * 10 ^ d.exponent := by
  have powers := Binary64.Ratio.value_powers d.digits 1 10 d.exponent
  rwa [Nat.one_mul, Nat.cast_one, div_one] at powers

theorem abs_value (d : Decimal) : |d.value| = d.digits * 10 ^ d.exponent := by
  have magnitude_nonneg : (0 : ℚ) ≤ d.digits * 10 ^ d.exponent :=
    mul_nonneg (Nat.cast_nonneg _) (zpow_pos (by norm_num) _).le
  rw [value, Binary64.abs_signed, abs_of_nonneg magnitude_nonneg]

theorem width_bounds {n : ℕ} (nonzero : n ≠ 0) :
    (10 : ℚ) ^ ((width n : Int) - 1) ≤ n ∧ (n : ℚ) < 10 ^ (width n : Int) := by
  have width_eq : width n = (Nat.toDigits 10 n).length := if_neg nonzero
  have positive : 0 < (Nat.toDigits 10 n).length := Nat.length_toDigits_pos
  rw [width_eq]
  generalize shown : (Nat.toDigits 10 n).length = length at positive
  constructor
  · obtain ⟨before, rfl⟩ := Nat.exists_eq_add_one.mpr positive
    rw [Nat.cast_add_one, add_sub_cancel_right, zpow_natCast]
    by_cases single : before = 0
    · rw [single, pow_zero]
      exact_mod_cast Nat.one_le_iff_ne_zero.mpr nonzero
    · have not_shorter : ¬ n < 10 ^ before := by
        rw [← Nat.length_toDigits_le_iff (by decide) (Nat.pos_of_ne_zero single)]
        omega
      exact_mod_cast not_lt.mp not_shorter
  · rw [zpow_natCast]
    exact_mod_cast (Nat.length_toDigits_le_iff (by decide) positive).mp shown.le

theorem ten_zpow_add (p p' : Int) : (10 : ℚ) ^ (p + p') = 10 ^ p * 10 ^ p' := zpow_add₀ (by norm_num) p p'

theorem abs_value_bounds {d : Decimal} (nonzero : d.digits ≠ 0) :
    (10 : ℚ) ^ ((width d.digits : Int) + d.exponent - 1) ≤ |d.value| ∧
      |d.value| < 10 ^ ((width d.digits : Int) + d.exponent) := by
  obtain ⟨low, high⟩ := width_bounds nonzero
  have power_pos : (0 : ℚ) < 10 ^ d.exponent := zpow_pos (by norm_num) _
  rw [abs_value, add_sub_right_comm, ten_zpow_add, ten_zpow_add]
  exact ⟨mul_le_mul_of_nonneg_right low power_pos.le, mul_lt_mul_of_pos_right high power_pos⟩

/-! ### The nearest double -/

theorem two_zpow_le_ten_zpow : (2 : ℚ) ^ (1024 : Int) ≤ 10 ^ (310 : Int) := by
  have powers : 2 ^ 1024 ≤ 10 ^ 310 := by decide +kernel
  exact_mod_cast powers

theorem ten_zpow_lt_two_zpow : (10 : ℚ) ^ (-330 : Int) < 2 ^ (-1075 : Int) := by
  have powers : 2 ^ 1075 < 10 ^ 330 := by decide +kernel
  rw [zpow_neg, zpow_neg, inv_lt_inv₀ (zpow_pos (by norm_num) _) (Binary64.two_zpow_pos _)]
  exact_mod_cast powers

theorem abs_value_lt_of_small {d : Decimal}
    (small : (d.digits = 0 || decide ((width d.digits : Int) + d.exponent < -330)) = true) :
    |d.value| < 2 ^ (-1075 : Int) := by
  by_cases none : d.digits = 0
  · rw [abs_value, none, Nat.cast_zero, zero_mul]
    exact Binary64.two_zpow_pos _
  · have low : (width d.digits : Int) + d.exponent < -330 := by simpa [none] using small
    calc |d.value| < 10 ^ ((width d.digits : Int) + d.exponent) := (abs_value_bounds none).2
      _ ≤ 10 ^ (-330 : Int) := zpow_le_zpow_right₀ (by norm_num) low.le
      _ < 2 ^ (-1075 : Int) := ten_zpow_lt_two_zpow

theorem le_abs_value_of_large {d : Decimal} (nonzero : d.digits ≠ 0)
    (large : 310 < (width d.digits : Int) + d.exponent) : 2 ^ (1024 : Int) ≤ |d.value| := by
  calc (2 : ℚ) ^ (1024 : Int) ≤ 10 ^ (310 : Int) := two_zpow_le_ten_zpow
    _ ≤ 10 ^ ((width d.digits : Int) + d.exponent - 1) := zpow_le_zpow_right₀ (by norm_num) (by omega)
    _ ≤ |d.value| := (abs_value_bounds nonzero).1

/-- A numeral is read as the nearest double, unless it is too large for any. -/
theorem toBinary64_rounds (d : Decimal) : Binary64.Rounded d.value d.toBinary64 ∨
    (¬ d.toBinary64.IsFinite ∧ 2 ^ (1023 : Int) ≤ |d.value|) := by
  unfold toBinary64
  simp only
  by_cases small : (d.digits = 0 || decide ((width d.digits : Int) + d.exponent < -330)) = true
  · rw [if_pos small]
    exact .inl (Binary64.rounded_zero d.negative (abs_value_lt_of_small small))
  · rw [if_neg small]
    have nonzero : d.digits ≠ 0 := fun none => small (by simp [none])
    split
    next large =>
      refine .inr ⟨Binary64.not_isFinite_infinity d.negative, ?_⟩
      exact (Binary64.two_zpow_le (by decide)).trans (le_abs_value_of_large nonzero large)
    next =>
      have den_pos : 0 < d.magnitude.den := Nat.pow_pos (by decide)
      have rounds := Binary64.ofRatio_rounds d.negative den_pos
      have signed_eq : Binary64.signed d.negative d.magnitude.value = d.value :=
        congrArg (Binary64.signed d.negative) (value_magnitude d)
      rwa [signed_eq, value_magnitude, ← abs_value] at rounds

end Decimal

/-! ### Integers -/

namespace Binary64

theorem magnitude_eq_iff {x : Binary64} {n : ℕ} :
    x.magnitude.num % x.magnitude.den = 0 ∧ x.magnitude.num / x.magnitude.den = n ↔
      (x.significand * 2 ^ x.place : ℚ) = n := by
  have den_pos : 0 < x.magnitude.den := Ratio.den_scale_pos (r := ⟨x.significand, 1⟩) one_pos x.place
  have value_eq : x.magnitude.value = x.significand * 2 ^ x.place := by
    rw [magnitude, Ratio.value_scale, Ratio.value, Nat.cast_one, div_one]
  rw [← value_eq, Ratio.value, div_eq_iff (Nat.cast_ne_zero.mpr den_pos.ne')]
  constructor
  · rintro ⟨no_rest, rfl⟩
    exact_mod_cast (Nat.div_mul_cancel (Nat.dvd_of_mod_eq_zero no_rest)).symm
  · intro multiple
    have multiple : x.magnitude.num = n * x.magnitude.den := by exact_mod_cast multiple
    rw [multiple]
    exact ⟨Nat.mul_mod_left _ _, Nat.mul_div_cancel _ den_pos⟩

/-- The integer that a double is. -/
theorem toInt?_eq_some_iff {x : Binary64} {i : Int} : x.toInt? = some i ↔ x.IsFinite ∧ x.value = i := by
  have signed_cast (n : ℕ) : signed x.negative n = ((if x.negative then -(n : Int) else n : Int) : ℚ) := by
    cases x.negative with
    | false => rfl
    | true => exact (Int.cast_neg _).symm
  unfold toInt?
  constructor
  · intro found
    obtain ⟨finite, found⟩ := Option.ite_none_right_eq_some.mp found
    obtain ⟨no_rest, found⟩ := Option.ite_none_right_eq_some.mp found
    cases found
    refine ⟨finite, ?_⟩
    rw [value, magnitude_eq_iff.mp ⟨no_rest, rfl⟩]
    exact signed_cast _
  · rintro ⟨finite, is_integer⟩
    have magnitude_eq : (x.significand * 2 ^ x.place : ℚ) = i.natAbs := by
      rw [← abs_value, is_integer, Nat.cast_natAbs, Int.cast_abs]
    obtain ⟨no_rest, quotient_eq⟩ := magnitude_eq_iff.mpr magnitude_eq
    rw [if_pos finite]
    simp only
    rw [if_pos no_rest, quotient_eq]
    rw [value, magnitude_eq, signed_cast] at is_integer
    exact congrArg some (Int.cast_injective is_integer)

end Binary64

theorem Token.integral?_eq_some_iff {x : Binary64} {n : Int64} :
    integral? x = some n ↔ x.IsFinite ∧ x.value = n.toInt := by
  simp only [integral?, Option.bind_eq_some_iff, Bounds.signed?_eq_some_iff, ← Binary64.toInt?_eq_some_iff]
  exact ⟨fun ⟨i, found, same⟩ => same ▸ found, fun found => ⟨_, found, rfl⟩⟩

namespace Decimal

variable {d : Decimal} {n : Int64}

/-- What is nearest to a number that is too large for a double is no integer of 64 bits. -/
theorem not_integer_of_large {q : ℚ} {x : Binary64} (large : 2 ^ (1023 : Int) ≤ |q|)
    (nearest : Binary64.Nearest q x) : x.value ≠ n.toInt := by
  intro is_integer
  have beyond := nearest.large large
  have short : |(n.toInt : ℚ)| ≤ 2 ^ 63 := by
    have low := n.le_toInt
    have high := n.toInt_lt
    rw [abs_le]
    exact ⟨by exact_mod_cast low, by exact_mod_cast high.le⟩
  have powers : (2 : ℚ) ^ 63 < 2 ^ (1023 : Int) := by
    rw [← zpow_natCast]
    exact zpow_lt_zpow_right₀ one_lt_two (by decide)
  rw [is_integer] at beyond
  exact absurd (beyond.trans short) powers.not_ge

/-- A numeral is read as the integer that the nearest double is, if it is one of 64 bits. -/
theorem integral_iff :
    Token.integral? d.toBinary64 = some n ↔ ∃ x, Binary64.Nearest d.value x ∧ x.value = n.toInt := by
  rw [Token.integral?_eq_some_iff]
  rcases d.toBinary64_rounds with rounded | ⟨infinite, large⟩
  · constructor
    · rintro ⟨-, is_integer⟩
      exact ⟨_, rounded.toNearest, is_integer⟩
    · rintro ⟨x, nearest, is_integer⟩
      exact ⟨rounded.finite, (rounded.unique nearest).trans is_integer⟩
  · constructor
    · rintro ⟨finite, -⟩
      exact absurd finite infinite
    · rintro ⟨x, nearest, is_integer⟩
      exact absurd is_integer (not_integer_of_large large nearest)

/-- The integer that a numeral is read as is close to it. -/
theorem close_of_integral (read : Token.integral? d.toBinary64 = some n) :
    |d.value - n.toInt| ≤ Binary64.tolerance d.value := by
  obtain ⟨finite, is_integer⟩ := Token.integral?_eq_some_iff.mp read
  rcases d.toBinary64_rounds with rounded | ⟨infinite, -⟩
  · rw [← is_integer]
    exact rounded.close
  · exact absurd finite infinite

end Decimal

end CallScript
