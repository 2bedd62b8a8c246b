import CallScript.Proofs.Number.Decimal

/-! # Numbers that are too large for a double

A number is rounded to infinity from `overflow` on, half a step above the largest double: there the largest
double and the number that would come next to it are equally near, and the next one would be even.

* `isFinite_ofRatio_iff`: the fractions that are rounded to a finite double.
* `Decimal.isFinite_toBinary64_iff`: the same for numerals, those told by their length included. -/

namespace CallScript

namespace Binary64

variable {v : ℚ} {m : ℕ} {place : Int} {x : Binary64} {r : Ratio}

/-- The least magnitude that is too large for a double. -/
def overflow : ℚ := 2 ^ (1024 : Int) - 2 ^ (970 : Int)

theorem overflow_eq : overflow = (2 ^ (53 : Int) - 1 / 2) * 2 ^ (971 : Int) := by
  have power : (2 : ℚ) ^ (971 : Int) = 2 * 2 ^ (970 : Int) := two_zpow_add 1 970
  have whole : (2 : ℚ) ^ (1024 : Int) = 2 ^ (53 : Int) * 2 ^ (971 : Int) := two_zpow_add 53 971
  rw [overflow, whole, power]
  ring

theorem two_zpow_lt_overflow : (2 : ℚ) ^ (1023 : Int) < overflow := by
  have power : (2 : ℚ) ^ (1024 : Int) = 2 * 2 ^ (1023 : Int) := two_zpow_add 1 1023
  have lower : (2 : ℚ) ^ (970 : Int) < 2 ^ (1023 : Int) := zpow_lt_zpow_right₀ one_lt_two (by decide)
  rw [overflow, power, two_mul]
  exact lt_sub_iff_add_lt.mpr (add_lt_add_right lower _)

theorem overflow_lt_two_zpow : overflow < 2 ^ (1024 : Int) := sub_lt_self _ (two_zpow_pos 970)

theorem abs_value_lt_of_isFinite (finite : x.IsFinite) : |x.value| < 2 ^ (1024 : Int) := by
  have place_lt : x.place < 972 := by
    unfold IsFinite at finite
    unfold place
    split <;> omega
  exact abs_value_lt place_lt

/-- A number is rounded to an even integer from half a step below it on. -/
theorem RoundsTo.lt_iff (rounds : RoundsTo v m) {n : ℕ} (even : n % 2 = 0) : m < n ↔ v < n - 1 / 2 := by
  have near := abs_le.mp rounds.near
  constructor
  · intro below
    have step : (m : ℚ) + 1 ≤ n := by exact_mod_cast below
    refine lt_of_le_of_ne (by linarith) fun tie => ?_
    -- a tie with the even integer goes to it
    have next : (m : ℚ) + 1 = n := by linarith
    have half : |v - m| = 1 / 2 := by
      have apart : v - m = 1 / 2 := by linarith
      rw [apart]
      norm_num
    have m_even := rounds.even half
    have next : m + 1 = n := by exact_mod_cast next
    omega
  · intro below
    have bound : (m : ℚ) < n := by linarith
    exact_mod_cast bound

theorem RoundedAt.lt_iff (h : RoundedAt v place m) :
    (m * 2 ^ place : ℚ) < 2 ^ (1024 : Int) ↔ v < overflow := by
  rcases lt_trichotomy place 971 with lower | rfl | higher
  · -- one place further down neither of them can be as large
    have short : (m : ℚ) ≤ 2 ^ (53 : Int) := by
      have cast_short : (m : ℚ) ≤ (2 * leading : ℕ) := by exact_mod_cast h.short
      exact cast_short.trans_eq (by norm_num)
    have rounded_small : (m * 2 ^ place : ℚ) < 2 ^ (1024 : Int) := by
      calc (m * 2 ^ place : ℚ) ≤ 2 ^ (53 : Int) * 2 ^ (970 : Int) :=
            mul_le_mul short (two_zpow_le (by omega)) (two_zpow_pos _).le (two_zpow_pos _).le
        _ = 2 ^ (1023 : Int) := (two_zpow_add 53 970).symm
        _ < 2 ^ (1024 : Int) := zpow_lt_zpow_right₀ one_lt_two (by decide)
    have small : v < overflow :=
      (h.below.trans_le (two_zpow_le (by omega))).trans two_zpow_lt_overflow
    exact ⟨fun _ => small, fun _ => rounded_small⟩
  · have whole : (2 : ℚ) ^ (1024 : Int) = (2 * leading : ℕ) * 2 ^ (971 : Int) := by
      have power : (2 : ℚ) ^ (1024 : Int) = 2 ^ (53 : Int) * 2 ^ (971 : Int) := two_zpow_add 53 971
      rw [power]
      norm_num
    have half_below : overflow = ((2 * leading : ℕ) - 1 / 2) * 2 ^ (971 : Int) := by
      rw [overflow_eq]
      norm_num
    have value_eq : v = v * 2 ^ (-971 : Int) * 2 ^ (971 : Int) := by
      rw [mul_assoc, ← two_zpow_add]
      simp
    calc (m * 2 ^ (971 : Int) : ℚ) < 2 ^ (1024 : Int) ↔ m < 2 * leading := by
          rw [whole, mul_lt_mul_iff_left₀ (two_zpow_pos 971)]
          exact Nat.cast_lt
      _ ↔ v * 2 ^ (-971 : Int) < (2 * leading : ℕ) - 1 / 2 := h.rounds.lt_iff rfl
      _ ↔ v < overflow := by
          rw [half_below, ← mul_lt_mul_iff_left₀ (two_zpow_pos 971), ← value_eq]
  · -- one place further up both are too large
    have above : 2 ^ (place + 52) ≤ v := h.full.resolve_left (by omega)
    have large : overflow ≤ v := overflow_lt_two_zpow.le.trans ((two_zpow_le (by omega)).trans above)
    have many_digits : (2 : ℚ) ^ (52 : Int) ≤ m := by
      have filled : leading ≤ m := not_lt.mp fun small => by
        have lowest := h.lowest small
        omega
      calc (2 : ℚ) ^ (52 : Int) = (leading : ℕ) := by norm_num
        _ ≤ m := by exact_mod_cast filled
    have rounded_large : 2 ^ (1024 : Int) ≤ (m * 2 ^ place : ℚ) := by
      calc (2 : ℚ) ^ (1024 : Int) = 2 ^ (52 : Int) * 2 ^ (972 : Int) := two_zpow_add 52 972
        _ ≤ m * 2 ^ place :=
          mul_le_mul many_digits (two_zpow_le (by omega)) (two_zpow_pos _).le (Nat.cast_nonneg m)
    exact ⟨fun small => absurd small rounded_large.not_gt, fun small => absurd small large.not_gt⟩

/-- The fractions that are rounded to a finite double. -/
theorem isFinite_ofRatio_iff (negative : Bool) (positive : 0 < r.den) :
    (ofRatio negative r).IsFinite ↔ r.value < overflow := by
  unfold ofRatio
  split
  next none =>
    have zero_lt : r.value < overflow := by
      rw [Ratio.value, none, Nat.cast_zero, zero_div]
      exact (two_zpow_pos 1023).trans two_zpow_lt_overflow
    exact ⟨fun _ => zero_lt, fun _ => isFinite_zero negative⟩
  next nonzero =>
    have rounded := Ratio.roundedAt nonzero positive
    simp only
    generalize lastPlace r = place at rounded ⊢
    generalize (r.scale (-place)).round = m at rounded ⊢
    rw [← rounded.lt_iff]
    rcases value_assemble negative rounded.low rounded.short rounded.lowest with
      ⟨finite, value_eq, -⟩ | ⟨infinite, beyond⟩
    · have magnitude_eq : |(assemble negative m place).value| = m * 2 ^ place := by
        rw [value_eq, abs_signed]
        exact abs_of_nonneg (mul_nonneg (Nat.cast_nonneg m) (two_zpow_pos place).le)
      have small := abs_value_lt_of_isFinite finite
      rw [magnitude_eq] at small
      exact ⟨fun _ => small, fun _ => finite⟩
    · exact ⟨fun finite => absurd finite infinite, fun small => absurd small beyond.not_gt⟩

end Binary64

/-- The numerals that are read as a finite double. -/
theorem Decimal.isFinite_toBinary64_iff (d : Decimal) :
    d.toBinary64.IsFinite ↔ |d.value| < Binary64.overflow := by
  unfold toBinary64
  simp only
  split
  next small =>
    have tiny : |d.value| < Binary64.overflow := by
      calc |d.value| < 2 ^ (-1075 : Int) := abs_value_lt_of_small small
        _ ≤ 2 ^ (1023 : Int) := Binary64.two_zpow_le (by decide)
        _ < Binary64.overflow := Binary64.two_zpow_lt_overflow
    exact ⟨fun _ => tiny, fun _ => Binary64.isFinite_zero d.negative⟩
  next not_small =>
    have nonzero : d.digits ≠ 0 := fun none => not_small (by simp [none])
    split
    next large =>
      have beyond : Binary64.overflow ≤ |d.value| :=
        Binary64.overflow_lt_two_zpow.le.trans (le_abs_value_of_large nonzero large)
      exact ⟨fun finite => absurd finite (Binary64.not_isFinite_infinity d.negative),
        fun small => absurd small beyond.not_gt⟩
    next =>
      have den_pos : 0 < d.magnitude.den := Nat.pow_pos (by decide)
      rw [Binary64.isFinite_ofRatio_iff d.negative den_pos, value_magnitude, ← abs_value]

end CallScript
