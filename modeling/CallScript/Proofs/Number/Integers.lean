import CallScript.Number.Bounds
import CallScript.Proofs.Number.Rounding

/-! # Doubles next to integers

The double that is nearest to an integer is an integer, too: either it has no place for a fraction, or it has so
many places that the integer is a double itself.  For an integer of 64 bits it is one of 64 bits as well, unless
the integer is among the last 512 of them: up there the doubles are 1024 apart, and the next one is the least
integer that does not fit.

* `exists_nearest_integer`: what is nearest to an integer is one.
* `exists_nearest_int64`: what is nearest to an integer of 64 bits is one, but for the last 512. -/

namespace CallScript.Binary64

variable {q : ℚ} {x y : Binary64}

theorem Nearest.value_le (h : Nearest q x) (finite : y.IsFinite) (below : q ≤ y.value) : x.value ≤ y.value := by
  have near := h.le finite
  rw [abs_of_nonpos (sub_nonpos.mpr below)] at near
  have apart := neg_abs_le (q - x.value)
  linarith

theorem Nearest.le_value (h : Nearest q x) (finite : y.IsFinite) (above : y.value ≤ q) : y.value ≤ x.value := by
  have near := h.le finite
  rw [abs_of_nonneg (sub_nonneg.mpr above)] at near
  have apart := le_abs_self (q - x.value)
  linarith

/-- What a natural number is rounded to in its last place is a natural number. -/
theorem RoundedAt.exists_natural {n m : ℕ} {place : Int} (h : RoundedAt n place m) :
    ∃ k : ℕ, (m * 2 ^ place : ℚ) = k := by
  rcases le_total 0 place with high | low
  · obtain ⟨p, rfl⟩ := Int.eq_ofNat_of_zero_le high
    exact ⟨m * 2 ^ p, by push_cast; rfl⟩
  · -- there is nothing to round
    obtain ⟨p, place_eq⟩ := Int.eq_ofNat_of_zero_le (Int.neg_nonneg.mpr low)
    have whole : (n : ℚ) * 2 ^ (-place) = (n * 2 ^ p : ℕ) := by
      rw [place_eq]
      push_cast
      rfl
    have near := h.rounds.le (n * 2 ^ p : ℕ)
    rw [whole, Int.cast_natCast, sub_self, abs_zero] at near
    have exact_digits : (n : ℚ) * 2 ^ (-place) = m := by
      rw [whole]
      exact sub_eq_zero.mp (abs_nonpos_iff.mp near)
    exact ⟨n, by rw [← exact_digits, mul_assoc, ← two_zpow_add, neg_add_cancel, zpow_zero, mul_one]⟩

/-- A natural number with a sign is rounded to an integer, unless it is too large for any double. -/
theorem exists_integer_ofRatio (negative : Bool) (n : ℕ) (finite : (ofRatio negative ⟨n, 1⟩).IsFinite) :
    ∃ k : ℤ, (ofRatio negative ⟨n, 1⟩).value = k := by
  unfold ofRatio at finite ⊢
  split at finite
  next none =>
    rw [if_pos none]
    exact ⟨0, by rw [value_zero, Int.cast_zero]⟩
  next nonzero =>
    rw [if_neg nonzero]
    have rounded := Ratio.roundedAt nonzero one_pos
    simp only at finite ⊢
    generalize lastPlace ⟨n, 1⟩ = place at rounded finite ⊢
    generalize (Ratio.scale ⟨n, 1⟩ (-place)).round = m at rounded finite ⊢
    have value_eq : (Ratio.mk n 1).value = n := by simp [Ratio.value]
    rw [value_eq] at rounded
    rcases value_assemble negative rounded.low rounded.short rounded.lowest with ⟨-, value_eq, -⟩ | ⟨infinite, -⟩
    · obtain ⟨k, natural⟩ := rounded.exists_natural
      rw [value_eq, natural]
      cases negative with
      | false => exact ⟨k, rfl⟩
      | true => exact ⟨-k, (Int.cast_neg _).symm⟩
    · exact absurd finite infinite

/-- What is nearest to an integer is an integer. -/
theorem exists_nearest_integer {n : ℤ} (small : |(n : ℚ)| < 2 ^ (1023 : Int)) :
    ∃ x, Nearest n x ∧ ∃ k : ℤ, x.value = k := by
  have magnitude_eq : (Ratio.mk n.natAbs 1).value = |(n : ℚ)| := by simp [Ratio.value, Nat.cast_natAbs]
  rcases ofRatio_rounds (decide ((n : ℚ) < 0)) (r := ⟨n.natAbs, 1⟩) one_pos with rounded | ⟨-, large⟩
  · rw [magnitude_eq, signed_abs] at rounded
    exact ⟨_, rounded.toNearest, exists_integer_ofRatio _ _ rounded.finite⟩
  · rw [magnitude_eq] at large
    exact absurd small large.not_gt

theorem exists_least : ∃ y : Binary64, y.IsFinite ∧ y.value = -2 ^ 63 := by
  obtain ⟨finite, significand_eq, place_eq⟩ := normal_parts true 1086 0 (by decide) (by decide)
  refine ⟨_, finite, ?_⟩
  rw [value, significand_eq, place_eq]
  norm_num [signed]

theorem exists_largest : ∃ y : Binary64, y.IsFinite ∧ y.value = 2 ^ 63 - 1024 := by
  obtain ⟨finite, significand_eq, place_eq⟩ :=
    normal_parts false 1085 (Fin.ofNat _ (leading - 1)) (by decide) (by decide)
  refine ⟨_, finite, ?_⟩
  rw [value, significand_eq, place_eq]
  norm_num [signed]

/-- What is nearest to an integer of 64 bits is one, unless it is among the last 512. -/
theorem exists_nearest_int64 {n : Int64} (lower : (n.toInt : ℚ) < 2 ^ 63 - 512) :
    ∃ x, Nearest n.toInt x ∧ ∃ m : Int64, x.value = m.toInt := by
  obtain ⟨least, least_finite, least_eq⟩ := exists_least
  obtain ⟨largest, largest_finite, largest_eq⟩ := exists_largest
  have least_le : -2 ^ 63 ≤ (n.toInt : ℚ) := by exact_mod_cast n.le_toInt
  have short : |(n.toInt : ℚ)| < 2 ^ (1023 : Int) := by
    calc |(n.toInt : ℚ)| ≤ 2 ^ 63 := abs_le.mpr ⟨least_le, by linarith⟩
      _ < 2 ^ (1023 : Int) := by
        rw [← zpow_natCast]
        exact zpow_lt_zpow_right₀ one_lt_two (by decide)
  obtain ⟨x, h, k, value_eq⟩ := exists_nearest_integer short
  have low : -2 ^ 63 ≤ x.value := by
    have above := h.le_value least_finite (least_eq.trans_le least_le)
    rwa [least_eq] at above
  have high : x.value < 2 ^ 63 := by
    rcases le_or_gt (n.toInt : ℚ) (2 ^ 63 - 1024) with below | above
    · have bounded := h.value_le largest_finite (below.trans_eq largest_eq.symm)
      linarith
    · -- the largest double that fits is nearer than the next one
      have near := h.le largest_finite
      rw [largest_eq, abs_of_pos (sub_pos.mpr above)] at near
      have apart := neg_abs_le (n.toInt - x.value)
      linarith
  rw [value_eq] at low high
  have fits : (Bounds.signed? k).isSome := by
    rw [Bounds.isSome_signed?]
    exact ⟨by exact_mod_cast low, by exact_mod_cast high⟩
  obtain ⟨m, fit⟩ := Option.isSome_iff_exists.mp fits
  exact ⟨x, h, m, by rw [value_eq, Bounds.signed?_eq_some_iff.mp fit]⟩

end CallScript.Binary64
