import Mathlib.Algebra.Order.Field.Basic
import Mathlib.Algebra.Order.Field.Power
import Mathlib.Algebra.Order.Ring.Rat
import Mathlib.Tactic.FieldSimp
import Mathlib.Tactic.Linarith
import Mathlib.Tactic.Ring
import CallScript.Number.Binary64

/-! # The double nearest to a fraction

What a finite double is as a rational number, and which double is the nearest to a given one.  `Nearest`
does not say how it is found: no other double is nearer, and of two that are equally near it is the one with
an even significand.

A fraction is rounded in its last place: the quotient by the weight of that place goes to the nearest
integer.  A double whose last place is not lower is a multiple of that weight, so that it competes as an
integer; one whose last place is lower lies below the fraction's first digit, which is an integer too.

* `Ratio.roundsTo`: a fraction is rounded to the nearest integer.
* `two_pow_lastPlace`: how large a fraction is in its last place.
* `value_assemble`: a double is what it was assembled from.
* `Nearest.unique`: there is one nearest number.
* `ofRatio_rounds`: a fraction is rounded to the nearest double, unless it is too large for any. -/

namespace CallScript.Binary64

/-! ### Fractions -/

/-- The rational number that a fraction is. -/
def Ratio.value (r : Ratio) : ℚ := r.num / r.den

theorem Ratio.value_powers (num den base : ℕ) (n : Int) :
    Ratio.value ⟨num * Nat.pow base n.toNat, den * Nat.pow base (-n).toNat⟩ = num / den * (base : ℚ) ^ n := by
  have cast_pow (k : ℕ) : ((Nat.pow base k : ℕ) : ℚ) = (base : ℚ) ^ k := Nat.cast_pow base k
  obtain ⟨k, rfl | rfl⟩ := n.eq_nat_or_neg
  · simp only [value, Int.toNat_natCast, Int.toNat_neg_natCast, Nat.cast_mul, cast_pow, zpow_natCast, pow_zero,
      mul_one]
    ring
  · simp only [value, neg_neg, Int.toNat_natCast, Int.toNat_neg_natCast, Nat.cast_mul, cast_pow, zpow_neg,
      zpow_natCast, pow_zero, mul_one]
    rw [div_mul_eq_div_div, div_eq_mul_inv _ ((base : ℚ) ^ k)]

theorem Ratio.value_scale (r : Ratio) (n : Int) : (r.scale n).value = r.value * 2 ^ n :=
  Ratio.value_powers r.num r.den 2 n

theorem Ratio.den_scale_pos {r : Ratio} (positive : 0 < r.den) (n : Int) : 0 < (r.scale n).den :=
  Nat.mul_pos positive (Nat.two_pow_pos _)

theorem Ratio.lt_mul_den_iff {r : Ratio} (positive : 0 < r.den) {n : ℕ} :
    r.num < n * r.den ↔ r.value < n := by
  rw [value, div_lt_iff₀ (Nat.cast_pos.mpr positive)]
  exact_mod_cast Iff.rfl

/-- A number is rounded to a natural one: it is at most one half away, and if it is one half away from two
integers, the natural one is even. -/
structure RoundsTo (v : ℚ) (m : ℕ) : Prop where
  near : |v - m| ≤ 1 / 2
  even : |v - m| = 1 / 2 → m % 2 = 0

/-- A fraction is rounded to the nearest integer. -/
theorem Ratio.roundsTo (r : Ratio) (positive : 0 < r.den) : RoundsTo r.value r.round := by
  obtain ⟨num, den⟩ := r
  have den_pos : (0 : ℚ) < den := Nat.cast_pos.mpr positive
  -- The fraction is the quotient and a rest between 0 and 1.
  have value_eq : Ratio.value ⟨num, den⟩ = (num / den : ℕ) + ((num % den : ℕ) : ℚ) / den := by
    have division : (num : ℚ) = den * (num / den : ℕ) + (num % den : ℕ) := by
      exact_mod_cast (Nat.div_add_mod num den).symm
    unfold Ratio.value
    rw [eq_comm, ← mul_div_cancel_left₀ ((num / den : ℕ) : ℚ) den_pos.ne', ← add_div, ← division]
  have rest_nonneg : (0 : ℚ) ≤ ((num % den : ℕ) : ℚ) / den := div_nonneg (Nat.cast_nonneg _) den_pos.le
  have rest_lt : ((num % den : ℕ) : ℚ) / den < 1 := by
    rw [div_lt_one₀ den_pos]
    exact_mod_cast Nat.mod_lt num positive
  have rest_lt_half : ((num % den : ℕ) : ℚ) / den < 1 / 2 ↔ 2 * (num % den) < den := by
    rw [div_lt_div_iff₀ den_pos two_pos, one_mul, mul_comm]
    exact_mod_cast Iff.rfl
  have rest_eq_half : ((num % den : ℕ) : ℚ) / den = 1 / 2 ↔ 2 * (num % den) = den := by
    rw [div_eq_div_iff den_pos.ne' two_ne_zero, one_mul, mul_comm]
    exact_mod_cast Iff.rfl
  rw [value_eq, Ratio.round]
  simp only [← rest_lt_half, ← rest_eq_half]
  generalize ((num % den : ℕ) : ℚ) / den = f at *
  generalize num / den = q
  split
  next below =>
    have error_eq : |(q : ℚ) + f - q| = f := by rw [add_sub_cancel_left, abs_of_nonneg rest_nonneg]
    exact ⟨by rw [error_eq]; exact below.le, fun half => absurd (error_eq ▸ half) below.ne⟩
  next not_below =>
    split
    next half =>
      obtain even | odd := Nat.mod_two_eq_zero_or_one q
      · have error_eq : |(q : ℚ) + f - (q + q % 2 : ℕ)| = 1 / 2 := by
          rw [even, Nat.add_zero, add_sub_cancel_left, abs_of_nonneg rest_nonneg, half]
        exact ⟨error_eq.le, fun _ => by omega⟩
      · have error_eq : |(q : ℚ) + f - (q + q % 2 : ℕ)| = 1 / 2 := by
          rw [odd, Nat.cast_add_one, add_sub_add_left_eq_sub, half]
          norm_num
        exact ⟨error_eq.le, fun _ => by omega⟩
    next not_half =>
      have above : 1 / 2 < f := lt_of_le_of_ne (not_lt.mp not_below) (Ne.symm not_half)
      have error_eq : |(q : ℚ) + f - (q + 1 : ℕ)| = 1 - f := by
        rw [Nat.cast_add_one, add_sub_add_left_eq_sub, abs_sub_comm, abs_of_pos (sub_pos.mpr rest_lt)]
      exact ⟨by linarith, fun half => by linarith⟩

section

variable {v : ℚ} {m : ℕ}

/-- Any other integer is not nearer, and if it is equally near, it is odd and the chosen one is even. -/
theorem RoundsTo.nearest (rounds : RoundsTo v m) {k : ℤ} (other : k ≠ m) :
    |v - m| < |v - k| ∨ (|v - m| = |v - k| ∧ m % 2 = 0 ∧ k % 2 = 1) := by
  have apart : (1 : ℚ) ≤ |(k : ℚ) - m| := by
    exact_mod_cast Int.one_le_abs (sub_ne_zero.mpr other)
  have triangle : |(k : ℚ) - m| ≤ |v - k| + |v - m| := by
    have through := abs_sub_le (k : ℚ) v m
    rwa [abs_sub_comm (k : ℚ) v] at through
  have near := rounds.near
  rcases lt_or_ge |v - m| |v - k| with nearer | not_nearer
  · exact .inl nearer
  · have half : |v - m| = 1 / 2 := by linarith
    have even := rounds.even half
    -- Both are one half away, so that they are neighbours.
    have neighbours : |(k : ℚ) - m| = 1 := by linarith
    have odd : k % 2 = 1 := by
      have neighbours : |k - m| = 1 := by exact_mod_cast neighbours
      rcases (abs_eq one_pos.le).mp neighbours with next | previous <;> omega
    exact .inr ⟨by linarith, even, odd⟩

theorem RoundsTo.le (rounds : RoundsTo v m) (k : ℤ) : |v - m| ≤ |v - k| := by
  by_cases same : k = m
  · rw [same, Int.cast_natCast]
  · rcases rounds.nearest same with nearer | ⟨equal, -⟩
    · exact nearer.le
    · exact equal.le

theorem RoundsTo.le_of_lt (rounds : RoundsTo v m) {n : ℕ} (below : v < n) : m ≤ n := by
  have near := (abs_le.mp rounds.near).1
  have bound : (m : ℚ) < n + 1 := by linarith
  exact Nat.lt_succ_iff.mp (by exact_mod_cast bound)

theorem RoundsTo.ge_of_le (rounds : RoundsTo v m) {n : ℕ} (above : (n : ℚ) ≤ v) : n ≤ m := by
  have near := (abs_le.mp rounds.near).2
  have bound : (n : ℚ) < m + 1 := by linarith
  exact Nat.lt_succ_iff.mp (by exact_mod_cast bound)

end

/-! ### The last place -/

theorem two_zpow_pos (p : Int) : (0 : ℚ) < 2 ^ p := zpow_pos two_pos p

theorem two_zpow_add (p p' : Int) : (2 : ℚ) ^ (p + p') = 2 ^ p * 2 ^ p' := zpow_add₀ two_ne_zero p p'

theorem two_zpow_le {p p' : Int} (h : p ≤ p') : (2 : ℚ) ^ p ≤ 2 ^ p' := zpow_le_zpow_right₀ one_le_two h

/-- A fraction is as large as the lengths of its two parts say, up to one place. -/
theorem Ratio.value_bounds {r : Ratio} (nonzero : r.num ≠ 0) (positive : 0 < r.den) :
    (2 : ℚ) ^ ((r.num.log2 : Int) - r.den.log2 - 1) < r.value ∧
      r.value < 2 ^ ((r.num.log2 : Int) - r.den.log2 + 1) := by
  have num_low : (2 : ℚ) ^ (r.num.log2 : Int) ≤ r.num := by
    exact_mod_cast Nat.log2_self_le nonzero
  have num_high : (r.num : ℚ) < 2 ^ ((r.num.log2 : Int) + 1) := by
    exact_mod_cast Nat.lt_log2_self (n := r.num)
  have den_low : (2 : ℚ) ^ (r.den.log2 : Int) ≤ r.den := by
    exact_mod_cast Nat.log2_self_le positive.ne'
  have den_high : (r.den : ℚ) < 2 ^ ((r.den.log2 : Int) + 1) := by
    exact_mod_cast Nat.lt_log2_self (n := r.den)
  have den_pos : (0 : ℚ) < r.den := Nat.cast_pos.mpr positive
  constructor
  · rw [Ratio.value, lt_div_iff₀ den_pos]
    calc (2 : ℚ) ^ ((r.num.log2 : Int) - r.den.log2 - 1) * r.den
        < 2 ^ ((r.num.log2 : Int) - r.den.log2 - 1) * 2 ^ ((r.den.log2 : Int) + 1) := by
          exact mul_lt_mul_of_pos_left den_high (two_zpow_pos _)
      _ = 2 ^ (r.num.log2 : Int) := by rw [← two_zpow_add]; congr 1; omega
      _ ≤ r.num := num_low
  · rw [Ratio.value, div_lt_iff₀ den_pos]
    calc (r.num : ℚ) < 2 ^ ((r.num.log2 : Int) + 1) := num_high
      _ = 2 ^ ((r.num.log2 : Int) - r.den.log2 + 1) * 2 ^ (r.den.log2 : Int) := by
          rw [← two_zpow_add]; congr 1; omega
      _ ≤ 2 ^ ((r.num.log2 : Int) - r.den.log2 + 1) * r.den := by
          exact mul_le_mul_of_nonneg_left den_low (two_zpow_pos _).le

/-- In its last place a fraction has at most 53 digits, and no fewer unless the place is the lowest. -/
theorem two_pow_lastPlace {r : Ratio} (nonzero : r.num ≠ 0) (positive : 0 < r.den) :
    -1074 ≤ lastPlace r ∧ r.value < 2 ^ (lastPlace r + 53) ∧
      (lastPlace r = -1074 ∨ 2 ^ (lastPlace r + 52) ≤ r.value) := by
  obtain ⟨low, high⟩ := Ratio.value_bounds nonzero positive
  unfold lastPlace
  simp only
  generalize (r.num.log2 : Int) - r.den.log2 = digits at low high ⊢
  have scaled_iff : (r.scale (-(digits - 52))).num < leading * (r.scale (-(digits - 52))).den ↔
      r.value < 2 ^ digits := by
    have leading_eq : ((leading : ℕ) : ℚ) = 2 ^ (52 : Int) := by norm_num
    rw [Ratio.lt_mul_den_iff (Ratio.den_scale_pos positive _), Ratio.value_scale, leading_eq,
      ← mul_lt_mul_iff_left₀ (two_zpow_pos (digits - 52)), mul_assoc, ← two_zpow_add, ← two_zpow_add,
      neg_add_cancel, zpow_zero, mul_one, add_sub_cancel]
  -- The place in which the fraction has 53 digits, if it is not too low for a double.
  obtain ⟨place, place_eq, below, above⟩ : ∃ place, (if (r.scale (-(digits - 52))).num <
      leading * (r.scale (-(digits - 52))).den then digits - 52 - 1 else digits - 52) = place ∧
      r.value < 2 ^ (place + 53) ∧ 2 ^ (place + 52) ≤ r.value := by
    by_cases shorter : r.value < 2 ^ digits
    · refine ⟨_, if_pos (scaled_iff.mpr shorter), ?_, ?_⟩
      · rwa [show digits - 52 - 1 + 53 = digits by omega]
      · rw [show digits - 52 - 1 + 52 = digits - 1 by omega]
        exact low.le
    · refine ⟨_, if_neg (mt scaled_iff.mp shorter), ?_, ?_⟩
      · rwa [show digits - 52 + 53 = digits + 1 by omega]
      · rw [show digits - 52 + 52 = digits by omega]
        exact not_lt.mp shorter
  rw [place_eq]
  refine ⟨le_max_left _ _, below.trans_le (two_zpow_le (by omega)), ?_⟩
  rcases le_or_gt place (-1074) with lowest | higher
  · exact .inl (max_eq_left lowest)
  · rw [max_eq_right higher.le]
    exact .inr above

/-! ### Doubles -/

/-- A magnitude with a sign. -/
def signed (negative : Bool) (v : ℚ) : ℚ := if negative then -v else v

theorem signed_signed (negative : Bool) (v : ℚ) : signed negative (signed negative v) = v := by
  cases negative with
  | false => rfl
  | true => exact neg_neg v

theorem abs_signed_sub (negative : Bool) (v w : ℚ) : |signed negative v - w| = |v - signed negative w| := by
  cases negative with
  | false => rfl
  | true =>
      simp only [signed, if_pos]
      rw [← abs_neg, neg_sub', neg_neg]

theorem abs_signed (negative : Bool) (v : ℚ) : |signed negative v| = |v| := by
  cases negative with
  | false => rfl
  | true => exact abs_neg v

theorem signed_abs (q : ℚ) : signed (decide (q < 0)) |q| = q := by
  by_cases below : q < 0
  · rw [decide_eq_true below, abs_of_neg below]
    exact neg_neg q
  · rw [decide_eq_false below, abs_of_nonneg (not_lt.mp below)]
    rfl

/-- The rational number that a finite double is. -/
def value (x : Binary64) : ℚ := signed x.negative (x.significand * 2 ^ x.place)

theorem significand_lt (x : Binary64) : x.significand < 2 * leading := by
  have := x.fraction.isLt
  unfold significand
  split <;> omega

theorem place_ge (x : Binary64) : -1074 ≤ x.place := by
  unfold place
  split <;> omega

theorem normal_parts (negative : Bool) (biased : ℕ) (fraction : Fin leading) (positive : 0 < biased)
    (in_range : biased < 2047) : (mk negative (Fin.ofNat _ biased) fraction).IsFinite ∧
      (mk negative (Fin.ofNat _ biased) fraction).significand = leading + fraction ∧
      (mk negative (Fin.ofNat _ biased) fraction).place = (biased : Int) - 1075 := by
  have exponent_eq : (Fin.ofNat 2048 biased).val = biased := Nat.mod_eq_of_lt (by omega)
  unfold IsFinite significand place
  simp only [exponent_eq, if_neg positive.ne']
  exact ⟨in_range, trivial, trivial⟩

/-- What is put together is the number it is put together from, unless that is too large; the parity of the
significand is kept where it can be. -/
theorem value_assemble (negative : Bool) {m : ℕ} {place : Int} (low : -1074 ≤ place)
    (short : m ≤ 2 * leading) (lowest : m < leading → place = -1074) :
    ((assemble negative m place).IsFinite ∧
      (assemble negative m place).value = signed negative (m * 2 ^ place) ∧
      (m % 2 = 0 → (assemble negative m place).significand % 2 = 0)) ∨
    (¬ (assemble negative m place).IsFinite ∧ 2 ^ (1024 : Int) ≤ (m * 2 ^ place : ℚ)) := by
  unfold assemble
  split
  next small =>
    obtain rfl := lowest small
    have significand_eq : significand ⟨negative, 0, Fin.ofNat _ m⟩ = m := Nat.mod_eq_of_lt small
    refine .inl ⟨Nat.zero_lt_succ 2046, ?_, ?_⟩
    · rw [value, significand_eq]
      rfl
    · rw [significand_eq]
      exact id
  next full =>
    have leading_eq : ((leading : ℕ) : ℚ) = 2 ^ (52 : Int) := by norm_num
    have large_enough : (2 : ℚ) ^ (52 : Int) ≤ m := by
      rw [← leading_eq]
      exact_mod_cast not_lt.mp full
    simp only
    by_cases fits : m < 2 * leading
    · rw [if_pos fits, if_pos fits, Nat.add_zero]
      split
      next beyond =>
        refine .inr ⟨not_isFinite_infinity negative, ?_⟩
        calc (2 : ℚ) ^ (1024 : Int) = 2 ^ (52 : Int) * 2 ^ (972 : Int) := by rw [← two_zpow_add]; rfl
          _ ≤ m * 2 ^ place := by
            exact mul_le_mul large_enough (two_zpow_le (by omega)) (two_zpow_pos _).le (Nat.cast_nonneg m)
      next within =>
        obtain ⟨finite, significand_eq, place_eq⟩ := normal_parts negative (place + 1075).toNat
          (Fin.ofNat _ (m - leading)) (by omega) (by omega)
        have fraction_eq : (Fin.ofNat leading (m - leading)).val = m - leading := Nat.mod_eq_of_lt (by omega)
        have digits_eq : leading + (m - leading) = m := by omega
        have same_place : ((place + 1075).toNat : Int) - 1075 = place := by omega
        rw [fraction_eq, digits_eq] at significand_eq
        rw [same_place] at place_eq
        refine .inl ⟨finite, ?_, ?_⟩
        · rw [value, significand_eq, place_eq]
        · rw [significand_eq]
          exact id
    · have m_eq : m = 2 * leading := by omega
      rw [if_neg fits, if_neg fits]
      split
      next beyond =>
        refine .inr ⟨not_isFinite_infinity negative, ?_⟩
        calc (2 : ℚ) ^ (1024 : Int) = 2 ^ (53 : Int) * 2 ^ (971 : Int) := by rw [← two_zpow_add]; rfl
          _ ≤ m * 2 ^ place := by
            refine mul_le_mul ?_ (two_zpow_le (by omega)) (two_zpow_pos _).le (Nat.cast_nonneg m)
            rw [m_eq]
            norm_num
      next within =>
        obtain ⟨finite, significand_eq, place_eq⟩ := normal_parts negative ((place + 1075).toNat + 1) 0
          (by omega) (by omega)
        -- All digits were carried: the significand starts again one place higher.
        have value_eq : (leading : ℚ) * 2 ^ (place + 1) = m * 2 ^ place := by
          rw [m_eq, two_zpow_add, zpow_one]
          push_cast
          ring
        have next_place : (((place + 1075).toNat + 1 : ℕ) : Int) - 1075 = place + 1 := by omega
        rw [next_place] at place_eq
        refine .inl ⟨finite, ?_, ?_⟩
        · rw [value, significand_eq, place_eq, ← value_eq]
          rfl
        · rw [significand_eq]
          exact fun _ => rfl

/-! ### The nearest double -/

/-- A finite double is the nearest to a rational number: any other is farther away, or as far away and has an
odd significand where this one has an even one. -/
structure Nearest (q : ℚ) (x : Binary64) : Prop where
  finite : x.IsFinite
  nearest : ∀ y : Binary64, y.IsFinite → y.value ≠ x.value → |q - x.value| < |q - y.value| ∨
    (|q - x.value| = |q - y.value| ∧ x.significand % 2 = 0 ∧ y.significand % 2 = 1)

/-- How far from a number the nearest double may be: half the weight of the last of 53 digits, or of the
lowest place. -/
def tolerance (q : ℚ) : ℚ := max (|q| / 2 ^ 53) (2 ^ (-1075 : Int))

/-- The nearest double, and no farther away than it may be. -/
structure Rounded (q : ℚ) (x : Binary64) : Prop extends Nearest q x where
  close : |q - x.value| ≤ tolerance q

theorem tolerance_nonneg (q : ℚ) : 0 ≤ tolerance q := (two_zpow_pos _).le.trans (le_max_right _ _)

theorem Nearest.le {q : ℚ} {x y : Binary64} (h : Nearest q x) (finite : y.IsFinite) :
    |q - x.value| ≤ |q - y.value| := by
  by_cases same : y.value = x.value
  · rw [same]
  · rcases h.nearest y finite same with nearer | ⟨equal, -⟩
    · exact nearer.le
    · exact equal.le

/-- One number is nearest. -/
theorem Nearest.unique {q : ℚ} {x y : Binary64} (h : Nearest q x) (h' : Nearest q y) : x.value = y.value := by
  by_contra different
  rcases h.nearest y h'.finite (Ne.symm different) with nearer | ⟨equal, even, -⟩ <;>
    rcases h'.nearest x h.finite different with nearer' | ⟨equal', -, odd⟩
  · exact lt_asymm nearer nearer'
  · exact absurd equal' nearer.ne'
  · exact absurd equal nearer'.ne'
  · omega

theorem Nearest.large {q : ℚ} {x : Binary64} (h : Nearest q x) (large : 2 ^ (1023 : Int) ≤ |q|) :
    2 ^ (1023 : Int) ≤ |x.value| := by
  -- The power itself is a double, with the sign of the number.
  obtain ⟨finite, significand_eq, place_eq⟩ := normal_parts (decide (q < 0)) 2046 0 (by decide) (by decide)
  have power_eq : (leading + (0 : Fin leading) : ℕ) * 2 ^ ((2046 : ℕ) - 1075 : Int) = (2 : ℚ) ^ (1023 : Int) := by
    have leading_eq : ((leading + (0 : Fin leading) : ℕ) : ℚ) = 2 ^ (52 : Int) := by norm_num
    rw [leading_eq, ← two_zpow_add]
    rfl
  have distance_eq : |q - (Binary64.mk (decide (q < 0)) (Fin.ofNat _ 2046) 0).value| =
      |q| - 2 ^ (1023 : Int) := by
    rw [value, significand_eq, place_eq, power_eq]
    calc |q - signed (decide (q < 0)) (2 ^ (1023 : Int))|
        = |signed (decide (q < 0)) |q| - signed (decide (q < 0)) (2 ^ (1023 : Int))| := by rw [signed_abs]
      _ = |q| - 2 ^ (1023 : Int) := by
        rw [abs_signed_sub, signed_signed, abs_of_nonneg (sub_nonneg.mpr large)]
  have near := h.le finite
  rw [distance_eq] at near
  have apart := abs_sub_abs_le_abs_sub q x.value
  linarith

theorem Rounded.of_value_eq {q : ℚ} {x : Binary64} (finite : x.IsFinite) (value_eq : x.value = q) :
    Rounded q x where
  finite := finite
  close := by
    rw [value_eq, sub_self, abs_zero]
    exact tolerance_nonneg q
  nearest := by
    intro y _ different
    left
    rw [value_eq, sub_self, abs_zero, abs_pos, sub_ne_zero]
    exact fun same => different (same ▸ value_eq.symm)

/-- A double whose last place is not lower than another is a multiple of the weight of that place. -/
theorem exists_multiple {y : Binary64} {place : Int} (not_lower : place ≤ y.place) :
    ∃ k : ℤ, y.value = k * 2 ^ place ∧ (k % 2 = 1 → y.significand % 2 = 1) := by
  obtain ⟨n, place_eq⟩ := Int.le.dest not_lower
  have magnitude_eq : (y.significand * 2 ^ y.place : ℚ) = (y.significand * 2 ^ n : ℕ) * 2 ^ place := by
    rw [← place_eq, two_zpow_add, zpow_natCast]
    push_cast
    ring
  have odd (h : (y.significand * 2 ^ n : ℕ) % 2 = 1) : y.significand % 2 = 1 := by
    rw [Nat.mul_mod] at h
    rcases Nat.mod_two_eq_zero_or_one y.significand with even | odd
    · rw [even, Nat.zero_mul] at h
      cases h
    · exact odd
  cases sign : y.negative with
  | false =>
      refine ⟨(y.significand * 2 ^ n : ℕ), ?_, fun h => odd (by omega)⟩
      rw [value, sign, magnitude_eq]
      rfl
  | true =>
      refine ⟨-(y.significand * 2 ^ n : ℕ), ?_, fun h => odd (by omega)⟩
      rw [value, sign, magnitude_eq]
      push_cast
      exact (neg_mul _ _).symm

theorem abs_value (x : Binary64) : |x.value| = x.significand * 2 ^ x.place := by
  have magnitude_nonneg : (0 : ℚ) ≤ x.significand * 2 ^ x.place :=
    mul_nonneg (Nat.cast_nonneg _) (two_zpow_pos _).le
  rw [value, abs_signed, abs_of_nonneg magnitude_nonneg]

/-- A double whose last place is lower than another lies below the weight of the 53rd digit from that one. -/
theorem abs_value_lt {y : Binary64} {place : Int} (lower : y.place < place) :
    |y.value| < 2 ^ (place + 52) := by
  have short : (y.significand : ℚ) < 2 ^ (53 : Int) := by
    exact_mod_cast significand_lt y
  calc |y.value| = y.significand * 2 ^ y.place := abs_value y
    _ < 2 ^ (53 : Int) * 2 ^ y.place := mul_lt_mul_of_pos_right short (two_zpow_pos _)
    _ = 2 ^ (53 + y.place) := (two_zpow_add _ _).symm
    _ ≤ 2 ^ (place + 52) := two_zpow_le (by omega)

theorem lowest_eq : (2 : ℚ) ^ (-1074 : Int) = 2 ^ (-1075 : Int) * 2 := by
  rw [← zpow_add_one₀ two_ne_zero]
  rfl

theorem two_zpow_le_abs_value {y : Binary64} (nonzero : y.value ≠ 0) : 2 ^ (-1074 : Int) ≤ |y.value| := by
  rw [← abs_pos, abs_value] at nonzero
  rw [abs_value]
  have some_digits : (1 : ℚ) ≤ y.significand := by
    have positive : (0 : ℚ) < y.significand := pos_of_mul_pos_left nonzero (two_zpow_pos _).le
    exact_mod_cast positive
  calc (2 : ℚ) ^ (-1074 : Int) ≤ 2 ^ y.place := two_zpow_le (place_ge y)
    _ = 1 * 2 ^ y.place := (one_mul _).symm
    _ ≤ y.significand * 2 ^ y.place := mul_le_mul_of_nonneg_right some_digits (two_zpow_pos _).le

theorem value_zero (negative : Bool) : (zero negative).value = 0 := by
  rw [← abs_eq_zero, abs_value]
  exact zero_mul _

theorem rounded_zero {q : ℚ} (negative : Bool) (small : |q| < 2 ^ (-1075 : Int)) :
    Rounded q (zero negative) where
  finite := isFinite_zero negative
  close := by
    rw [value_zero, sub_zero]
    exact small.le.trans (le_max_right _ _)
  nearest := by
    intro y _ different
    left
    rw [value_zero] at different ⊢
    have large := two_zpow_le_abs_value different
    rw [lowest_eq] at large
    have apart := abs_sub_abs_le_abs_sub y.value q
    rw [abs_sub_comm y.value q] at apart
    rw [sub_zero]
    linarith

theorem abs_sub_mul_zpow (v c : ℚ) (place : Int) :
    |v - c * 2 ^ place| = |v * 2 ^ (-place) - c| * 2 ^ place := by
  calc |v - c * 2 ^ place| = |(v * 2 ^ (-place) - c) * 2 ^ place| := by
        rw [sub_mul, mul_assoc, ← two_zpow_add, neg_add_cancel, zpow_zero, mul_one]
    _ = |v * 2 ^ (-place) - c| * 2 ^ place := by rw [abs_mul, abs_of_pos (two_zpow_pos place)]

/-- A number that is rounded in a place where it has 53 digits, or in the lowest place of all, is rounded to
the nearest double. -/
theorem rounded_of_roundsTo {negative : Bool} {v : ℚ} {m : ℕ} {place : Int} {x : Binary64}
    (rounds : RoundsTo (v * 2 ^ (-place)) m) (full : place = -1074 ∨ 2 ^ (place + 52) ≤ v)
    (finite : x.IsFinite) (value_eq : x.value = signed negative (m * 2 ^ place))
    (even : m % 2 = 0 → x.significand % 2 = 0) : Rounded (signed negative v) x where
  finite := finite
  close := by
    rw [abs_signed_sub, value_eq, signed_signed, abs_sub_mul_zpow, tolerance, abs_signed]
    have half : |v * 2 ^ (-place) - m| * 2 ^ place ≤ 1 / 2 * 2 ^ place :=
      mul_le_mul_of_nonneg_right rounds.near (two_zpow_pos place).le
    rcases full with rfl | above
    · refine half.trans (le_max_of_le_right ?_)
      rw [lowest_eq, mul_comm, mul_assoc, mul_one_div_cancel two_ne_zero, mul_one]
    · refine half.trans (le_max_of_le_left ?_)
      calc (1 / 2 : ℚ) * 2 ^ place = 2 ^ (place + 52) / 2 ^ 53 := by
            rw [two_zpow_add]
            norm_num
            ring
        _ ≤ |v| / 2 ^ 53 := div_le_div_of_nonneg_right (above.trans (le_abs_self v)) (by norm_num)
  nearest := by
    intro y _ different
    rw [abs_signed_sub, abs_signed_sub, value_eq, signed_signed, abs_sub_mul_zpow]
    by_cases not_lower : place ≤ y.place
    · -- The other number is a multiple of the weight of the place as well.
      obtain ⟨k, multiple, odd⟩ := exists_multiple not_lower
      obtain ⟨k', multiple', odd'⟩ : ∃ k' : ℤ, signed negative y.value = k' * 2 ^ place ∧
          (k' % 2 = 1 → k % 2 = 1) := by
        cases negative with
        | false => exact ⟨k, multiple, id⟩
        | true => exact ⟨-k, by simp [signed, multiple], by omega⟩
      have other : k' ≠ m := by
        rintro rfl
        apply different
        rw [value_eq, ← signed_signed negative y.value, multiple', Int.cast_natCast]
      rw [multiple', abs_sub_mul_zpow]
      rcases rounds.nearest other with nearer | ⟨equal, m_even, k_odd⟩
      · exact .inl (mul_lt_mul_of_pos_right nearer (two_zpow_pos place))
      · exact .inr ⟨congrArg (· * 2 ^ place) equal, even m_even, odd (odd' k_odd)⟩
    · -- The other number lies below the first digit, which is a multiple of the weight of the place.
      left
      have above : 2 ^ (place + 52) ≤ v := full.resolve_left fun lowest => not_lower (lowest ▸ place_ge y)
      have below : signed negative y.value < 2 ^ (place + 52) := by
        have small := abs_lt.mp (abs_value_lt (not_le.mp not_lower))
        cases negative with
        | false => exact small.2
        | true => exact neg_lt.mp small.1
      have first_eq : ((2 ^ 52 : ℤ) : ℚ) * 2 ^ place = 2 ^ (place + 52) := by
        rw [add_comm, two_zpow_add]
        norm_num
      calc |v * 2 ^ (-place) - m| * 2 ^ place ≤ |v * 2 ^ (-place) - (2 ^ 52 : ℤ)| * 2 ^ place :=
            mul_le_mul_of_nonneg_right (rounds.le _) (two_zpow_pos place).le
        _ = v - 2 ^ (place + 52) := by
            rw [← abs_sub_mul_zpow, first_eq, abs_of_nonneg (sub_nonneg.mpr above)]
        _ < v - signed negative y.value := sub_lt_sub_left below v
        _ ≤ |v - signed negative y.value| := le_abs_self _

/-- A number is rounded in its last place: it has at most 53 digits there, and no fewer unless the place is the
lowest. -/
structure RoundedAt (v : ℚ) (place : Int) (m : ℕ) : Prop where
  low : -1074 ≤ place
  below : v < 2 ^ (place + 53)
  full : place = -1074 ∨ 2 ^ (place + 52) ≤ v
  rounds : RoundsTo (v * 2 ^ (-place)) m

theorem Ratio.roundedAt {r : Ratio} (nonzero : r.num ≠ 0) (positive : 0 < r.den) :
    RoundedAt r.value (lastPlace r) (r.scale (-lastPlace r)).round := by
  obtain ⟨low, below, full⟩ := two_pow_lastPlace nonzero positive
  have rounds := Ratio.roundsTo (r.scale (-lastPlace r)) (Ratio.den_scale_pos positive _)
  rw [Ratio.value_scale] at rounds
  exact ⟨low, below, full, rounds⟩

section

variable {v : ℚ} {m : ℕ} {place : Int}

theorem RoundedAt.short (h : RoundedAt v place m) : m ≤ 2 * leading := by
  apply h.rounds.le_of_lt
  calc v * 2 ^ (-place) < 2 ^ (place + 53) * 2 ^ (-place) := mul_lt_mul_of_pos_right h.below (two_zpow_pos _)
    _ = 2 ^ (53 : Int) := by rw [← two_zpow_add]; congr 1; omega
    _ = (2 * leading : ℕ) := by norm_num

theorem RoundedAt.lowest (h : RoundedAt v place m) (small : m < leading) : place = -1074 := by
  refine h.full.resolve_right fun above => not_le.mpr small (h.rounds.ge_of_le ?_)
  calc ((leading : ℕ) : ℚ) = 2 ^ (52 : Int) := by norm_num
    _ = 2 ^ (place + 52) * 2 ^ (-place) := by rw [← two_zpow_add]; congr 1; omega
    _ ≤ v * 2 ^ (-place) := mul_le_mul_of_nonneg_right above (two_zpow_pos _).le

end

/-- A fraction is rounded to the nearest double, unless it is too large for any. -/
theorem ofRatio_rounds (negative : Bool) {r : Ratio} (positive : 0 < r.den) :
    Rounded (signed negative r.value) (ofRatio negative r) ∨
      (¬ (ofRatio negative r).IsFinite ∧ 2 ^ (1023 : Int) ≤ r.value) := by
  unfold ofRatio
  split
  next none =>
    refine .inl (.of_value_eq (isFinite_zero negative) ?_)
    rw [value_zero, eq_comm, ← abs_eq_zero, abs_signed, Ratio.value, none, Nat.cast_zero, zero_div, abs_zero]
  next nonzero =>
    have rounded := Ratio.roundedAt nonzero positive
    simp only
    generalize lastPlace r = place at rounded ⊢
    generalize (r.scale (-place)).round = m at rounded ⊢
    rcases value_assemble negative rounded.low rounded.short rounded.lowest with
      ⟨finite, value_eq, even⟩ | ⟨infinite, beyond⟩
    · exact .inl (rounded_of_roundsTo rounded.rounds rounded.full finite value_eq even)
    · refine .inr ⟨infinite, ?_⟩
      have value_eq : r.value = r.value * 2 ^ (-place) * 2 ^ place := by
        rw [mul_assoc, ← two_zpow_add, neg_add_cancel, zpow_zero, mul_one]
      have some_digits : (1 : ℚ) ≤ m := by
        have m_ne_zero : m ≠ 0 := by
          rintro rfl
          rw [Nat.cast_zero, zero_mul] at beyond
          exact absurd beyond (not_le.mpr (two_zpow_pos _))
        exact_mod_cast Nat.one_le_iff_ne_zero.mpr m_ne_zero
      have near := (abs_le.mp rounded.rounds.near).1
      have half_le : (m : ℚ) / 2 ≤ r.value * 2 ^ (-place) := by linarith
      calc (2 : ℚ) ^ (1023 : Int) = 2 ^ (1023 + 1 : Int) / 2 := by
            rw [two_zpow_add, zpow_one, mul_div_cancel_right₀ _ two_ne_zero]
        _ ≤ m * 2 ^ place / 2 := div_le_div_of_nonneg_right beyond two_pos.le
        _ = m / 2 * 2 ^ place := by ring
        _ ≤ r.value * 2 ^ (-place) * 2 ^ place := mul_le_mul_of_nonneg_right half_le (two_zpow_pos _).le
        _ = r.value := value_eq.symm

end CallScript.Binary64
