import Stubwright.Decimal.Double
import Mathlib.Tactic.Ring
import Mathlib.Tactic.Linarith

/-!
Rounding depends on the value of a decimal alone. A quotient may be scaled, zeros may move between
the digits and the exponent, and the exponents that are decided without computing a power are
decided rightly. A quotient that is a magnitude already is rounded to itself.
-/

namespace Stubwright.Decimal

theorem round_half_even_scale (numerator denominator factor : Nat) (positive : 0 < factor) :
    roundHalfEven (numerator * factor) (denominator * factor) =
      roundHalfEven numerator denominator := by
  have whole : numerator * factor / (denominator * factor) = numerator / denominator :=
    Nat.mul_div_mul_right numerator denominator positive
  have rest : numerator * factor % (denominator * factor) = numerator % denominator * factor :=
    Nat.mul_mod_mul_right factor numerator denominator
  have below : 2 * (numerator % denominator * factor) < denominator * factor ↔
      2 * (numerator % denominator) < denominator := by
    rw [← Nat.mul_assoc]
    exact Nat.mul_lt_mul_right positive
  have above : denominator * factor < 2 * (numerator % denominator * factor) ↔
      denominator < 2 * (numerator % denominator) := by
    rw [← Nat.mul_assoc]
    exact Nat.mul_lt_mul_right positive
  simp only [roundHalfEven, whole, rest, below, above]

theorem nearest_rank_scale (numerator denominator factor : Nat) (positive : 0 < factor) :
    nearestRank (numerator * factor) (denominator * factor) =
      nearestRank numerator denominator := by
  have whole : numerator * factor / (denominator * factor) = numerator / denominator :=
    Nat.mul_div_mul_right numerator denominator positive
  rw [nearestRank, nearestRank, whole, Nat.mul_right_comm denominator factor]
  rw [round_half_even_scale numerator _ factor positive]

theorem round_half_even_multiple (quotient denominator : Nat) (positive : 0 < denominator) :
    roundHalfEven (quotient * denominator) denominator = quotient := by
  simp [roundHalfEven, Nat.mul_div_cancel quotient positive, positive]

theorem log2_of_bounds (value power : Nat) (lower : 2 ^ power ≤ value)
    (upper : value < 2 ^ (power + 1)) : value.log2 = power := by
  have nonzero : value ≠ 0 := by
    have positive : 0 < 2 ^ power := Nat.two_pow_pos power
    omega
  have above := (Nat.le_log2 nonzero).2 lower
  have below := (Nat.log2_lt nonzero).2 upper
  omega

/-- A magnitude of whole units is nearest to itself. -/
theorem nearest_rank_units (rank : Nat) : nearestRank (units rank) 1 = rank := by
  by_cases small : rank < 2 * binade
  · have shift : rank.log2 - 52 = 0 := by
      by_cases zero : rank = 0
      · simp [zero]
      · have bound : rank < 2 ^ 53 := by
          simpa [binade] using small
        have below := (Nat.log2_lt zero).2 bound
        omega
    rw [units, if_pos small, nearestRank, Nat.div_one, shift]
    have exact_ := round_half_even_multiple rank 1 Nat.one_pos
    rw [Nat.mul_one] at exact_
    simp [exact_]
  · have split := Nat.div_add_mod rank binade
    have remainder : rank % binade < binade := Nat.mod_lt _ (Nat.two_pow_pos 52)
    have quotient : 2 ≤ rank / binade :=
      (Nat.le_div_iff_mul_le (Nat.two_pow_pos 52)).2 (Nat.le_of_not_lt small)
    obtain ⟨power, power_eq⟩ : ∃ power, rank / binade = power + 1 :=
      ⟨rank / binade - 1, by omega⟩
    have log2 : ((binade + rank % binade) * 2 ^ power).log2 = 52 + power := by
      apply log2_of_bounds
      · rw [pow_add]
        exact Nat.mul_le_mul_right _ (Nat.le_add_right binade _)
      · have double : binade + rank % binade < 2 ^ 53 := by
          have width : 2 ^ 53 = binade + binade := by simp [binade]
          omega
        calc (binade + rank % binade) * 2 ^ power < 2 ^ 53 * 2 ^ power :=
              Nat.mul_lt_mul_of_pos_right double (Nat.two_pow_pos power)
          _ = 2 ^ (52 + power + 1) := by rw [← pow_add]; congr 1; omega
    have shift : 52 + power - 52 = power := by omega
    rw [units, if_neg small, power_eq, Nat.add_sub_cancel, nearestRank, Nat.div_one, log2, shift,
      Nat.one_mul]
    rw [round_half_even_multiple _ _ (Nat.two_pow_pos power)]
    rw [power_eq] at split
    nlinarith

theorem nearest_rank_small (numerator denominator : Nat) (small : 2 * numerator < denominator) :
    nearestRank numerator denominator = 0 := by
  have below : numerator < denominator := by omega
  simp [nearestRank, roundHalfEven, Nat.div_eq_of_lt below, Nat.mod_eq_of_lt below, small]

/-- A magnitude has at most 2099 binary digits in units. -/
theorem nearest_rank_large (value power : Nat) (wide : 2 ^ power ≤ value)
    (beyond : 2099 ≤ power) : magnitudes ≤ nearestRank value 1 := by
  have nonzero : value ≠ 0 := by
    have positive : 0 < 2 ^ power := Nat.two_pow_pos power
    omega
  have digits : power ≤ value.log2 := (Nat.le_log2 nonzero).2 wide
  have shifts : 2047 ≤ value.log2 - 52 := by omega
  rw [nearestRank, Nat.div_one]
  calc magnitudes = 2047 * binade := rfl
    _ ≤ (value.log2 - 52) * binade := Nat.mul_le_mul_right _ shifts
    _ ≤ _ := Nat.le_add_right _ _

theorem eight_pow_le_ten_pow (power : Nat) : 2 ^ (3 * power) ≤ 10 ^ power := by
  rw [pow_mul]
  exact Nat.pow_le_pow_left (by norm_num) power

namespace Double

/-- The scale of the units as a variable, so that no proof computes its power of two. -/
theorem of_ratio_eq_nearest : ∃ scale, 1074 = scale ∧ ∀ negative numerator denominator,
    ofRatio negative numerator denominator =
      ofRank negative (nearestRank (numerator * 2 ^ scale) denominator) := by
  obtain ⟨scale, standard⟩ : ∃ scale, 1074 = scale := ⟨1074, rfl⟩
  refine ⟨scale, standard, ?_⟩
  intro negative numerator denominator
  unfold ofRatio
  rw [standard]

theorem of_ratio_scale (negative : Bool) (numerator denominator factor : Nat)
    (positive : 0 < factor) :
    ofRatio negative (numerator * factor) (denominator * factor) =
      ofRatio negative numerator denominator := by
  obtain ⟨scale, _, nearest⟩ := of_ratio_eq_nearest
  rw [nearest, nearest, Nat.mul_right_comm, nearest_rank_scale _ _ _ positive]

theorem of_ratio_eq_of_cross (negative : Bool) (numerator denominator other otherDenominator : Nat)
    (positive : 0 < denominator) (otherPositive : 0 < otherDenominator)
    (same : numerator * otherDenominator = other * denominator) :
    ofRatio negative numerator denominator = ofRatio negative other otherDenominator := by
  rw [← of_ratio_scale negative numerator denominator otherDenominator otherPositive, same,
    Nat.mul_comm denominator, of_ratio_scale negative other otherDenominator denominator positive]

theorem of_ratio_zero (negative : Bool) (denominator : Nat) (positive : 0 < denominator) :
    ofRatio negative 0 denominator = zero negative := by
  obtain ⟨scale, _, nearest⟩ := of_ratio_eq_nearest
  rw [nearest, Nat.zero_mul, nearest_rank_small 0 denominator (by omega), zero]

theorem of_ratio_overflow (negative : Bool) (value power : Nat) (wide : 2 ^ power ≤ value)
    (beyond : 1025 ≤ power) : ofRatio negative value 1 = .infinite negative := by
  obtain ⟨scale, scale_eq, nearest⟩ := of_ratio_eq_nearest
  have wider : 2 ^ (power + scale) ≤ value * 2 ^ scale := by
    rw [pow_add]
    exact Nat.mul_le_mul_right _ wide
  have large := nearest_rank_large (value * 2 ^ scale) (power + scale) wider (by omega)
  rw [nearest, ofRank, dif_neg (Nat.not_lt.2 large)]

theorem of_ratio_underflow (negative : Bool) (digits power : Nat)
    (beyond : digits.log2 + 400 < power) :
    ofRatio negative digits (10 ^ power) = zero negative := by
  obtain ⟨scale, scale_eq, nearest⟩ := of_ratio_eq_nearest
  have bound : digits < 2 ^ (digits.log2 + 1) := Nat.lt_log2_self
  have small : 2 * (digits * 2 ^ scale) < 10 ^ power := by
    calc 2 * (digits * 2 ^ scale) < 2 * (2 ^ (digits.log2 + 1) * 2 ^ scale) :=
          Nat.mul_lt_mul_of_pos_left
            (Nat.mul_lt_mul_of_pos_right bound (Nat.two_pow_pos scale)) Nat.two_pos
      _ = 2 ^ (digits.log2 + 1 + scale + 1) := by rw [← pow_add, ← pow_succ']
      _ ≤ 2 ^ (3 * power) := Nat.pow_le_pow_right Nat.two_pos (by omega)
      _ ≤ 10 ^ power := eight_pow_le_ten_pow power
  rw [nearest, nearest_rank_small _ _ small, zero]

/-- A decimal is the number nearest to its value; the exponents that are decided without computing
a power are decided as the power would decide them. -/
theorem of_decimal_eq_of_ratio (negative : Bool) (digits : Nat) (exponent : Int) :
    ofDecimal negative digits exponent =
      ofRatio negative (digits * 10 ^ exponent.toNat) (10 ^ (-exponent).toNat) := by
  by_cases nothing : digits = 0
  · rw [ofDecimal, if_pos nothing, nothing, Nat.zero_mul,
      of_ratio_zero _ _ (Nat.pow_pos (by norm_num))]
  by_cases high : 400 < exponent
  · have noDenominator : (-exponent).toNat = 0 := by omega
    have wide : 2 ^ (3 * exponent.toNat) ≤ digits * 10 ^ exponent.toNat :=
      (eight_pow_le_ten_pow exponent.toNat).trans
        (Nat.le_mul_of_pos_left _ (Nat.pos_of_ne_zero nothing))
    rw [ofDecimal, if_neg nothing, if_pos high, noDenominator, pow_zero,
      of_ratio_overflow negative _ _ wide (by omega)]
  by_cases low : digits.log2 + exponent < -400
  · have noNumerator : exponent.toNat = 0 := by omega
    rw [ofDecimal, if_neg nothing, if_neg high, if_pos low, noNumerator, pow_zero, Nat.mul_one,
      of_ratio_underflow negative digits _ (by omega)]
  rw [ofDecimal, if_neg nothing, if_neg high, if_neg low]
  by_cases whole : 0 ≤ exponent
  · have noDenominator : (-exponent).toNat = 0 := by omega
    rw [if_pos whole, noDenominator, pow_zero]
  · have noNumerator : exponent.toNat = 0 := by omega
    rw [if_neg whole, noNumerator, pow_zero, Nat.mul_one]

/-- A zero at the end of the digits can move into the exponent. -/
theorem of_decimal_ten_mul (negative : Bool) (digits : Nat) (exponent : Int) :
    ofDecimal negative (digits * 10) exponent = ofDecimal negative digits (exponent + 1) := by
  rw [of_decimal_eq_of_ratio, of_decimal_eq_of_ratio]
  apply of_ratio_eq_of_cross
  · exact Nat.pow_pos (by norm_num)
  · exact Nat.pow_pos (by norm_num)
  · by_cases whole : 0 ≤ exponent
    · have up : (exponent + 1).toNat = exponent.toNat + 1 := by omega
      have none : (-exponent).toNat = 0 := by omega
      have noneAfter : (-(exponent + 1)).toNat = 0 := by omega
      rw [up, none, noneAfter, pow_succ]
      ring
    · have none : exponent.toNat = 0 := by omega
      have noneAfter : (exponent + 1).toNat = 0 := by omega
      have down : (-exponent).toNat = (-(exponent + 1)).toNat + 1 := by omega
      rw [none, noneAfter, down, pow_succ]
      ring

theorem of_decimal_ten_pow_mul (negative : Bool) (digits count : Nat) (exponent : Int) :
    ofDecimal negative (digits * 10 ^ count) exponent =
      ofDecimal negative digits (exponent + count) := by
  induction count generalizing exponent with
  | zero => simp
  | succ count ih =>
      rw [pow_succ, ← Nat.mul_assoc, of_decimal_ten_mul, ih]
      congr 1
      push_cast
      ring

end Double

end Stubwright.Decimal
