import ShaderCost.Binary64.Decimal
import ShaderCost.Proofs.Binary64.Whole
import ShaderCost.Proofs.Text.Numeral

/-!
Quotients that are rounded to binary64 numbers. The exponent of a quotient leaves it a mantissa of
53 bits, or fewer where the exponent is the least one. From halfway between the greatest number and
the next power of two on a quotient is rounded to infinity, and below that to a number. Decimals are
rounded as the quotients that they are, however long they are and whatever their exponent.
-/

namespace ShaderCost.Binary64

/-- Whether a quotient of naturals is below a power of two. -/
def BelowPower (numerator denominator : Nat) (power : Int) : Prop :=
  numerator * twoTo (-power).toNat < denominator * twoTo power.toNat

theorem below_power_iff {numerator denominator : Nat} {power : Int} (left right : Nat)
    (gap : (right : Int) - left = power) :
    numerator * twoTo left < denominator * twoTo right ↔
      BelowPower numerator denominator power := by
  obtain ⟨common, leftEq, rightEq⟩ : ∃ common, left = (-power).toNat + common ∧
      right = power.toNat + common := ⟨min left right, by omega, by omega⟩
  rw [BelowPower, leftEq, rightEq, two_to_add, two_to_add, ← Nat.mul_assoc, ← Nat.mul_assoc]
  exact Nat.mul_lt_mul_right (two_to_positive common)

theorem below_power_mono {numerator denominator : Nat} {power other : Int} (atMost : power ≤ other)
    (below : BelowPower numerator denominator power) : BelowPower numerator denominator other := by
  have gap : ((power.toNat + (other - power).toNat : Nat) : Int) - ((-power).toNat : Nat) = other := by
    omega
  rw [← below_power_iff _ _ gap, two_to_add, ← Nat.mul_assoc]
  exact Nat.lt_of_lt_of_le below (Nat.le_mul_of_pos_right _ (two_to_positive _))

theorem below_power_whole {numerator denominator power : Nat} :
    BelowPower numerator denominator power ↔ numerator < twoTo power * denominator := by
  have whole := @below_power_iff numerator denominator power 0 power (by omega)
  have one : twoTo 0 = 1 := by decide
  rw [← whole, one, Nat.mul_one, Nat.mul_comm denominator]

/-- The leading bits of numerator and denominator bound their quotient on either side. -/
theorem leading_bits {numerator denominator : Nat} (filled : numerator ≠ 0)
    (positive : denominator ≠ 0) :
    BelowPower numerator denominator (numerator.log2 - denominator.log2 + 1) ∧
      ¬ BelowPower numerator denominator (numerator.log2 - denominator.log2 - 1) := by
  have above : numerator < twoTo (numerator.log2 + 1) := Nat.lt_log2_self
  have least : twoTo denominator.log2 ≤ denominator := Nat.log2_self_le positive
  have most : twoTo numerator.log2 ≤ numerator := Nat.log2_self_le filled
  have under : denominator < twoTo (denominator.log2 + 1) := Nat.lt_log2_self
  constructor
  · rw [← below_power_iff denominator.log2 (numerator.log2 + 1) (by omega)]
    calc numerator * twoTo denominator.log2
        < twoTo (numerator.log2 + 1) * twoTo denominator.log2 :=
          Nat.mul_lt_mul_of_pos_right above (two_to_positive _)
      _ ≤ twoTo (numerator.log2 + 1) * denominator := Nat.mul_le_mul_left _ least
      _ = denominator * twoTo (numerator.log2 + 1) := Nat.mul_comm _ _
  · rw [← below_power_iff (denominator.log2 + 1) numerator.log2 (by omega),
      Nat.not_lt]
    calc denominator * twoTo numerator.log2
        ≤ twoTo (denominator.log2 + 1) * numerator :=
          Nat.mul_le_mul (Nat.le_of_lt under) most
      _ = numerator * twoTo (denominator.log2 + 1) := Nat.mul_comm _ _

/-- At its exponent a quotient has 53 bits, or fewer at the least exponent. -/
structure Scaled (numerator denominator : Nat) (exponent : Int) : Prop where
  least : -1074 ≤ exponent
  below : BelowPower numerator denominator (exponent + 53)
  filled : -1074 < exponent → ¬ BelowPower numerator denominator (exponent + 52)

theorem exponent_scaled {numerator denominator : Nat} (filled : numerator ≠ 0)
    (positive : denominator ≠ 0) :
    Scaled numerator denominator (exponentOf numerator denominator) := by
  obtain ⟨above, under⟩ := leading_bits filled positive
  -- the leading bits leave two candidates, and the comparison picks the one with enough bits
  obtain ⟨estimate, estimated⟩ :
      ∃ estimate : Int, estimate = numerator.log2 - denominator.log2 - 52 := ⟨_, rfl⟩
  have short : numerator * twoTo (-estimate).toNat <
      twoTo 52 * (denominator * twoTo estimate.toNat) ↔
        BelowPower numerator denominator (estimate + 52) := by
    rw [← below_power_iff (-estimate).toNat (estimate.toNat + 52) (by omega),
      two_to_add, ← Nat.mul_assoc denominator, Nat.mul_comm (twoTo 52)]
  have exponent : exponentOf numerator denominator = max
      (if numerator * twoTo (-estimate).toNat < twoTo 52 * (denominator * twoTo estimate.toNat)
        then estimate - 1 else estimate) (-1074) := by
    rw [estimated]
    rfl
  have upper : BelowPower numerator denominator (estimate + 53) := by
    rwa [show estimate + 53 = numerator.log2 - denominator.log2 + 1 by omega]
  have lower : ¬ BelowPower numerator denominator (estimate + 51) := by
    rwa [show estimate + 51 = numerator.log2 - denominator.log2 - 1 by omega]
  rw [exponent]
  split
  · rename_i isShort
    have here := short.mp isShort
    refine ⟨by omega, below_power_mono (by omega) here, fun inside below => lower ?_⟩
    rwa [show estimate + 51 = max (estimate - 1) (-1074) + 52 by omega]
  · rename_i isLong
    refine ⟨by omega, below_power_mono (by omega) upper, fun inside below => isLong (short.mpr ?_)⟩
    rwa [show estimate + 52 = max estimate (-1074) + 52 by omega]

theorem mantissa_bounds {numerator denominator : Nat} {exponent : Int} (positive : denominator ≠ 0)
    (scaled : Scaled numerator denominator exponent) :
    roundScaled numerator denominator exponent ≤ twoTo 53 ∧
      (-1074 < exponent → twoTo 52 ≤ roundScaled numerator denominator exponent) := by
  have divisor : 0 < denominator * twoTo exponent.toNat :=
    Nat.mul_pos (Nat.pos_of_ne_zero positive) (two_to_positive _)
  have bits (count : Nat) : numerator * twoTo (-exponent).toNat <
      twoTo count * (denominator * twoTo exponent.toNat) ↔
        BelowPower numerator denominator (exponent + count) := by
    rw [← below_power_iff (-exponent).toNat (exponent.toNat + count) (by omega),
      two_to_add, ← Nat.mul_assoc denominator, Nat.mul_comm (twoTo count)]
  have most := (bits 53).mpr scaled.below
  constructor
  · exact (round_quotient_bounds divisor (Nat.zero_mul _ ▸ Nat.zero_le _) (Nat.le_of_lt most)).2
  · intro inside
    have least := Nat.le_of_not_lt (mt (bits 52).mp (scaled.filled inside))
    exact (round_quotient_bounds divisor least (Nat.le_of_lt most)).1

theorem round_quotient_near (numerator denominator : Nat) :
    numerator / denominator ≤ roundQuotient numerator denominator ∧
      roundQuotient numerator denominator ≤ numerator / denominator + 1 := by
  rw [roundQuotient]
  split
  · omega
  · split
    · omega
    · omega

/-- A quotient is rounded below an even natural if it is more than a half away from it. -/
theorem round_quotient_below_even {numerator denominator limit : Nat} (positive : 0 < denominator)
    (even : limit % 2 = 0) :
    roundQuotient numerator denominator < limit ↔
      2 * numerator + denominator < 2 * (limit * denominator) := by
  have split := Nat.div_add_mod numerator denominator
  have rest := Nat.mod_lt numerator positive
  obtain ⟨low, high⟩ := round_quotient_near numerator denominator
  rcases Nat.lt_trichotomy (numerator / denominator + 1) limit with below | here | above
  · have room : (numerator / denominator + 2) * denominator ≤ limit * denominator :=
      Nat.mul_le_mul_right denominator below
    rw [Nat.add_mul, Nat.mul_comm (numerator / denominator)] at room
    exact iff_of_true (by omega) (by omega)
  · have edge : limit * denominator = denominator * (numerator / denominator) + denominator := by
      rw [← here, Nat.add_mul, Nat.one_mul, Nat.mul_comm]
    -- the floor is odd, so that a half is rounded up to the limit
    rw [roundQuotient, edge]
    split
    · omega
    · split
      · omega
      · omega
  · have room : limit * denominator ≤ denominator * (numerator / denominator) := by
      rw [Nat.mul_comm denominator]
      exact Nat.mul_le_mul_right denominator (by omega)
    exact iff_of_false (by omega) (by omega)

/-- Halfway between the greatest number and the next power of two. -/
def overflowBound : Nat := twoTo 1024 - twoTo 970

theorem overflow_bounds : twoTo 1023 ≤ overflowBound ∧ overflowBound ≤ twoTo 1024 := by
  have double : twoTo 1024 = 2 * twoTo 1023 := two_to_succ 1023
  have lower : twoTo 970 ≤ twoTo 1023 := two_to_mono (by decide)
  rw [overflowBound]
  omega

theorem overflow_positive : 0 < overflowBound :=
  Nat.lt_of_lt_of_le (two_to_positive 1023) overflow_bounds.1

theorem overflow_halves : 2 * overflowBound + twoTo 971 = 2 * (twoTo 53 * twoTo 971) := by
  have whole : twoTo 1024 = twoTo 53 * twoTo 971 := two_to_add 53 971
  have double : twoTo 971 = 2 * twoTo 970 := two_to_succ 970
  have lower : twoTo 970 ≤ twoTo 1024 := two_to_mono (by decide)
  rw [← whole, overflowBound]
  omega

theorem magnitude_below_infinity {numerator denominator : Nat} {exponent : Int}
    (positive : denominator ≠ 0) (scaled : Scaled numerator denominator exponent) :
    (exponent + 1074).toNat * twoTo 52 + roundScaled numerator denominator exponent <
        infinityMagnitude ↔ numerator < overflowBound * denominator := by
  obtain ⟨most, least⟩ := mantissa_bounds positive scaled
  have double : twoTo 53 = 2 * twoTo 52 := by decide
  have top : infinityMagnitude = 2047 * twoTo 52 := rfl
  have bounds := overflow_bounds
  -- at exponent 971 stand the greatest numbers, and only there the rounding decides
  rcases Int.lt_trichotomy exponent 971 with below | rfl | above
  · have small : numerator < twoTo 1023 * denominator :=
      below_power_whole.mp (below_power_mono (by omega) scaled.below)
    have inside : numerator < overflowBound * denominator :=
      Nat.lt_of_lt_of_le small (Nat.mul_le_mul_right denominator bounds.1)
    have place : (exponent + 1074).toNat * twoTo 52 ≤ 2044 * twoTo 52 :=
      Nat.mul_le_mul_right _ (by omega)
    have positiveUnit := two_to_positive 52
    exact iff_of_true (by omega) inside
  · have unit : denominator * twoTo (971 : Int).toNat = denominator * twoTo 971 := rfl
    have whole : numerator * twoTo (-971 : Int).toNat = numerator := Nat.mul_one numerator
    have divisor : 0 < denominator * twoTo 971 :=
      Nat.mul_pos (Nat.pos_of_ne_zero positive) (two_to_positive 971)
    have edge : (971 + 1074 : Int).toNat * twoTo 52 + roundScaled numerator denominator 971 <
        infinityMagnitude ↔ roundScaled numerator denominator 971 < twoTo 53 := by
      have place : (971 + 1074 : Int).toNat = 2045 := by decide
      rw [place]
      omega
    have scaledHalves := congrArg (· * denominator) overflow_halves
    simp only [Nat.add_mul, Nat.mul_assoc] at scaledHalves
    rw [edge, roundScaled, unit, whole, round_quotient_below_even divisor (by decide),
      Nat.mul_comm denominator]
    omega
  · have large : ¬ numerator < twoTo 1024 * denominator := fun small =>
      scaled.filled (by omega) (below_power_mono (by omega) (below_power_whole.mpr small))
    have outside : ¬ numerator < overflowBound * denominator := fun inside =>
      large (Nat.lt_of_lt_of_le inside (Nat.mul_le_mul_right denominator bounds.2))
    have place : 2046 * twoTo 52 ≤ (exponent + 1074).toNat * twoTo 52 :=
      Nat.mul_le_mul_right _ (by omega)
    have bits := least (by omega)
    exact iff_of_false (by omega) outside

theorem magnitude_bits {magnitude : Nat} (atMost : magnitude ≤ infinityMagnitude) :
    (ofMagnitude false magnitude).bits.toNat = magnitude := by
  have room : infinityMagnitude < 2 ^ 64 := by decide
  rw [ofMagnitude, UInt64.toNat_ofNat', Nat.mod_eq_of_lt]
  · simp
  · simp only [Bool.false_eq_true, if_false]
    omega

theorem magnitude_finite {magnitude : Nat} (atMost : magnitude ≤ infinityMagnitude) :
    (ofMagnitude false magnitude).isFinite = true ↔ magnitude < infinityMagnitude := by
  have unit : twoTo 52 = 4503599627370496 := by decide
  have field : twoTo 11 = 2048 := by decide
  have top : infinityMagnitude = 2047 * 4503599627370496 := by decide
  rw [isFinite, bne_iff_ne, exponentField, magnitude_bits atMost, unit, field]
  rw [top] at atMost ⊢
  omega

theorem magnitude_not_negative {magnitude : Nat} (atMost : magnitude ≤ infinityMagnitude) :
    (ofMagnitude false magnitude).isNegative = false := by
  have room : infinityMagnitude < twoTo 63 := by decide
  rw [isNegative, magnitude_bits atMost, decide_eq_false_iff_not]
  omega

theorem of_ratio_finite {numerator denominator : Nat} (positive : denominator ≠ 0) :
    (ofRatio false numerator denominator).isFinite = true ↔
      numerator < overflowBound * denominator := by
  rw [ofRatio]
  split
  · rename_i zero
    rw [zero]
    exact iff_of_true (by decide) (Nat.mul_pos overflow_positive (Nat.pos_of_ne_zero positive))
  · rename_i filled
    have below := magnitude_below_infinity positive (exponent_scaled filled positive)
    rw [magnitude_finite (Nat.min_le_right _ _), ← below]
    omega

theorem of_ratio_not_negative (numerator denominator : Nat) :
    (ofRatio false numerator denominator).isNegative = false := by
  rw [ofRatio]
  split
  · exact magnitude_not_negative (Nat.zero_le _)
  · exact magnitude_not_negative (Nat.min_le_right _ _)

theorem of_ratio_infinite {numerator denominator : Nat} (negative : Bool)
    (positive : denominator ≠ 0) (large : overflowBound * denominator ≤ numerator) :
    ofRatio negative numerator denominator = infinity negative := by
  have filled : numerator ≠ 0 := by
    have some := Nat.mul_pos overflow_positive (Nat.pos_of_ne_zero positive)
    omega
  have below := magnitude_below_infinity positive (exponent_scaled filled positive)
  have magnitude := Nat.le_of_not_lt (mt below.mp (Nat.not_lt.mpr large))
  rw [ofRatio, if_neg filled, infinity]
  exact congrArg (ofMagnitude negative) (Nat.min_eq_right magnitude)

theorem of_ratio_tiny {numerator denominator : Nat} (negative : Bool)
    (tiny : 2 * (numerator * twoTo 1074) < denominator) :
    ofRatio negative numerator denominator = ofMagnitude negative 0 := by
  rw [ofRatio]
  split
  · rfl
  · rename_i filled
    have positive : denominator ≠ 0 := by omega
    have scaled := exponent_scaled filled positive
    have under : BelowPower numerator denominator (-1075) := by
      have halves : twoTo 1075 = 2 * twoTo 1074 := two_to_succ 1074
      rw [← below_power_iff 1075 0 (by decide), halves]
      have one : twoTo 0 = 1 := by decide
      rw [one, Nat.mul_one, Nat.mul_left_comm]
      exact tiny
    have least : exponentOf numerator denominator = -1074 := by
      apply Int.le_antisymm _ scaled.least
      rw [← Int.not_lt]
      intro inside
      exact scaled.filled inside (below_power_mono (by omega) under)
    have up : twoTo (-(-1074 : Int)).toNat = twoTo 1074 := rfl
    have down : twoTo (-1074 : Int).toNat = 1 := rfl
    have nothing : roundScaled numerator denominator (-1074) = 0 := by
      rw [roundScaled, up, down, Nat.mul_one, roundQuotient,
        Nat.div_eq_of_lt (by omega), Nat.mod_eq_of_lt (by omega)]
      exact if_pos tiny
    rw [least]
    simp only [nothing]
    rfl

theorem ten_to_positive (exponent : Nat) : 0 < tenTo exponent := Nat.pow_pos (by decide)

theorem ten_to_add (left right : Nat) : tenTo (left + right) = tenTo left * tenTo right :=
  Nat.pow_add 10 left right

theorem ten_to_mono {left right : Nat} (atMost : left ≤ right) : tenTo left ≤ tenTo right :=
  Nat.pow_le_pow_right (by decide) atMost

theorem two_to_below_ten_to (exponent : Nat) : twoTo (3 * exponent) ≤ tenTo exponent :=
  Nat.le_trans (Nat.le_of_eq (Nat.pow_mul 2 3 exponent))
    (Nat.pow_le_pow_left (by decide) exponent)

/-- A decimal is rounded as the quotient that it is: to settle exponents far outside the range
without forming their power changes nothing. -/
theorem of_decimal_eq (negative : Bool) (digits : Nat) (exponent : Int) :
    ofDecimal negative digits exponent =
      ofRatio negative (digits * tenTo exponent.toNat) (tenTo (-exponent).toNat) := by
  rw [ofDecimal]
  split
  · rename_i zero
    rw [zero, Nat.zero_mul, ofRatio, if_pos rfl]
  · rename_i filled
    split
    · rename_i large
      have whole : tenTo (-exponent).toNat = 1 := by
        rw [show (-exponent).toNat = 0 by omega]
        rfl
      have bound : overflowBound ≤ tenTo 400 :=
        Nat.le_trans overflow_bounds.2
          (Nat.le_trans (two_to_mono (by decide)) (two_to_below_ten_to 400))
      have power : tenTo 400 ≤ tenTo exponent.toNat := ten_to_mono (by omega)
      have some : tenTo exponent.toNat ≤ digits * tenTo exponent.toNat :=
        Nat.le_mul_of_pos_left _ (Nat.pos_of_ne_zero filled)
      symm
      apply of_ratio_infinite negative (Nat.ne_of_gt (ten_to_positive _))
      rw [whole]
      omega
    · split
      · rename_i small
        have length := digits_value_bound (digits_of_nat digits).decimal
        rw [digits_value_of_nat] at length
        have whole : tenTo exponent.toNat = 1 := by
          rw [show exponent.toNat = 0 by omega]
          rfl
        have bound : 2 * twoTo 1074 ≤ tenTo 400 := by
          rw [← two_to_succ]
          exact Nat.le_trans (two_to_mono (by decide)) (two_to_below_ten_to 400)
        have power : tenTo 400 * tenTo (Text.ofNat digits).length ≤ tenTo (-exponent).toNat := by
          rw [← ten_to_add]
          exact ten_to_mono (by rw [Text.ofNat]; omega)
        symm
        apply of_ratio_tiny negative
        rw [whole, Nat.mul_one]
        calc 2 * (digits * twoTo 1074)
            = 2 * twoTo 1074 * digits := by rw [Nat.mul_comm digits, Nat.mul_assoc]
          _ < 2 * twoTo 1074 * tenTo (Text.ofNat digits).length :=
              Nat.mul_lt_mul_of_pos_left length (Nat.mul_pos (by decide) (two_to_positive 1074))
          _ ≤ tenTo 400 * tenTo (Text.ofNat digits).length := Nat.mul_le_mul_right _ bound
          _ ≤ tenTo (-exponent).toNat := power
      · rfl

end ShaderCost.Binary64
