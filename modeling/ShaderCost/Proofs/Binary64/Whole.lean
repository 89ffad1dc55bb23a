import ShaderCost.Binary64.Basic

/-!
Whole numbers of 64 bits whose highest bit is set. Among the numbers of that size every multiple of
2048 is a binary64 number and no other is, so that a whole number is rounded to such a multiple, a
tie to the even one. Nothing else becomes of it when it is multiplied by one or read as a whole
number again, but for the least number that 64 bits cannot hold.
-/

namespace ShaderCost.Binary64

/-- A whole number of 64 bits with the highest bit set. -/
structure Large (number : Nat) : Prop where
  low : twoTo 63 ≤ number
  high : number < twoTo 64

/-- How many steps of 2048 come nearest to a number. -/
def steps (number : Nat) : Nat := roundQuotient number 2048

theorem round_quotient_bounds {numerator denominator low high : Nat} (positive : 0 < denominator)
    (atLeast : low * denominator ≤ numerator) (atMost : numerator ≤ high * denominator) :
    low ≤ roundQuotient numerator denominator ∧ roundQuotient numerator denominator ≤ high := by
  have lower : low ≤ numerator / denominator := (Nat.le_div_iff_mul_le positive).mpr atLeast
  have upper : numerator / denominator ≤ high :=
    Nat.div_le_of_le_mul (by rwa [Nat.mul_comm] at atMost)
  have split := Nat.div_add_mod numerator denominator
  have inexact : 0 < numerator % denominator → numerator / denominator < high := by
    intro rest
    apply Nat.lt_of_mul_lt_mul_left (a := denominator)
    rw [Nat.mul_comm denominator high]
    omega
  rw [roundQuotient]
  split
  · exact ⟨lower, upper⟩
  · split
    · have strict := inexact (by omega)
      omega
    · have strict := inexact (by omega)
      omega

theorem round_quotient_exact (quotient : Nat) {denominator : Nat} (positive : 0 < denominator) :
    roundQuotient (quotient * denominator) denominator = quotient := by
  have bounds := round_quotient_bounds positive (Nat.le_refl (quotient * denominator))
    (Nat.le_refl (quotient * denominator))
  exact Nat.le_antisymm bounds.2 bounds.1

theorem steps_bounds {number : Nat} (large : Large number) :
    twoTo 52 ≤ steps number ∧ steps number ≤ twoTo 53 := by
  apply round_quotient_bounds (by decide)
  · exact large.low
  · exact Nat.le_of_lt large.high

theorem two_to_add (left right : Nat) : twoTo (left + right) = twoTo left * twoTo right :=
  Nat.pow_add 2 left right

theorem two_to_succ (exponent : Nat) : twoTo (exponent + 1) = 2 * twoTo exponent :=
  Nat.pow_succ'

theorem two_to_positive (exponent : Nat) : 0 < twoTo exponent := Nat.two_pow_pos exponent

theorem two_to_mono {left right : Nat} (atMost : left ≤ right) : twoTo left ≤ twoTo right :=
  Nat.pow_le_pow_right (by decide) atMost

theorem exponent_large {numerator shift : Nat} (low : twoTo (63 + shift) ≤ numerator)
    (high : numerator < twoTo (64 + shift)) : exponentOf numerator (twoTo shift) = 11 := by
  have filled : numerator ≠ 0 := Nat.ne_of_gt (Nat.lt_of_lt_of_le (two_to_positive _) low)
  have upper : numerator.log2 < 64 + shift := (Nat.log2_lt filled).mpr high
  have lower : 63 + shift ≤ numerator.log2 := (Nat.le_log2 filled).mpr low
  have size : numerator.log2 = 63 + shift := by omega
  have unit : (twoTo shift).log2 = shift := Nat.log2_two_pow
  have estimate : ((63 + shift : Nat) : Int) - (shift : Nat) - 52 = 11 := by omega
  have long : ¬ numerator * 1 < twoTo 52 * (twoTo shift * twoTo 11) := by
    rw [two_to_add] at low
    have parts : twoTo 63 = twoTo 52 * twoTo 11 := two_to_add 52 11
    rw [parts, Nat.mul_assoc, Nat.mul_comm (twoTo 11)] at low
    omega
  rw [exponentOf, size, unit]
  simp only [estimate]
  have none : twoTo (-11 : Int).toNat = 1 := by decide
  have some : twoTo (11 : Int).toNat = twoTo 11 := by decide
  rw [none, some, if_neg (by simpa using long)]
  rfl

theorem of_ratio_large {numerator shift : Nat} (low : twoTo (63 + shift) ≤ numerator)
    (high : numerator < twoTo (64 + shift)) :
    ofRatio false numerator (twoTo shift) = ofMagnitude false
      (1085 * twoTo 52 + roundQuotient numerator (twoTo shift * 2048)) := by
  have filled : numerator ≠ 0 := Nat.ne_of_gt (Nat.lt_of_lt_of_le (two_to_positive _) low)
  have bounds : twoTo 52 ≤ roundQuotient numerator (twoTo shift * 2048) ∧
      roundQuotient numerator (twoTo shift * 2048) ≤ twoTo 53 := by
    have unit : (2048 : Nat) = twoTo 11 := by decide
    have positive : 0 < twoTo shift * 2048 := Nat.mul_pos (two_to_positive shift) (by decide)
    apply round_quotient_bounds positive
    · rw [unit, Nat.mul_comm (twoTo shift), ← Nat.mul_assoc, ← two_to_add, ← two_to_add]
      exact low
    · rw [unit, Nat.mul_comm (twoTo shift), ← Nat.mul_assoc, ← two_to_add, ← two_to_add]
      exact Nat.le_of_lt high
  have scaled : roundScaled numerator (twoTo shift) 11 =
      roundQuotient numerator (twoTo shift * 2048) := by
    have none : twoTo (-11 : Int).toNat = 1 := by decide
    have some : twoTo (11 : Int).toNat = 2048 := by decide
    rw [roundScaled, none, some, Nat.mul_one]
  have place : ((11 : Int) + 1074).toNat = 1085 := by decide
  have finite : 1085 * twoTo 52 + twoTo 53 ≤ infinityMagnitude := by decide
  rw [ofRatio, if_neg filled, exponent_large low high]
  simp only [scaled, place]
  rw [Nat.min_eq_left (by omega)]

theorem of_nat_large {number : Nat} (large : Large number) :
    ofNat number = ofMagnitude false (1085 * twoTo 52 + steps number) :=
  @of_ratio_large number 0 large.low large.high

/-- The bits of a number with a mantissa of 53 bits. -/
theorem meaning_large {mantissa : Nat} (low : twoTo 52 ≤ mantissa) (high : mantissa < twoTo 53) :
    (ofMagnitude false (1085 * twoTo 52 + mantissa)).meaning = .finite false mantissa 11 := by
  have unit : twoTo 52 = 4503599627370496 := by decide
  have field : twoTo 11 = 2048 := by decide
  have double : twoTo 53 = 9007199254740992 := by decide
  have sign : twoTo 63 = 9223372036854775808 := by decide
  rw [unit] at low ⊢
  rw [double] at high
  have bits : (ofMagnitude false (1085 * 4503599627370496 + mantissa)).bits.toNat =
      1085 * 4503599627370496 + mantissa := by
    rw [ofMagnitude, UInt64.toNat_ofNat', Nat.mod_eq_of_lt]
    · simp
    · simp only [Bool.false_eq_true, if_false]
      omega
  have exponent : (ofMagnitude false (1085 * 4503599627370496 + mantissa)).exponentField = 1086 := by
    rw [exponentField, bits, unit, field]
    omega
  have fraction : (ofMagnitude false (1085 * 4503599627370496 + mantissa)).fractionField =
      mantissa - 4503599627370496 := by
    rw [fractionField, bits, unit]
    omega
  have positive : (ofMagnitude false (1085 * 4503599627370496 + mantissa)).isNegative = false := by
    rw [isNegative, bits, sign, decide_eq_false_iff_not]
    omega
  rw [meaning, exponent, fraction, positive, unit, Nat.add_sub_cancel' low]
  rfl

theorem finite_of_meaning {value : Binary64} {negative : Bool} {mantissa : Nat} {exponent : Int}
    (found : value.meaning = .finite negative mantissa exponent) : value.isFinite = true := by
  rw [isFinite, bne_iff_ne]
  intro top
  rw [meaning, if_pos top] at found
  split at found <;> simp at found

theorem mul_one_large {mantissa : Nat} (low : twoTo 52 ≤ mantissa) (high : mantissa < twoTo 53) :
    (ofMagnitude false (1085 * twoTo 52 + mantissa)).mulMagnitudes (ofNat 1) =
      ofMagnitude false (1085 * twoTo 52 + mantissa) := by
  have one : (ofNat 1).meaning = .finite false (twoTo 52) (-52) := by decide
  have exponent : (11 : Int) + -52 = -41 := by decide
  have none : twoTo (-41 : Int).toNat = 1 := by decide
  have shift : (-(-41 : Int)).toNat = 41 := by decide
  have lower : twoTo (63 + 41) ≤ mantissa * twoTo 52 :=
    Nat.mul_le_mul_right (twoTo 52) low
  have upper : mantissa * twoTo 52 < twoTo (64 + 41) :=
    Nat.mul_lt_mul_of_pos_right high (by decide)
  have unit : twoTo 41 * 2048 = twoTo 52 := by decide
  rw [mulMagnitudes, meaning_large low high, one]
  simp only [exponent, none, shift, Nat.mul_one]
  rw [of_ratio_large lower upper, unit, round_quotient_exact mantissa (by decide)]

/-- The least number that 64 bits cannot hold. -/
theorem mul_one_limit : (ofMagnitude false (1085 * twoTo 52 + twoTo 53)).mulMagnitudes (ofNat 1) =
    ofMagnitude false (1085 * twoTo 52 + twoTo 53) := by decide

/-- A large whole number times one is the binary64 number nearest to it. -/
theorem large_times_one {number : Nat} (large : Large number) :
    (ofNat number).mulMagnitudes (ofNat 1) = ofNat number ∧ (ofNat number).isFinite = true := by
  obtain ⟨low, high⟩ := steps_bounds large
  rw [of_nat_large large]
  by_cases limit : steps number = twoTo 53
  · rw [limit]
    exact ⟨mul_one_limit, by decide⟩
  · have below : steps number < twoTo 53 := Nat.lt_of_le_of_ne high limit
    exact ⟨mul_one_large low below, finite_of_meaning (meaning_large low below)⟩

/-- The whole number that is left of a large one, within a limit of 64 bits. -/
theorem round_large {number : Nat} (large : Large number) :
    (ofNat number).roundToNat (twoTo 64 - 1) = min (twoTo 64 - 1) (2048 * steps number) := by
  obtain ⟨low, high⟩ := steps_bounds large
  rw [of_nat_large large]
  by_cases limit : steps number = twoTo 53
  · rw [limit]
    decide
  · have below : steps number < twoTo 53 := Nat.lt_of_le_of_ne high limit
    have none : twoTo (-(11 : Int)).toNat = 1 := by decide
    have some : twoTo (11 : Int).toNat = 2048 := by decide
    rw [roundToNat, meaning_large low below]
    simp only [none, some]
    congr 1
    omega

theorem round_to_nat_bound (limit : Nat) (value : Binary64) : value.roundToNat limit ≤ limit := by
  rw [roundToNat]
  split
  · exact Nat.zero_le limit
  · split
    · exact Nat.zero_le limit
    · exact Nat.le_refl limit
  · exact Nat.zero_le limit
  · exact Nat.min_le_left _ _

end ShaderCost.Binary64
