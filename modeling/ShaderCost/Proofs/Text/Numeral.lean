import ShaderCost.Text.Numeral

/-!
Decimal numerals of naturals. Reading the digits of a natural gives it back, and no zero stands in
front of another digit. Digits spell less than the power of ten of their number, and what is read
under a limit is below it.
-/

namespace ShaderCost

/-- At least one digit, and nothing else. -/
structure Digits (digits : Text) : Prop where
  filled : digits ≠ []
  decimal : ∀ c ∈ digits, c.isDigit = true

theorem digits_of_nat (number : Nat) : Digits (Text.ofNat number) where
  filled := Nat.toDigits_ne_nil
  decimal := fun _ member => Nat.isDigit_of_mem_toDigits (by decide) (by decide) member

theorem of_nat_starts (number : Nat) :
    ∃ digit digits, Text.ofNat number = digit :: digits ∧ digit.isDigit = true := by
  obtain ⟨filled, decimal⟩ := digits_of_nat number
  obtain ⟨digit, digits, spelled⟩ := List.exists_cons_of_ne_nil filled
  rw [spelled] at decimal
  exact ⟨digit, digits, spelled, decimal digit List.mem_cons_self⟩

theorem digits_value_of_nat (number : Nat) : Text.digitsValue (Text.ofNat number) = number :=
  Nat.ofDigitChars_ten_toDigits

theorem digits_value_append (front digits : Text) : Text.digitsValue (front ++ digits) =
    tenTo digits.length * Text.digitsValue front + Text.digitsValue digits := by
  have shift := Nat.ofDigitChars_append (b := 10) (l := front) (m := digits) 0
  rw [Nat.ofDigitChars_eq_ofDigitChars_zero (l := digits)] at shift
  exact shift

theorem digits_value_bound {digits : Text} (decimal : ∀ c ∈ digits, c.isDigit = true) :
    Text.digitsValue digits < tenTo digits.length := by
  have folded (start : Nat) : digits.foldl
      (fun value digit => 10 * value + (digit.toNat - '0'.toNat)) start <
        (start + 1) * tenTo digits.length := by
    induction digits generalizing start with
    | nil => simp [tenTo]
    | cons c digits induction =>
        rw [List.forall_mem_cons] at decimal
        have small : c.toNat - '0'.toNat ≤ 9 := by
          have digit := decimal.1
          rw [Char.isDigit, Bool.and_eq_true, decide_eq_true_eq, decide_eq_true_eq] at digit
          have most := UInt32.le_iff_toNat_le.mp digit.2
          exact Nat.sub_le_of_le_add most
        have next := induction decimal.2 (10 * start + (c.toNat - '0'.toNat))
        have shift : tenTo (digits.length + 1) = 10 * tenTo digits.length := by
          rw [tenTo, tenTo, Nat.pow_eq, Nat.pow_eq, Nat.pow_succ, Nat.mul_comm]
        rw [List.foldl_cons, List.length_cons, shift, ← Nat.mul_assoc]
        exact Nat.lt_of_lt_of_le next (Nat.mul_le_mul_right _ (by omega))
  have whole := folded 0
  rwa [Nat.zero_add, Nat.one_mul] at whole

theorem ofNat_injective {left right : Nat} (same : Text.ofNat left = Text.ofNat right) :
    left = right := by
  rw [← digits_value_of_nat left, same, digits_value_of_nat]

theorem of_nat_first_zero {number : Nat} (first : (Text.ofNat number).head? = some '0') :
    number = 0 := by
  induction number using Nat.strongRecOn with
  | ind number induction =>
      have shape := Nat.toDigits_eq_if (b := 10) (n := number) (by decide)
      rw [Text.ofNat, shape] at first
      split at first
      · rename_i small
        have digits : ∀ digit < 10, Nat.digitChar digit = '0' → digit = 0 := by decide
        exact digits number small (Option.some.inj first)
      · rename_i large
        obtain ⟨c, rest, spelled⟩ :=
          List.exists_cons_of_ne_nil (digits_of_nat (number / 10)).filled
        have front : (Text.ofNat (number / 10)).head? = some '0' := by
          rw [Text.ofNat] at spelled ⊢
          rw [spelled] at first ⊢
          exact first
        have zero := induction (number / 10) (by omega) front
        omega

/-- Digits are taken up to the first character that is none. -/
theorem digits_taken {digits rest : Text} (decimal : ∀ c ∈ digits, c.isDigit = true)
    (stop : ∀ c ∈ rest.head?, c.isDigit = false) :
    (digits ++ rest).takeWhile Char.isDigit = digits ∧
      (digits ++ rest).dropWhile Char.isDigit = rest := by
  rw [List.takeWhile_append_of_pos decimal, List.dropWhile_append_of_pos decimal]
  cases rest with
  | nil => exact ⟨List.append_nil digits, rfl⟩
  | cons c rest =>
      have here : ¬ c.isDigit = true := by simp [stop c rfl]
      rw [List.takeWhile_cons_of_neg here, List.dropWhile_cons_of_neg here, List.append_nil]
      exact ⟨rfl, rfl⟩

theorem nat_below_bound {limit number : Nat} {text : Text}
    (read : Text.natBelow? limit text = some number) : number < limit := by
  obtain ⟨_, below⟩ := Option.filter_eq_some_iff.mp read
  exact of_decide_eq_true below

theorem signed_nat_below_bound {limit number : Nat} {text : Text}
    (read : Text.signedNatBelow? limit text = some number) : number < limit := by
  rw [Text.signedNatBelow?.eq_def] at read
  split at read <;> exact nat_below_bound read

end ShaderCost
