import ShaderCost.Proofs.Text.Words

/-!
Letters, whichever case they are written in. What folds to a letter belongs to a word, and neither
blanks nor digits fold to one. The classes of characters that a report is read by do not tell the
two cases of an ASCII letter apart, which is checked on the ASCII characters alone because no other
character changes when it is lowered.
-/

namespace ShaderCost.Text

theorem letter_of_toLower {c : Char} (lower : c.toLower.isLower = true) :
    c.toNat < 128 ∧ c.isAlphanum = true := by
  have letter : c.isLower = true ∨ c.isUpper = true := by
    delta Char.toLower at lower
    split at lower
    · rename_i upper
      exact .inr (decide_eq_true upper)
    · exact .inl lower
  have small : c.toNat < 128 := by
    rcases letter with lower | upper
    · delta Char.isLower at lower
      simp only [Bool.and_eq_true, decide_eq_true_eq, ge_iff_le, UInt32.le_iff_toNat_le,
        Char.reduceVal, UInt32.reduceToNat] at lower
      exact Nat.lt_of_le_of_lt lower.2 (by decide)
    · delta Char.isUpper at upper
      simp only [decide_eq_true_eq, ge_iff_le, UInt32.le_iff_toNat_le, Char.reduceVal,
        UInt32.reduceToNat] at upper
      exact Nat.lt_of_le_of_lt upper.2 (by decide)
  have either : c.isAlphanum = (c.isUpper || c.isLower || c.isDigit) := rfl
  refine ⟨small, ?_⟩
  rw [either]
  rcases letter with lower | upper
  · simp [lower]
  · simp [upper]

/-- What folds to a letter belongs to a word. -/
theorem word_of_fold {c : Char} (lower : (fold c).isLower = true) : isWord c = true := by
  rw [fold] at lower
  split at lower
  · rename_i long
    rw [long]
    decide
  · split at lower
    · rename_i sign
      rw [sign]
      decide +kernel
    · obtain ⟨ascii, letter⟩ := letter_of_toLower lower
      rw [isWord, if_pos ascii, letter, Bool.true_or]

theorem blank_no_letter {c : Char} (blank : isBlank c = true) : isFoldedLetter c = false := by
  rw [← Bool.not_eq_true]
  intro letter
  have outside := blank_no_word blank
  rw [word_of_fold letter] at outside
  cases outside

theorem blank_no_digit {c : Char} (blank : isBlank c = true) : isDecimalDigit c = false := by
  have none : ∀ point ∈ blankPoints, isDecimalDigit (Char.ofNat point) = false := by decide
  have here := none c.toNat (blank_point blank)
  rwa [Char.ofNat_toNat] at here

theorem lower_beyond {c : Char} (beyond : 128 ≤ c.toNat) : c.toLower = c := by
  delta Char.toLower
  split
  · rename_i upper
    have bound := upper.2
    simp only [UInt32.le_iff_toNat_le, Char.reduceVal, UInt32.reduceToNat] at bound
    simp only [Char.toNat] at beyond
    omega
  · rfl

theorem upper_beyond {c : Char} (beyond : 128 ≤ c.toNat) : c.toUpper = c := by
  delta Char.toUpper
  split
  · rename_i lower
    have bound := lower.2
    simp only [UInt32.le_iff_toNat_le, Char.reduceVal, UInt32.reduceToNat] at bound
    simp only [Char.toNat] at beyond
    omega
  · rfl

/-- What lowering keeps of every ASCII character it keeps of every character. -/
theorem lower_keeps {Item : Type} {view : Char → Item}
    (ascii : ∀ point < 128, view (Char.ofNat point).toLower = view (Char.ofNat point)) (c : Char) :
    view c.toLower = view c := by
  by_cases small : c.toNat < 128
  · have here := ascii c.toNat small
    rwa [Char.ofNat_toNat] at here
  · rw [lower_beyond (Nat.le_of_not_lt small)]

theorem fold_lower (c : Char) : fold c.toLower = fold c := lower_keeps (by decide) c

theorem blank_lower (c : Char) : isBlank c.toLower = isBlank c := lower_keeps (by decide) c

theorem word_lower (c : Char) : isWord c.toLower = isWord c := lower_keeps (by decide) c

theorem digit_lower (c : Char) : isDecimalDigit c.toLower = isDecimalDigit c :=
  lower_keeps (by decide) c

theorem upper_lower (c : Char) : c.toLower.toUpper = c.toUpper := lower_keeps (by decide) c

theorem upper_lower_text (text : Text) : toUpper (toLower text) = toUpper text := by
  rw [toUpper, toLower, List.map_map, toUpper]
  exact List.map_congr_left fun c _ => upper_lower c

end ShaderCost.Text
