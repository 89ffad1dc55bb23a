import ShaderCost.Proofs.Files.Naming
import ShaderCost.Proofs.Text.Numeral

/-!
Stems of stage files. A stem ends in the number of its variant, whatever the pass is called, so
that no two variants of a batch share a file.
-/

namespace ShaderCost

/-- A text of some digits, with nothing or an underscore right before them. -/
def EndsNumbered (digits text : Text) : Prop :=
  ∃ front : Text, text = front ++ digits ∧ ∀ c ∈ front.getLast?, c = '_'

theorem digit_keeps {c : Char} (digit : c.isDigit = true) :
    isStemChar c = true ∧ isStemEdge c = false ∧ Text.isBlank c = false ∧ c ≠ '_' := by
  have bounds : 48 ≤ c.toNat ∧ c.toNat ≤ 57 := by
    rw [Char.isDigit, Bool.and_eq_true, decide_eq_true_eq, decide_eq_true_eq] at digit
    exact digit
  have point : ∀ other : Char, other.toNat < 48 ∨ 57 < other.toNat → c ≠ other := by
    rintro other outside rfl
    omega
  refine ⟨?_, ?_, ?_, point '_' (by decide)⟩
  · simp [isStemChar, Char.isAlphanum, digit]
  · simp [isStemEdge, point '_' (by decide), point '.' (by decide)]
  · simp only [Text.isBlank, Bool.or_eq_false_iff, Bool.and_eq_false_iff, decide_eq_false_iff_not,
      beq_eq_false_iff_ne]
    omega

theorem dropWhile_digits {drops : Char → Bool} {digits : Text} (number : Digits digits)
    (keeps : ∀ c : Char, c.isDigit = true → drops c = false) (front : Text) :
    (front ++ digits).dropWhile drops = front.dropWhile drops ++ digits := by
  obtain ⟨d, rest, spelled⟩ := List.exists_cons_of_ne_nil number.filled
  have kept : digits.dropWhile drops = digits := by
    have first : d.isDigit = true := number.decimal d (by simp [spelled])
    rw [spelled, List.dropWhile_cons_of_neg (by simp [keeps d first])]
  rw [List.dropWhile_append]
  split
  · rename_i all
    rw [List.isEmpty_iff.mp all, kept, List.nil_append]
  · rfl

theorem ends_numbered_dropWhile {drops : Char → Bool} {digits text : Text}
    (number : Digits digits) (keeps : ∀ c : Char, c.isDigit = true → drops c = false)
    (ends : EndsNumbered digits text) : EndsNumbered digits (text.dropWhile drops) := by
  obtain ⟨front, rfl, last⟩ := ends
  refine ⟨front.dropWhile drops, dropWhile_digits number keeps front, ?_⟩
  intro c member
  cases rest : front.dropWhile drops with
  | nil => simp [rest] at member
  | cons d tail =>
      apply last
      have whole := List.takeWhile_append_dropWhile (p := drops) (l := front)
      rw [← whole, rest, List.getLast?_append, ← rest, member]
      rfl

theorem join_unsafe_digits (afterUnderscore : Bool) {digits : Text}
    (decimal : ∀ c ∈ digits, c.isDigit = true) : joinUnsafe afterUnderscore digits = digits := by
  induction digits generalizing afterUnderscore with
  | nil => rfl
  | cons c digits induction =>
      rw [joinUnsafe, if_pos (digit_keeps (decimal c List.mem_cons_self)).1,
        induction false fun d member => decimal d (List.mem_cons_of_mem c member)]

theorem join_unsafe_append (afterUnderscore : Bool) (front : Text) {digits : Text}
    (number : Digits digits) :
    joinUnsafe afterUnderscore (front ++ digits) = joinUnsafe afterUnderscore front ++ digits := by
  fun_induction joinUnsafe afterUnderscore front with
  | case1 flag => exact join_unsafe_digits flag number.decimal
  | case2 flag c front keeps induction => simp [joinUnsafe, keeps, induction]
  | case3 c front outside induction => simp [joinUnsafe, outside, induction]
  | case4 flag c front outside fresh induction => simp [joinUnsafe, outside, fresh, induction]

/-- An underscore at the end of a text stays there, or falls to the one before it. -/
theorem join_unsafe_ending (afterUnderscore : Bool) {front : Text}
    (last : ∀ c ∈ front.getLast?, c = '_') :
    ∀ c ∈ (joinUnsafe afterUnderscore front).getLast?, c = '_' := by
  induction front generalizing afterUnderscore with
  | nil => simp [joinUnsafe]
  | cons c front induction =>
      cases front with
      | nil =>
          obtain rfl : c = '_' := last c rfl
          cases afterUnderscore <;> simp [joinUnsafe, isStemChar]
      | cons d front =>
          have later : ∀ c ∈ (d :: front).getLast?, c = '_' := by
            intro e member
            apply last
            rw [List.getLast?_cons_cons]
            exact member
          rw [joinUnsafe]
          split
          · obtain ⟨e, rest, spelled⟩ : ∃ e rest, joinUnsafe false (d :: front) = e :: rest := by
              rw [joinUnsafe]
              split <;> simp
            rw [spelled, List.getLast?_cons_cons, ← spelled]
            exact induction false later
          · split
            · exact induction true later
            · cases rest : joinUnsafe true (d :: front) with
              | nil => simp
              | cons e tail =>
                  rw [List.getLast?_cons_cons, ← rest]
                  exact induction true later

/-- The stem of a text that ends in a number ends in the same number. -/
theorem ends_numbered_safe {digits text : Text} (number : Digits digits)
    (ends : EndsNumbered digits text) : EndsNumbered digits (safeStem text) := by
  have blank : ∀ c : Char, c.isDigit = true → Text.isBlank c = false :=
    fun c digit => (digit_keeps digit).2.2.1
  have edge : ∀ c : Char, c.isDigit = true → isStemEdge c = false :=
    fun c digit => (digit_keeps digit).2.1
  obtain ⟨d, spelled⟩ : ∃ d, digits.getLast? = some d :=
    ⟨_, List.getLast?_eq_some_getLast number.filled⟩
  have lastDigit : d.isDigit = true := number.decimal d (List.mem_of_getLast? spelled)
  obtain ⟨started, startedEq, startedLast⟩ := ends_numbered_dropWhile number blank ends
  have trimmed : Text.trim text = started ++ digits := by
    rw [Text.trim, Text.trimStart, startedEq]
    apply Text.trimEnd_of_ending
    intro c member
    rw [List.getLast?_append, spelled, Option.some_or, Option.mem_some] at member
    exact member ▸ blank d lastDigit
  have joined : EndsNumbered digits (joinUnsafe false (Text.trim text)) := by
    rw [trimmed, join_unsafe_append false started number]
    exact ⟨_, rfl, join_unsafe_ending false startedLast⟩
  obtain ⟨inner, innerEq, innerLast⟩ := ends_numbered_dropWhile number edge joined
  have kept : (inner ++ digits).rdropWhile isStemEdge = inner ++ digits := by
    apply edgeless_ending
    intro c member
    rw [List.getLast?_append, spelled, Option.some_or, Option.mem_some] at member
    exact member ▸ edge d lastDigit
  refine ⟨inner, ?_, innerLast⟩
  rw [safe_stem_eq, withoutEdges, innerEq, kept, if_neg (by simp [number.filled])]

/-- The number at the end of a text can be read off it. -/
theorem ends_numbered_unique {left right text : Text} (leftNumber : Digits left)
    (rightNumber : Digits right) (leftEnds : EndsNumbered left text)
    (rightEnds : EndsNumbered right text) : left = right := by
  have read : ∀ digits : Text, Digits digits → EndsNumbered digits text →
      (text.reverse.takeWhile (· != '_')).reverse = digits := by
    rintro digits number ⟨front, rfl, last⟩
    rw [List.reverse_append, List.takeWhile_append_of_pos]
    · cases reversed : front.reverse with
      | nil => simp
      | cons c rest =>
          have under : c = '_' := by
            apply last
            rw [List.getLast?_eq_head?_reverse, reversed]
            rfl
          simp [under]
    · intro c member
      rw [List.mem_reverse] at member
      simpa using (digit_keeps (number.decimal c member)).2.2.2
  rw [← read left leftNumber leftEnds, read right rightNumber rightEnds]

theorem file_stem_numbered (variant : Dump.Variant) (index : Nat) :
    EndsNumbered (Text.ofNat index) (variant.fileStem index) := by
  apply ends_numbered_safe (digits_of_nat index)
  exact ⟨variant.key.passName ++ "_", rfl, by simp⟩

end ShaderCost
