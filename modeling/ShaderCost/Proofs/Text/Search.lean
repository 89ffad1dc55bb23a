import Mathlib.Data.List.TakeWhile
import ShaderCost.Proofs.Text.Words

/-!
Searches in a text that goes on behind a place. A spelling that does not hold the character at that
place is found on one side of it or on the other, so that what stands before it is read as if the
text ended there.
-/

namespace ShaderCost.Text

theorem after_spelled {word text rest : Text} (found : after? word text = some rest) :
    text = word ++ rest := by
  induction word generalizing text with
  | nil => exact Option.some.inj found
  | cons c word induction =>
      cases text with
      | nil => simp [after?] at found
      | cons d text =>
          rw [after?] at found
          split at found
          · rename_i same
            rw [same, induction found, List.cons_append]
          · simp at found

theorem after_append {start more : Text} (apart : ∀ d ∈ more.head?, d ∉ start) (text : Text) :
    after? start (text ++ more) = (after? start text).map (· ++ more) := by
  induction start generalizing text with
  | nil => rfl
  | cons c start induction =>
      have later : ∀ d ∈ more.head?, d ∉ start :=
        fun d first member => apart d first (List.mem_cons_of_mem c member)
      cases text with
      | nil =>
          cases more with
          | nil => rfl
          | cons d more =>
              have differ : c ≠ d := fun same => apart d rfl (same ▸ List.mem_cons_self)
              have here : after? (c :: start) (d :: more) = none := by rw [after?, if_neg differ]
              exact here
      | cons d text =>
          rw [List.cons_append, after?, after?, induction later]
          split <;> rfl

theorem folded_append {phrase more : Text}
    (apart : ∀ d ∈ more.head?, ∀ c ∈ phrase, fold c ≠ fold d) (text : Text) :
    afterFolded? phrase (text ++ more) = (afterFolded? phrase text).map (· ++ more) := by
  induction phrase generalizing text with
  | nil => rfl
  | cons c phrase induction =>
      have later : ∀ d ∈ more.head?, ∀ c ∈ phrase, fold c ≠ fold d :=
        fun d first letter member => apart d first letter (List.mem_cons_of_mem c member)
      cases text with
      | nil =>
          cases more with
          | nil => rfl
          | cons d more =>
              have here : afterFolded? (c :: phrase) (d :: more) = none := by
                rw [afterFolded?, if_neg (apart d rfl c List.mem_cons_self)]
              exact here
      | cons d text =>
          rw [List.cons_append, afterFolded?, afterFolded?, induction later]
          split <;> rfl

/-- A phrase stands at the start of a text when the text starts with some spelling of it. -/
theorem after_folded_iff {phrase text rest : Text} : afterFolded? phrase text = some rest ↔
    ∃ spelled, text = spelled ++ rest ∧ spelled.map fold = phrase.map fold := by
  induction phrase generalizing text with
  | nil =>
      constructor
      · intro found
        exact ⟨[], Option.some.inj found, rfl⟩
      · rintro ⟨spelled, rfl, same⟩
        rw [List.map_eq_nil_iff.mp same]
        rfl
  | cons c phrase induction =>
      cases text with
      | nil =>
          constructor
          · intro found
            cases found
          · rintro ⟨spelled, nothing, same⟩
            rw [(List.append_eq_nil_iff.mp nothing.symm).1] at same
            cases same
      | cons d text =>
          rw [afterFolded?]
          constructor
          · intro found
            split at found
            · rename_i first
              obtain ⟨spelled, rfl, same⟩ := induction.mp found
              exact ⟨d :: spelled, rfl, by rw [List.map_cons, List.map_cons, first, same]⟩
            · cases found
          · rintro ⟨spelled, whole, same⟩
            cases spelled with
            | nil => cases same
            | cons e spelled =>
                obtain ⟨rfl, rfl⟩ := List.cons.inj whole
                obtain ⟨first, others⟩ := List.cons.inj same
                rw [if_pos first.symm]
                exact induction.mpr ⟨spelled, rfl, others⟩

theorem folded_first {phrase text rest : Text} {c : Char}
    (first : phrase.head?.map fold = some c) (found : afterFolded? phrase text = some rest) :
    text.head?.map fold = some c := by
  cases phrase with
  | nil => simp at first
  | cons letter phrase =>
      cases text with
      | nil => simp [afterFolded?] at found
      | cons d text =>
          rw [afterFolded?] at found
          split at found
          · rename_i same
            rw [List.head?_cons, Option.map_some, ← same]
            exact first
          · simp at found

theorem trimStart_append {text : Text} (solid : isAllBlank text = false) (more : Text) :
    trimStart (text ++ more) = trimStart text ++ more := by
  have left : ¬ (text.dropWhile isBlank).isEmpty = true := by
    rw [List.isEmpty_iff, List.dropWhile_eq_nil_iff, ← List.all_eq_true, ← isAllBlank, solid]
    exact Bool.false_ne_true
  rw [trimStart, List.dropWhile_append, if_neg left, trimStart]

theorem trimStart_gap {gap : Text} (blank : ∀ c ∈ gap, isBlank c = true) {c : Char}
    (solid : isBlank c = false) (rest : Text) : trimStart (gap ++ c :: rest) = c :: rest := by
  rw [trimStart, List.dropWhile_append_of_pos blank, List.dropWhile_cons_of_neg (by simp [solid])]

/-- A run of characters of one class ends where a mark outside of the class stands. -/
theorem class_divided {class? : Char → Bool} {mark : Char} (outside : class? mark = false)
    (text more : Text) : (text ++ mark :: more).takeWhile class? = text.takeWhile class? ∧
      (text ++ mark :: more).dropWhile class? = text.dropWhile class? ++ mark :: more := by
  induction text with
  | nil => simp [outside]
  | cons c text induction =>
      by_cases inside : class? c = true
      · simpa [inside] using induction
      · simp [inside]

theorem contains_iff {needle text : Text} : contains needle text = true ↔ needle <:+: text := by
  induction text with
  | nil => rw [contains, List.isEmpty_iff, List.infix_nil]
  | cons c rest induction =>
      rw [contains, Bool.or_eq_true, List.isPrefixOf_iff_prefix, induction, List.infix_cons_iff]

theorem prefix_divided {needle : Text} {mark : Char} (apart : mark ∉ needle) (text more : Text) :
    needle.isPrefixOf (text ++ mark :: more) = needle.isPrefixOf text := by
  induction needle generalizing text with
  | nil => rw [List.isPrefixOf_nil_left, List.isPrefixOf_nil_left]
  | cons c needle induction =>
      rw [List.mem_cons, not_or] at apart
      cases text with
      | nil =>
          have differ : (c == mark) = false := by simpa using Ne.symm apart.1
          rw [List.nil_append, List.isPrefixOf_cons_cons, differ]
          rfl
      | cons d text =>
          rw [List.cons_append, List.isPrefixOf_cons_cons, List.isPrefixOf_cons_cons,
            induction apart.2]

/-- What does not hold a mark occurs before the mark or behind it. -/
theorem contains_divided {needle : Text} {mark : Char} (apart : mark ∉ needle) (text more : Text) :
    contains needle (text ++ mark :: more) = (contains needle text || contains needle more) := by
  induction text with
  | nil =>
      have start : contains needle (mark :: more) =
          (needle.isPrefixOf (mark :: more) || contains needle more) := by rw [contains]
      have here := prefix_divided apart [] more
      rw [List.nil_append] at here ⊢
      rw [start, here]
      cases needle <;> rfl
  | cons c text induction =>
      have here := prefix_divided apart (c :: text) more
      rw [List.cons_append] at here ⊢
      rw [contains, here, induction, contains, Bool.or_assoc]

end ShaderCost.Text
