import ShaderCost.Proofs.Dump.Version

/-!
Which characters change when versions are put right. Wherever a declaration of version 3.00 stands
in a text, the middle digit of its number changes, and no other character does. Since declarations
do not overlap, those that a pass from front to back finds are all there are, and behind it there
are none.
-/

namespace ShaderCost.Dump

open Text

/-- Where the middle digit of the number stands in some declaration of version 3.00: `#version` and
`300` with blanks between them, more blanks, and `es` at the end of a word. -/
def OldDigit (text : Text) (place : Nat) : Prop :=
  ∃ front gap space behind : Text, Gap gap ∧ Gap space ∧ endsWord behind = true ∧
    text = front ++ ("#version" ++ gap ++ "300" ++ space ++ "es" ++ behind) ∧
    place = (front ++ "#version" ++ gap ++ "3").length

/-- Exactly the texts that begin with a declaration are recognised as such. -/
theorem directive_iff {text gap rest : Text} : versionDirective? text = some (gap, rest) ↔
    Gap gap ∧ text = "#version" ++ gap ++ "300" ++ rest ∧
      ∃ space behind : Text, Gap space ∧ endsWord behind = true ∧
        rest = space ++ "es" ++ behind := by
  constructor
  · intro found
    obtain ⟨between, spelled⟩ := directive_spelled found
    refine ⟨between, spelled, ?_⟩
    rw [version_directive_eq] at found
    simp only [Option.bind_eq_some_iff] at found
    obtain ⟨behind, word, number, digits, ending, language, result⟩ := found
    split at result
    · rename_i ends
      obtain ⟨_, rfl⟩ := Prod.mk.inj (Option.some.inj result)
      obtain ⟨space, written⟩ := after_gap_found language
      exact ⟨_, ending, space, ends, by rw [List.append_assoc]; exact written⟩
    · simp at result
  · rintro ⟨between, rfl, space, behind, second, ends, rfl⟩
    have word : after? "#version" ("#version" ++ gap ++ "300" ++ (space ++ "es" ++ behind)) =
        some (gap ++ '3' :: '0' :: '0' :: (space ++ "es" ++ behind)) := by
      rw [List.append_assoc, List.append_assoc]
      rfl
    have number : afterGap? "300" (gap ++ '3' :: '0' :: '0' :: (space ++ "es" ++ behind)) =
        some (space ++ "es" ++ behind) := after_gap_spelled between (by decide) _ _
    have language : afterGap? "es" (space ++ "es" ++ behind) = some behind := by
      rw [List.append_assoc]
      exact after_gap_spelled second (by decide) _ _
    have blanks : (gap ++ '3' :: '0' :: '0' :: (space ++ "es" ++ behind)).takeWhile isBlank =
        gap := by
      rw [List.takeWhile_append_of_pos between.blank, List.takeWhile_cons_of_neg (by decide),
        List.append_nil]
    rw [version_directive_eq, word, Option.bind_some, number, Option.bind_some, language,
      Option.bind_some, if_pos ends, blanks]

/-- The digits to be changed are those of the declarations that are recognised somewhere in the
text. -/
theorem old_digit_iff {text : Text} {place : Nat} : OldDigit text place ↔
    ∃ start gap rest, versionDirective? (text.drop start) = some (gap, rest) ∧
      place = start + gap.length + 9 := by
  constructor
  · rintro ⟨front, gap, space, behind, between, second, ends, rfl, rfl⟩
    refine ⟨front.length, gap, space ++ "es" ++ behind, ?_, ?_⟩
    · rw [List.drop_left, directive_iff]
      exact ⟨between, by simp only [List.append_assoc], space, behind, second, ends, rfl⟩
    · simp only [List.length_append, String.length_toList]
      have word : "#version".length = 8 := by decide
      have digit : "3".length = 1 := by decide
      omega
  · rintro ⟨start, gap, rest, found, rfl⟩
    obtain ⟨sign, first⟩ := number_sign_of_directive found
    have inside : start < text.length := by
      rw [← Nat.not_le]
      intro beyond
      rw [List.drop_eq_nil_of_le beyond] at first
      simp at first
    obtain ⟨between, spelled, space, behind, second, ends, rfl⟩ := directive_iff.mp found
    refine ⟨text.take start, gap, space, behind, between, second, ends, ?_, ?_⟩
    · calc text = text.take start ++ text.drop start := (List.take_append_drop start text).symm
        _ = _ := by rw [spelled]; simp only [List.append_assoc]
    · simp only [List.length_append, String.length_toList,
        List.length_take_of_le (Nat.le_of_lt inside)]
      have word : "#version".length = 8 := by decide
      have digit : "3".length = 1 := by decide
      omega

theorem old_digit_nil (place : Nat) : ¬ OldDigit [] place := by
  rw [old_digit_iff]
  rintro ⟨start, gap, rest, found, _⟩
  rw [List.drop_nil, no_directive (by simp)] at found
  simp at found

/-- Behind a place where no declaration begins they are those of the rest. -/
theorem old_digit_step {c : Char} {text : Text} (none : versionDirective? (c :: text) = none)
    {place : Nat} :
    OldDigit (c :: text) place ↔ ∃ inner, place = inner + 1 ∧ OldDigit text inner := by
  simp only [old_digit_iff]
  constructor
  · rintro ⟨start, gap, rest, found, rfl⟩
    cases start with
    | zero =>
        rw [List.drop_zero, none] at found
        simp at found
    | succ start => exact ⟨start + gap.length + 9, by omega, start, gap, rest, found, rfl⟩
  · rintro ⟨_, rfl, start, gap, rest, found, rfl⟩
    exact ⟨start + 1, gap, rest, found, by omega⟩

theorem old_digit_free {front : Text} (free : '#' ∉ front) {behind : Text} {place : Nat} :
    OldDigit (front ++ behind) place ↔
      ∃ inner, place = front.length + inner ∧ OldDigit behind inner := by
  induction front generalizing place with
  | nil => simp
  | cons c front induction =>
      rw [List.mem_cons, not_or] at free
      have none : versionDirective? (c :: (front ++ behind)) = none :=
        no_directive fun first => free.1 (Option.some.inj first).symm
      rw [List.cons_append, old_digit_step none]
      simp only [induction free.2, List.length_cons]
      constructor
      · rintro ⟨_, rfl, inner, rfl, old⟩
        exact ⟨inner, by omega, old⟩
      · rintro ⟨inner, rfl, old⟩
        exact ⟨front.length + inner, by omega, inner, rfl, old⟩

/-- A declaration at the start has its own digit, and no other declaration reaches into it. -/
theorem old_digit_directive {text gap rest : Text}
    (found : versionDirective? text = some (gap, rest)) {place : Nat} :
    OldDigit text place ↔ place = gap.length + 9 ∨
      ∃ inner, place = gap.length + 11 + inner ∧ OldDigit rest inner := by
  obtain ⟨between, spelled, _⟩ := directive_iff.mp found
  have free : '#' ∉ ("version" ++ gap ++ "300" : Text) := by
    simp only [List.mem_append, not_or]
    exact ⟨⟨by decide, gap_free between.blank⟩, by decide⟩
  have size : ("version" ++ gap ++ "300" : Text).length = gap.length + 10 := by
    simp only [List.length_append, String.length_toList]
    have word : "version".length = 7 := by decide
    have digits : "300".length = 3 := by decide
    omega
  have first : text = '#' :: (("version" ++ gap ++ "300" : Text) ++ rest) := spelled
  have later : ∀ {inner}, OldDigit (("version" ++ gap ++ "300" : Text) ++ rest) inner ↔
      ∃ behind, inner = gap.length + 10 + behind ∧ OldDigit rest behind := by
    intro inner
    rw [old_digit_free free, size]
  constructor
  · rw [old_digit_iff]
    rintro ⟨start, other, remainder, here, rfl⟩
    cases start with
    | zero =>
        rw [List.drop_zero, found, Option.some.injEq, Prod.mk.injEq] at here
        exact .inl (by rw [here.1]; omega)
    | succ start =>
        rw [first, List.drop_succ_cons] at here
        have shifted := old_digit_iff.mpr ⟨start, other, remainder, here, rfl⟩
        obtain ⟨behind, same, old⟩ := later.mp shifted
        exact .inr ⟨behind, by omega, old⟩
  · rintro (rfl | ⟨behind, rfl, old⟩)
    · exact old_digit_iff.mpr ⟨0, gap, rest, found, by omega⟩
    · have shifted := later.mpr ⟨behind, rfl, old⟩
      obtain ⟨start, other, remainder, here, same⟩ := old_digit_iff.mp shifted
      refine old_digit_iff.mpr ⟨start + 1, other, remainder, ?_, by omega⟩
      rw [first, List.drop_succ_cons]
      exact here

/-- A declaration at the start, cut at its digits: one character changes there, and behind it go on
the changes of the rest. -/
theorem directive_cut {text gap rest : Text} (found : versionDirective? text = some (gap, rest)) :
    ∃ word : Text, text = word ++ '0' :: '0' :: rest ∧
      "#version" ++ gap ++ "310" ++ normalizeVersion rest =
        word ++ '1' :: '0' :: normalizeVersion rest ∧
      ∀ place, OldDigit text place ↔ place = word.length ∨
        ∃ inner, place = word.length + 2 + inner ∧ OldDigit rest inner := by
  have size : ("#version" ++ gap ++ "3" : Text).length = gap.length + 9 := by
    simp only [List.length_append, String.length_toList]
    have word : "#version".length = 8 := by decide
    have digit : "3".length = 1 := by decide
    omega
  refine ⟨"#version" ++ gap ++ "3", ?_, ?_, ?_⟩
  · rw [(directive_spelled found).2]
    simp only [List.append_assoc]
    rfl
  · simp only [List.append_assoc]
    rfl
  · intro place
    rw [size]
    exact old_digit_directive found

/-- At each place stands what stood there, or the digit one in the place of an old zero. -/
theorem normalize_at (text : Text) (place : Nat) :
    (OldDigit text place →
        text[place]? = some '0' ∧ (normalizeVersion text)[place]? = some '1') ∧
      (¬ OldDigit text place → (normalizeVersion text)[place]? = text[place]?) := by
  fun_induction normalizeVersion text generalizing place with
  | case1 text gap rest found induction =>
      obtain ⟨word, before, after, old⟩ := directive_cut found
      rw [old, before, after]
      rcases Nat.lt_trichotomy place word.length with front | rfl | behind
      · have other : ¬ (place = word.length ∨
            ∃ inner, place = word.length + 2 + inner ∧ OldDigit rest inner) := by
          rintro (same | ⟨inner, same, _⟩) <;> omega
        refine ⟨fun here => absurd here other, fun _ => ?_⟩
        rw [List.getElem?_append_left front, List.getElem?_append_left front]
      · rw [List.getElem?_append_right (Nat.le_refl _),
          List.getElem?_append_right (Nat.le_refl _), Nat.sub_self]
        exact ⟨fun _ => ⟨rfl, rfl⟩, fun other => absurd (.inl rfl) other⟩
      · obtain ⟨offset, rfl⟩ := Nat.exists_eq_add_of_lt behind
        have skip : word.length + offset + 1 - word.length = offset + 1 := by omega
        rw [List.getElem?_append_right (by omega), List.getElem?_append_right (by omega), skip,
          List.getElem?_cons_succ, List.getElem?_cons_succ]
        cases offset with
        | zero =>
            refine ⟨?_, fun _ => rfl⟩
            rintro (same | ⟨inner, same, _⟩) <;> omega
        | succ offset =>
            have shifted : (word.length + (offset + 1) + 1 = word.length ∨
                ∃ inner, word.length + (offset + 1) + 1 = word.length + 2 + inner ∧
                  OldDigit rest inner) ↔ OldDigit rest offset := by
              constructor
              · rintro (same | ⟨inner, same, later⟩)
                · omega
                · have equal : inner = offset := by omega
                  rwa [← equal]
              · exact fun later => .inr ⟨offset, by omega, later⟩
            rw [List.getElem?_cons_succ, List.getElem?_cons_succ, shifted]
            exact induction offset
  | case2 => exact ⟨fun old => absurd old (old_digit_nil place), fun _ => rfl⟩
  | case3 c rest absent induction =>
      rw [old_digit_step absent]
      cases place with
      | zero =>
          refine ⟨?_, fun _ => rfl⟩
          rintro ⟨inner, same, _⟩
          omega
      | succ place =>
          simp only [List.getElem?_cons_succ, Nat.add_right_cancel_iff, exists_eq_left']
          exact induction place

theorem normalize_length (text : Text) : (normalizeVersion text).length = text.length := by
  fun_induction normalizeVersion text with
  | case1 text gap rest found induction =>
      obtain ⟨word, before, after, _⟩ := directive_cut found
      rw [before, after]
      simp only [List.length_append, List.length_cons, induction]
  | case2 => rfl
  | case3 c rest absent induction => rw [List.length_cons, List.length_cons, induction]

theorem normalize_differs_iff {text : Text} {place : Nat} :
    (normalizeVersion text)[place]? ≠ text[place]? ↔ OldDigit text place := by
  obtain ⟨changed, kept⟩ := normalize_at text place
  constructor
  · intro differs
    exact Classical.byContradiction fun other => differs (kept other)
  · intro old same
    rw [(changed old).1, (changed old).2] at same
    exact absurd same (by decide)

/-- A text is used as it is where no declaration is found at any place of it. -/
theorem normalized_none_iff {text : Text} :
    normalized? text = none ↔ ∀ place, ¬ OldDigit text place := by
  have nowhere : ((List.range text.length).any fun place =>
      (versionDirective? (text.drop place)).isSome) = false ↔
        ∀ start, versionDirective? (text.drop start) = none := by
    simp only [List.any_eq_false, List.mem_range, Bool.not_eq_true, Option.isSome_eq_false_iff,
      Option.isNone_iff_eq_none]
    constructor
    · intro none start
      rcases Nat.lt_or_ge start text.length with inside | beyond
      · exact none start inside
      · rw [List.drop_eq_nil_of_le beyond, no_directive (by simp)]
    · exact fun none start _ => none start
  have absent : (∀ start, versionDirective? (text.drop start) = none) ↔
      ∀ place, ¬ OldDigit text place := by
    constructor
    · intro none place old
      obtain ⟨start, gap, rest, found, _⟩ := old_digit_iff.mp old
      rw [none] at found
      simp at found
    · intro none start
      rw [Option.eq_none_iff_forall_ne_some]
      rintro ⟨gap, rest⟩ found
      exact none _ (old_digit_iff.mpr ⟨start, gap, rest, found, rfl⟩)
  rw [← absent, ← nowhere, normalized?]
  split
  · rename_i found
    simp [found]
  · rename_i none
    simpa using none

theorem normalize_eq_iff {text : Text} :
    normalizeVersion text = text ↔ ∀ place, ¬ OldDigit text place := by
  constructor
  · intro same place old
    exact normalize_differs_iff.mpr old (by rw [same])
  · intro none
    apply List.ext_getElem?
    intro place
    exact (normalize_at text place).2 (none place)

theorem normalized_get (text : Text) : (normalized? text).getD text = normalizeVersion text := by
  cases result : normalized? text with
  | none => exact (normalize_eq_iff.mpr (normalized_none_iff.mp result)).symm
  | some changed =>
      rw [normalized?] at result
      split at result
      · exact (Option.some.inj result).symm
      · simp at result

/-- Putting versions right keeps the length of a text and changes its characters exactly at the
middle digits of the declarations in it, each from zero to one. Afterwards there is no such
declaration, so that it changes nothing when it is done again, and a text is used as it is exactly
if there is none in it to begin with. -/
theorem normalize_changes_old_digits (text : Text) :
    (normalizeVersion text).length = text.length ∧
      (∀ place, (normalizeVersion text)[place]? ≠ text[place]? ↔ OldDigit text place) ∧
      (∀ place, OldDigit text place →
        text[place]? = some '0' ∧ (normalizeVersion text)[place]? = some '1') ∧
      (∀ place, ¬ OldDigit (normalizeVersion text) place) ∧
      normalizeVersion (normalizeVersion text) = normalizeVersion text ∧
      (normalizeVersion text = text ↔ ∀ place, ¬ OldDigit text place) ∧
      (normalized? text = none ↔ ∀ place, ¬ OldDigit text place) ∧
      (normalized? text).getD text = normalizeVersion text := by
  refine ⟨normalize_length text, fun _ => normalize_differs_iff,
    fun place => (normalize_at text place).1, normalize_eq_iff.mp (normalize_again text),
    normalize_again text, normalize_eq_iff, normalized_none_iff, normalized_get text⟩

/-- A declaration over several lines, two that share no character although nothing divides them, and
two words that only look like the beginning and the end of one. -/
example : normalizeVersion "#version\n300\t\u2003es#version 300 es #version 300 es2 #version300 es" =
    "#version\n310\t\u2003es#version 310 es #version 300 es2 #version300 es".toList := by
  decide +kernel

end ShaderCost.Dump
