import ShaderCost.Proofs.Metrics.Values
import ShaderCost.Proofs.Metrics.Figures
import ShaderCost.Proofs.Text.Letters

/-!
The case of letters in a report. Lowering a report lowers what is taken from it and moves none of
the places where it is taken from. Numerals have no letters, and the code of a unit is shown in upper
case, so that two reports which differ in the case of ASCII letters give the same figures.
-/

namespace ShaderCost

namespace Text

/-- A class of characters that does not tell the cases of a letter apart. -/
def Caseless (class? : Char → Bool) : Prop := ∀ c, class? c.toLower = class? c

theorem lower_takeWhile {class? : Char → Bool} (caseless : Caseless class?) (text : Text) :
    (toLower text).takeWhile class? = toLower (text.takeWhile class?) := by
  have same : class? ∘ Char.toLower = class? := funext caseless
  rw [toLower, List.takeWhile_map, same]
  rfl

theorem lower_dropWhile {class? : Char → Bool} (caseless : Caseless class?) (text : Text) :
    (toLower text).dropWhile class? = toLower (text.dropWhile class?) := by
  have same : class? ∘ Char.toLower = class? := funext caseless
  rw [toLower, List.dropWhile_map, same]
  rfl

theorem lower_trimStart (text : Text) : trimStart (toLower text) = toLower (trimStart text) :=
  lower_dropWhile blank_lower text

theorem lower_after_folded (phrase text : Text) :
    afterFolded? phrase (toLower text) = (afterFolded? phrase text).map toLower := by
  induction phrase generalizing text with
  | nil => rfl
  | cons letter phrase induction =>
      cases text with
      | nil => rfl
      | cons c text =>
          have first : toLower (c :: text) = c.toLower :: toLower text := rfl
          rw [first, afterFolded?, afterFolded?, fold_lower, induction]
          split <;> rfl

/-- A spelling without letters is found at the same places when a text is lowered. -/
theorem lower_after {start : Text} (marks : ∀ mark ∈ start, Caseless fun c => mark == c)
    (text : Text) : after? start (toLower text) = (after? start text).map toLower := by
  induction start generalizing text with
  | nil => rfl
  | cons mark start induction =>
      cases text with
      | nil => rfl
      | cons c text =>
          obtain ⟨here, later⟩ := List.forall_mem_cons.mp marks
          have same : mark = c.toLower ↔ mark = c := by
            have equal := here c
            rwa [Bool.eq_iff_iff, beq_iff_eq, beq_iff_eq] at equal
          have first : toLower (c :: text) = c.toLower :: toLower text := rfl
          rw [first, after?, after?, induction later]
          simp only [same]
          split <;> rfl

theorem isEmpty_lower (text : Text) : (toLower text).isEmpty = text.isEmpty := by
  cases text <;> rfl

end Text

namespace Measure

open Text

theorem value_char_caseless (measure : Measure) : Caseless measure.isValueChar := by
  intro c
  have numeral : isNumeralChar c.toLower = isNumeralChar c := lower_keeps (by decide) c
  have letter : isFoldedLetter c.toLower = isFoldedLetter c := by
    rw [isFoldedLetter, fold_lower, isFoldedLetter]
  cases measure <;> first | exact digit_lower c | exact numeral | exact letter

theorem unit_marks (measure : Measure) : ∀ mark ∈ measure.unit, Caseless fun c => mark == c := by
  intro mark member c
  cases measure with
  | sixteenBitArithmetic =>
      obtain rfl := List.mem_singleton.mp member
      exact lower_keeps (by decide) c
  | _ => cases member

theorem lower_value_from (measure : Measure) (text : Text) :
    measure.valueFrom? (toLower text) = (measure.valueFrom? text).map toLower := by
  have chars := value_char_caseless measure
  rw [valueFrom?, valueFrom?, lower_takeWhile chars, lower_dropWhile chars, isEmpty_lower,
    lower_trimStart, lower_after (unit_marks measure)]
  split
  · rfl
  · split
    · rfl
    · rw [Option.map_map, Option.map_map]
      rfl

theorem lower_value_here (measure : Measure) (text : Text) :
    measure.valueHere? (toLower text) = (measure.valueHere? text).map toLower := by
  have colon : ∀ mark ∈ (":" : Text), Caseless fun c => mark == c := by
    intro mark member c
    obtain rfl := List.mem_singleton.mp member
    exact lower_keeps (by decide) c
  rw [value_here_eq, value_here_eq, lower_after_folded]
  cases afterFolded? measure.label text with
  | none => rfl
  | some afterLabel =>
      rw [Option.map_some, Option.bind_some, Option.bind_some, lower_trimStart, lower_after colon]
      cases after? ":" (trimStart afterLabel) with
      | none => rfl
      | some afterColon =>
          rw [Option.map_some, Option.bind_some, Option.bind_some, lower_trimStart]
          exact lower_value_from measure (trimStart afterColon)

theorem lower_starts_after (measure : Measure) (before : Option Char) :
    measure.startsAfter (before.map Char.toLower) = measure.startsAfter before := by
  cases before with
  | none => rfl
  | some c =>
      have word : (!isWord c.toLower) = !isWord c := by rw [word_lower]
      cases measure <;> first | rfl | exact word

theorem lower_value_after (measure : Measure) (before : Option Char) (text : Text) :
    measure.valueAfter? (before.map Char.toLower) (toLower text) =
      (measure.valueAfter? before text).map toLower := by
  induction text generalizing before with
  | nil => rfl
  | cons c rest induction =>
      have first : toLower (c :: rest) = c.toLower :: toLower rest := rfl
      have onward : measure.valueAfter? (some c.toLower) (toLower rest) =
          (measure.valueAfter? (some c) rest).map toLower := induction (some c)
      have here := lower_value_here measure (c :: rest)
      rw [first] at here ⊢
      rw [valueAfter?, valueAfter?, lower_starts_after, here, onward]
      cases measure.startsAfter before with
      | false => rfl
      | true =>
          cases measure.valueHere? (c :: rest) with
          | none => rfl
          | some value => rfl

theorem lower_value (measure : Measure) (report : Text) :
    measure.value? (toLower report) = (measure.value? report).map toLower :=
  lower_value_after measure none report

theorem lower_numeral {c : Char} (numeral : isNumeralChar c = true) : c.toLower = c := by
  by_cases small : c.toNat < 128
  · have ascii : ∀ point < 128, isNumeralChar (Char.ofNat point) = true →
        (Char.ofNat point).toLower = Char.ofNat point := by decide
    have here := ascii c.toNat small
    rw [Char.ofNat_toNat] at here
    exact here numeral
  · exact lower_beyond (Nat.le_of_not_lt small)

/-- A value is either a numeral, which has no letters to lower, or the code of a unit. -/
theorem value_numeral {measure : Measure} (counted : measure ≠ bottleneckUnit) {report value : Text}
    (found : measure.value? report = some value) : toLower value = value := by
  have kept : ∀ c ∈ value, c.toLower = id c := by
    intro c member
    apply lower_numeral
    have allowed := value_after_chars found c member
    cases measure <;> first
      | exact absurd rfl counted
      | exact allowed
      | exact Bool.or_eq_true_iff.mpr (.inl allowed)
  rw [toLower, List.map_congr_left kept, List.map_id]

/-- What a measure makes of its value stays the same when the value is lowered. -/
theorem lower_figure (measure : Measure) (report : Text) :
    measure.figureOf ((measure.value? report).map toLower) =
      measure.figureOf (measure.value? report) := by
  cases found : measure.value? report with
  | none => rfl
  | some value =>
      by_cases counted : measure = bottleneckUnit
      · subst counted
        exact congrArg Figure.unit (upper_lower_text value)
      · rw [Option.map_some, value_numeral counted found]

end Measure

namespace Metrics

open Text

/-- Two reports that differ in nothing but the case of ASCII letters give the same figures. -/
theorem figures_ignore_case {report other : Text} (same : toLower other = toLower report)
    (measure : Measure) : (ofReport other).figure measure = (ofReport report).figure measure := by
  rw [of_report_figure, of_report_figure, ← Measure.lower_figure, ← Measure.lower_figure measure report,
    ← Measure.lower_value, ← Measure.lower_value, same]

theorem figures_ignore_case_shouted :
    toLower "WORK REGISTERS: 12\nbOUND: ls" = toLower "Work registers: 12\nBound: Ls" ∧
      (ofReport "WORK REGISTERS: 12\nbOUND: ls").figure .workRegisters = .count 12 ∧
      (ofReport "WORK REGISTERS: 12\nbOUND: ls").figure .bottleneckUnit = .unit "LS" := by
  have same : toLower "WORK REGISTERS: 12\nbOUND: ls" = toLower "Work registers: 12\nBound: Ls" := by
    decide
  refine ⟨same, ?_, ?_⟩
  · rw [figures_ignore_case same]
    decide +kernel
  · rw [figures_ignore_case same]
    decide +kernel

end Metrics

end ShaderCost
