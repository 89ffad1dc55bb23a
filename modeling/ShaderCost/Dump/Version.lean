import ShaderCost.Text.Character
import ShaderCost.Text.Word

/-!
The language version that a shader source declares. The offline compiler takes version 3.10 where
a dump says 3.00, so that one digit of each such declaration changes and nothing else does.
-/

namespace ShaderCost.Dump

/-- The blanks between `#version` and `300 es`, and the text after `300`, when the text begins
with such a declaration. -/
def versionDirective? (text : Text) : Option (Text × Text) := do
  let afterWord ← Text.after? "#version" text
  let gap := afterWord.takeWhile Text.isBlank
  let number ← Text.afterBlanks? afterWord
  let rest ← Text.after? "300" number
  let language ← Text.afterBlanks? rest
  let ending ← Text.after? "es" language
  if Text.endsWord ending then some (gap, rest) else none

theorem versionDirective_length {text gap rest : Text}
    (found : versionDirective? text = some (gap, rest)) : rest.length < text.length := by
  simp only [versionDirective?, Option.bind_eq_bind, Option.bind_eq_some_iff] at found
  obtain ⟨afterWord, word, number, blanks, behind, digits, language, _, ending, _, result⟩ := found
  split at result
  · simp only [Option.some.injEq, Prod.mk.injEq] at result
    obtain ⟨_, rfl⟩ := result
    have first := Text.after_length word
    have second := Text.after_length digits
    have third : number.length ≤ afterWord.length := by
      cases afterWord with
      | nil => simp [Text.afterBlanks?] at blanks
      | cons c afterWord =>
          rw [Text.afterBlanks?] at blanks
          split at blanks
          · simp only [Option.some.injEq] at blanks
            rw [← blanks]
            exact Nat.le_succ_of_le (List.dropWhile_suffix Text.isBlank).length_le
          · simp at blanks
    simp only [String.length_toList] at first second
    have word_length : "#version".length = 8 := by decide
    omega
  · simp at result

set_option linter.unusedVariables false in
/-- Declares version 3.10 wherever the source declares 3.00. -/
def normalizeVersion (text : Text) : Text :=
  match found : versionDirective? text with
  | some (gap, rest) => "#version" ++ gap ++ "310" ++ normalizeVersion rest
  | none =>
      match text with
      | [] => []
      | c :: rest => c :: normalizeVersion rest
termination_by text.length
decreasing_by
  · exact versionDirective_length found
  · simp

/-- The source with its versions put right, or nothing when it declares 3.00 nowhere and can be used
as it is. -/
def normalized? (text : Text) : Option Text :=
  if (List.range text.length).any fun place => (versionDirective? (text.drop place)).isSome then
    some (normalizeVersion text)
  else none

end ShaderCost.Dump
