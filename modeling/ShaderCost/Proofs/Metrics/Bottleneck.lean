import ShaderCost.Proofs.Metrics.Numbers
import ShaderCost.Suggestion

/-!
The code of the bottleneck and the rules that look at it. The letters behind the label are put in
upper case as ASCII letters, while the label's pattern also takes the two characters beyond ASCII
that fold to a letter. They are left as they are, so that a code is in upper case unless one of them
stands in it. The rules on the arithmetic, the texture and the load/store unit compare codes exactly
and thereby ignore the case of the letters in the report.
-/

namespace ShaderCost

namespace Text

/-- Made of the letters `A` to `Z` alone. -/
def UpperCase (text : Text) : Prop := ∀ c ∈ text, c.isUpper = true

/-- The long s and the Kelvin sign, which fold to ASCII letters and have no case there. -/
def foreignLetters : List Char := ['\u017f', '\u212a']

instance (text : Text) : Decidable (UpperCase text) :=
  List.decidableBAll (fun c : Char => c.isUpper = true) text

theorem upper_of_letter {c : Char} (letter : isFoldedLetter c = true) :
    c.toUpper.isUpper = true ∨ c ∈ foreignLetters := by
  by_cases foreign : c ∈ foreignLetters
  · exact .inr foreign
  · rw [foreignLetters, List.mem_cons, List.mem_singleton, not_or] at foreign
    have same : fold c = c.toLower := by rw [fold, if_neg foreign.1, if_neg foreign.2]
    have ascii : ∀ point < 128, isFoldedLetter (Char.ofNat point) = true →
        (Char.ofNat point).toUpper.isUpper = true := by decide
    have lower : c.toLower.isLower = true := by rwa [isFoldedLetter, same] at letter
    have here := ascii c.toNat (letter_of_toLower lower).1
    rw [Char.ofNat_toNat] at here
    exact .inl (here letter)

theorem foreign_upper : ∀ c ∈ foreignLetters, c.toUpper = c ∧ c.isUpper = false := by
  rw [foreignLetters, List.forall_mem_cons, List.forall_mem_singleton]
  decide

/-- What holds of every ASCII character and of those that have no upper case holds of all. -/
theorem upper_cases (holds : Char → Prop) (ascii : ∀ point < 128, holds (Char.ofNat point))
    (beyond : ∀ c : Char, c.toUpper = c → c.toLower = c → holds c) (c : Char) : holds c := by
  by_cases small : c.toNat < 128
  · have here := ascii c.toNat small
    rwa [Char.ofNat_toNat] at here
  · have large := Nat.le_of_not_lt small
    exact beyond c (upper_beyond large) (lower_beyond large)

theorem lower_upper (c : Char) : c.toUpper.toLower = c.toLower :=
  upper_cases (fun c => c.toUpper.toLower = c.toLower) (by decide)
    (fun _ upper _ => congrArg Char.toLower upper) c

theorem upper_fixed {c : Char} : c.isUpper = true → c.toUpper = c :=
  upper_cases (fun c => c.isUpper = true → c.toUpper = c) (by decide)
    (fun _ upper _ _ => upper) c

/-- Which texts are spelled alike but for the case of ASCII letters, when one is in upper case. -/
theorem equals_upper_iff {text code : Text} (upper : UpperCase code) :
    equalsIgnoringCase text code = true ↔ toUpper text = code := by
  have fixed : toUpper code = code := by
    rw [toUpper, List.map_congr_left fun c member => upper_fixed (upper c member)]
    exact List.map_id' _
  rw [equalsIgnoringCase, beq_iff_eq]
  constructor
  · intro same
    rw [← upper_lower_text, same, upper_lower_text, fixed]
  · rintro rfl
    rw [toLower, toLower, toUpper, List.map_map]
    exact List.map_congr_left fun c _ => (lower_upper c).symm

end Text

namespace Measure

open Text

theorem value_filled {measure : Measure} {report value : Text}
    (found : measure.value? report = some value) : value ≠ [] := by
  obtain ⟨_, _, _, _, stands⟩ := value_after_found found
  simp only [value_here_eq, Option.bind_eq_some_iff] at stands
  obtain ⟨_, _, _, _, stands⟩ := stands
  obtain ⟨_, _, _, _, filled, _⟩ := value_from_parts stands
  exact filled

end Measure

namespace Metrics

open Text

/-- The bottleneck of a report is the text behind the label in upper case. -/
theorem bottleneck_of_report (report : Text) : (ofReport report).bottleneckUnit =
    ((Measure.bottleneckUnit.value? report).map toUpper).getD [] := by
  have figure := of_report_figure report .bottleneckUnit
  rw [Measure.figure_of_value] at figure
  exact Figure.unit.inj figure

theorem bottleneck_letters {report value : Text}
    (found : Measure.bottleneckUnit.value? report = some value) {c : Char} (member : c ∈ value) :
    c.toUpper.isUpper = true ∨ c ∈ foreignLetters :=
  upper_of_letter (Measure.value_after_chars found c member)

theorem bottleneck_upper_iff {report value : Text}
    (found : Measure.bottleneckUnit.value? report = some value) :
    UpperCase (toUpper value) ↔ ∀ c ∈ value, c ∉ foreignLetters := by
  rw [UpperCase, toUpper, List.forall_mem_map]
  refine forall₂_congr fun c member => ?_
  constructor
  · intro upper foreign
    obtain ⟨same, lacks⟩ := foreign_upper c foreign
    rw [same, lacks] at upper
    cases upper
  · exact (bottleneck_letters found member).resolve_right

theorem bound_by_given {report value : Text}
    (found : Measure.bottleneckUnit.value? report = some value) (vertex : Metrics) (code : Text) :
    Rule.boundBy code vertex (ofReport report) = true ↔ toUpper value = code := by
  rw [Rule.boundBy, bottleneck_of_report, found, beq_iff_eq]
  rfl

/-- The bottleneck is empty where the report gives none, and else made of letters `A` to `Z` and of
the long s and the Kelvin sign. It has one of these two only if the text behind the label has, and a
rule for a code applies exactly if that text is the code but for the case of ASCII letters. -/
theorem bottleneck_case (report : Text) :
    ((ofReport report).bottleneckUnit = [] ↔ ¬ Measure.bottleneckUnit.GivenIn report) ∧
      (∀ c ∈ (ofReport report).bottleneckUnit, c.isUpper = true ∨ c ∈ foreignLetters) ∧
      (UpperCase (ofReport report).bottleneckUnit ↔
        ∀ value ∈ Measure.bottleneckUnit.value? report, ∀ c ∈ value, c ∉ foreignLetters) ∧
      ∀ code : Text, code ≠ [] → UpperCase code → ∀ vertex,
        (Rule.boundBy code vertex (ofReport report) = true ↔
          ∃ value ∈ Measure.bottleneckUnit.value? report, equalsIgnoringCase value code = true) := by
  rw [← Measure.value_given]
  cases found : Measure.bottleneckUnit.value? report with
  | none =>
      have empty : (ofReport report).bottleneckUnit = [] := by
        rw [bottleneck_of_report, found]
        rfl
      rw [empty]
      refine ⟨by simp, nofun, iff_of_true nofun nofun, fun code filled _ vertex => ?_⟩
      rw [Rule.boundBy, empty]
      simpa using Ne.symm filled
  | some value =>
      have unit : (ofReport report).bottleneckUnit = toUpper value := by
        rw [bottleneck_of_report, found]
        rfl
      rw [unit]
      refine ⟨?_, ?_, ?_, fun code _ upper vertex => ?_⟩
      · simpa [toUpper] using Measure.value_filled found
      · rw [toUpper, List.forall_mem_map]
        intro c member
        refine (bottleneck_letters found member).imp_right fun foreign => ?_
        rwa [(foreign_upper c foreign).1]
      · rw [bottleneck_upper_iff found]
        simp
      · rw [bound_by_given found, ← equals_upper_iff upper]
        simp

/-- A code in mixed case is compared as the one in upper case. -/
theorem bottleneck_case_mixed :
    UpperCase (ofReport "Bound: lS").bottleneckUnit ∧
      Rule.boundBy "LS" {} (ofReport "Bound: lS") = true := by
  have found : Measure.bottleneckUnit.value? "Bound: lS" = some "lS".toList := by decide +kernel
  obtain ⟨_, _, upper, bound⟩ := bottleneck_case "Bound: lS"
  rw [found] at upper bound
  have plain : ∀ c ∈ "lS".toList, c ∉ foreignLetters := by simp [foreignLetters]
  exact ⟨upper.mpr (by simpa using plain), (bound "LS" (by decide) (by decide) {}).mpr ⟨_, rfl, by decide⟩⟩

/-- The long s is a letter to the label's pattern, and in the code it stays as it is. -/
theorem long_s_kept : (ofReport "Bound: l\u017f").bottleneckUnit = "L\u017f".toList ∧
    ¬ UpperCase (ofReport "Bound: l\u017f").bottleneckUnit ∧
    Rule.boundBy "LS" {} (ofReport "Bound: l\u017f") = false := by
  have found : Measure.bottleneckUnit.value? "Bound: l\u017f" = some "l\u017f".toList := by
    decide +kernel
  have unit : (ofReport "Bound: l\u017f").bottleneckUnit = "L\u017f".toList := by
    rw [bottleneck_of_report, found]
    decide
  rw [Rule.boundBy, unit]
  decide

end Metrics

end ShaderCost
