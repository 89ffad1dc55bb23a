import Mathlib.Data.List.Find
import ShaderCost.Proofs.Metrics.Figures
import ShaderCost.Proofs.Metrics.Values

/-!
Reports that are joined by a line feed. A label that stands with a value in the first report decides
its figure: no label before it can take a value from the second report, because it would have to be
followed by nothing but blanks, a colon and a numeral up to the end of the first. A report that does
not mention a label leaves its figure to the second one. What is stated in words is stated by one of
the two, as no wording goes over the end of a line.
-/

namespace ShaderCost

namespace Measure

open Text

theorem label_apart (measure : Measure) : ∀ c ∈ measure.label, fold c ≠ fold '\n' := by
  cases measure <;> exact every (by decide)

theorem unit_apart (measure : Measure) : '\n' ∉ measure.unit := by
  cases measure <;> decide

theorem feed_no_value (measure : Measure) : measure.isValueChar '\n' = false := by
  cases measure <;> decide

/-- A text without letters, and so without the end of a label. -/
def Bare (text : Text) : Prop := ∀ c ∈ text, isFoldedLetter c = false

theorem bare_append {front behind : Text} (first : Bare front) (second : Bare behind) :
    Bare (front ++ behind) :=
  List.forall_mem_append.mpr ⟨first, second⟩

theorem bare_blank {text : Text} (blank : isAllBlank text = true) : Bare text :=
  fun c member => blank_no_letter (List.all_eq_true.mp blank c member)

theorem bare_trimStart {text : Text} (bare : Bare (trimStart text)) : Bare text := by
  rw [← List.takeWhile_append_dropWhile (p := isBlank) (l := text)]
  exact bare_append (bare_blank List.all_takeWhile) bare

/-- What a label may be followed by when a value for it is still to come: blanks, then the mark that
is looked for in vain. -/
theorem mark_divided {start : Text} (filled : start ≠ []) (apart : '\n' ∉ start) (text more : Text) :
    after? start (trimStart (text ++ '\n' :: more)) =
        (after? start (trimStart text)).map (· ++ '\n' :: more) ∨
      isAllBlank text = true ∧ after? start (trimStart text) = none := by
  cases blank : isAllBlank text with
  | true =>
      obtain ⟨c, start, rfl⟩ := List.exists_cons_of_ne_nil filled
      rw [trimStart_blank blank]
      exact .inr ⟨rfl, rfl⟩
  | false =>
      rw [trimStart_append blank, after_append]
      · exact .inl rfl
      · intro d first
        obtain rfl := Option.some.inj first
        exact apart

theorem numeral_no_letter {c : Char} (numeral : isNumeralChar c = true) :
    isFoldedLetter c = false := by
  rw [← Bool.not_eq_true]
  intro letter
  have small : c.toNat < 128 := by
    rw [isFoldedLetter, fold] at letter
    split at letter
    · rename_i long
      rw [long] at numeral
      exact absurd numeral (by decide)
    · split at letter
      · rename_i sign
        rw [sign] at numeral
        exact absurd numeral (by decide)
      · exact (letter_of_toLower letter).1
  have ascii : ∀ point < 128, isNumeralChar (Char.ofNat point) = true →
      isFoldedLetter (Char.ofNat point) = false := by decide
  have here := ascii c.toNat small
  rw [Char.ofNat_toNat, letter] at here
  cases here numeral

/-- Text behind a line feed adds nothing to a value, but it may bring the unit that a value without
letters still waits for. -/
theorem value_from_divided (measure : Measure) (text more : Text) :
    measure.valueFrom? (text ++ '\n' :: more) = measure.valueFrom? text ∨
      Bare text ∧ measure.valueFrom? text = none := by
  obtain ⟨taken, left⟩ := class_divided (feed_no_value measure) text more
  rw [valueFrom?, valueFrom?, taken, left]
  by_cases missing : (text.takeWhile measure.isValueChar).isEmpty = true
  · rw [if_pos missing, if_pos missing]
    exact .inl rfl
  · rw [if_neg missing, if_neg missing]
    by_cases unitless : measure.unit.isEmpty = true
    · rw [if_pos unitless, if_pos unitless]
      exact .inl rfl
    · rw [if_neg unitless, if_neg unitless]
      rcases mark_divided (by simpa using unitless) (unit_apart measure)
        (text.dropWhile measure.isValueChar) more with same | ⟨blank, none⟩
      · rw [same, Option.map_map]
        exact .inl rfl
      · rw [none]
        refine .inr ⟨?_, rfl⟩
        rw [← List.takeWhile_append_dropWhile (p := measure.isValueChar) (l := text)]
        apply bare_append _ (bare_blank blank)
        intro c member
        have allowed : measure.isValueChar c = true :=
          List.all_eq_true.mp List.all_takeWhile c member
        cases measure with
        | sixteenBitArithmetic => exact numeral_no_letter allowed
        | _ => exact absurd rfl unitless

theorem value_from_gap (measure : Measure) (text more : Text) :
    measure.valueFrom? (trimStart (text ++ '\n' :: more)) = measure.valueFrom? (trimStart text) ∨
      Bare text ∧ measure.valueFrom? (trimStart text) = none := by
  cases blank : isAllBlank text with
  | true =>
      rw [trimStart_blank blank]
      exact .inr ⟨bare_blank blank, rfl⟩
  | false =>
      rw [trimStart_append blank]
      rcases value_from_divided measure (trimStart text) more with same | ⟨bare, none⟩
      · exact .inl same
      · exact .inr ⟨bare_trimStart bare, none⟩

theorem label_divided (measure : Measure) (text more : Text) :
    afterFolded? measure.label (text ++ '\n' :: more) =
      (afterFolded? measure.label text).map (· ++ '\n' :: more) := by
  apply folded_append
  intro d first
  obtain rfl := Option.some.inj first
  exact label_apart measure

/-- A label that stands at the end of a report, and with no value there. -/
structure Unfinished (measure : Measure) (text : Text) : Prop where
  valueless : measure.valueHere? text = none
  labelled : ∃ rest, afterFolded? measure.label text = some rest ∧ Bare rest

/-- What stands behind a line feed changes what is read before it only where a label at the end of
the first report is unfinished. -/
theorem value_here_divided (measure : Measure) (text more : Text) :
    measure.valueHere? (text ++ '\n' :: more) = measure.valueHere? text ∨
      Unfinished measure text := by
  have label := label_divided measure text more
  cases found : afterFolded? measure.label text with
  | none => simp only [value_here_eq, label, found, Option.map_none, Option.bind_none, true_or]
  | some afterLabel =>
      rcases @mark_divided ":" (by decide) (by decide) afterLabel more with
        colon | ⟨blank, missing⟩
      · cases behind : after? ":" (trimStart afterLabel) with
        | none =>
            simp only [value_here_eq, label, found, Option.map_some, Option.bind_some, colon,
              behind, Option.map_none, Option.bind_none, true_or]
        | some afterColon =>
            rw [behind, Option.map_some] at colon
            simp only [value_here_eq, label, found, Option.map_some, Option.bind_some, colon, behind]
            rcases value_from_gap measure afterColon more with same | ⟨bare, none⟩
            · exact .inl same
            · refine .inr ⟨?_, afterLabel, found, bare_trimStart ?_⟩
              · simp only [value_here_eq, found, Option.bind_some, behind, none]
              · rw [after_spelled behind]
                exact bare_append (every (by decide)) bare
      · refine .inr ⟨?_, afterLabel, found, bare_blank blank⟩
        simp only [value_here_eq, found, Option.bind_some, missing, Option.bind_none]

theorem label_ending (measure : Measure) :
    measure.label.getLast?.any isFoldedLetter = true := by
  cases measure <;> decide

/-- The last letter of a label that is spelled in some way. -/
theorem spelled_ending {measure : Measure} {spelled : Text}
    (same : spelled.map fold = measure.label.map fold) :
    ∃ front last, spelled = front ++ [last] ∧ isFoldedLetter last = true := by
  obtain ⟨letter, ending, letters⟩ := (Option.any_eq_true _ _).mp (label_ending measure)
  have last : (spelled.map fold).getLast? = (measure.label.map fold).getLast? := by rw [same]
  rw [List.getLast?_map, List.getLast?_map, ending, Option.map_some, Option.map_eq_some_iff] at last
  obtain ⟨last, found, alike⟩ := last
  obtain ⟨front, spelling⟩ := List.getLast?_eq_some_iff.mp found
  exact ⟨front, last, spelling, by rwa [isFoldedLetter, alike]⟩

/-- Behind the beginning of an unfinished label no label ends, as no letter comes behind it. -/
theorem unfinished_alone {measure : Measure} {c : Char} {rest : Text}
    (unfinished : Unfinished measure (c :: rest)) (before : Option Char) :
    measure.valueAfter? before rest = none := by
  rw [Option.eq_none_iff_forall_ne_some]
  intro value found
  obtain ⟨front, here, rfl, _, stands⟩ := value_after_found found
  rw [value_here_eq, Option.bind_eq_some_iff] at stands
  obtain ⟨behind, label, _⟩ := stands
  obtain ⟨spelled, rfl, same⟩ := after_folded_iff.mp label
  obtain ⟨tail, first, bare⟩ := unfinished.labelled
  obtain ⟨earlier, whole, alike⟩ := after_folded_iff.mp first
  have sizes : spelled.length = earlier.length := by
    rw [← List.length_map fold, same, ← alike, List.length_map]
  obtain ⟨inner, last, rfl, letter⟩ := spelled_ending same
  have short : (last :: behind).length ≤ tail.length := by
    have total := congrArg List.length whole
    simp only [List.length_cons, List.length_append, List.length_nil] at total sizes ⊢
    omega
  have ending : last :: behind <:+ c :: (front ++ (inner ++ [last] ++ behind)) :=
    ⟨c :: (front ++ inner), by simp⟩
  have inside : last :: behind <:+ tail :=
    List.suffix_of_suffix_length_le ending ⟨earlier, whole.symm⟩ short
  rw [bare last (inside.mem List.mem_cons_self)] at letter
  cases letter

/-- The value that decides in the first of two joined reports decides in both together. -/
theorem value_after_kept {measure : Measure} {before : Option Char} {text value : Text}
    (found : measure.valueAfter? before text = some value) (more : Text) :
    measure.valueAfter? before (text ++ '\n' :: more) = some value := by
  induction text generalizing before with
  | nil => cases found
  | cons c rest induction =>
      rw [valueAfter?] at found
      rw [List.cons_append, valueAfter?]
      cases starts : measure.startsAfter before with
      | false =>
          rw [starts] at found
          exact induction found
      | true =>
          rw [starts] at found
          rcases value_here_divided measure (c :: rest) more with same | unfinished
          · rw [List.cons_append] at same
            rw [same]
            split at found
            · exact found
            · exact induction found
          · rw [unfinished.valueless] at found
            have later : measure.valueAfter? (some c) rest = some value := found
            rw [unfinished_alone unfinished] at later
            cases later

/-- A line feed before a report is no part of a word, as the beginning of a report is none. -/
theorem value_after_feed (measure : Measure) (report : Text) :
    measure.valueAfter? (some '\n') report = measure.value? report := by
  have starts : measure.startsAfter (some '\n') = measure.startsAfter none := by
    cases measure <;> decide
  cases report with
  | nil => rfl
  | cons c rest => rw [value?, valueAfter?, valueAfter?, starts]

/-- A report that mentions a label nowhere is passed over. -/
theorem value_after_skipped {measure : Measure} {text : Text} (absent : ¬ measure.LabelIn text)
    (before : Option Char) (more : Text) :
    measure.valueAfter? before (text ++ '\n' :: more) = measure.value? more := by
  induction text generalizing before with
  | nil =>
      have here : measure.valueHere? ('\n' :: more) = none := by
        have label := label_divided measure [] more
        rw [List.nil_append] at label
        rw [value_here_eq, label]
        cases measure <;> rfl
      rw [List.nil_append, valueAfter?, here, ite_self]
      exact value_after_feed measure more
  | cons c rest induction =>
      have missing : afterFolded? measure.label (c :: rest) = none := by
        rw [Option.eq_none_iff_forall_ne_some]
        intro behind found
        obtain ⟨spelled, whole, same⟩ := after_folded_iff.mp found
        exact absent ⟨spelled, ⟨[], behind, by rw [whole, List.nil_append]⟩, same⟩
      have later : ¬ measure.LabelIn rest := by
        rintro ⟨spelled, inside, same⟩
        exact absent ⟨spelled, List.infix_cons inside, same⟩
      have here : measure.valueHere? (c :: (rest ++ '\n' :: more)) = none := by
        rw [← List.cons_append, value_here_eq, label_divided, missing]
        rfl
      rw [List.cons_append, valueAfter?, here, ite_self]
      exact induction later (some c)

theorem value_joined_given {measure : Measure} {first : Text} (given : measure.GivenIn first)
    (second : Text) : measure.value? (first ++ '\n' :: second) = measure.value? first := by
  obtain ⟨value, found⟩ := Option.isSome_iff_exists.mp (value_given.mpr given)
  rw [found]
  exact value_after_kept found second

/-- The value in the second of two joined reports counts where the first does not mention it. -/
theorem value_joined_absent {measure : Measure} {first : Text} (absent : ¬ measure.LabelIn first)
    (second : Text) : measure.value? (first ++ '\n' :: second) = measure.value? second :=
  value_after_skipped absent none second

end Measure

namespace Metrics

open Text

theorem states_joined (first second : Text) (property : Property) :
    states (first ++ '\n' :: second) property = (states first property || states second property) :=
  contains_divided (by cases property <;> decide) first second

theorem of_report_has (report : Text) (property : Property) :
    (ofReport report).has property = states report property := by
  cases property <;> rfl

theorem spilling_joined (first second : Text) :
    statesSpilling (first ++ '\n' :: second) = true ↔
      (("Stack spilling" : Text) <:+: first ∨ ("Stack spilling" : Text) <:+: second) ∧
        ¬ ("Stack spilling: false" : Text) <:+: first ∧
        ¬ ("Stack spilling: false" : Text) <:+: second := by
  rw [statesSpilling, contains_divided (by decide), contains_divided (by decide), Bool.and_eq_true,
    Bool.or_eq_true, Bool.not_eq_true', Bool.or_eq_false_iff, ← Bool.not_eq_true, ← Bool.not_eq_true,
    contains_iff, contains_iff, contains_iff, contains_iff]

/-- The first item of one kind or of another is the first among the first of each. -/
theorem find_either {Item : Type} [DecidableEq Item] (left right : Item → Bool)
    (items : List Item) : (items.find? fun item => left item || right item) =
      items.find? fun item => items.find? left = some item ∨ items.find? right = some item := by
  induction items with
  | nil => rfl
  | cons item items induction =>
      by_cases first : left item = true
      · simp [List.find?_cons, first]
      · by_cases second : right item = true
        · simp [List.find?_cons, second]
        · rw [Bool.not_eq_true] at first second
          have notLeft : items.find? left ≠ some item := by
            intro found
            rw [List.find?_some found] at first
            cases first
          have notRight : items.find? right ≠ some item := by
            intro found
            rw [List.find?_some found] at second
            cases second
          simp [first, second, notLeft, notRight, induction]

theorem architecture_joined (first second : Text) : architectureOf (first ++ '\n' :: second) =
    (architectures.find? fun name =>
      name = architectureOf first ∨ name = architectureOf second).getD [] := by
  have divided : (architectures.find? fun name => contains name (first ++ '\n' :: second)) =
      architectures.find? fun name => contains name first || contains name second := by
    apply List.find?_congr
    intro name member
    have unbroken : ∀ name ∈ architectures, '\n' ∉ name := by decide
    exact contains_divided (unbroken name member) first second
  have named : ∀ name ∈ architectures, ∀ report,
      (architectures.find? fun name => contains name report) = some name ↔
        name = architectureOf report := by
    intro name member report
    have filled : ∀ name ∈ architectures, name ≠ [] := by decide
    rw [architectureOf]
    cases architectures.find? fun name => contains name report with
    | none => simp [filled name member]
    | some other => simp [eq_comm]
  rw [architectureOf, divided, find_either]
  congr 1
  apply List.find?_congr
  intro name member
  simp only [named name member]

/-- A report in two parts. A measure that stands with a value in the first part has the figure that
the first part gives, even if the value cannot be stored; one whose label the first part does not
mention has that of the second part. A property is stated by the two together when one of them states
it, spilling when one mentions it and neither denies it, and the architecture is the preferred one of
the two. -/
theorem joined_reports (first second : Text) :
    (∀ measure : Measure,
      (measure.GivenIn first → (ofReport (first ++ '\n' :: second)).figure measure =
        (ofReport first).figure measure) ∧
      (¬ measure.LabelIn first → (ofReport (first ++ '\n' :: second)).figure measure =
        (ofReport second).figure measure)) ∧
    (∀ property, (ofReport (first ++ '\n' :: second)).has property =
      ((ofReport first).has property || (ofReport second).has property)) ∧
    ((ofReport (first ++ '\n' :: second)).stackSpilling = true ↔
      (("Stack spilling" : Text) <:+: first ∨ ("Stack spilling" : Text) <:+: second) ∧
        ¬ ("Stack spilling: false" : Text) <:+: first ∧
        ¬ ("Stack spilling: false" : Text) <:+: second) ∧
    (ofReport (first ++ '\n' :: second)).architecture = (architectures.find? fun name =>
      name = (ofReport first).architecture ∨ name = (ofReport second).architecture).getD [] := by
  refine ⟨?_, ?_, spilling_joined first second, architecture_joined first second⟩
  · intro measure
    rw [of_report_figure, of_report_figure, of_report_figure]
    constructor
    · intro given
      rw [Measure.value_joined_given given]
    · intro absent
      rw [Measure.value_joined_absent absent]
  · intro property
    rw [of_report_has, of_report_has, of_report_has, states_joined]

/-- What a failed run says of its shader before the report proper. -/
def failedRun : Text := "Total instruction cycles: 1.2.3\nwork registers:"

theorem joined_reports_failed_run :
    Measure.GivenIn .totalCycles failedRun ∧ ¬ Measure.LabelIn .bottleneckUnit failedRun ∧
      (ofReport (failedRun ++ '\n' :: mixedReport)).figure .totalCycles = .number 0 ∧
      (ofReport (failedRun ++ '\n' :: mixedReport)).figure .bottleneckUnit = .unit "LS" := by
  have given : Measure.GivenIn .totalCycles failedRun := by decide +kernel
  have absent : ¬ Measure.LabelIn .bottleneckUnit failedRun := by decide +kernel
  obtain ⟨figures, _, _, _⟩ := joined_reports failedRun mixedReport
  refine ⟨given, absent, ?_, ?_⟩
  · rw [(figures .totalCycles).1 given, of_report_figure]
    decide +kernel
  · rw [(figures .bottleneckUnit).2 absent, of_report_figure]
    decide +kernel

end Metrics

end ShaderCost
