import Mathlib.Data.List.Infix
import ShaderCost.Metrics
import ShaderCost.Proofs.Text.Letters
import ShaderCost.Proofs.Text.Search

/-!
The values that stand in a report. A measure has a value exactly if its label, in any spelling, is
followed somewhere by a colon, by characters that the measure allows in a value and by its unit,
with nothing but blanks in between. The architecture is one of a few fixed names or nothing, and the
bottleneck is made of upper-case forms of letters, since the value that it comes from ends where its
letters do.
-/

namespace ShaderCost

namespace Measure

open Text

/-- The value that a text starts with, when the unit of the measure follows it. -/
def valueFrom? (measure : Measure) (text : Text) : Option Text :=
  if (text.takeWhile measure.isValueChar).isEmpty then none
  else if measure.unit.isEmpty then some (text.takeWhile measure.isValueChar)
  else (after? measure.unit (trimStart (text.dropWhile measure.isValueChar))).map fun _ =>
    text.takeWhile measure.isValueChar

theorem value_here_eq (measure : Measure) (text : Text) : measure.valueHere? text =
    (afterFolded? measure.label text).bind fun afterLabel =>
      (after? ":" (trimStart afterLabel)).bind fun afterColon =>
        measure.valueFrom? (trimStart afterColon) := rfl

theorem value_char_solid {measure : Measure} {c : Char} (allowed : measure.isValueChar c = true) :
    isBlank c = false := by
  rw [← Bool.not_eq_true]
  intro blank
  have others : ∀ point ∈ blankPoints, isDecimalDigit (Char.ofNat point) = false ∧
      isNumeralChar (Char.ofNat point) = false := by decide
  have here := others c.toNat (blank_point blank)
  rw [Char.ofNat_toNat] at here
  have letter := blank_no_letter blank
  cases measure <;> first
    | exact absurd allowed (by rw [isValueChar, here.1]; exact Bool.false_ne_true)
    | exact absurd allowed (by rw [isValueChar, here.2]; exact Bool.false_ne_true)
    | exact absurd allowed (by rw [isValueChar, letter]; exact Bool.false_ne_true)

theorem value_from_parts {measure : Measure} {text value : Text}
    (found : measure.valueFrom? text = some value) : ∃ room rest,
      text = value ++ (room ++ (measure.unit ++ rest)) ∧ (∀ c ∈ room, isBlank c = true) ∧
        value ≠ [] ∧ ∀ c ∈ value, measure.isValueChar c = true := by
  rw [valueFrom?] at found
  split at found
  · cases found
  · rename_i filled
    have taken : text.takeWhile measure.isValueChar = value ∧ ∃ room rest,
        text.dropWhile measure.isValueChar = room ++ (measure.unit ++ rest) ∧
          ∀ c ∈ room, isBlank c = true := by
      split at found
      · rename_i unitless
        rw [List.isEmpty_iff] at unitless
        refine ⟨Option.some.inj found, [], text.dropWhile measure.isValueChar, ?_, by simp⟩
        rw [unitless, List.nil_append, List.nil_append]
      · obtain ⟨rest, behind, taken⟩ := Option.map_eq_some_iff.mp found
        refine ⟨taken, (text.dropWhile measure.isValueChar).takeWhile isBlank, rest, ?_,
          List.all_eq_true.mp List.all_takeWhile⟩
        rw [← after_spelled behind, trimStart, List.takeWhile_append_dropWhile]
    obtain ⟨rfl, room, rest, left, blank⟩ := taken
    refine ⟨room, rest, ?_, blank, by simpa using filled,
      List.all_eq_true.mp List.all_takeWhile⟩
    rw [← left, List.takeWhile_append_dropWhile]

theorem value_here_chars {measure : Measure} {text value : Text}
    (found : measure.valueHere? text = some value) :
    ∀ c ∈ value, measure.isValueChar c = true := by
  simp only [value_here_eq, Option.bind_eq_some_iff] at found
  obtain ⟨afterLabel, _, afterColon, _, found⟩ := found
  obtain ⟨_, _, _, _, _, allowed⟩ := value_from_parts found
  exact allowed

/-- A value stands behind a label that is spelled somewhere in the text. -/
theorem value_after_found {measure : Measure} {before : Option Char} {text value : Text}
    (found : measure.valueAfter? before text = some value) : ∃ front here, text = front ++ here ∧
      measure.startsAfter (front.getLast?.or before) = true ∧
      measure.valueHere? here = some value := by
  induction text generalizing before with
  | nil => cases found
  | cons c rest induction =>
      rw [valueAfter?] at found
      split at found
      · rename_i value' here
        obtain rfl := Option.some.inj found
        split at here
        · rename_i starts
          exact ⟨[], c :: rest, rfl, starts, here⟩
        · cases here
      · obtain ⟨front, here, rfl, starts, stands⟩ := induction found
        refine ⟨c :: front, here, rfl, ?_, stands⟩
        rw [List.getLast?_cons, Option.some_or]
        cases last : front.getLast? with
        | none => rwa [last] at starts
        | some d => rwa [last] at starts

theorem value_after_chars {measure : Measure} {before : Option Char} {text value : Text}
    (found : measure.valueAfter? before text = some value) :
    ∀ c ∈ value, measure.isValueChar c = true := by
  obtain ⟨_, _, _, _, stands⟩ := value_after_found found
  exact value_here_chars stands

/-- A label spelled somewhere in a report, letter case aside. -/
def LabelIn (measure : Measure) (report : Text) : Prop :=
  ∃ spelled, spelled <:+: report ∧ spelled.map fold = measure.label.map fold

/-- A label with a value at the start of a text, letter case aside: a colon stands between them and
the unit of the measure behind them, with any blanks in between. -/
def Spelled (measure : Measure) (text : Text) : Prop :=
  ∃ label gap space value room rest,
    text = label ++ (gap ++ ':' :: (space ++ (value ++ (room ++ (measure.unit ++ rest))))) ∧
      label.map fold = measure.label.map fold ∧
      (∀ c ∈ gap, isBlank c = true) ∧ (∀ c ∈ space, isBlank c = true) ∧
      (∀ c ∈ room, isBlank c = true) ∧ value ≠ [] ∧ ∀ c ∈ value, measure.isValueChar c = true

/-- A report in which a measure stands with a value. -/
def GivenIn (measure : Measure) (report : Text) : Prop :=
  ∃ front text, report = front ++ text ∧ measure.startsAfter front.getLast? = true ∧
    measure.Spelled text

theorem label_in_iff {measure : Measure} {report : Text} : measure.LabelIn report ↔
    (report.tails.any fun text => (afterFolded? measure.label text).isSome) = true := by
  rw [List.any_eq_true]
  constructor
  · rintro ⟨spelled, ⟨front, behind, rfl⟩, same⟩
    refine ⟨spelled ++ behind, (List.mem_tails _ _).mpr ⟨front, by rw [List.append_assoc]⟩, ?_⟩
    rw [after_folded_iff.mpr ⟨spelled, rfl, same⟩]
    rfl
  · rintro ⟨text, suffix, found⟩
    obtain ⟨behind, found⟩ := Option.isSome_iff_exists.mp found
    obtain ⟨spelled, rfl, same⟩ := after_folded_iff.mp found
    obtain ⟨front, rfl⟩ := (List.mem_tails _ _).mp suffix
    exact ⟨spelled, ⟨front, behind, by rw [List.append_assoc]⟩, same⟩

instance (measure : Measure) (report : Text) : Decidable (measure.LabelIn report) :=
  decidable_of_iff' _ label_in_iff

theorem share_unit {value room : Text} (numeral : ∀ c ∈ value, isNumeralChar c = true)
    (blank : ∀ c ∈ room, isBlank c = true) (rest : Text) :
    after? "%" (trimStart ((value ++ (room ++ '%' :: rest)).dropWhile isNumeralChar)) =
      some rest := by
  have left : (room ++ '%' :: rest).dropWhile isNumeralChar = room ++ '%' :: rest := by
    cases room with
    | nil => rw [List.nil_append, List.dropWhile_cons_of_neg (by decide)]
    | cons c room =>
        rw [List.cons_append, List.dropWhile_cons_of_neg]
        intro digit
        have solid := @value_char_solid .sixteenBitArithmetic c digit
        rw [blank c List.mem_cons_self] at solid
        cases solid
  rw [List.dropWhile_append_of_pos numeral, left, trimStart_gap blank (by decide)]
  rfl

theorem value_from_some {measure : Measure} {value room : Text} (filled : value ≠ [])
    (allowed : ∀ c ∈ value, measure.isValueChar c = true) (blank : ∀ c ∈ room, isBlank c = true)
    (rest : Text) :
    (measure.valueFrom? (value ++ (room ++ (measure.unit ++ rest)))).isSome = true := by
  have taken : ¬ ((value ++ (room ++ (measure.unit ++ rest))).takeWhile
      measure.isValueChar).isEmpty = true := by
    obtain ⟨c, value, rfl⟩ := List.exists_cons_of_ne_nil filled
    rw [List.cons_append, List.takeWhile_cons_of_pos (allowed c List.mem_cons_self)]
    exact Bool.false_ne_true
  rw [valueFrom?, if_neg taken]
  cases measure with
  | sixteenBitArithmetic =>
      rw [if_neg (by decide), Option.isSome_map]
      exact congrArg Option.isSome (share_unit allowed blank rest)
  | _ => rfl

theorem value_here_spelled {measure : Measure} {text : Text} :
    (measure.valueHere? text).isSome = true ↔ measure.Spelled text := by
  constructor
  · intro present
    obtain ⟨value, found⟩ := Option.isSome_iff_exists.mp present
    simp only [value_here_eq, Option.bind_eq_some_iff] at found
    obtain ⟨afterLabel, label, afterColon, colon, found⟩ := found
    obtain ⟨spelled, rfl, same⟩ := after_folded_iff.mp label
    obtain ⟨room, rest, split, blank, filled, allowed⟩ := value_from_parts found
    refine ⟨spelled, afterLabel.takeWhile isBlank, afterColon.takeWhile isBlank, value, room, rest,
      ?_, same, List.all_eq_true.mp List.all_takeWhile, List.all_eq_true.mp List.all_takeWhile,
      blank, filled, allowed⟩
    have outer : afterLabel = afterLabel.takeWhile isBlank ++ ':' :: afterColon :=
      List.takeWhile_append_dropWhile.symm.trans (congrArg (_ ++ ·) (after_spelled colon))
    rw [← split, trimStart, List.takeWhile_append_dropWhile, ← outer]
  · rintro ⟨label, gap, space, value, room, rest, rfl, same, gapBlank, spaceBlank, roomBlank, filled,
      allowed⟩
    have taken := value_from_some filled allowed roomBlank rest
    obtain ⟨c, value, rfl⟩ := List.exists_cons_of_ne_nil filled
    have solid := value_char_solid (allowed c List.mem_cons_self)
    have colon : ∀ behind : Text, after? ":" (':' :: behind) = Option.some behind := fun _ => rfl
    rw [value_here_eq, after_folded_iff.mpr ⟨label, rfl, same⟩, Option.bind_some,
      trimStart_gap gapBlank (by decide), colon, Option.bind_some, List.cons_append,
      trimStart_gap spaceBlank solid]
    exact taken

theorem value_after_spelled {measure : Measure} {text : Text} (spelled : measure.Spelled text)
    {front : Text} {before : Option Char}
    (starts : measure.startsAfter (front.getLast?.or before) = true) :
    (measure.valueAfter? before (front ++ text)).isSome = true := by
  induction front generalizing before with
  | nil =>
      obtain ⟨value, here⟩ := Option.isSome_iff_exists.mp (value_here_spelled.mpr spelled)
      cases text with
      | nil => cases measure <;> cases here
      | cons c rest =>
          have now : measure.startsAfter before = true := starts
          rw [List.nil_append, valueAfter?, now, if_pos rfl, here]
          rfl
  | cons d front induction =>
      rw [List.cons_append, valueAfter?]
      split
      · rfl
      · apply induction
        rw [List.getLast?_cons, Option.some_or] at starts
        cases last : front.getLast? with
        | none => rwa [last] at starts
        | some e => rwa [last] at starts

/-- A measure has a value exactly if it stands in the report with one. -/
theorem value_given {measure : Measure} {report : Text} :
    (measure.value? report).isSome = true ↔ measure.GivenIn report := by
  constructor
  · intro present
    obtain ⟨value, found⟩ := Option.isSome_iff_exists.mp present
    obtain ⟨front, here, rfl, starts, stands⟩ := value_after_found found
    rw [Option.or_none] at starts
    exact ⟨front, here, rfl, starts, value_here_spelled.mp (by rw [stands]; rfl)⟩
  · rintro ⟨front, text, rfl, starts, spelled⟩
    apply value_after_spelled spelled
    rwa [Option.or_none]

instance (measure : Measure) (report : Text) : Decidable (measure.GivenIn report) :=
  decidable_of_iff _ value_given

end Measure

/-- A character that is no upper-case letter is the upper-case form of itself alone. -/
theorem Text.eq_of_toUpper {c d : Char} (upper : d.isUpper = false) (same : c.toUpper = d) :
    c = d := by
  delta Char.toUpper at same
  split at same
  · rename_i lower
    rw [← same] at upper
    delta Char.isUpper at upper
    simp only [UInt32.le_iff_toNat_le, ge_iff_le, decide_eq_false_iff_not,
      UInt32.toNat_add, Char.reduceVal, UInt32.reduceSub, UInt32.reduceToNat] at lower upper
    omega
  · exact same

namespace Measure

open Text

/-- Storing a value changes the bottleneck only where the bottleneck is what was measured. -/
theorem store_bottleneck (measure : Measure) (value : Text) (metrics : Metrics) :
    (measure.store value metrics).bottleneckUnit =
      if measure = bottleneckUnit then toUpper value else metrics.bottleneckUnit := by
  cases measure <;> rfl

end Measure

namespace Metrics

open Text

/-- The bottleneck is spelled with upper-case forms of letters. -/
def Spelled (metrics : Metrics) : Prop :=
  ∀ c ∈ metrics.bottleneckUnit, ∃ letter, isFoldedLetter letter = true ∧ letter.toUpper = c

theorem read_spelled {metrics : Metrics} (spelled : Spelled metrics) (report : Text)
    (measure : Measure) : Spelled (measure.read report metrics) := by
  rw [Measure.read]
  split
  · rename_i value found
    rw [Spelled, Measure.store_bottleneck]
    split
    · rename_i bottleneck
      subst bottleneck
      intro c member
      obtain ⟨letter, inside, rfl⟩ := List.mem_map.mp member
      exact ⟨letter, Measure.value_after_chars found letter inside, rfl⟩
    · exact spelled
  · exact spelled

theorem read_measures_spelled (measures : List Measure) (report : Text) :
    Spelled (readMeasures measures report) := by
  suffices keeps : ∀ metrics, Spelled metrics →
      Spelled (measures.foldl (Measure.read report) metrics) from
    keeps {} fun _ member => nomatch member
  induction measures with
  | nil => exact fun _ spelled => spelled
  | cons measure measures induction =>
      exact fun metrics spelled => induction _ (read_spelled spelled report measure)

theorem of_report_spelled (report : Text) : Spelled (ofReport report) :=
  read_measures_spelled Measure.all report

/-- A character that is neither an upper-case letter nor like a letter is not in a bottleneck. -/
theorem not_mem_bottleneck {metrics : Metrics} (spelled : Spelled metrics) {c : Char}
    (upper : c.isUpper = false) (letter : isFoldedLetter c = false) :
    c ∉ metrics.bottleneckUnit := by
  intro member
  obtain ⟨source, folded, same⟩ := spelled c member
  rw [eq_of_toUpper upper same, letter] at folded
  cases folded

theorem of_report_architecture (report : Text) :
    (ofReport report).architecture ∈ [] :: architectures := by
  have named : (ofReport report).architecture = architectureOf report := rfl
  rw [named, architectureOf]
  cases found : architectures.find? fun name => Text.contains name report with
  | none => exact List.mem_cons_self
  | some name => exact List.mem_cons_of_mem _ (List.mem_of_find?_eq_some found)

end Metrics

end ShaderCost
