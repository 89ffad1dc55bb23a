import ShaderCost.Proofs.Binary64.Rounding
import ShaderCost.Proofs.Metrics.Figures
import ShaderCost.Proofs.Metrics.LetterCase

/-!
The numbers among the metrics of a report. A register count is what a numeral of ASCII digits spells
if it fits 32 bits. A share or a cycle count is the binary64 number nearest to what digits with at
most one point spell, unless that overflows. Everything else that stands behind a label, such as
digits of other scripts, several points or a numeral that is too large, leaves the number zero.
-/

namespace ShaderCost

/-- A numeral of ASCII digits with at most one point: the digits before the point and those behind
it. -/
structure Pointed (numeral whole places : Text) : Prop where
  spelled : numeral = whole ∧ places = [] ∨ numeral = whole ++ '.' :: places
  digits : Digits (whole ++ places)

namespace Binary64

theorem unsigned_pointed {numeral whole places : Text} (pointed : Pointed numeral whole places)
    (negative : Bool) : unsigned? negative numeral =
      some (ofDecimal negative (Text.digitsValue (whole ++ places)) (-places.length)) := by
  obtain ⟨filled, decimal⟩ := pointed.digits
  rw [List.forall_mem_append] at decimal
  rcases pointed.spelled with ⟨rfl, rfl⟩ | rfl
  · obtain ⟨taken, left⟩ := @digits_taken numeral [] decimal.1 nofun
    rw [List.append_nil] at taken left filled
    have some : numeral.isEmpty = false := List.isEmpty_eq_false_iff.mpr filled
    rw [unsigned?, taken, left]
    simp [some, exponentPart?]
  · obtain ⟨taken, left⟩ := @digits_taken whole ('.' :: places) decimal.1 (by simp)
    obtain ⟨places', rest⟩ := @digits_taken places [] decimal.2 nofun
    rw [List.append_nil] at places' rest
    have some : (whole.isEmpty && places.isEmpty) = false := by
      cases whole with
      | nil => exact List.isEmpty_eq_false_iff.mpr filled
      | cons c whole => rfl
    rw [unsigned?, taken, left]
    simp [places', rest, some, exponentPart?]

theorem exponent_part_end {rest : Text} {exponent : Int} (small : 'e' ∉ rest) (capital : 'E' ∉ rest)
    (found : exponentPart? rest = some exponent) : rest = [] := by
  cases rest with
  | nil => rfl
  | cons mark rest =>
      have notSmall : mark ≠ 'e' := fun same => small (same ▸ List.mem_cons_self)
      have notCapital : mark ≠ 'E' := fun same => capital (same ▸ List.mem_cons_self)
      simp [exponentPart?.eq_def, notSmall, notCapital] at found

/-- What is read without an exponent is digits with at most one point. -/
theorem unsigned_spelled {numeral : Text} {negative : Bool} {value : Binary64}
    (small : 'e' ∉ numeral) (capital : 'E' ∉ numeral)
    (found : unsigned? negative numeral = some value) :
    ∃ whole places, Pointed numeral whole places := by
  have decimal (text : Text) : ∀ c ∈ text.takeWhile Char.isDigit, c.isDigit = true :=
    List.all_eq_true.mp List.all_takeWhile
  have cut (text : Text) : text.takeWhile Char.isDigit ++ text.dropWhile Char.isDigit = text :=
    List.takeWhile_append_dropWhile
  have whole := cut numeral
  rw [unsigned?] at found
  generalize numeral.dropWhile Char.isDigit = left at found whole
  generalize digits : numeral.takeWhile Char.isDigit = front at found whole
  subst whole
  simp only [List.mem_append, not_or] at small capital
  have frontDigits : ∀ c ∈ front, c.isDigit = true := digits ▸ decimal _
  split at found
  rename_i places rest parts
  split at found
  · cases found
  · rename_i filled
    obtain ⟨exponent, read, -⟩ := Option.map_eq_some_iff.mp found
    split at parts
    · rename_i behind
      obtain ⟨rfl, rfl⟩ := Prod.mk.inj parts
      have inside : ∀ c ∈ behind.dropWhile Char.isDigit, c ∈ '.' :: behind :=
        fun c member => List.mem_cons_of_mem _ ((List.dropWhile_sublist _).mem member)
      have ended := exponent_part_end (mt (inside 'e') small.2) (mt (inside 'E') capital.2) read
      have places := cut behind
      rw [ended, List.append_nil] at places
      rw [places] at filled
      refine ⟨front, behind, .inr rfl, ?_, ?_⟩
      · simpa [and_comm] using filled
      · exact List.forall_mem_append.mpr ⟨frontDigits, places ▸ decimal behind⟩
    · obtain ⟨rfl, rfl⟩ := Prod.mk.inj parts
      have ended := exponent_part_end small.2 capital.2 read
      rw [ended, List.append_nil]
      refine ⟨front, [], .inl ⟨rfl, rfl⟩, ?_, ?_⟩
      · simpa using filled
      · simpa using frontDigits

/-- A numeral of a report has no sign, no exponent and is no name. -/
theorem of_text_numeral {numeral : Text}
    (chars : ∀ c ∈ numeral, Measure.isNumeralChar c = true) :
    ofText? numeral = unsigned? false numeral := by
  have unsigned : ofText? numeral = unsignedOrName? false numeral := by
    rw [ofText?.eq_def]
    split
    · exact absurd (chars '-' List.mem_cons_self) (by decide)
    · exact absurd (chars '+' List.mem_cons_self) (by decide)
    · rfl
  have lowered : Text.toLower numeral = numeral := by
    rw [Text.toLower, List.map_congr_left fun c member => Measure.lower_numeral (chars c member)]
    exact List.map_id _
  have unnamed {name : Text} (letter : Char) (named : letter ∈ name)
      (apart : Measure.isNumeralChar letter = false) : (numeral == name) = false := by
    rw [beq_eq_false_iff_ne]
    rintro rfl
    rw [chars letter named] at apart
    cases apart
  have nan := @unnamed "nan" 'n' (by decide) (by decide)
  have short := @unnamed "inf" 'n' (by decide) (by decide)
  have long := @unnamed "infinity" 'n' (by decide) (by decide)
  simp only [unsigned, unsignedOrName?, lowered, nan, short, long, Bool.or_false,
    Bool.false_eq_true, if_false]

end Binary64

/-- A numeral that spells a number, and one that is not too large. -/
def Readable (numeral : Text) : Prop :=
  ∃ whole places, Pointed numeral whole places ∧
    Text.digitsValue (whole ++ places) < Binary64.overflowBound * tenTo places.length

namespace Measure

open Text

theorem digit_numeral {c : Char} (digit : c.isDigit = true) : isNumeralChar c = true := by
  have small : c.toNat < 128 := by
    rw [Char.isDigit, Bool.and_eq_true, decide_eq_true_eq, decide_eq_true_eq] at digit
    exact Nat.lt_of_le_of_lt (UInt32.le_iff_toNat_le.mp digit.2) (by decide)
  rw [isNumeralChar, isDecimalDigit, if_pos small, digit, Bool.true_or]

theorem pointed_chars {numeral whole places : Text} (pointed : Pointed numeral whole places) :
    ∀ c ∈ numeral, isNumeralChar c = true := by
  have digits := fun c member => digit_numeral (pointed.digits.decimal c member)
  rw [List.forall_mem_append] at digits
  rcases pointed.spelled with ⟨rfl, -⟩ | rfl
  · exact digits.1
  · exact List.forall_mem_append.mpr ⟨digits.1, List.forall_mem_cons.mpr ⟨by decide, digits.2⟩⟩

theorem number_pointed {numeral whole places : Text} (pointed : Pointed numeral whole places) :
    number? numeral =
      (some (Binary64.ofRatio false (digitsValue (whole ++ places)) (tenTo places.length))).filter
        Binary64.isFinite := by
  have positive : (-(places.length : Int)).toNat = 0 := by omega
  have whole' : tenTo 0 = 1 := by decide
  have count : (- -(places.length : Int)).toNat = places.length := by omega
  rw [number?, Binary64.of_text_numeral (pointed_chars pointed),
    Binary64.unsigned_pointed pointed, Binary64.of_decimal_eq, positive, whole', Nat.mul_one, count]

theorem ratio_finite (digits places : Nat) :
    (Binary64.ofRatio false digits (tenTo places)).isFinite = true ↔
      digits < Binary64.overflowBound * tenTo places :=
  Binary64.of_ratio_finite (Nat.ne_of_gt (Binary64.ten_to_positive places))

theorem number_read {numeral whole places : Text} (pointed : Pointed numeral whole places)
    (below : digitsValue (whole ++ places) < Binary64.overflowBound * tenTo places.length) :
    number? numeral =
      some (Binary64.ofRatio false (digitsValue (whole ++ places)) (tenTo places.length)) := by
  rw [number_pointed pointed, Option.filter_some, if_pos ((ratio_finite _ _).mpr below)]

theorem number_unread {numeral : Text} (chars : ∀ c ∈ numeral, isNumeralChar c = true)
    (unreadable : ¬ Readable numeral) : number? numeral = none := by
  rw [Option.eq_none_iff_forall_ne_some]
  intro number read
  have parsed := (Option.filter_eq_some_iff.mp read).1
  rw [Binary64.of_text_numeral chars] at parsed
  have letter {c : Char} (apart : isNumeralChar c = false) : c ∉ numeral := fun member =>
    absurd (chars c member) (by rw [apart]; exact Bool.false_ne_true)
  obtain ⟨whole, places, pointed⟩ :=
    Binary64.unsigned_spelled (letter (by decide)) (letter (by decide)) parsed
  apply unreadable
  refine ⟨whole, places, pointed, (ratio_finite _ _).mp ?_⟩
  rw [number_pointed pointed] at read
  obtain ⟨same, finite⟩ := Option.filter_eq_some_iff.mp read
  rwa [Option.some.inj same]

theorem number_not_negative {numeral : Text} {number : Binary64}
    (chars : ∀ c ∈ numeral, isNumeralChar c = true) (read : number? numeral = some number) :
    number.isFinite = true ∧ number.isNegative = false := by
  refine ⟨(Option.filter_eq_some_iff.mp read).2, ?_⟩
  by_cases readable : Readable numeral
  · obtain ⟨whole, places, pointed, below⟩ := readable
    rw [number_read pointed below] at read
    rw [← Option.some.inj read]
    exact Binary64.of_ratio_not_negative _ _
  · rw [number_unread chars readable] at read
    cases read

theorem count_read {numeral : Text} {count : Nat} : count? numeral = some count ↔
    Digits numeral ∧ digitsValue numeral < twoTo 32 ∧ count = digitsValue numeral := by
  rw [count?, natBelow?, Option.filter_eq_some_iff, decide_eq_true_eq, nat?]
  constructor
  · rintro ⟨read, below⟩
    split at read
    · cases read
    · rename_i digits
      rw [Bool.or_eq_true, not_or] at digits
      obtain rfl := Option.some.inj read
      exact ⟨⟨by simpa using digits.1, by simpa using digits.2⟩, below, rfl⟩
  · rintro ⟨⟨filled, decimal⟩, below, rfl⟩
    refine ⟨if_neg ?_, below⟩
    simpa [filled] using decimal

/-- The figure of a measure by the value that was found: a value that cannot be read is as good as
none. -/
theorem figure_of_value (measure : Measure) (value : Option Text) :
    measure.figureOf value = match measure with
      | workRegisters | uniformRegisters => .count ((value.bind count?).getD 0)
      | bottleneckUnit => .unit ((value.map toUpper).getD [])
      | sixteenBitArithmetic | totalCycles | shortestPathCycles | longestPathCycles =>
          .number ((value.bind number?).getD 0) := by
  cases measure <;> cases value <;> rfl

end Measure

/-- What a figure is by the numeral that stands behind its label. A count is exact; a number is the
nearest one, finite and with its sign bit clear; and both are zero where there is no numeral that
can be read as they are. -/
inductive Figure.Usable (numeral : Option Text) : Figure → Prop where
  | count (value : Nat)
      (exact : ∀ text ∈ numeral, Digits text → Text.digitsValue text < twoTo 32 →
        value = Text.digitsValue text)
      (zero : (∀ text ∈ numeral, ¬ (Digits text ∧ Text.digitsValue text < twoTo 32)) → value = 0) :
      Usable numeral (.count value)
  | number (value : Binary64)
      (finite : value.isFinite = true)
      (positive : value.isNegative = false)
      (nearest : ∀ text ∈ numeral, ∀ whole places, Pointed text whole places →
        Text.digitsValue (whole ++ places) < Binary64.overflowBound * tenTo places.length →
          value = Binary64.ofRatio false (Text.digitsValue (whole ++ places)) (tenTo places.length))
      (zero : (∀ text ∈ numeral, ¬ Readable text) → value = 0) :
      Usable numeral (.number value)
  | unit (code : Text) : Usable numeral (.unit code)

namespace Metrics

open ShaderCost.Measure

theorem count_usable (numeral : Option Text) :
    Figure.Usable numeral (.count ((numeral.bind count?).getD 0)) := by
  apply Figure.Usable.count
  · rintro text rfl digits below
    rw [Option.bind_some, count_read.mpr ⟨digits, below, rfl⟩, Option.getD_some]
  · intro unread
    have none : numeral.bind count? = none := by
      rw [Option.bind_eq_none_iff]
      intro text given
      rw [Option.eq_none_iff_forall_ne_some]
      intro count read
      obtain ⟨digits, below, -⟩ := count_read.mp read
      exact unread text given ⟨digits, below⟩
    rw [none, Option.getD_none]

theorem number_usable {numeral : Option Text}
    (chars : ∀ text ∈ numeral, ∀ c ∈ text, isNumeralChar c = true) :
    Figure.Usable numeral (.number ((numeral.bind number?).getD 0)) := by
  have sound : ((numeral.bind number?).getD 0).isFinite = true ∧
      ((numeral.bind number?).getD 0).isNegative = false := by
    cases read : numeral.bind number? with
    | none => decide
    | some number =>
        obtain ⟨text, given, read⟩ := Option.bind_eq_some_iff.mp read
        exact number_not_negative (chars text given) read
  apply Figure.Usable.number _ sound.1 sound.2
  · rintro text rfl whole places pointed below
    rw [Option.bind_some, number_read pointed below, Option.getD_some]
  · intro unreadable
    have none : numeral.bind number? = none := by
      rw [Option.bind_eq_none_iff]
      intro text given
      exact number_unread (chars text given) (unreadable text given)
    rw [none, Option.getD_none]

/-- The counts and numbers of a report can be used, whatever stands in it. -/
theorem scraped_numbers_usable (report : Text) (measure : Measure) :
    ((ofReport report).figure measure).Usable (measure.value? report) := by
  have chars : ∀ text ∈ measure.value? report, ∀ c ∈ text, measure.isValueChar c = true :=
    fun text found => value_after_chars found
  rw [of_report_figure, figure_of_value]
  cases measure with
  | workRegisters | uniformRegisters => exact count_usable _
  | bottleneckUnit => exact .unit _
  | sixteenBitArithmetic | totalCycles | shortestPathCycles | longestPathCycles =>
      exact number_usable chars

end Metrics

end ShaderCost
