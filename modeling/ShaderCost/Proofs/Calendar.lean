import ShaderCost.Calendar.Moment
import ShaderCost.Proofs.Text.Numeral
import ShaderCost.Proofs.Text.Order

/-!
The calendar follows time, and so do the stamps in file names. A later day has a later date across
the ends of months, leap years and centuries, and a later second has a later local date or time of
day; years are counted from March here, so that a leap day is the last day of its year. In the years
of four digits each number of a stamp takes a fixed number of digits, so the date and the time of
day can be read off it, and stamps of different moments differ first in a digit that is lower in the
earlier one.
-/

namespace ShaderCost.Calendar

/-- The days from the first of March of the year zero to the first of March of a year. -/
def daysBefore (year : Int) : Int := 365 * year + year / 4 - year / 100 + year / 400

theorem days_before_succ (year : Int) :
    daysBefore year + 365 ≤ daysBefore (year + 1) ∧
      daysBefore (year + 1) ≤ daysBefore year + 366 := by
  simp only [daysBefore]
  omega

theorem days_before_mono {year later : Int} (order : year ≤ later) :
    daysBefore year ≤ daysBefore later := by
  simp only [daysBefore]
  omega

/-- The days of an era before one of its years. -/
def daysIntoEra (year : Nat) : Nat := 365 * year + year / 4 - year / 100 + year / 400

theorem days_before_era (era : Int) (year : Nat) :
    daysBefore (year + era * 400) = era * daysPerEra + daysIntoEra year := by
  simp only [daysBefore, daysPerEra, daysIntoEra]
  omega

theorem year_of_era_mono {day later : Nat} (order : day ≤ later) :
    yearOfEra day ≤ yearOfEra later := by
  have quarter (day : Nat) : day / 146096 = day / 36524 / 4 := by
    rw [Nat.div_div_eq_div_mul]
  rw [yearOfEra, yearOfEra, quarter, quarter]
  apply Nat.div_le_div_right
  have centuries := Nat.div_le_div_right (c := 36524) order
  omega

theorem year_of_era_ends : ∀ year < 400, yearOfEra (daysIntoEra year) = year ∧
    yearOfEra (daysIntoEra (year + 1) - 1) = year := by
  decide +kernel

/-- The year of an era that a day belongs to begins no later, and the next year after the day. -/
theorem year_of_era_bounds {day : Nat} (inside : day < daysPerEra) :
    yearOfEra day < 400 ∧ daysIntoEra (yearOfEra day) ≤ day ∧
      day < daysIntoEra (yearOfEra day + 1) := by
  have last : yearOfEra (daysPerEra - 1) = 399 := by decide
  have below : yearOfEra day < 400 := by
    have most := year_of_era_mono (Nat.le_sub_one_of_lt inside)
    omega
  refine ⟨below, ?_, ?_⟩
  · apply Nat.le_of_not_lt
    intro early
    cases started : yearOfEra day with
    | zero =>
        rw [started] at early
        exact Nat.not_lt_zero _ early
    | succ year =>
        rw [started] at early below
        have before := year_of_era_mono (Nat.le_sub_one_of_lt early)
        rw [started, (year_of_era_ends year (by omega)).2] at before
        omega
  · apply Nat.lt_of_not_le
    intro late
    by_cases more : yearOfEra day + 1 < 400
    · have next := year_of_era_mono late
      rw [(year_of_era_ends _ more).1] at next
      omega
    · have final : yearOfEra day = 399 := by omega
      rw [final] at late
      have whole : daysIntoEra (399 + 1) = daysPerEra := by decide
      omega

/-- The year, begun in March, that a day lies in, and the day of that year. -/
structure March (days year : Int) (dayOfYear : Nat) : Prop where
  starts : days + 719468 = daysBefore year + dayOfYear
  ends : days + 719468 < daysBefore (year + 1)

/-- The date of the day of a year that begins in March; its months have as many days as the months
in 153 days, five by five. -/
def marchDate (year : Int) (dayOfYear : Nat) : Date :=
  let month := (5 * dayOfYear + 2) / 153
  ⟨if month < 10 then year else year + 1, if month < 10 then month + 3 else month - 9,
    dayOfYear - (153 * month + 2) / 5 + 1⟩

theorem of_days_march (days : Int) : ∃ (year : Int) (dayOfYear : Nat),
    March days year dayOfYear ∧ Date.ofDays days = marchDate year dayOfYear := by
  have positive : (0 : Int) < daysPerEra := by decide
  have natural := Int.fmod_nonneg_of_pos (days + 719468) positive
  have below := Int.fmod_lt_of_pos (days + 719468) positive
  have whole := Int.mul_fdiv_add_fmod (days + 719468) daysPerEra
  rw [Date.ofDays]
  generalize (days + 719468).fdiv daysPerEra = era at whole
  generalize (days + 719468).fmod daysPerEra = rest at natural below whole
  obtain ⟨day, rfl⟩ := Int.eq_ofNat_of_zero_le natural
  obtain ⟨inside, early, late⟩ := year_of_era_bounds (Int.ofNat_lt.mp below)
  rw [Int.toNat_natCast]
  generalize yearOfEra day = year at inside early late
  refine ⟨year + era * 400, day - daysIntoEra year, ⟨?_, ?_⟩, ?_⟩
  · rw [days_before_era, Int.mul_comm era]
    omega
  · have next : (year : Int) + era * 400 + 1 = (year + 1 : Nat) + era * 400 := by omega
    rw [next, days_before_era, Int.mul_comm era]
    omega
  · have plain : 365 * year + year / 4 - year / 100 = daysIntoEra year := by
      rw [daysIntoEra, Nat.div_eq_of_lt inside, Nat.add_zero]
    have length : daysIntoEra (year + 1) ≤ daysIntoEra year + 366 := by
      simp only [daysIntoEra]
      omega
    have short : (5 * (day - daysIntoEra year) + 2) / 153 < 12 := by omega
    simp only [marchDate, plain]
    generalize (5 * (day - daysIntoEra year) + 2) / 153 = month at short
    congr 1
    split <;> split <;> omega

theorem March.short {days year : Int} {dayOfYear : Nat} (march : March days year dayOfYear) :
    dayOfYear ≤ 365 := by
  have starts := march.starts
  have ends := march.ends
  have length := (days_before_succ year).2
  omega

/-- Whether a date comes before another. -/
def Date.Precedes (left right : Date) : Prop :=
  left.year < right.year ∨ left.year = right.year ∧
    (left.month < right.month ∨ left.month = right.month ∧ left.day < right.day)

theorem of_days_precedes {days later : Int} (order : days < later) :
    (Date.ofDays days).Precedes (Date.ofDays later) := by
  obtain ⟨year, day, march, date⟩ := of_days_march days
  obtain ⟨next, dayLater, marchLater, dateLater⟩ := of_days_march later
  have starts := march.starts
  have startsLater := marchLater.starts
  have years : year ≤ next := by
    apply Int.not_lt.mp
    intro back
    have before := days_before_mono (Int.add_one_le_iff.mpr back)
    have ends := marchLater.ends
    omega
  have short := march.short
  have shortLater := marchLater.short
  rw [date, dateLater, marchDate, marchDate, Date.Precedes]
  dsimp only
  rcases Int.lt_or_eq_of_le years with before | rfl
  · split <;> split <;> omega
  · have days : day < dayLater := by omega
    split <;> split <;> omega

/-- The numbers of a month and of a day of it. -/
structure Date.InRange (date : Date) : Prop where
  month : 1 ≤ date.month ∧ date.month ≤ 12
  day : 1 ≤ date.day ∧ date.day ≤ 31

theorem of_days_in_range (days : Int) : (Date.ofDays days).InRange := by
  obtain ⟨year, day, march, date⟩ := of_days_march days
  have short := march.short
  rw [date, marchDate]
  refine ⟨?_, ?_⟩ <;> dsimp only
  · split <;> omega
  · omega

theorem day_parts (seconds : Int) : 86400 * seconds.fdiv 86400 + seconds.fmod 86400 = seconds ∧
    0 ≤ seconds.fmod 86400 ∧ seconds.fmod 86400 < 86400 := by
  have positive : (0 : Int) < 86400 := by decide
  exact ⟨Int.mul_fdiv_add_fmod seconds 86400, Int.fmod_nonneg_of_pos seconds positive,
    Int.fmod_lt_of_pos seconds positive⟩

/-- The second of the day that a time of day is. -/
def Local.secondOfDay (time : Local) : Nat := (time.hour * 60 + time.minute) * 60 + time.second

structure Local.InRange (time : Local) : Prop where
  date : time.date.InRange
  hour : time.hour < 24
  minute : time.minute < 60
  second : time.second < 60

theorem to_local_in_range (moment : Moment) : moment.toLocal.InRange := by
  obtain ⟨_, natural, below⟩ := day_parts (moment.seconds + moment.offset)
  refine ⟨of_days_in_range _, ?_, ?_, ?_⟩ <;> rw [Moment.toLocal] <;> dsimp only <;> omega

/-- Whether a local time comes before another. -/
def Local.Precedes (left right : Local) : Prop :=
  left.date.Precedes right.date ∨
    left.date = right.date ∧ left.secondOfDay < right.secondOfDay

theorem to_local_precedes {moment later : Moment} (offset : moment.offset = later.offset)
    (order : moment.seconds < later.seconds) : moment.toLocal.Precedes later.toLocal := by
  rw [Local.Precedes, Local.secondOfDay, Local.secondOfDay, Moment.toLocal, Moment.toLocal, ← offset]
  dsimp only
  have shifted : moment.seconds + moment.offset < later.seconds + moment.offset := by omega
  generalize moment.seconds + moment.offset = seconds at shifted
  generalize later.seconds + moment.offset = secondsLater at shifted
  obtain ⟨whole, natural, below⟩ := day_parts seconds
  obtain ⟨wholeLater, naturalLater, belowLater⟩ := day_parts secondsLater
  have days : seconds.fdiv 86400 ≤ secondsLater.fdiv 86400 := by omega
  rcases Int.lt_or_eq_of_le days with before | same
  · exact .inl (of_days_precedes before)
  · right
    refine ⟨by rw [same], ?_⟩
    omega

end ShaderCost.Calendar

namespace ShaderCost

theorem digits_value_cons (c : Char) (digits : Text) : Text.digitsValue (c :: digits) =
    tenTo digits.length * (c.toNat - '0'.toNat) + Text.digitsValue digits := by
  have single : Text.digitsValue [c] = c.toNat - '0'.toNat := by
    simp [Text.digitsValue]
  rw [← single, ← digits_value_append]
  rfl

/-- Digits come before as many digits of a greater number, whatever follows either. -/
theorem digits_lex {left right : Text} (leftDecimal : ∀ c ∈ left, c.isDigit = true)
    (rightDecimal : ∀ c ∈ right, c.isDigit = true) (size : left.length = right.length)
    (less : Text.digitsValue left < Text.digitsValue right) (behind following : Text) :
    List.Lex (· < ·) (Text.octetNumbers (left ++ behind))
      (Text.octetNumbers (right ++ following)) := by
  induction left generalizing right with
  | nil =>
      obtain rfl := List.length_eq_zero_iff.mp size.symm
      exact absurd less (Nat.lt_irrefl _)
  | cons c left induction =>
      cases right with
      | nil => simp at size
      | cons d right =>
          rw [List.forall_mem_cons] at leftDecimal rightDecimal
          have rest : left.length = right.length := by simpa using size
          rw [digits_value_cons, digits_value_cons, rest] at less
          rw [List.cons_append, List.cons_append, Text.octet_numbers_cons, Text.octet_numbers_cons]
          by_cases same : c = d
          · subst same
            rw [Text.lex_append_left]
            exact induction leftDecimal.2 rightDecimal.2 rest (Nat.add_lt_add_iff_left.mp less)
          · apply Text.char_numbers_lex
            have apart : c.toNat ≠ d.toNat := fun equal => same (Char.toNat_inj.mp equal)
            apply Nat.lt_of_not_le
            intro above
            have bound := digits_value_bound rightDecimal.2
            have least : '0'.toNat ≤ d.toNat := by
              have digit := rightDecimal.1
              rw [Char.isDigit, Bool.and_eq_true, decide_eq_true_eq] at digit
              exact UInt32.le_iff_toNat_le.mp digit.1
            have more : d.toNat - '0'.toNat + 1 ≤ c.toNat - '0'.toNat := by omega
            have shifted := Nat.mul_le_mul_left (tenTo right.length) more
            rw [Nat.mul_add, Nat.mul_one] at shifted
            omega

namespace Calendar

theorem padded_decimal (width number : Nat) : ∀ c ∈ padded width number, c.isDigit = true := by
  intro c member
  rcases List.mem_append.mp member with zero | digit
  · rw [List.eq_of_mem_replicate zero]
    decide
  · exact (digits_of_nat number).decimal c digit

theorem padded_value (width number : Nat) : Text.digitsValue (padded width number) = number := by
  have zeros (count : Nat) : Text.digitsValue (List.replicate count '0') = 0 := by
    have value : Nat.ofDigitChars 10 (List.replicate count '0') 0 = 0 := by
      rw [Nat.ofDigitChars_replicate_zero, Nat.mul_zero]
    exact value
  rw [padded, digits_value_append, zeros, Nat.mul_zero, Nat.zero_add, digits_value_of_nat]

theorem padded_length {width number : Nat} (positive : 0 < width) (fits : number < tenTo width) :
    (padded width number).length = width := by
  have short := (Nat.length_toDigits_le_iff (b := 10) (by decide) positive).mpr fits
  rw [padded, List.length_append, List.length_replicate]
  exact Nat.sub_add_cancel short

/-- The digits of a date in a stamp. -/
def Date.digits (date : Date) : Text :=
  padded 4 date.year.natAbs ++ padded 2 date.month ++ padded 2 date.day

/-- The digits of a time of day in a stamp. -/
def Local.digits (time : Local) : Text :=
  padded 2 time.hour ++ padded 2 time.minute ++ padded 2 time.second

theorem file_stamp_eq {moment : Moment} (past : 0 ≤ moment.toLocal.date.year) :
    moment.fileStamp = moment.toLocal.date.digits ++ '_' :: moment.toLocal.digits := by
  rw [Moment.fileStamp, yearText, if_neg (Int.not_lt.mpr past), Date.digits, Local.digits]
  simp

theorem mem_file_stamp {moment : Moment} {c : Char} (member : c ∈ moment.fileStamp) :
    c.isDigit = true ∨ c = '-' ∨ c = '_' := by
  have year : c ∈ yearText moment.toLocal.date.year → c.isDigit = true ∨ c = '-' := by
    rw [yearText]
    split
    · intro inside
      rcases List.mem_cons.mp inside with minus | digit
      · exact .inr minus
      · exact .inl (padded_decimal _ _ c digit)
    · exact fun digit => .inl (padded_decimal _ _ c digit)
  simp only [Moment.fileStamp, List.mem_append] at member
  rcases member with (((((date | month) | day) | under) | hour) | minute) | second
  · exact (year date).imp_right .inl
  · exact .inl (padded_decimal _ _ c month)
  · exact .inl (padded_decimal _ _ c day)
  · exact .inr (.inr (List.mem_singleton.mp under))
  · exact .inl (padded_decimal _ _ c hour)
  · exact .inl (padded_decimal _ _ c minute)
  · exact .inl (padded_decimal _ _ c second)

theorem Date.digits_decimal (date : Date) : ∀ c ∈ date.digits, c.isDigit = true := by
  simp only [digits, List.forall_mem_append]
  exact ⟨⟨padded_decimal _ _, padded_decimal _ _⟩, padded_decimal _ _⟩

theorem Local.digits_decimal (time : Local) : ∀ c ∈ time.digits, c.isDigit = true := by
  simp only [digits, List.forall_mem_append]
  exact ⟨⟨padded_decimal _ _, padded_decimal _ _⟩, padded_decimal _ _⟩

theorem Date.digits_value {date : Date} (range : date.InRange) :
    Text.digitsValue date.digits = (date.year.natAbs * 100 + date.month) * 100 + date.day := by
  have hundred : tenTo 2 = 100 := rfl
  obtain ⟨month, day⟩ := range
  rw [digits, digits_value_append, digits_value_append, padded_value, padded_value, padded_value,
    padded_length (by decide) (by omega), padded_length (by decide) (by omega), hundred]
  omega

theorem Date.digits_length {date : Date} (range : date.InRange)
    (year : 0 ≤ date.year ∧ date.year ≤ 9999) : date.digits.length = 8 := by
  have hundred : tenTo 2 = 100 := rfl
  have years : tenTo 4 = 10000 := rfl
  obtain ⟨month, day⟩ := range
  rw [digits, List.length_append, List.length_append, padded_length (by decide) (by omega),
    padded_length (by decide) (by omega), padded_length (by decide) (by omega)]

theorem Local.digits_value {time : Local} (range : time.InRange) :
    Text.digitsValue time.digits = (time.hour * 100 + time.minute) * 100 + time.second := by
  have hundred : tenTo 2 = 100 := rfl
  obtain ⟨_, hour, minute, second⟩ := range
  rw [digits, digits_value_append, digits_value_append, padded_value, padded_value, padded_value,
    padded_length (by decide) (by omega), padded_length (by decide) (by omega), hundred]
  omega

theorem Local.digits_length {time : Local} (range : time.InRange) : time.digits.length = 6 := by
  have hundred : tenTo 2 = 100 := rfl
  obtain ⟨_, hour, minute, second⟩ := range
  rw [digits, List.length_append, List.length_append, padded_length (by decide) (by omega),
    padded_length (by decide) (by omega), padded_length (by decide) (by omega)]

/-- The years that take four digits. -/
def Moment.FourDigits (moment : Moment) : Prop :=
  0 ≤ moment.toLocal.date.year ∧ moment.toLocal.date.year ≤ 9999

instance (moment : Moment) : Decidable moment.FourDigits := inferInstanceAs (Decidable (_ ∧ _))

section Stamps

variable {moment later : Moment} (year : moment.FourDigits) (yearLater : later.FourDigits)

include year

theorem file_stamp_length : moment.fileStamp.length = 15 := by
  have range := to_local_in_range moment
  rw [file_stamp_eq year.1, List.length_append, List.length_cons,
    Date.digits_length range.date year, Local.digits_length range]

include yearLater

theorem file_stamp_injective (same : moment.fileStamp = later.fileStamp) :
    moment.toLocal = later.toLocal := by
  have range := to_local_in_range moment
  have rangeLater := to_local_in_range later
  rw [file_stamp_eq year.1, file_stamp_eq yearLater.1] at same
  obtain ⟨dates, clocks⟩ := List.append_inj same
    ((Date.digits_length range.date year).trans (Date.digits_length rangeLater.date yearLater).symm)
  have dateValues := congrArg Text.digitsValue dates
  have clockValues := congrArg Text.digitsValue (List.cons.inj clocks).2
  rw [Date.digits_value range.date, Date.digits_value rangeLater.date] at dateValues
  rw [Local.digits_value range, Local.digits_value rangeLater] at clockValues
  obtain ⟨⟨month, day⟩, hour, minute, second⟩ := range
  obtain ⟨⟨monthLater, dayLater⟩, hourLater, minuteLater, secondLater⟩ := rangeLater
  obtain ⟨past, _⟩ := year
  obtain ⟨pastLater, _⟩ := yearLater
  generalize moment.toLocal = time at *
  generalize later.toLocal = timeLater at *
  obtain ⟨⟨_, _, _⟩, _, _, _⟩ := time
  obtain ⟨⟨_, _, _⟩, _, _, _⟩ := timeLater
  simp only [Local.mk.injEq, Date.mk.injEq] at *
  omega

/-- Stamps with anything behind them are in the order of the local times. -/
theorem file_stamp_lex (order : moment.toLocal.Precedes later.toLocal) (behind following : Text) :
    List.Lex (· < ·) (Text.octetNumbers (moment.fileStamp ++ behind))
      (Text.octetNumbers (later.fileStamp ++ following)) := by
  have range := to_local_in_range moment
  have rangeLater := to_local_in_range later
  rw [file_stamp_eq year.1, file_stamp_eq yearLater.1, List.append_assoc, List.append_assoc]
  rcases order with before | ⟨same, before⟩
  · apply digits_lex (Date.digits_decimal _) (Date.digits_decimal _)
    · rw [Date.digits_length range.date year, Date.digits_length rangeLater.date yearLater]
    · rw [Date.digits_value range.date, Date.digits_value rangeLater.date]
      have past := year.1
      have pastLater := yearLater.1
      obtain ⟨⟨month, day⟩⟩ := range
      obtain ⟨⟨monthLater, dayLater⟩⟩ := rangeLater
      rw [Date.Precedes] at before
      omega
  · rw [same, Text.octet_numbers_append later.toLocal.date.digits,
      Text.octet_numbers_append later.toLocal.date.digits, Text.lex_append_left,
      List.cons_append, List.cons_append, Text.octet_numbers_cons, Text.octet_numbers_cons,
      Text.lex_append_left]
    apply digits_lex (Local.digits_decimal _) (Local.digits_decimal _)
    · rw [Local.digits_length range, Local.digits_length rangeLater]
    · rw [Local.digits_value range, Local.digits_value rangeLater]
      obtain ⟨_, hour, minute, second⟩ := range
      obtain ⟨_, hourLater, minuteLater, secondLater⟩ := rangeLater
      rw [Local.secondOfDay, Local.secondOfDay] at before
      omega

end Stamps

end Calendar

end ShaderCost
