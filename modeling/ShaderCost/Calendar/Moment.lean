import ShaderCost.Text.Numeral

/-!
Dates of the proleptic Gregorian calendar, counted in days from 1970-01-01, and moments with the
offset at which they are shown. Moments have two written forms: the internet timestamp of a report,
and the compact stamp of a report's file name.
-/

namespace ShaderCost.Calendar

/-- A date. For reckoning a year starts in March, so that the leap day is the last one; four
hundred years make one era of fixed length. -/
structure Date where
  year : Int
  month : Nat
  day : Nat
  deriving DecidableEq

def daysPerEra : Nat := 146097

/-- The years of an era that lie wholly before a day of the era. -/
def yearOfEra (dayOfEra : Nat) : Nat :=
  (dayOfEra - dayOfEra / 1460 + dayOfEra / 36524 - dayOfEra / 146096) / 365

/-- The date that lies `days` after 1970-01-01; 719468 days before that day an era began. -/
def Date.ofDays (days : Int) : Date :=
  let shifted := days + 719468
  let era := shifted.fdiv daysPerEra
  let dayOfEra := (shifted.fmod daysPerEra).toNat
  let yearInEra := yearOfEra dayOfEra
  let dayOfYear := dayOfEra - (365 * yearInEra + yearInEra / 4 - yearInEra / 100)
  let monthFromMarch := (5 * dayOfYear + 2) / 153
  let day := dayOfYear - (153 * monthFromMarch + 2) / 5 + 1
  let month := if monthFromMarch < 10 then monthFromMarch + 3 else monthFromMarch - 9
  let year : Int := yearInEra + era * 400
  ⟨if month ≤ 2 then year + 1 else year, month, day⟩

/-- Seconds and nanoseconds since 1970-01-01 at offset zero, and the offset shown, in seconds. -/
structure Moment where
  seconds : Int
  nanos : Nat := 0
  offset : Int := 0
  deriving DecidableEq

/-- Local date and time of day. -/
structure Local where
  date : Date
  hour : Nat
  minute : Nat
  second : Nat
  deriving DecidableEq

def Moment.toLocal (moment : Moment) : Local :=
  let shifted := moment.seconds + moment.offset
  let inDay := (shifted.fmod 86400).toNat
  ⟨Date.ofDays (shifted.fdiv 86400), inDay / 3600, inDay / 60 % 60, inDay % 60⟩

/-- A natural with zeros in front up to the given width. -/
def padded (width number : Nat) : Text :=
  let digits := Text.ofNat number
  List.replicate (width - digits.length) '0' ++ digits

/-- A year has four digits, with a minus sign in front before the year zero. -/
def yearText (year : Int) : Text :=
  if year < 0 then '-' :: padded 4 year.natAbs else padded 4 year.natAbs

/-- The nanoseconds as decimal places, without zeros at the end. -/
def fractionDigits (nanos : Nat) : Text :=
  ((padded 9 nanos).reverse.dropWhile (· == '0')).reverse

def dateText (date : Date) : Text :=
  yearText date.year ++ "-" ++ padded 2 date.month ++ "-" ++ padded 2 date.day

def clockText (time : Local) : Text :=
  padded 2 time.minute ++ ":" ++ padded 2 time.second

def offsetSign (offset : Int) : Text := if offset < 0 then "-" else "+"

/-- The internet form: `Z` for offset zero, and a fraction only where there is one. -/
def Moment.internetText (moment : Moment) : Text :=
  let time := moment.toLocal
  let away := moment.offset.natAbs
  let fraction := fractionDigits moment.nanos
  let zone := if moment.offset = 0 then "Z".toList
    else offsetSign moment.offset ++ padded 2 (away / 3600) ++ ":" ++ padded 2 (away / 60 % 60)
  dateText time.date ++ "T" ++ padded 2 time.hour ++ ":" ++ clockText time ++
    (if fraction.isEmpty then [] else '.' :: fraction) ++ zone

/-- The plain form, for moments that the internet form cannot express. -/
def Moment.plainText (moment : Moment) : Text :=
  let time := moment.toLocal
  let away := moment.offset.natAbs
  let fraction := fractionDigits moment.nanos
  dateText time.date ++ " " ++ Text.ofNat time.hour ++ ":" ++ clockText time ++ "." ++
    (if fraction.isEmpty then ['0'] else fraction) ++ " " ++ offsetSign moment.offset ++
    padded 2 (away / 3600) ++ ":" ++ padded 2 (away / 60 % 60) ++ ":" ++ padded 2 (away % 60)

/-- The internet form covers the local years 0 to 9999 and offsets of whole minutes. -/
def Moment.timestamp (moment : Moment) : Text :=
  let year := moment.toLocal.date.year
  if 0 ≤ year && year ≤ 9999 && moment.offset.natAbs % 60 = 0 then moment.internetText
  else moment.plainText

/-- Local date and time to the second, in the form that file names carry. -/
def Moment.fileStamp (moment : Moment) : Text :=
  let time := moment.toLocal
  yearText time.date.year ++ padded 2 time.date.month ++ padded 2 time.date.day ++ "_" ++
    padded 2 time.hour ++ padded 2 time.minute ++ padded 2 time.second

end ShaderCost.Calendar
