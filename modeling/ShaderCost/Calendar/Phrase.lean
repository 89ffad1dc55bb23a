import ShaderCost.Calendar.Form

/-!
Moments in phrases: dates and times of day in the usual written forms, and steps from now on such as
`2 days ago`. What a phrase leaves out is taken from now.
-/

namespace ShaderCost.Calendar

namespace Phrase

/-- A part of a phrase. -/
inductive Piece where
  | number (digits : Text)
  | word (letters : Text)
  | mark (c : Char)
  deriving DecidableEq

def isBlank (c : Char) : Bool := c == ' ' || ('\t' ≤ c && c ≤ '\r')

def pieces : (fuel : Nat) → Text → List Piece
  | 0, _ | _ + 1, [] => []
  | fuel + 1, c :: rest =>
      if isBlank c then pieces fuel rest
      else if c.isDigit then
        let digits := (c :: rest).takeWhile Char.isDigit
        .number digits :: pieces fuel ((c :: rest).drop digits.length)
      else if c.isAlpha then
        let letters := (c :: rest).takeWhile Char.isAlpha
        .word (letters.map Char.toLower) :: pieces fuel ((c :: rest).drop letters.length)
      else .mark c :: pieces fuel rest

/-- What a phrase says. -/
structure Draft where
  date : Option Date
  /-- Whether the date has a year of its own. -/
  hasYear : Bool
  /-- Hour, minute and second. -/
  clock : Option (Nat × Nat × Nat)
  nanos : Nat
  zone : Option Int
  /-- A day of the week, and how many of them lie between. -/
  weekday : Option (Nat × Int)
  months : Int
  days : Int
  seconds : Int

/-- Units of steps in months, days and seconds. -/
def units : List (Text × Int × Int × Int) := [
  ("year", 12, 0, 0), ("month", 1, 0, 0), ("fortnight", 0, 14, 0), ("week", 0, 7, 0),
  ("day", 0, 1, 0), ("hour", 0, 0, 3600), ("minute", 0, 0, 60), ("min", 0, 0, 60),
  ("second", 0, 0, 1), ("sec", 0, 0, 1)]

def unit? (word : Text) : Option (Int × Int × Int) :=
  (units.lookup word).orElse fun _ =>
    if word.getLast? = some 's' then units.lookup word.dropLast else none

/-- The place of a name that may be cut to three letters. -/
def placeOf? (names : List Text) (word : Text) : Option Nat :=
  names.findIdx? fun name =>
    let name := name.map Char.toLower
    name = word || name.take 3 = word || (word = "sept" && name.take 3 = "sep".toList)

def month? (word : Text) : Option Nat := (placeOf? monthNames word).map (· + 1)

def weekday? (word : Text) : Option Nat := placeOf? weekdayNames word

namespace Draft

def step (draft : Draft) (count : Int) (unit : Int × Int × Int) : Draft :=
  { draft with
    months := draft.months + count * unit.1, days := draft.days + count * unit.2.1
    seconds := draft.seconds + count * unit.2.2 }

end Draft

/-- A year of two digits lies between 1969 and 2068. -/
def yearOf (digits : Text) : Int :=
  let value := Text.digitsValue digits
  if digits.length ≤ 2 then if value < 69 then value + 2000 else value + 1900 else value

/-- A count before a unit, which `ago` turns around. -/
def takeStep (draft : Draft) (count : Int) (unit : Int × Int × Int) (rest : List Piece) :
    Draft × List Piece :=
  match rest with
  | .word word :: behind =>
      if word = "ago" then (draft.step (-count) unit, behind) else (draft.step count unit, rest)
  | _ => (draft.step count unit, rest)

/-- The offset that digits behind a sign stand for. -/
def offsetOf (isBehind : Bool) (digits : Text) (minutes : Nat) : Int :=
  let value := Text.digitsValue digits
  let away : Int :=
    if digits.length ≤ 2 then value * 3600 + minutes * 60
    else value / 100 * 3600 + value % 100 * 60
  if isBehind then -away else away

/-- The zone that may stand behind a time of day. -/
def takeZone (draft : Draft) : List Piece → Draft × List Piece
  | .mark sign :: .number digits :: rest =>
      if sign = '+' || sign = '-' then
        match rest with
        | .mark ':' :: .number minutes :: rest =>
            ({ draft with zone := some (offsetOf (sign = '-') digits (Text.digitsValue minutes)) },
              rest)
        | rest => ({ draft with zone := some (offsetOf (sign = '-') digits 0) }, rest)
      else (draft, .mark sign :: .number digits :: rest)
  | rest => (draft, rest)

/-- Half a day where letters ask for it. -/
def takeHalf (hour : Nat) : List Piece → Option (Nat × List Piece)
  | .word word :: rest =>
      if word = "am" || word = "pm" then
        if hour = 0 || 12 < hour then none
        else some (hour % 12 + (if word = "pm" then 12 else 0), rest)
      else some (hour, .word word :: rest)
  | rest => some (hour, rest)

/-- Takes a time of day whose hour and minute were read. -/
def takeClock (draft : Draft) (hour minute : Nat) (rest : List Piece) :
    Option (Draft × List Piece) := do
  if draft.clock.isSome then none
  else
    let (second, nanos, rest) : Nat × Nat × List Piece := match rest with
      | .mark ':' :: .number second :: .mark point :: .number places :: rest =>
          if point = '.' || point = ',' then
            (Text.digitsValue second,
              Text.digitsValue ((places ++ List.replicate 9 '0').take 9), rest)
          else (Text.digitsValue second, 0, .mark point :: .number places :: rest)
      | .mark ':' :: .number second :: rest => (Text.digitsValue second, 0, rest)
      | rest => (0, 0, rest)
    let (hour, rest) ← takeHalf hour rest
    if 24 ≤ hour || 60 ≤ minute || 60 < second then none
    else return takeZone { draft with clock := some (hour, minute, second), nanos } rest

def withDate (draft : Draft) (date : Date) (hasYear : Bool) (rest : List Piece) :
    Option (Draft × List Piece) :=
  if draft.date.isSome then none else some ({ draft with date := some date, hasYear }, rest)

/-- Takes a date that a number begins. -/
def takeNumber (now : Draft) (thisYear : Int) (digits : Text) (rest : List Piece) :
    Option (Draft × List Piece) :=
  let value := Text.digitsValue digits
  match rest with
  | .mark '-' :: .number month :: .mark '-' :: .number day :: rest =>
      let rest := match rest with
        | .word ['t'] :: .number hour :: rest => .number hour :: rest
        | rest => rest
      withDate now ⟨yearOf digits, Text.digitsValue month, Text.digitsValue day⟩ true rest
  | .mark '/' :: .number second :: .mark '/' :: .number third :: rest =>
      if 4 ≤ digits.length then
        withDate now ⟨value, Text.digitsValue second, Text.digitsValue third⟩ true rest
      else withDate now ⟨yearOf third, value, Text.digitsValue second⟩ true rest
  | .mark '/' :: .number day :: rest =>
      withDate now ⟨thisYear, value, Text.digitsValue day⟩ false rest
  | .mark ':' :: .number minute :: rest => takeClock now value (Text.digitsValue minute) rest
  | .mark '-' :: .word word :: .mark '-' :: .number year :: rest =>
      (month? word).bind fun month => withDate now ⟨yearOf year, month, value⟩ true rest
  | .word word :: rest =>
      match unit? word, month? word with
      | some unit, _ => some (takeStep now value unit rest)
      | none, some month =>
          match rest with
          | .number year :: .mark ':' :: _ =>
              withDate now ⟨thisYear, month, value⟩ (year.isEmpty) rest
          | .number year :: rest => withDate now ⟨yearOf year, month, value⟩ true rest
          | rest => withDate now ⟨thisYear, month, value⟩ false rest
      | none, none =>
          if word = "am" || word = "pm" then takeClock now value 0 (.word word :: rest)
          else if word = "t" && digits.length = 8 then
            withDate now ⟨value / 10000, value / 100 % 100, value % 100⟩ true rest
          else plain (.word word :: rest)
  | rest => plain rest
where
  /-- A number alone is a year, a date or a time of day. -/
  plain (rest : List Piece) : Option (Draft × List Piece) :=
    let value := Text.digitsValue digits
    match now.date with
    | some date =>
        if !now.hasYear && (now.clock.isSome || 2 < digits.length) then
          some ({ now with date := some { date with year := value }, hasYear := true }, rest)
        else clock value rest
    | none =>
        if 4 < digits.length then
          withDate now ⟨value / 10000, value / 100 % 100, value % 100⟩ true rest
        else clock value rest
  clock (value : Nat) (rest : List Piece) : Option (Draft × List Piece) :=
    if digits.length ≤ 2 then takeClock now value 0 rest
    else if digits.length ≤ 4 then takeClock now (value / 100) (value % 100) rest
    else none

/-- Names of zones with their offsets in hours. -/
def zones : List (Text × Int) := [
  ("z", 0), ("utc", 0), ("gmt", 0), ("ut", 0), ("wet", 0), ("bst", 1), ("cet", 1), ("cest", 2),
  ("eet", 2), ("eest", 3), ("msk", 3), ("jst", 9), ("ast", -4), ("adt", -3), ("est", -5),
  ("edt", -4), ("cst", -6), ("cdt", -5), ("mst", -7), ("mdt", -6), ("pst", -8), ("pdt", -7)]

/-- Takes what a word begins. -/
def takeWord (draft : Draft) (thisYear : Int) (word : Text) (rest : List Piece) :
    Option (Draft × List Piece) :=
  let day : Int × Int × Int := (0, 1, 0)
  match month? word, weekday? word, unit? word with
  | some month, _, _ =>
      match rest with
      | .number day :: .mark ',' :: .number year :: rest =>
          withDate draft ⟨yearOf year, month, Text.digitsValue day⟩ true rest
      | .number day :: .number year :: .mark ':' :: rest =>
          withDate draft ⟨thisYear, month, Text.digitsValue day⟩ false
            (.number year :: .mark ':' :: rest)
      | .number day :: rest => withDate draft ⟨thisYear, month, Text.digitsValue day⟩ false rest
      | _ => none
  | none, some weekday, _ =>
      let rest := match rest with
        | .mark ',' :: rest => rest
        | rest => rest
      some ({ draft with weekday := some (weekday, 0) }, rest)
  | none, none, some unit => some (takeStep draft 1 unit rest)
  | none, none, none =>
      match String.ofList word with
      | "now" | "today" => some (draft, rest)
      | "tomorrow" => some (takeStep draft 1 day rest)
      | "yesterday" => some (takeStep draft (-1) day rest)
      | "next" => ordinal 1
      | "last" => ordinal (-1)
      | "this" => ordinal 0
      | _ => (zones.lookup word).map fun hours =>
          ({ draft with zone := some (hours * 3600) }, rest)
where
  ordinal (count : Int) : Option (Draft × List Piece) :=
    match rest with
    | .word word :: rest =>
        match unit? word, weekday? word with
        | some unit, _ => some (takeStep draft count unit rest)
        | none, some weekday => some ({ draft with weekday := some (weekday, count) }, rest)
        | none, none => none
    | _ => none

def read? (thisYear : Int) : (fuel : Nat) → Draft → List Piece → Option Draft
  | _, draft, [] => some draft
  | 0, _, _ => none
  | fuel + 1, draft, piece :: rest => do
      let (draft, rest) ← match piece, rest with
        | .number digits, rest => takeNumber draft thisYear digits rest
        | .word word, rest => takeWord draft thisYear word rest
        | .mark ',', rest => some (draft, rest)
        | .mark sign, .number digits :: .word word :: rest =>
            if sign != '+' && sign != '-' then none
            else (unit? word).map fun unit =>
              let count : Int := Text.digitsValue digits
              takeStep draft (if sign = '-' then -count else count) unit rest
        | .mark _, _ => none
      read? thisYear fuel draft rest

/-- How many days a month has. -/
def daysOfMonth (year : Int) (month : Nat) : Int :=
  let next : Date := if month = 12 then ⟨year + 1, 1, 1⟩ else ⟨year, month + 1, 1⟩
  next.days - Date.days ⟨year, month, 1⟩

def isDate (date : Date) : Bool :=
  0 < date.month && date.month ≤ 12 && 0 < date.day &&
    (date.day : Int) ≤ daysOfMonth date.year date.month

/-- The days to the date so many months later, which may run over into the month after it. -/
def daysAfter (date : Date) (months : Int) : Int :=
  let place := date.year * 12 + (date.month : Int) - 1 + months
  Date.days ⟨place.fdiv 12, (place.fmod 12).toNat + 1, 1⟩ + (date.day : Int) - 1

end Phrase

/-- The seconds that six numbers, from the year to the second, stand for. What is too much for one
of them is carried over. -/
def secondsOfFields? (text : Text) : Option Int :=
  match ((text.splitOnP Phrase.isBlank).filter fun part => !part.isEmpty).mapM Text.nat? with
  | some (year :: month :: day :: hour :: minute :: second :: _) =>
      let days := Phrase.daysAfter ⟨year, 1, 1⟩ ((month : Int) - 1) + (day : Int) - 1
      some (days * 86400 + (hour * 3600 + minute * 60 + second : Nat))
  | _ => none

/-- The moment that a phrase describes, seen from now. -/
def Moment.ofPhrase? (now : Moment) (phrase : Text) : Option Moment :=
  match phrase.dropWhile Phrase.isBlank with
  | '@' :: text =>
      let isNegative := text.head? = some '-'
      let text := if isNegative || text.head? = some '+' then text.drop 1 else text
      let digits := text.takeWhile Char.isDigit
      let behind := text.drop digits.length
      let places := behind.drop 1
      if digits.isEmpty then none
      else if behind.isEmpty then
        let value : Int := Text.digitsValue digits
        some { now with seconds := if isNegative then -value else value, nanos := 0 }
      else if (behind.head? = some '.' || behind.head? = some ',') && !places.isEmpty &&
          places.all Char.isDigit then
        let value : Int := Text.digitsValue digits
        let nanos := Text.digitsValue ((places ++ List.replicate 9 '0').take 9)
        if isNegative && nanos != 0 then
          some { now with seconds := -value - 1, nanos := 1000000000 - nanos }
        else some { now with seconds := if isNegative then -value else value, nanos }
      else none
  | _ => do
      let time := now.toLocal
      let first : Phrase.Draft := ⟨none, false, none, 0, none, none, 0, 0, 0⟩
      let draft ← Phrase.read? time.date.year (phrase.length + 1) first
        (Phrase.pieces (phrase.length + 1) phrase)
      let date := draft.date.getD time.date
      if !Phrase.isDate date then none
      else
        let isDated := draft.date.isSome || draft.weekday.isSome
        let startsDay := isDated || phrase.all Phrase.isBlank
        let (hour, minute, second) := match draft.clock with
          | some clock => clock
          | none => if startsDay then (0, 0, 0) else (time.hour, time.minute, time.second)
        let nanos :=
          if draft.clock.isSome then draft.nanos else if startsDay then 0 else now.nanos
        let days := Phrase.daysAfter date draft.months + draft.days
        let days := match draft.date, draft.weekday with
          | some _, _ | none, none => days
          | none, some (weekday, count) =>
              let today := ((days + 4).fmod 7).toNat
              let away : Int := (weekday + 7 - today) % 7
              let count := if 0 < count && away != 0 then count - 1 else count
              days + away + 7 * count
        let offset := draft.zone.getD now.offset
        let clock : Int := hour * 3600 + minute * 60 + second
        return { now with seconds := days * 86400 + clock + draft.seconds - offset, nanos }

end ShaderCost.Calendar
