import ShaderCost.Calendar.Moment

/-!
Moments in a form that a format describes: directives, each a percent sign with a letter, stand for
parts of the date and the time of day, and everything else stands for itself.
-/

namespace ShaderCost.Calendar

/-- The days from 1970-01-01 to a date; the months may lie outside of the year. -/
def Date.days (date : Date) : Int :=
  let month : Int := date.month
  let year : Int := if month ≤ 2 then date.year - 1 else date.year
  let era := year.fdiv 400
  let yearInEra := year - era * 400
  let fromMarch := if 2 < month then month - 3 else month + 9
  let dayOfYear := (153 * fromMarch + 2) / 5 + date.day - 1
  era * daysPerEra + yearInEra * 365 + yearInEra / 4 - yearInEra / 100 + dayOfYear - 719468

/-- The day of the week, counted from Sunday. -/
def Date.weekday (date : Date) : Nat := ((date.days + 4).fmod 7).toNat

/-- The day of the year, counted from one. -/
def Date.dayOfYear (date : Date) : Nat := (date.days - Date.days ⟨date.year, 1, 1⟩ + 1).toNat

/-- The days between the first Monday-to-Sunday week that lies in a year for the most part and a
date; negative before that week. -/
def Date.daysIntoWeeks (date : Date) (year : Int) : Int :=
  let fourth : Date := ⟨year, 1, 4⟩
  date.days - (fourth.days - (fourth.weekday + 6) % 7)

/-- The year that the week of a date belongs to, and the number of the week in it. -/
def Date.week (date : Date) : Int × Nat :=
  let year :=
    if 0 ≤ date.daysIntoWeeks (date.year + 1) then date.year + 1
    else if 0 ≤ date.daysIntoWeeks date.year then date.year
    else date.year - 1
  (year, (date.daysIntoWeeks year / 7 + 1).toNat)

def weekdayNames : List Text :=
  ["Sunday", "Monday", "Tuesday", "Wednesday", "Thursday", "Friday", "Saturday"]

def monthNames : List Text := ["January", "February", "March", "April", "May", "June", "July",
  "August", "September", "October", "November", "December"]

/-- A moment as a format shows it. -/
structure Face where
  moment : Moment
  /-- The name of the zone. -/
  zone : Text

namespace Face

def weekdayName (face : Face) : Text :=
  weekdayNames[face.moment.toLocal.date.weekday]?.getD []

def monthName (face : Face) : Text :=
  monthNames[face.moment.toLocal.date.month - 1]?.getD []

/-- The offset with colons between none, two or all of its parts. -/
def offsetText (face : Face) (colons : Nat) : Text :=
  let away := face.moment.offset.natAbs
  let hours := padded 2 (away / 3600)
  let minutes := padded 2 (away / 60 % 60)
  let parts := match colons with
    | 0 => hours ++ minutes
    | 1 => hours ++ ':' :: minutes
    | _ => hours ++ ':' :: minutes ++ ':' :: padded 2 (away % 60)
  offsetSign face.moment.offset ++ parts

/-- How a number is shown: its value, its width and what fills it. -/
abbrev Figure := Int × Nat × Char

/-- The number that a directive stands for. -/
def figure? (face : Face) (letter : Char) : Option Figure :=
  let time := face.moment.toLocal
  let date := time.date
  let hour12 := if time.hour % 12 = 0 then 12 else time.hour % 12
  let weekOf (first : Nat) : Nat := (date.dayOfYear + 6 - (date.weekday + 7 - first) % 7) / 7
  match letter with
  | 'C' => some (date.year.fdiv 100, 2, '0')
  | 'd' => some (date.day, 2, '0')
  | 'e' => some (date.day, 2, ' ')
  | 'g' => some (date.week.1.fmod 100, 2, '0')
  | 'G' => some (date.week.1, 4, '0')
  | 'H' => some (time.hour, 2, '0')
  | 'I' => some (hour12, 2, '0')
  | 'j' => some (date.dayOfYear, 3, '0')
  | 'k' => some (time.hour, 2, ' ')
  | 'l' => some (hour12, 2, ' ')
  | 'm' => some (date.month, 2, '0')
  | 'M' => some (time.minute, 2, '0')
  | 'q' => some ((date.month - 1) / 3 + 1, 1, '0')
  | 's' => some (face.moment.seconds, 1, '0')
  | 'S' => some (time.second, 2, '0')
  | 'u' => some ((date.weekday + 6) % 7 + 1, 1, '0')
  | 'U' => some (weekOf 0, 2, '0')
  | 'V' => some (date.week.2, 2, '0')
  | 'w' => some (date.weekday, 1, '0')
  | 'W' => some (weekOf 1, 2, '0')
  | 'y' => some (date.year.fmod 100, 2, '0')
  | 'Y' => some (date.year, 4, '0')
  | _ => none

/-- The format that a directive stands for. -/
def longForm? (letter : Char) : Option Text :=
  List.lookup letter [('c', "%a %b %e %H:%M:%S %Y".toList), ('D', "%m/%d/%y".toList),
    ('F', "%Y-%m-%d".toList), ('r', "%I:%M:%S %p".toList), ('R', "%H:%M".toList),
    ('T', "%H:%M:%S".toList), ('x', "%m/%d/%y".toList), ('X', "%H:%M:%S".toList)]

/-- The name that a directive stands for. -/
def name? (face : Face) (letter : Char) : Option Text :=
  let isLate := 12 ≤ face.moment.toLocal.hour
  match letter with
  | 'a' => some (face.weekdayName.take 3)
  | 'A' => some face.weekdayName
  | 'b' | 'h' => some (face.monthName.take 3)
  | 'B' => some face.monthName
  | 'p' => some (if isLate then "PM" else "AM")
  | 'P' => some (if isLate then "pm" else "am")
  | 'Z' => some face.zone
  | 'n' => some ['\n']
  | 't' => some ['\t']
  | '%' => some ['%']
  | _ => none

/-- A number shown as flags and a width ask for. -/
def figureText (flags : Text) (width : Option Nat) (figure : Figure) : Text :=
  let (value, least, fill) := figure
  let flag? := flags.reverse.find? fun c => c ∈ "-_0+".toList
  let fill := match flag? with
    | some '_' => ' '
    | some '0' | some '+' => '0'
    | _ => fill
  let least := if flag? = some '-' then 0 else max least (width.getD 0)
  let digits := Text.ofNat value.natAbs
  if value < 0 then
    if fill = '0' then '-' :: List.replicate (least - 1 - digits.length) '0' ++ digits
    else List.replicate (least - 1 - digits.length) ' ' ++ '-' :: digits
  else List.replicate (least - digits.length) fill ++ digits

/-- A name shown as flags and a width ask for. -/
def nameText (flags : Text) (width : Option Nat) (name : Text) : Text :=
  let name :=
    if '^' ∈ flags then name.map Char.toUpper
    else if '#' ∈ flags then
      if name.all Char.isUpper then name.map Char.toLower else name.map Char.toUpper
    else name
  let fill := if '0' ∈ flags then '0' else ' '
  if '-' ∈ flags then name else List.replicate (width.getD 0 - name.length) fill ++ name

/-- The nanoseconds, as many places as a width asks for. -/
def nanosText (face : Face) (width : Option Nat) : Text :=
  let digits := padded 9 face.moment.nanos
  match width with
  | none => digits
  | some width => digits.take width ++ List.replicate (width - 9) '0'

/-- A format filled in. A directive that there is not stands for itself. -/
def filled (face : Face) : (fuel : Nat) → (format : Text) → Text
  | 0, _ | _ + 1, [] => []
  | fuel + 1, '%' :: rest =>
      let flags := rest.takeWhile fun c => c ∈ "-_0+^#".toList
      let behind := rest.drop flags.length
      let digits := behind.takeWhile Char.isDigit
      let behind := behind.drop digits.length
      let width := if digits.isEmpty then none else some (Text.digitsValue digits)
      let colons := behind.takeWhile (· == ':')
      let behind := behind.drop colons.length
      match behind with
      | [] => '%' :: rest
      | letter :: behind =>
          let plain := face.name? letter
          let shown :=
            if letter = 'z' then nameText flags width (face.offsetText colons.length)
            else if !colons.isEmpty then '%' :: flags ++ digits ++ colons ++ [letter]
            else if letter = 'N' then face.nanosText width
            else match plain, face.figure? letter, longForm? letter with
              | some name, _, _ => nameText flags width name
              | _, some figure, _ => figureText flags width figure
              | _, _, some format => nameText flags width (filled face fuel format)
              | _, _, _ => '%' :: flags ++ digits ++ colons ++ [letter]
          shown ++ filled face fuel behind
  | fuel + 1, c :: rest => c :: filled face fuel rest

def text (face : Face) (format : Text) : Text := face.filled (format.length + 24) format

end Face

end ShaderCost.Calendar
