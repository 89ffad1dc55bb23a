import ShaderCost.Binary64.Basic
import ShaderCost.Text.Character
import ShaderCost.Text.Numeral

/-!
Decimal text to binary64 and back. Reading rounds the exact decimal value once. Writing comes in
two forms: a fixed number of places, rounded from the exact binary value, and the fewest digits
that read back as the same number. For one digit, two digits and so on, the two neighbours of the
number on that decimal grid are tried in exact arithmetic; the first grid with a hit wins, and of
two hits the nearer one, a tie going to the even digit.
-/

namespace ShaderCost

namespace Binary64

/-- The number nearest to `digits * 10 ^ exponent`. Exponents far outside the range of the type
are settled by the number of digits, without forming the power. -/
def ofDecimal (negative : Bool) (digits : Nat) (exponent : Int) : Binary64 :=
  if digits = 0 then ofMagnitude negative 0
  else if 400 < exponent then infinity negative
  else if exponent + (Nat.toDigits 10 digits).length < -400 then ofMagnitude negative 0
  else ofRatio negative (digits * tenTo exponent.toNat) (tenTo (-exponent).toNat)

/-- The exponent after `e`, as an optional sign and at least one digit. -/
def exponentPart? : Text → Option Int
  | [] => some 0
  | mark :: rest =>
      if mark != 'e' && mark != 'E' then none
      else match rest with
        | '-' :: digits => (Text.nat? digits).map fun value => -(value : Int)
        | '+' :: digits => (Text.nat? digits).map Int.ofNat
        | digits => (Text.nat? digits).map Int.ofNat

/-- An unsigned numeral: digits with an optional point among or around them, then an optional
exponent. -/
def unsigned? (negative : Bool) (text : Text) : Option Binary64 :=
  let whole := text.takeWhile Char.isDigit
  let afterWhole := text.dropWhile Char.isDigit
  let (places, rest) := match afterWhole with
    | '.' :: behind => (behind.takeWhile Char.isDigit, behind.dropWhile Char.isDigit)
    | behind => ([], behind)
  if whole.isEmpty && places.isEmpty then none
  else
    (exponentPart? rest).map fun exponent =>
      ofDecimal negative (Text.digitsValue (whole ++ places)) (exponent - places.length)

def unsignedOrName? (negative : Bool) (text : Text) : Option Binary64 :=
  let name := Text.toLower text
  if name == "nan" then some (if negative then neg nan else nan)
  else if name == "inf" || name == "infinity" then some (infinity negative)
  else unsigned? negative text

/-- Reads a decimal numeral with an optional sign, or the name of NaN or infinity. -/
def ofText? : Text → Option Binary64
  | '-' :: text => unsignedOrName? true text
  | '+' :: text => unsignedOrName? false text
  | text => unsignedOrName? false text

/-- Digits with a point before the last `places` of them, at least one digit before it. -/
def insertPoint (places : Nat) (digits : Text) : Text :=
  let padded := List.replicate (places + 1 - digits.length) '0' ++ digits
  let split := padded.length - places
  if places = 0 then padded else padded.take split ++ '.' :: padded.drop split

def signText (negative : Bool) : Text := if negative then "-" else ""

/-- The number with a fixed count of places, rounded from its exact value, a tie to the even
digit. A negative number that rounds to zero keeps its sign. -/
def toFixed (places : Nat) (value : Binary64) : Text :=
  match value.meaning with
  | .nan => "NaN"
  | .infinite negative => signText negative ++ "inf"
  | .finite negative mantissa exponent =>
      let scaled := roundScaled (mantissa * tenTo places) 1 (-exponent)
      signText negative ++ insertPoint places (Text.ofNat scaled)

end Binary64

end ShaderCost

namespace ShaderCost.Binary64

/-- The decimal number `digits * 10 ^ exponent`. -/
structure Decimal where
  digits : Nat
  exponent : Int
  deriving DecidableEq

/-- A positive number with the interval of reals that round to it, over one denominator. -/
structure Neighbourhood where
  low : Nat
  value : Nat
  high : Nat
  denominator : Nat
  closed : Bool

/-- Half a gap lies on either side, except below a power of two, where the gap is half as wide. -/
def neighbourhood (mantissa : Nat) (exponent : Int) : Neighbourhood :=
  let up := twoTo exponent.toNat
  let narrow := mantissa = twoTo 52 && -1074 < exponent
  { low := (4 * mantissa - if narrow then 1 else 2) * up
    value := 4 * mantissa * up
    high := (4 * mantissa + 2) * up
    denominator := 4 * twoTo (-exponent).toNat
    closed := mantissa % 2 = 0 }

def countDigits (number : Nat) : Nat := (Nat.toDigits 10 number).length

/-- The `k` with `10 ^ (k - 1) ≤ numerator / denominator < 10 ^ k`. -/
def decimalPlace (numerator denominator : Nat) : Int :=
  if denominator ≤ numerator then countDigits (numerator / denominator)
  else
    let inverse := denominator / numerator
    let digits := countDigits inverse
    if inverse * numerator = denominator && inverse = tenTo (digits - 1) then 2 - digits
    else 1 - digits

/-- Whether a decimal number reads back as the number of the neighbourhood. -/
def Neighbourhood.holds (around : Neighbourhood) (candidate : Decimal) : Bool :=
  let numerator := candidate.digits * tenTo candidate.exponent.toNat * around.denominator
  let scale := tenTo (-candidate.exponent).toNat
  if around.closed then around.low * scale ≤ numerator && numerator ≤ around.high * scale
  else around.low * scale < numerator && numerator < around.high * scale

/-- The best decimal number with `count` digits, if one reads back. -/
def Neighbourhood.onGrid? (around : Neighbourhood) (count : Nat) : Option Decimal :=
  let exponent := decimalPlace around.value around.denominator - count
  let numerator := around.value * tenTo (-exponent).toNat
  let denominator := around.denominator * tenTo exponent.toNat
  let nearest : Decimal := ⟨roundQuotient numerator denominator, exponent⟩
  let below : Decimal := ⟨numerator / denominator, exponent⟩
  let above : Decimal := ⟨numerator / denominator + 1, exponent⟩
  [nearest, below, above].find? around.holds

/-- The same decimal number with no zero at the end of its digits. -/
def Decimal.normalize (limit : Nat) (value : Decimal) : Decimal :=
  match limit with
  | 0 => value
  | limit + 1 =>
      if value.digits ≠ 0 && value.digits % 10 = 0 then
        Decimal.normalize limit ⟨value.digits / 10, value.exponent + 1⟩
      else value

/-- Seventeen digits always suffice, so the last resort is never needed. -/
def shortestMagnitude (mantissa : Nat) (exponent : Int) : Decimal :=
  if mantissa = 0 then ⟨0, 0⟩
  else
    let around := neighbourhood mantissa exponent
    let found := (List.range 17).findSome? fun index => around.onGrid? (index + 1)
    (found.getD ⟨0, 0⟩).normalize 17

/-- Positional notation: zeros after the digits, or a point among or before them. -/
def Decimal.positional (value : Decimal) : Text :=
  let digits := Text.ofNat value.digits
  if 0 ≤ value.exponent then digits ++ List.replicate value.exponent.toNat '0'
  else insertPoint (-value.exponent).toNat digits

/-- Plain text of a number: positional throughout, and no point in a whole number. -/
def toText (value : Binary64) : Text :=
  match value.meaning with
  | .nan => "NaN"
  | .infinite negative => signText negative ++ "inf"
  | .finite negative mantissa exponent =>
      let decimal := shortestMagnitude mantissa exponent
      signText negative ++ if decimal.digits = 0 then ['0'] else decimal.positional

/-- Scientific notation: a point after the first of several digits, the exponent always signed. -/
def Decimal.scientific (value : Decimal) : Text :=
  let digits := Text.ofNat value.digits
  let power := value.exponent + digits.length - 1
  let mantissa := match digits with
    | first :: second :: rest => first :: '.' :: second :: rest
    | short => short
  mantissa ++ "e" ++ (if power < 0 then "-" else "+") ++ Text.ofNat power.natAbs

/-- The literal of a number in data files: positional from `0.00001` up to 16 digits before the
point, scientific beyond; a whole number ends in `.0`. A number that is not finite has none. -/
def toLiteral? (value : Binary64) : Option Text :=
  match value.meaning with
  | .nan => none
  | .infinite _ => none
  | .finite negative mantissa exponent =>
      let decimal := shortestMagnitude mantissa exponent
      let place := decimal.exponent + countDigits decimal.digits
      some <| signText negative ++
        if decimal.digits = 0 then ("0.0" : Text)
        else if place ≤ -5 || 16 < place then decimal.scientific
        else if 0 ≤ decimal.exponent then decimal.positional ++ ".0"
        else decimal.positional

end ShaderCost.Binary64
