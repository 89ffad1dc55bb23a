import ShaderCost.Script.Utility.Lines

/-!
Utilities on figures: the factors of numbers, and numbers with letters for their magnitude.
-/

namespace ShaderCost.Script.Utility

/-! Factors. -/

namespace Factors

/-- A power of a number in the remainders by another one. -/
def powerMod (modulus : Nat) : (fuel : Nat) → (base exponent : Nat) → Nat
  | 0, _, _ => 1
  | fuel + 1, base, exponent =>
      if exponent = 0 then 1 % modulus
      else
        let half := powerMod modulus fuel (base * base % modulus) (exponent / 2)
        if exponent % 2 = 1 then half * base % modulus else half

/-- How often two divides a number, and what is left. -/
def twos : (fuel : Nat) → (value count : Nat) → Nat × Nat
  | 0, value, count => (count, value)
  | fuel + 1, value, count =>
      if value % 2 = 0 && value != 0 then twos fuel (value / 2) (count + 1) else (count, value)

/-- Whether repeated squares come to one less than the modulus. -/
def reaches (modulus : Nat) : (count : Nat) → (value : Nat) → Bool
  | 0, _ => false
  | count + 1, value =>
      value = modulus - 1 || reaches modulus count (value * value % modulus)

/-- Whether a number is prime, by witnesses that are enough below 3 · 10^24. -/
def isPrime (value : Nat) : Bool :=
  let small := [2, 3, 5, 7, 11, 13, 17, 19, 23, 29, 31, 37, 41]
  if value < 2 then false
  else if small.elem value then true
  else if small.any fun prime => value % prime = 0 then false
  else
    let (count, odd) := twos value.log2 (value - 1) 0
    small.all fun witness =>
      let power := powerMod value (value.log2 + 2) witness odd
      power = 1 || reaches value count power

/-- Looks for a factor along a sequence of remainders that comes back to where it was. -/
def search (value increment : Nat) : (fuel : Nat) → (slow fast : Nat) → Option Nat
  | 0, _, _ => none
  | fuel + 1, slow, fast =>
      let next (x : Nat) : Nat := (x * x + increment) % value
      let slow := next slow
      let fast := next (next fast)
      let factor := Nat.gcd (if slow < fast then fast - slow else slow - fast) value
      if factor = 1 then search value increment fuel slow fast
      else if factor = value then none
      else some factor

/-- The prime factors of a number that has no small ones. -/
def large : (fuel : Nat) → Nat → List Nat
  | 0, value => [value]
  | fuel + 1, value =>
      if value = 1 then []
      else if isPrime value then [value]
      else
        match (List.range 16).findSome? fun increment =>
            search value (increment + 1) 131072 2 2 with
        | some factor => large fuel factor ++ large fuel (value / factor)
        | none => [value]

/-- Takes small factors out of a number. -/
def small : (fuel : Nat) → (divisor value : Nat) → (before : List Nat) → List Nat × Nat
  | 0, _, value, before => (before, value)
  | fuel + 1, divisor, value, before =>
      if value < divisor * divisor then
        if 1 < value then (value :: before, 1) else (before, 1)
      else if value % divisor = 0 then small fuel divisor (value / divisor) (divisor :: before)
      else small fuel (if divisor = 2 then 3 else divisor + 2) value before

/-- The prime factors of a number in order. -/
def of (value : Nat) : List Nat :=
  if value = 0 then []
  else
    let (found, rest) := small 2048 2 value []
    (found ++ large 64 rest).mergeSort fun left right => decide (left ≤ right)

/-- The factors with exponents. -/
def withExponents (factors : List Nat) : List Text :=
  (runs (fun left right => left = right) (factors.map Text.ofNat)).map fun (factor, count) =>
    if count = 1 then factor else factor ++ '^' :: Text.ofNat count

end Factors

def factor : Utility := withCall ⟨"h", [], [("exponents", 'h')], 1⟩ fun name call => do
  let words ←
    if call.operands.isEmpty then do
      pure (((← readInput false).splitOnP isBlankOctet).filter fun word => !word.isEmpty)
    else pure call.operands
  let mut status := 0
  for word in words do
    let bare := word.dropWhile isBlankOctet
    let digits := if bare.head? = some '+' then bare.drop 1 else bare
    match Text.nat? digits with
    | some value =>
        let factors := Factors.of value
        spend (factors.length + 1)
        let shown := if call.has 'h' then Factors.withExponents factors else factors.map Text.ofNat
        print (Text.ofNat value ++ ':' :: shown.flatMap (fun factor => ' ' :: factor) ++ ['\n'])
    | none =>
        complain name (nameInQuotes word ++ " is not a valid positive integer".toList)
        status := 1
  return status

/-! Magnitudes. -/

namespace Magnitude

/-- How letters count. -/
inductive Scale where
  | none
  | decimal
  | binary
  /-- Binary, with an `i` behind the letter. -/
  | marked
  /-- Decimal, or binary where an `i` stands behind the letter. -/
  | free
  deriving DecidableEq

def scaleOf? (word : Text) : Option Scale :=
  List.lookup word [("none".toList, .none), ("si".toList, .decimal), ("iec".toList, .binary),
    ("iec-i".toList, .marked), ("auto".toList, .free)]

/-- How a number is brought to whole steps. -/
inductive Rounding where
  | up
  | down
  | awayFromZero
  | towardsZero
  | nearest
  deriving DecidableEq

def roundingOf? (word : Text) : Option Rounding :=
  List.lookup word [("up".toList, .up), ("down".toList, .down), ("from-zero".toList, .awayFromZero),
    ("towards-zero".toList, .towardsZero), ("nearest".toList, .nearest)]

def Rounding.apply (rounding : Rounding) (isNegative : Bool) (numerator denominator : Nat) : Nat :=
  let floor := numerator / denominator
  let ceiling := (numerator + denominator - 1) / denominator
  match rounding with
  | .up => if isNegative then floor else ceiling
  | .down => if isNegative then ceiling else floor
  | .awayFromZero => ceiling
  | .towardsZero => floor
  | .nearest => (2 * numerator + denominator) / (2 * denominator)

def letters : Text := "KMGTPEZYRQ".toList

/-- A number as it is read: a fraction, and how many decimal places it was written with. -/
structure Reading where
  isNegative : Bool
  numerator : Nat
  denominator : Nat
  places : Nat
  /-- Whether a letter stood behind it. -/
  isScaled : Bool

/-- The power of ten. -/
def tens (exponent : Nat) : Nat := digitsIn 10 ('1' :: List.replicate exponent '0')

def read (scale : Scale) (text : Text) : Except Text Reading := do
  let (isNegative, rest) := match text with
    | '-' :: rest => (true, rest)
    | rest => (false, rest)
  let whole := rest.takeWhile Char.isDigit
  let behind := rest.drop whole.length
  let hasPoint := behind.head? = some '.'
  let (places, behind) := match behind with
    | '.' :: behind => (behind.takeWhile Char.isDigit, behind.dropWhile Char.isDigit)
    | behind => ([], behind)
  if whole.isEmpty || (hasPoint && places.isEmpty) then
    throw ("invalid number: ".toList ++ nameInQuotes text)
  let numerator := digitsIn 10 (whole ++ places)
  let denominator := tens places.length
  match behind with
  | [] => return ⟨isNegative, numerator, denominator, places.length, false⟩
  | letter :: behind =>
      match letters.idxOf? letter with
      | none => throw ("invalid suffix in input: ".toList ++ nameInQuotes text)
      | some place =>
          if scale = .none then
            throw ("rejecting suffix in input: ".toList ++ nameInQuotes text ++
              " (consider using --from)".toList)
          let (isBinary, behind) ← match scale, behind with
            | .free, 'i' :: behind => pure (true, behind)
            | .free, behind => pure (false, behind)
            | .marked, 'i' :: behind => pure (true, behind)
            | .marked, _ =>
                throw ("missing 'i' suffix in input: ".toList ++ nameInQuotes text ++
                  " (e.g Ki/Mi/Gi)".toList)
            | .binary, behind => pure (true, behind)
            | _, behind => pure (false, behind)
          if !behind.isEmpty then
            throw ("invalid suffix in input ".toList ++ nameInQuotes text ++ ": ".toList ++
              nameInQuotes behind)
          let base := if isBinary then 1024 else 1000
          return ⟨isNegative, numerator * Nat.pow base (place + 1), denominator, 0, true⟩

/-- A whole number of steps with so many decimal places. -/
def pointed (places value : Nat) : Text :=
  if places = 0 then Text.ofNat value
  else
    let digits := Text.ofNat value
    let digits := List.replicate (places + 1 - digits.length) '0' ++ digits
    digits.take (digits.length - places) ++ '.' :: digits.drop (digits.length - places)

/-- How many times a number is as big as the base. -/
def magnitudeOf (base numerator denominator : Nat) : (fuel : Nat) → Nat
  | 0 => 0
  | fuel + 1 =>
      if numerator < base * denominator then 0
      else magnitudeOf base numerator (denominator * base) fuel + 1

/-- A number as it is shown. `precision` is the number of decimal places, where that is asked
for. -/
def shown (scale : Scale) (rounding : Rounding) (precision : Option Nat) (reading : Reading) :
    Text :=
  let sign : Text := if reading.isNegative && reading.numerator != 0 then "-" else ""
  if scale = .none then
    let places := precision.getD (if reading.isScaled then 0 else reading.places)
    sign ++ pointed places
      (rounding.apply reading.isNegative (reading.numerator * tens places) reading.denominator)
  else
    let base := if scale = .decimal then 1000 else 1024
    let power := magnitudeOf base reading.numerator reading.denominator 10
    let denominator := reading.denominator * Nat.pow base power
    let extra := match precision with
      | some places => min (power * 3) places
      | none => if reading.numerator < 10 * denominator then 1 else 0
    let value := rounding.apply reading.isNegative (reading.numerator * tens extra) denominator
    let (numerator, denominator, power) :=
      if base * tens extra ≤ value then (value, tens extra * base, power + 1)
      else (value, tens extra, power)
    let showsPoint := numerator != 0 && numerator < 10 * denominator && 0 < power
    let places := precision.getD (if showsPoint then 1 else 0)
    let figure := pointed places
      ((2 * numerator * tens places + denominator) / (2 * denominator))
    let letter : Text := if power = 0 then []
      else [letters[power - 1]?.getD 'Q'] ++ (if scale = .marked then "i" else "")
    sign ++ figure ++ letter

end Magnitude

/-- How figures are changed. -/
structure MagnitudeSetup where
  source : Magnitude.Scale
  target : Magnitude.Scale
  rounding : Magnitude.Rounding
  precision : Option Nat
  /-- What stands before and behind the figure. -/
  front : Text
  behind : Text
  /-- A width to fill, from the left where it is negative. -/
  padding : Int
  fillsZeros : Bool
  /-- A text that may stand behind what is read and does stand behind what is shown. -/
  ending : Text
  fromUnit : Nat
  toUnit : Nat
  separator : Option Char
  fields : Nat → Bool
  /-- How many lines stay as they are. -/
  header : Nat

namespace MagnitudeSetup

def fill (setup : MagnitudeSetup) (width : Int) (figure : Text) : Text :=
  let gap := List.replicate (width.natAbs - figure.length) ' '
  if width < 0 then figure ++ gap
  else if setup.fillsZeros then
    let isPart (c : Char) : Bool := c.isDigit || c = '-' || c = '.'
    let count := (figure.takeWhile isPart).length
    let (sign, digits) := figure.span (· == '-')
    sign ++ List.replicate (width.natAbs - count) '0' ++ digits
  else gap ++ figure

/-- A figure in its new form. -/
def convert (setup : MagnitudeSetup) (text : Text) : Except Text Text := do
  let bare := if !setup.ending.isEmpty && Text.endsWith setup.ending text then
    text.take (text.length - setup.ending.length) else text
  let reading ← Magnitude.read setup.source bare
  let reading := { reading with
    numerator := reading.numerator * setup.fromUnit
    denominator := reading.denominator * setup.toUnit }
  let figure := Magnitude.shown setup.target setup.rounding setup.precision reading
  return figure ++ setup.ending

/-- A line in which the figures are in their new form. -/
def convertLine (setup : MagnitudeSetup) (line : Text) : Except Text Text :=
  match setup.separator with
  | some c => do
      let parts ← ((line.splitOn c).zipIdx).mapM fun (part, place) =>
        if setup.fields (place + 1) then
          (setup.convert (part.dropWhile isSpace)).map fun figure =>
            setup.front ++ setup.fill setup.padding figure ++ setup.behind
        else .ok part
      return List.intercalate [c] parts
  | none => words 1 (line.length + 1) line
where
  words (number : Nat) : (fuel : Nat) → Text → Except Text Text
    | 0, _ => .ok []
    | fuel + 1, text => do
        let blanks := text.takeWhile isSpace
        let behind := text.drop blanks.length
        let word := behind.takeWhile fun c => !isSpace c
        let rest := behind.drop word.length
        if word.isEmpty && 1 < number then return blanks
        let later ← words (number + 1) fuel rest
        if setup.fields number then
          let figure ← setup.convert word
          let width : Int :=
            if setup.padding != 0 then setup.padding
            else if blanks.isEmpty then 0
            else (blanks.length + word.length : Nat)
          if setup.padding = 0 && 1 < number && !blanks.isEmpty then
            let width : Int := (blanks.length - 1 + word.length : Nat)
            return ' ' :: setup.front ++ setup.fill width figure ++ setup.behind ++ later
          return setup.front ++ setup.fill width figure ++ setup.behind ++ later
        else return blanks ++ word ++ later

/-- What a format says: what stands around the figure, its width and its precision. -/
def withFormat (setup : MagnitudeSetup) (format : Text) : Except Text MagnitudeSetup := do
  let front := format.takeWhile (· != '%')
  match format.drop (front.length + 1) with
  | [] => throw ("format ".toList ++ nameInQuotes format ++ " has no % directive".toList)
  | rest =>
      let flags := rest.takeWhile fun c => c ∈ "-0' ".toList
      let rest := rest.drop flags.length
      let width := rest.takeWhile Char.isDigit
      let rest := rest.drop width.length
      let (precision, rest) := match rest with
        | '.' :: rest => (some (digitsIn 10 (rest.takeWhile Char.isDigit)),
            rest.dropWhile Char.isDigit)
        | rest => (none, rest)
      match rest with
      | 'f' :: behind =>
          let width : Int := digitsIn 10 width
          return { setup with
            front, behind, precision, padding := if '-' ∈ flags then -width else width
            fillsZeros := '0' ∈ flags }
      | _ => throw ("invalid format ".toList ++ nameInQuotes format ++
          ", directive must be %[0]['][-][N][.][N]f".toList)

/-- Which fields are meant by a list of numbers and ranges. -/
def fieldsOf (text : Text) : Nat → Bool := fun number =>
  text = "-" || (text.splitOn ',').any fun part =>
    match part.splitOn '-' with
    | [one] => Text.nat? one = some number
    | [first, last] =>
        let isBehind := first.isEmpty || (Text.nat? first).any fun first => decide (first ≤ number)
        let isBefore := last.isEmpty || (Text.nat? last).any fun last => decide (number ≤ last)
        isBehind && isBefore
    | _ => false

def unitOf? (text : Text) : Option Nat :=
  match Magnitude.read .free text with
  | .ok reading => if reading.isNegative then none
      else some (reading.numerator / reading.denominator)
  | .error _ => none

/-- What the options of a call say. -/
def ofCall (call : Call) : Except Text MagnitudeSetup := do
  let scale (letter : Char) (option : Text) : Except Text Magnitude.Scale :=
    match call.value? letter with
    | none => .ok .none
    | some word =>
        match Magnitude.scaleOf? word with
        | some scale => .ok scale
        | none => .error ("invalid argument ".toList ++ nameInQuotes word ++ " for '--".toList ++
            option ++ "'\nValid arguments are:\n  - 'none'".toList ++
            (if letter = 'F' then "\n  - 'auto'".toList else []) ++
            "\n  - 'si'\n  - 'iec'\n  - 'iec-i'".toList)
  let rounding ← match call.value? 'R' with
    | none => pure .awayFromZero
    | some word =>
        match Magnitude.roundingOf? word with
        | some rounding => pure rounding
        | none => throw ("invalid argument ".toList ++ nameInQuotes word ++ " for '--round'".toList)
  let padding ← match call.value? 'P' with
    | none => pure (0 : Int)
    | some text =>
        match (Numeral.ofText? false text) with
        | some padding => pure padding
        | none => throw ("invalid padding value ".toList ++ nameInQuotes text)
  let setup : MagnitudeSetup := {
    source := ← scale 'F' "from", target := ← scale 'T' "to", rounding, padding
    precision := none, front := [], behind := [], fillsZeros := false
    ending := (call.value? 'S').getD []
    fromUnit := ((call.value? 'U').bind unitOf?).getD 1
    toUnit := ((call.value? 'V').bind unitOf?).getD 1
    separator := (call.value? 'd').bind List.head?
    fields := fieldsOf ((call.value? 'I').getD ['1'])
    header := if call.has 'H' then
      (((call.value? 'H').bind fun text => if text.isEmpty then none else Text.nat? text)).getD 1
      else 0 }
  match call.value? 'O' with
  | some format => setup.withFormat format
  | none => return setup

end MagnitudeSetup

def numfmtOptions : Options :=
  ⟨"Hgz", "FTRPSUVdIOHA", [("from", 'F'), ("to", 'T'), ("round", 'R'), ("padding", 'P'),
    ("suffix", 'S'), ("from-unit", 'U'), ("to-unit", 'V'), ("delimiter", 'd'), ("field", 'I'),
    ("format", 'O'), ("header", 'H'), ("grouping", 'g'), ("invalid", 'A'), ("debug", 'z')], 1⟩

/-- Brings figures to another form. -/
def numfmt : Utility := withCall numfmtOptions fun name call => do
  match MagnitudeSetup.ofCall call with
  | .error problem =>
      if call.has 'O' then
        complain name problem
        return 1
      else refuse name problem 1
  | .ok setup =>
      let isInput := call.operands.isEmpty
      let lines ← if isInput then bareLines <$> readInput false else pure call.operands
      let header := if isInput then setup.header else 0
      for line in lines.take header do print (line ++ ['\n'])
      let way : Text := (call.value? 'A').getD "abort"
      let mut status := 0
      for line in lines.drop header do
        match setup.convertLine line with
        | .ok shown => print (shown ++ ['\n'])
        | .error problem =>
            if way = "abort" || way = "fail" || way = "warn" then complain name problem
            if way = "abort" then return 2
            if way = "fail" then status := 2
            print (line ++ ['\n'])
      return status

end ShaderCost.Script.Utility
