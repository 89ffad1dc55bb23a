import ShaderCost.Binary64.Decimal
import ShaderCost.Script.Basic

/-!
Floating-point numbers as scripts write and print them. Printing rounds the exact value of the
number, a tie to the even digit.
-/

namespace ShaderCost.Script.Floating

/-- A number at the front of a text. -/
structure Reading where
  value : Binary64
  fits : Bool
  rest : Text

/-- The exponent behind a mark, where there is one with digits, and the text after it. -/
def takeExponent (mark : Char) (text : Text) : Int × Text :=
  match text with
  | c :: rest =>
      if c.toLower != mark then (0, text)
      else
        let (isNegative, behind) : Bool × Text := match rest with
          | '-' :: behind => (true, behind)
          | '+' :: behind => (false, behind)
          | _ => (false, rest)
        let digits := behind.takeWhile Char.isDigit
        if digits.isEmpty then (0, text)
        else
          let size : Int := min (digitsIn 10 digits) 100000
          (if isNegative then -size else size, behind.drop digits.length)
  | [] => (0, [])

/-- The digits before and after a point, as one numeral with its number of places, and the text
after them. -/
def takePlaces? (isDigit : Char → Bool) (text : Text) : Option (Text × Nat × Text) :=
  let whole := text.takeWhile isDigit
  let (places, rest) : Text × Text := match text.drop whole.length with
    | '.' :: behind => (behind.takeWhile isDigit, behind.dropWhile isDigit)
    | behind => ([], behind)
  if whole.isEmpty && places.isEmpty then none else some (whole ++ places, places.length, rest)

/-- The names of numbers that have no digits. -/
def named (isNegative : Bool) : List (Text × Binary64) := [
  ("infinity", .infinity isNegative),
  ("inf", .infinity isNegative),
  ("nan", if isNegative then .neg .nan else .nan)]

def readUnsigned? (isNegative : Bool) (text : Text) : Option Reading :=
  let lowered := text.map Char.toLower
  match (named isNegative).find? fun (name, _) => name.isPrefixOf lowered with
  | some (name, value) => some ⟨value, true, text.drop name.length⟩
  | none =>
      match Text.after? "0x" lowered >>= takePlaces? isHexDigit with
      | some (digits, places, rest) =>
          let (exponent, rest) := takeExponent 'p' rest
          let exponent := exponent - 4 * places
          let value := Binary64.ofRatio isNegative
            (digitsIn 16 digits * twoTo exponent.toNat) (twoTo (-exponent).toNat)
          some ⟨value, value.isFinite, text.drop (text.length - rest.length)⟩
      | none => do
          let (digits, places, rest) ← takePlaces? Char.isDigit text
          let (exponent, rest) := takeExponent 'e' rest
          let value := Binary64.ofDecimal isNegative (digitsIn 10 digits) (exponent - places)
          let vanishes := value.orderKey = 0 && digits.any (· != '0')
          some ⟨value, value.isFinite && !vanishes, rest⟩

/-- Reads a number behind blanks and a sign, if there is one. -/
def read? (text : Text) : Option Reading :=
  match text.dropWhile isBlankOctet with
  | '-' :: rest => readUnsigned? true rest
  | '+' :: rest => readUnsigned? false rest
  | text => readUnsigned? false text

/-- The digits of a positive quotient in scientific notation, one and `places` more, with its
decimal exponent. -/
def scientificDigits (numerator denominator places : Nat) : Text × Int :=
  let rounded (exponent : Int) : Nat :=
    let shift : Int := places - exponent
    Binary64.roundQuotient (numerator * tenTo shift.toNat) (denominator * tenTo (-shift).toNat)
  let estimate : Int :=
    (Nat.toDigits 10 numerator).length - (Nat.toDigits 10 denominator).length
  let isBelow :=
    numerator * tenTo (-estimate).toNat < denominator * tenTo estimate.toNat
  let exponent := if isBelow then estimate - 1 else estimate
  let digits := Nat.toDigits 10 (rounded exponent)
  if digits.length = places + 2 then (digits.dropLast, exponent + 1) else (digits, exponent)

/-- A finite magnitude as a quotient. -/
def quotient (mantissa : Nat) (exponent : Int) : Nat × Nat :=
  (mantissa * twoTo exponent.toNat, twoTo (-exponent).toNat)

def withPoint (keepsPoint : Bool) (whole places : Text) : Text :=
  if places.isEmpty && !keepsPoint then whole else whole ++ '.' :: places

/-- A decimal exponent of at least two digits with its sign. -/
def exponentText (exponent : Int) : Text :=
  let digits := Text.ofNat exponent.natAbs
  'e' :: (if exponent < 0 then '-' else '+') ::
    (List.replicate (2 - digits.length) '0' ++ digits)

def fixed (keepsPoint : Bool) (places mantissa : Nat) (exponent : Int) : Text :=
  let (numerator, denominator) := quotient mantissa exponent
  let digits := Text.ofNat (Binary64.roundQuotient (numerator * tenTo places) denominator)
  let padded := List.replicate (places + 1 - digits.length) '0' ++ digits
  let split := padded.length - places
  withPoint keepsPoint (padded.take split) (padded.drop split)

def digitsOf (places mantissa : Nat) (exponent : Int) : Text × Int :=
  if mantissa = 0 then (List.replicate (places + 1) '0', 0)
  else
    let (numerator, denominator) := quotient mantissa exponent
    scientificDigits numerator denominator places

def scientific (keepsPoint : Bool) (places mantissa : Nat) (exponent : Int) : Text :=
  let (digits, power) := digitsOf places mantissa exponent
  withPoint keepsPoint (digits.take 1) (digits.drop 1) ++ exponentText power

/-- The shorter of both notations for some digits that matter, without zeros at the end unless
they are to be kept. -/
def general (keepsZeros : Bool) (precision mantissa : Nat) (exponent : Int) : Text :=
  let count := max precision 1
  let (digits, power) := digitsOf (count - 1) mantissa exponent
  let trim (text : Text) : Text :=
    if keepsZeros then text else (text.reverse.dropWhile (· == '0')).reverse
  if power < -4 || (count : Int) ≤ power then
    withPoint keepsZeros (digits.take 1) (trim (digits.drop 1)) ++ exponentText power
  else if power < 0 then
    withPoint keepsZeros "0" (trim (List.replicate ((-power).toNat - 1) '0' ++ digits))
  else
    let split := power.toNat + 1
    withPoint keepsZeros (digits.take split) (trim (digits.drop split))

/-- The bits of a magnitude in base sixteen, one before the point. -/
def hexadecimal (mantissa : Nat) (exponent : Int) : Text :=
  if mantissa = 0 then "0x0p+0"
  else
    let shift := 52 - mantissa.log2
    let scaled := mantissa * twoTo shift
    let power := exponent - shift + 52
    let digits := Nat.toDigits 16 (scaled % twoTo 52)
    let places := List.replicate (13 - digits.length) '0' ++ digits
    let places := (places.reverse.dropWhile (· == '0')).reverse
    "0x1" ++ (if places.isEmpty then [] else '.' :: places) ++ 'p' ::
      (if power < 0 then '-' else '+') :: Text.ofNat power.natAbs

/-- The magnitude of a number as a directive prints it, and whether that is made of digits. -/
def magnitude (directive : Char) (isAlternate : Bool) (precision : Option Nat)
    (value : Binary64) : Text × Bool :=
  match value.meaning with
  | .nan => ("nan", false)
  | .infinite _ => ("inf", false)
  | .finite _ mantissa exponent =>
      let places := precision.getD 6
      if directive = 'f' then (fixed isAlternate places mantissa exponent, true)
      else if directive = 'e' then (scientific isAlternate places mantissa exponent, true)
      else if directive = 'g' then (general isAlternate places mantissa exponent, true)
      else (hexadecimal mantissa exponent, true)

end ShaderCost.Script.Floating

/-!
Texts that commands print: escapes after backslashes, and formats whose directives take arguments
one after the other.
-/

namespace ShaderCost.Script.Format

/-- The octet that octal digits spell. -/
def octalOctet (digits : Text) : Char := Char.ofNat (digitsIn 8 digits % 256)

/-- The characters that letters after a backslash stand for. -/
def escapeLetters : List (Char × Char) := [
  ('a', '\x07'), ('b', '\x08'), ('e', '\x1b'), ('f', '\x0c'), ('n', '\n'), ('r', '\r'),
  ('t', '\t'), ('v', '\x0b'), ('\\', '\\')]

/-- What a backslash and the text after it stand for, and the rest of the text. A backslash that
starts no escape stands for itself. -/
def takeEscape (behind : Text) : Char × Text :=
  match behind with
  | [] => ('\\', [])
  | c :: rest =>
      if isOctalDigit c then
        let digits := (behind.take 3).takeWhile isOctalDigit
        (octalOctet digits, behind.drop digits.length)
      else
        match escapeLetters.lookup c with
        | some octet => (octet, rest)
        | none => ('\\', behind)

/-- Resolves the escapes of a text, reversed; octal digits may have a zero in front. The second
value tells whether the text asked for an end of all output. -/
def unescape : (fuel : Nat) → Text → (before : Text) → Text × Bool
  | 0, _, before | _ + 1, [], before => (before, false)
  | fuel + 1, '\\' :: behind, before =>
      match behind with
      | 'c' :: _ => (before, true)
      | '0' :: rest =>
          let digits := (rest.take 3).takeWhile isOctalDigit
          unescape fuel (rest.drop digits.length) (octalOctet digits :: before)
      | _ =>
          let (octet, rest) := takeEscape behind
          unescape fuel rest (octet :: before)
  | fuel + 1, c :: rest, before => unescape fuel rest (c :: before)

def unescaped (text : Text) : Text × Bool :=
  let (reversed, ends) := unescape (text.length + 1) text []
  (reversed.reverse, ends)

def joinWords (words : List Text) : Text := List.intercalate [' '] words

/-- Words with blanks between them and a line feed at the end, which `-n` in front leaves out. -/
def echo (words : List Text) : Text :=
  let (words, ending) : List Text × Text := match words with
    | ['-', 'n'] :: rest => (rest, [])
    | _ => (words, ['\n'])
  let (text, ends) := unescaped (joinWords words)
  if ends then text else text ++ ending

/-- Words as the program of that name shows them: with options in front, and escapes resolved
only if asked for. -/
def plainEcho (resolves ends : Bool) : List Text → Text
  | [] => if ends then ['\n'] else []
  | word :: rest =>
      let isOption := match word with
        | '-' :: letters => !letters.isEmpty && letters.all fun c => "neE".toList.contains c
        | _ => false
      if isOption then
        let choice := word.reverse.find? fun c => c = 'e' || c = 'E'
        plainEcho ((choice.map (· == 'e')).getD resolves) (ends && 'n' ∉ word) rest
      else
        let joined := joinWords (word :: rest)
        let (text, stops) := if resolves then unescaped joined else (joined, false)
        if ends && !stops then text ++ ['\n'] else text

/-- How a directive places its value. -/
structure Placing where
  left : Bool
  zeros : Bool
  plus : Bool
  space : Bool
  isAlternate : Bool
  width : Nat
  precision : Option Nat

namespace Placing

def pad (placing : Placing) (text : Text) : Text :=
  let missing := List.replicate (placing.width - text.length) ' '
  if placing.left then text ++ missing else missing ++ text

/-- What stands before the digits of a number, which stays in front of zeros that fill the
width. -/
def padNumber (placing : Placing) (zeros : Bool) (front digits : Text) : Text :=
  if zeros && !placing.left then
    front ++ List.replicate (placing.width - front.length - digits.length) '0' ++ digits
  else placing.pad (front ++ digits)

def signFor (placing : Placing) (isNegative : Bool) : Text :=
  if isNegative then ['-'] else if placing.plus then ['+'] else if placing.space then [' '] else []

/-- At least as many digits as the precision asks for; zero may have none. -/
def leastDigits (placing : Placing) (isZero : Bool) (digits : Text) : Text :=
  match placing.precision with
  | some 0 => if isZero then [] else digits
  | some count => List.replicate (count - digits.length) '0' ++ digits
  | none => digits

def integer (placing : Placing) (value : Int) : Text :=
  let digits := placing.leastDigits (value = 0) (Text.ofNat value.natAbs)
  placing.padNumber (placing.zeros && placing.precision.isNone)
    (placing.signFor (decide (value < 0))) digits

/-- A natural in the base that a directive stands for. -/
def natural (placing : Placing) (directive : Char) (value : Nat) : Text :=
  let base := if directive = 'o' then 8 else if directive = 'u' then 10 else 16
  let digits := placing.leastDigits (value = 0) (Nat.toDigits base value)
  let marked := placing.isAlternate && base != 10
  let digits := if marked && base = 8 && digits.head? != some '0' then '0' :: digits else digits
  let front : Text := if marked && base = 16 && value != 0 then ['0', directive] else []
  placing.padNumber (placing.zeros && placing.precision.isNone) front
    (if directive = 'X' then digits.map Char.toUpper else digits)

def floating (placing : Placing) (directive : Char) (value : Binary64) : Text :=
  let (shown, hasDigits) :=
    Floating.magnitude directive.toLower placing.isAlternate placing.precision value
  let text := placing.padNumber (placing.zeros && hasDigits)
    (placing.signFor value.isNegative) shown
  if directive.isUpper then text.map Char.toUpper else text

end Placing

/-- What is wrong with an argument that should be a number. -/
inductive Flaw where
  | notNumeric
  /-- Something stands behind the number. -/
  | partly
  | outOfRange
  deriving DecidableEq

def Flaw.message : Flaw → Text
  | notNumeric => "expected numeric value"
  | partly => "not completely converted"
  | outOfRange => "Numerical result out of range"

/-- What was printed so far, and what is left to print. -/
structure Progress where
  /-- The text, its last character first. -/
  reversed : Text
  /-- What is wrong with arguments, the last first. -/
  warnings : List (Text × Flaw)
  arguments : List Text

inductive Ending where
  | finished
  /-- The text asked for an end of all output. -/
  | stopped
  | failed (problem : Text)
  deriving DecidableEq

abbrev Printing := StateM Progress

def put (text : Text) : Printing Unit :=
  modify fun progress => { progress with reversed := text.reverse ++ progress.reversed }

def warn (argument : Text) (flaw : Flaw) : Printing Unit :=
  modify fun progress => { progress with warnings := (argument, flaw) :: progress.warnings }

def takeArgument? : Printing (Option Text) := do
  match (← get).arguments with
  | [] => return none
  | argument :: rest =>
      modify fun progress => { progress with arguments := rest }
      return some argument

/-- The code of the character after a quote at the front of an argument. -/
def quotedCode? : Text → Option Nat
  | quote :: rest =>
      if quote = '\'' || quote = '"' then some ((rest.head?.map Char.toNat).getD 0) else none
  | [] => none

/-- Complains where an argument is no number, or not only a number. -/
def check (argument rest : Text) (fits : Bool) : Printing Unit :=
  if !rest.isEmpty then
    if rest.length = argument.length then warn argument .notNumeric
    else warn argument .partly
  else if !fits then warn argument .outOfRange
  else pure ()

/-- The whole number that an argument spells, within the bounds of a directive. -/
def takeInteger (least greatest : Int) : Printing Int := do
  match ← takeArgument? with
  | none => return 0
  | some argument =>
      match quotedCode? argument with
      | some code => return code
      | none =>
          match Numeral.readWithin? least greatest true argument with
          | some reading =>
              check argument reading.rest reading.fits
              return reading.value
          | none =>
              check argument argument true
              return 0

def takeSigned : Printing Int := takeInteger Numeral.least Numeral.greatest

/-- A natural of 64 bits; a negative number stands for its complement. -/
def takeNatural : Printing Nat := do
  let value ← takeInteger (1 - twoTo 64) (twoTo 64 - 1)
  return (value % (twoTo 64 : Nat)).toNat

def takeFloating : Printing Binary64 := do
  match ← takeArgument? with
  | none => return 0
  | some argument =>
      match quotedCode? argument with
      | some code => return Binary64.ofNat code
      | none =>
          match Floating.read? argument with
          | some reading =>
              check argument reading.rest reading.fits
              return reading.value
          | none =>
              check argument argument true
              return 0

/-- Reads flags, width and precision; a star takes an argument. -/
def takePlacing (text : Text) : Printing (Placing × Text) := do
  let flags := text.takeWhile fun c => "#-+ 0".toList.contains c
  let behind := text.drop flags.length
  let (width, behind) ← match behind with
    | '*' :: rest => do pure ((← takeSigned), rest)
    | _ =>
        let digits := behind.takeWhile Char.isDigit
        pure ((digitsIn 10 digits : Int), behind.drop digits.length)
  let (precision, behind) ← match behind with
    | '.' :: '*' :: rest => do
        let count ← takeSigned
        pure (if count < 0 then none else some count.toNat, rest)
    | '.' :: rest =>
        let digits := rest.takeWhile Char.isDigit
        pure (some (digitsIn 10 digits), rest.drop digits.length)
    | _ => pure (none, behind)
  let placing : Placing := {
    left := flags.contains '-' || width < 0
    zeros := flags.contains '0'
    plus := flags.contains '+'
    space := flags.contains ' '
    isAlternate := flags.contains '#'
    width := width.natAbs
    precision }
  return (placing, behind)

/-- Prints a directive. -/
def direct (placing : Placing) (directive : Char) (written : Text) : Printing Ending := do
  let cut (text : Text) : Text := text.take (placing.precision.getD text.length)
  match directive with
  | 's' => put (placing.pad (cut ((← takeArgument?).getD [])))
  | 'b' =>
      let (text, stops) := unescaped ((← takeArgument?).getD [])
      put (placing.pad (cut text))
      if stops then return .stopped
  | 'c' =>
      let argument := (← takeArgument?).getD []
      put (placing.pad [argument.headD '\x00'])
  | 'd' | 'i' => put (placing.integer (← takeSigned))
  | 'o' | 'u' | 'x' | 'X' => put (placing.natural directive (← takeNatural))
  | 'a' | 'A' | 'e' | 'E' | 'f' | 'F' | 'g' | 'G' =>
      put (placing.floating directive (← takeFloating))
  | _ => return .failed (written ++ ": invalid directive")
  return .finished

/-- One pass over a format. -/
def pass : (fuel : Nat) → Text → Printing Ending
  | 0, _ | _ + 1, [] => return .finished
  | fuel + 1, '\\' :: behind => do
      let (octet, rest) := takeEscape behind
      put [octet]
      pass fuel rest
  | fuel + 1, '%' :: '%' :: rest => do
      put ['%']
      pass fuel rest
  | fuel + 1, '%' :: behind => do
      let (placing, rest) ← takePlacing behind
      match rest with
      | [] => return .failed "missing format character"
      | directive :: rest =>
          let written := '%' :: behind.take (behind.length - rest.length)
          match ← direct placing directive written with
          | .finished => pass fuel rest
          | ending => return ending
  | fuel + 1, c :: rest => do
      put [c]
      pass fuel rest

/-- Uses the format again while arguments are left and it takes some. -/
def passes (format : Text) : (fuel : Nat) → Printing Ending
  | 0 => return .finished
  | fuel + 1 => do
      let before := (← get).arguments.length
      let ending ← pass (format.length + 1) format
      let left := (← get).arguments.length
      if ending = .finished && left != 0 && left < before then passes format fuel
      else return ending

/-- A format with arguments filled in: the text, what is wrong with arguments, and an error that
ended it. -/
def printf (format : Text) (arguments : List Text) : Text × List Text × Option Text :=
  let (ending, progress) := (passes format (arguments.length + 1)).run ⟨[], [], arguments⟩
  let shown := progress.warnings.reverse.map fun (argument, flaw) =>
    argument ++ ": " ++ flaw.message
  (progress.reversed.reverse, shown,
    match ending with
    | .failed problem => some problem
    | _ => none)

end ShaderCost.Script.Format
