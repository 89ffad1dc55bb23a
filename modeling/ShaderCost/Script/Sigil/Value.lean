import ShaderCost.Script.Format

/-!
Values of programs whose names carry a mark for the shape of what they hold: numbers, texts and
references to places. A text counts as the number at its front, a number as the text that writes it
with fifteen digits that matter.
-/

namespace ShaderCost.Script.Sigil

/-- What lies at a place. -/
inductive Kind where
  | scalar
  | list
  | table
  | routine
  | handle
  | pattern
  deriving DecidableEq

inductive Value where
  | undefined
  | whole (value : Int)
  | real (value : Float)
  | text (value : Text)
  /-- What is a number and a text of its own. -/
  | dual (number : Int) (text : Text)
  | reference (kind : Kind) (place : Nat)

instance : Inhabited Value := ⟨.undefined⟩

inductive Numeric where
  | whole (value : Int)
  | real (value : Float)

def decode (value : Binary64) : Float := Float.ofBits value.bits

def encode (value : Float) : Binary64 := if value.isNaN then .nan else ⟨value.toBits⟩

/-- The least number that is too large for a word. -/
def wordEnd : Int := 18446744073709551616

def leastWhole : Int := -9223372036854775808

/-- How many digits of a number matter. -/
def digitsThatMatter : Nat := 15

/-- The digits of a number. -/
def realText (value : Float) : Text :=
  let digits := match (encode value).meaning with
    | .nan => "NaN"
    | .infinite _ => "Inf"
    | .finite _ mantissa exponent => Floating.general false digitsThatMatter mantissa exponent
  if value < 0 then '-' :: digits else digits

/-- A number without its places, as near as words come. -/
def truncated (value : Float) : Int :=
  if value.isNaN then 0
  else if 18446744073709551615.0 ≤ value then wordEnd - 1
  else if value ≤ -9223372036854775808.0 then leastWhole
  else if value < 0 then -((-value).toUInt64.toNat : Int)
  else (value.toUInt64.toNat : Int)

namespace Numeric

/-- A whole number, as far as it fits a word. -/
def ofInt (value : Int) : Numeric :=
  if leastWhole ≤ value && value < wordEnd then .whole value else .real (Float.ofInt value)

/-- A number that is a whole one if that is exact. -/
def settled (value : Float) : Numeric :=
  if value.floor == value && value.abs < 9007199254740992.0 then .whole (truncated value)
  else .real value

def toFloat : Numeric → Float
  | .whole value => Float.ofInt value
  | .real value => value

def toInt : Numeric → Int
  | .whole value => value
  | .real value => truncated value

/-- The word that holds a number. -/
def toWord (number : Numeric) : Nat := (number.toInt % wordEnd).toNat

def toValue : Numeric → Value
  | .whole value => .whole value
  | .real value => .real value

def isZero : Numeric → Bool
  | .whole value => value = 0
  | .real value => value == 0

/-- Works on whole numbers exactly and on others with floating points. -/
def combine (exact : Int → Int → Int) (rounded : Float → Float → Float) :
    Numeric → Numeric → Numeric
  | .whole left, .whole right => ofInt (exact left right)
  | left, right => .real (rounded left.toFloat right.toFloat)

def add : Numeric → Numeric → Numeric := combine (· + ·) (· + ·)

def subtract : Numeric → Numeric → Numeric := combine (· - ·) (· - ·)

def multiply : Numeric → Numeric → Numeric := combine (· * ·) (· * ·)

/-- A quotient by a number that is not zero. -/
def divide (left right : Numeric) : Numeric :=
  match left, right with
  | .whole left, .whole right =>
      if left % right = 0 then ofInt (left / right)
      else .real (Float.ofInt left / Float.ofInt right)
  | left, right => .real (left.toFloat / right.toFloat)

/-- A remainder with the sign of the divisor, which is not zero. -/
def remainder (left right : Numeric) : Numeric := .whole (Int.fmod left.toInt right.toInt)

def isPowerOfTwo (value : Nat) : Bool := value != 0 && twoTo value.log2 = value

def powerOf (base : Int) (exponent : Nat) : Int :=
  (List.replicate exponent base).foldl (· * ·) 1

/-- A power of whole numbers is exact where sixty-four bits are clearly enough. -/
def power (base exponent : Numeric) : Numeric :=
  let rounded := settled (Float.pow base.toFloat exponent.toFloat)
  match base, exponent with
  | .whole base, .whole exponent =>
      let bits := base.natAbs.log2 + 1
      if 0 ≤ exponent && bits * exponent.toNat ≤ 64 && !isPowerOfTwo base.natAbs then
        ofInt (powerOf base exponent.toNat)
      else rounded
  | _, _ => rounded

def negate : Numeric → Numeric
  | .whole value => ofInt (-value)
  | .real value => .real (-value)

/-- Whether one number comes before another, unless they cannot be compared. -/
def order? (left right : Numeric) : Option Ordering :=
  match left, right with
  | .whole left, .whole right => some (compare left right)
  | left, right =>
      let (left, right) := (left.toFloat, right.toFloat)
      if left < right then some .lt
      else if right < left then some .gt
      else if left == right then some .eq
      else none

end Numeric

/-! Texts as numbers. -/

/-- The number at the front of a text, and the text behind it. -/
def numericFront (text : Text) : Option (Numeric × Text) :=
  let body := text.dropWhile isBlankOctet
  let (isNegative, unsigned) : Bool × Text := match body with
    | '-' :: rest => (true, rest)
    | '+' :: rest => (false, rest)
    | _ => (false, body)
  let digits := unsigned.takeWhile Char.isDigit
  let behind := unsigned.drop digits.length
  let isReal := behind.head?.any fun c => c = '.' || c = 'e' || c = 'E'
  let isNamed := unsigned.head?.any fun c => c.toLower = 'i' || c.toLower = 'n'
  if digits.isEmpty && !isReal && !isNamed then none
  else if isReal || isNamed then
    match Floating.readUnsigned? isNegative unsigned with
    | some reading => some (.real (decode reading.value), reading.rest)
    | none => none
  else
    let magnitude : Int := digitsIn 10 digits
    some (.ofInt (if isNegative then -magnitude else magnitude), behind)

def numericOf (text : Text) : Numeric :=
  match numericFront text with
  | some (number, _) => number
  | none => .whole 0

/-- Whether a text is nothing but a number. -/
def looksNumeric (text : Text) : Bool :=
  match numericFront text with
  | some (_, rest) => rest.all isBlankOctet
  | none => false

namespace Value

def ofBool (value : Bool) : Value := if value then .whole 1 else .text []

def ofNat (value : Nat) : Value := .whole value

def toNumeric : Value → Numeric
  | .undefined => .whole 0
  | .whole number => .whole number
  | .real number => .real number
  | .text written => numericOf written
  | .dual number _ => .whole number
  | .reference _ place => .whole place

def toInt (value : Value) : Int := value.toNumeric.toInt

def toNat (value : Value) : Nat := value.toInt.toNat

def toFloat (value : Value) : Float := value.toNumeric.toFloat

def isTrue : Value → Bool
  | .undefined => false
  | .whole value => value != 0
  | .real value => value != 0
  | .text written => !(written.isEmpty || written = ['0'])
  | .dual _ written => !written.isEmpty
  | .reference _ _ => true

def isDefined : Value → Bool
  | .undefined => false
  | _ => true

/-- The text of a value, with a way to write references. -/
def toText (titled : Kind → Nat → Text) : Value → Text
  | .undefined => []
  | .whole value => Text.ofInt value
  | .real value => realText value
  | .text written => written
  | .dual _ written => written
  | .reference kind place => titled kind place

end Value

/-! Counting on. -/

/-- The text that comes behind one of letters and digits, its last character first. -/
def succeed : Text → Text
  | [] => []
  | [c] =>
      if c = 'z' then "aa" else if c = 'Z' then "AA" else if c = '9' then "01"
      else [Char.ofNat (c.toNat + 1)]
  | c :: rest =>
      if c = 'z' then 'a' :: succeed rest
      else if c = 'Z' then 'A' :: succeed rest
      else if c = '9' then '0' :: succeed rest
      else Char.ofNat (c.toNat + 1) :: rest

/-- Whether a text counts on as a text: letters and then digits. -/
def countsAsText (text : Text) : Bool :=
  !text.isEmpty && text.head?.any Char.isAlpha && (text.dropWhile Char.isAlpha).all Char.isDigit

def increment : Value → Value
  | .text text =>
      if countsAsText text then .text (succeed text.reverse).reverse
      else ((numericOf text).add (.whole 1)).toValue
  | value => (value.toNumeric.add (.whole 1)).toValue

/-! Formats. -/

/-- A format in the making: what was made, its last character first, and the values left. -/
structure Filling where
  reversed : Text
  values : List Value
  all : Array Value

namespace Filling

def take (filling : Filling) : Value × Filling :=
  match filling.values with
  | value :: values => (value, { filling with values })
  | [] => (.undefined, filling)

def put (filling : Filling) (text : Text) : Filling :=
  { filling with reversed := text.reverse ++ filling.reversed }

end Filling

/-- A count in a directive, which may be the next value, and what follows it. -/
def takeCount (text : Text) (filling : Filling) : Option Int × Text × Filling :=
  match text with
  | '*' :: rest =>
      let (value, filling) := filling.take
      (some value.toInt, rest, filling)
  | _ =>
      let digits := text.takeWhile Char.isDigit
      (if digits.isEmpty then none else some (digitsIn 10 digits : Nat), text.drop digits.length,
        filling)

/-- A value as a directive writes it, unless there is no such directive. -/
def directed (titled : Kind → Nat → Text) (placing : Format.Placing) (letter : Char)
    (value : Value) : Option Text :=
  let inBase (base : Nat) (mark : Text) : Text :=
    let word := value.toNumeric.toWord
    let digits := placing.leastDigits (word = 0) (Nat.toDigits base word)
    let front := if placing.isAlternate && word != 0 then mark else []
    placing.padNumber (placing.zeros && placing.precision.isNone) front digits
  match letter with
  | 'c' => some (placing.pad [Char.ofNat (value.toInt % 256).toNat])
  | 's' =>
      let text := value.toText titled
      some (placing.padNumber placing.zeros [] (text.take (placing.precision.getD text.length)))
  | 'd' | 'i' | 'D' =>
      match value.toNumeric with
      | .real number =>
          if number.isFinite then some (placing.integer (truncated number))
          else some (placing.pad (realText number))
      | .whole number => some (placing.integer number)
  | 'u' | 'U' => some (placing.natural 'u' value.toNumeric.toWord)
  | 'o' | 'x' | 'X' => some (placing.natural letter value.toNumeric.toWord)
  | 'b' => some (inBase 2 "0b")
  | 'B' => some (inBase 2 "0B")
  | 'e' | 'E' | 'f' | 'F' | 'g' | 'G' | 'a' | 'A' =>
      let number := value.toFloat
      if number.isFinite then some (placing.floating letter (encode number))
      else some (placing.pad (realText number))
  | _ => none

/-- One directive behind its mark, and the text behind it. -/
def takeDirective (titled : Kind → Nat → Text) (text : Text) (filling : Filling) :
    Text × Filling :=
  let number := text.takeWhile Char.isDigit
  let (place?, text) : Option Nat × Text := match text.drop number.length with
    | '$' :: rest => if number.isEmpty then (none, text) else (some (digitsIn 10 number), rest)
    | _ => (none, text)
  let flags := text.takeWhile fun c => "-+ #0".toList.elem c
  let behind := text.drop flags.length
  let (isDotted, behind) : Bool × Text := match behind with
    | 'v' :: rest => (true, rest)
    | _ => (false, behind)
  let (width?, behind, filling) := takeCount behind filling
  let width := width?.getD 0
  let (precision, behind, filling) : Option Nat × Text × Filling := match behind with
    | '.' :: rest =>
        let (count?, rest, filling) := takeCount rest filling
        let count := count?.getD 0
        (if count < 0 then none else some count.toNat, rest, filling)
    | _ => (none, behind, filling)
  let placing : Format.Placing := {
    left := flags.elem '-' || width < 0
    zeros := flags.elem '0'
    plus := flags.elem '+'
    space := flags.elem ' '
    isAlternate := flags.elem '#'
    width := width.natAbs
    precision }
  match behind.dropWhile fun c => "lhqLV".toList.elem c with
  | [] => ([], filling.put ('%' :: text))
  | '%' :: rest => (rest, filling.put ['%'])
  | letter :: rest =>
      let (value, filling) : Value × Filling := match place? with
        | some place => (filling.all.getD (place - 1) .undefined, filling)
        | none => filling.take
      let shown? : Option Text :=
        if isDotted then
          let text := value.toText titled
          let version := text.drop 1
          if text.head? = some 'v' && version.all fun c => c.isDigit || c = '.' then
            some (placing.pad version)
          else
            let numbers := text.map fun c => Text.ofNat c.toNat
            some (placing.pad (List.intercalate ['.'] numbers))
        else directed titled placing letter value
      match shown? with
      | some shown => (rest, filling.put shown)
      | none =>
          let length := text.length - rest.length
          (rest, filling.put ('%' :: text.take length))

/-- Fills a format with values. -/
def fill (titled : Kind → Nat → Text) : (fuel : Nat) → Text → Filling → Text
  | 0, _, filling | _ + 1, [], filling => filling.reversed.reverse
  | fuel + 1, '%' :: rest, filling =>
      let (rest, filling) := takeDirective titled rest filling
      fill titled fuel rest filling
  | fuel + 1, c :: rest, filling =>
      fill titled fuel rest { filling with reversed := c :: filling.reversed }

/-- A format with its values filled in. -/
def formatted (titled : Kind → Nat → Text) (format : Text) (values : List Value) : Text :=
  fill titled (format.length + 1) format ⟨[], values, values.toArray⟩

end ShaderCost.Script.Sigil
