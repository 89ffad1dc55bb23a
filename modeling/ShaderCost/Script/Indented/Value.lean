import ShaderCost.Binary64.Decimal
import ShaderCost.Script.Format
import ShaderCost.Text.Quoted
import ShaderCost.Text.Lower
import ShaderCost.Text.Word

/-!
Values of programs whose blocks are told by indentation, and how numbers and texts are written.
Whole numbers have no bounds; texts are characters, octets are texts of small characters.
-/

namespace ShaderCost.Script.Indented

inductive Value where
  | none
  | ellipsis
  /-- What an operation answers that does not know its operands. -/
  | unsupported
  | bool (value : Bool)
  | whole (value : Int)
  | real (value : Float)
  | text (value : Text)
  | octets (value : Text)
  | tuple (items : List Value)
  | slice (first last step : Value)
  /-- A type of the library, and a routine of it. -/
  | type (name : Text)
  | feature (name : Text)
  /-- A routine of the library that works on a value. -/
  | method (object : Value) (name : Text)
  /-- A routine with the value that it gets first. -/
  | bound (code object : Value)
  /-- What lies at a place. -/
  | object (place : Nat)

instance : Inhabited Value := ⟨.none⟩

namespace Value

def ofNat (value : Nat) : Value := .whole value

def ofTexts (texts : List Text) : List Value := texts.map .text

/-- The truth of a value that does not lie at a place. -/
def isTrue : Value → Bool
  | .none => false
  | .bool value => value
  | .whole value => value != 0
  | .real value => value != 0
  | .text value | .octets value => !value.isEmpty
  | .tuple items => !items.isEmpty
  | _ => true

/-- The whole number of a value that is one. -/
def whole? : Value → Option Int
  | .bool value => some (if value then 1 else 0)
  | .whole value => some value
  | _ => Option.none

def text? : Value → Option Text
  | .text written => some written
  | _ => Option.none

end Value

/-! Numbers. -/

def decode (value : Binary64) : Float := Float.ofBits value.bits

def encode (value : Float) : Binary64 := if value.isNaN then .nan else ⟨value.toBits⟩

/-- A finite number as a quotient of whole numbers. -/
def ratio? (value : Float) : Option (Int × Nat) :=
  match (encode value).meaning with
  | .finite isNegative mantissa exponent =>
      let (numerator, denominator) := Floating.quotient mantissa exponent
      some (if isNegative then -(numerator : Int) else numerator, denominator)
  | _ => none

def ofRatio (numerator : Int) (denominator : Nat) : Float :=
  decode (.ofRatio (numerator < 0) numerator.natAbs denominator)

def realOf (value : Int) : Float := ofRatio value 1

/-- A finite number without its places. -/
def truncated (value : Float) : Int :=
  match ratio? value with
  | some (numerator, denominator) => numerator.tdiv denominator
  | none => 0

/-- The whole number below a finite one. -/
def floored (value : Float) : Int :=
  match ratio? value with
  | some (numerator, denominator) => numerator.fdiv denominator
  | none => 0

/-- The whole number that is nearest to a finite one, the even one of two. -/
def rounded (value : Float) : Int :=
  match ratio? value with
  | some (numerator, denominator) =>
      let magnitude : Int := Binary64.roundQuotient numerator.natAbs denominator
      if numerator < 0 then -magnitude else magnitude
  | none => 0

/-- The remainder of numbers with the sign of the divisor, which is not zero. -/
def realRemainder (left right : Float) : Float :=
  match ratio? left, ratio? right with
  | some (a, b), some (c, d) =>
      let result := (a * d).fmod (c * b)
      if result = 0 then (if right < 0 then -0.0 else 0.0) else ofRatio result (b * d)
  | some _, none =>
      if right.isNaN then right
      else if left == 0 || (left < 0) == (right < 0) then left else right
  | _, _ => 0.0 / 0.0

/-- The whole part of a quotient of numbers, the divisor of which is not zero. -/
def realQuotient (left right : Float) : Float :=
  match ratio? left, ratio? right with
  | some (a, b), some (c, d) =>
      let result := (a * d).fdiv (c * b)
      if result = 0 && (left < 0) != (right < 0) then -0.0 else realOf result
  | _, _ => (left / right).floor

/-- The fewest digits that read back, with an exponent for very large and very small numbers. -/
def realText (value : Float) : Text :=
  match (encode value).meaning with
  | .nan => "nan"
  | .infinite isNegative => if isNegative then "-inf" else "inf"
  | .finite isNegative mantissa exponent =>
      let decimal := Binary64.shortestMagnitude mantissa exponent
      let digits := Text.ofNat decimal.digits
      let place : Int := decimal.exponent + digits.length
      Binary64.signText isNegative ++
        if decimal.digits = 0 then ("0.0" : Text)
        else if place ≤ -4 || 16 < place then
          Floating.withPoint false (digits.take 1) (digits.drop 1) ++
            Floating.exponentText (place - 1)
        else if 0 ≤ decimal.exponent then decimal.positional ++ ".0".toList
        else decimal.positional

/-- A whole number in a base. -/
def inBase (base : Nat) (mark : Text) (value : Int) : Text :=
  (if value < 0 then ['-'] else []) ++ mark ++ Nat.toDigits base value.natAbs

/-! Written texts. -/

def hexOf (width code : Nat) : Text :=
  let digits := Nat.toDigits 16 code
  List.replicate (width - digits.length) '0' ++ digits

/-- A character that stands for an octet which is no part of any. -/
def strayChar (octet : Char) : Char := Char.ofNat (1113856 + octet.toNat)

/-- The octet that a character stands for which is no part of any. -/
def strayOctet? (c : Char) : Option Char :=
  if 1113984 ≤ c.toNat then some (Char.ofNat (c.toNat - 1113856)) else none

/-- The code of a character, where stray octets have codes of their own. -/
def codeOfChar (c : Char) : Nat := ((strayOctet? c).map fun c => 56320 + c.toNat).getD c.toNat

/-- The character that has a code. -/
def charOfCode (code : Nat) : Char :=
  if 56448 ≤ code && code < 56576 then strayChar (Char.ofNat (code - 56320)) else Char.ofNat code

/-- A character as it is written between quotes. -/
def writtenChar (quote : Char) (isOctet : Bool) (c : Char) : Text :=
  if c = quote || c = '\\' then ['\\', c]
  else if c = '\n' then "\\n"
  else if c = '\r' then "\\r"
  else if c = '\t' then "\\t"
  else if c.toNat < 32 || c.toNat = 127 || (isOctet && 127 < c.toNat) ||
      (127 < c.toNat && c.toNat ≤ 160) || c.toNat = 173 then
    "\\x".toList ++ hexOf 2 c.toNat
  else if 255 < c.toNat && Text.isHidden c then
    let code := codeOfChar c
    if code < 65536 then "\\u".toList ++ hexOf 4 code else "\\U".toList ++ hexOf 8 code
  else [c]

/-- The quote that a text is written in. -/
def quoteFor (text : Text) : Char := if text.elem '\'' && !text.elem '"' then '"' else '\''

def writtenText (text : Text) : Text :=
  let quote := quoteFor text
  quote :: text.flatMap (writtenChar quote false) ++ [quote]

def writtenOctets (text : Text) : Text :=
  let quote := quoteFor text
  'b' :: quote :: text.flatMap (writtenChar quote true) ++ [quote]

/-- A text with no characters beyond those of the simplest code. -/
def plainlyWritten (text : Text) : Text :=
  text.flatMap fun c =>
    if c.toNat < 128 then [c]
    else if c.toNat < 256 then "\\x".toList ++ hexOf 2 c.toNat
    else
      let code := codeOfChar c
      if code < 65536 then "\\u".toList ++ hexOf 4 code else "\\U".toList ++ hexOf 8 code

/-! Read numbers. -/

def isBlankChar (c : Char) : Bool :=
  isBlankOctet c || ('\x1c' ≤ c && c ≤ '\x1f') || c.toNat = 133 || c.toNat = 160

def trimmedFront (text : Text) : Text := text.dropWhile isBlankChar

def trimmedEnd (text : Text) : Text := (text.reverse.dropWhile isBlankChar).reverse

def trimmed (text : Text) : Text := trimmedEnd (trimmedFront text)

/-- Digits with single underscores between them, without those. -/
def plainDigits? (text : Text) : Option Text :=
  let parts := text.splitOn '_'
  if parts.any List.isEmpty then none else some parts.flatten

/-- The number that a digit or a letter stands for. -/
def letterValue (c : Char) : Nat :=
  if c.isDigit then c.toNat - '0'.toNat else c.toLower.toNat - 'a'.toNat + 10

def digitIn (base : Nat) (c : Char) : Bool := (c.isDigit || c.isAlpha) && letterValue c < base

/-- The whole number that a text spells in a base. Base zero is told by the text. -/
def wholeOf? (base : Nat) (text : Text) : Option Int := do
  let text := trimmed text
  let (isNegative, text) : Bool × Text := match text with
    | '-' :: rest => (true, rest)
    | '+' :: rest => (false, rest)
    | text => (false, text)
  let marked : Option (Nat × Text) := match text with
    | '0' :: mark :: rest =>
        match mark.toLower with
        | 'x' => some (16, rest)
        | 'o' => some (8, rest)
        | 'b' => some (2, rest)
        | _ => none
    | _ => none
  let (base, text) : Nat × Text := match marked with
    | some (told, rest) =>
        if base = 0 || base = told then
          (told, if rest.head? = some '_' then rest.drop 1 else rest)
        else (base, text)
    | none => (if base = 0 then 10 else base, text)
  let digits ← plainDigits? text
  if digits.isEmpty || !digits.all (digitIn base) then none
  else
    let value : Int := digits.foldl (fun value c => value * base + letterValue c) 0
    some (if isNegative then -value else value)

/-- The number that a text spells. -/
def realOf? (text : Text) : Option Float := do
  let text := trimmed text
  if text.any fun c => c = 'x' || c = 'X' || c = '(' then none
  else
    let text ← if text.elem '_' then plainDigits? text else some text
    let reading ← Floating.read? text
    if reading.rest.isEmpty && text.head?.any (fun c => !isBlankOctet c) then
      some (decode reading.value)
    else none

/-! Great and small letters. -/

def lowered (text : Text) : Text := Text.lowercase text

/-- The great letter for a small one. -/
def raisedChar (c : Char) : Text :=
  let code := c.toNat
  if code < 128 then [c.toUpper]
  else if code = 223 then ['S', 'S']
  else if code = 255 then [Char.ofNat 376]
  else if (224 ≤ code && code ≤ 254 && code != 247) || (1072 ≤ code && code ≤ 1103) ||
      (945 ≤ code && code ≤ 969 && code != 962) then [Char.ofNat (code - 32)]
  else if 1104 ≤ code && code ≤ 1119 then [Char.ofNat (code - 80)]
  else if code = 962 then [Char.ofNat 931]
  else if 256 ≤ code && code < 592 then
    let above := Char.ofNat (code - 1)
    if Text.lowerChar above = [c] then [above] else [c]
  else [c]

def raised (text : Text) : Text := text.flatMap raisedChar

def isGreat (c : Char) : Bool := Text.lowerChar c != [c]

def isSmall (c : Char) : Bool := !isGreat c && (raisedChar c != [c] || c.isLower)

def isLetter (c : Char) : Bool := c.isAlpha || isGreat c || isSmall c ||
  (127 < c.toNat && Text.isWord c && !Text.isDecimalDigit c)

end ShaderCost.Script.Indented
