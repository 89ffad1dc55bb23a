import ShaderCost.Json.Value
import ShaderCost.Text.Numeral

/-!
Reading JSON text. Reading is strict: nothing may follow the value, no comma may be left over,
and control characters have to be escaped inside strings. Nesting is limited. A whole number that
fits 64 bits with its sign is exact. Of any other numeral at most 64 bits of significant digits are
kept, and the power of ten is applied in steps, each rounded by itself; a numeral too large for a
finite number is refused.
-/

namespace ShaderCost.JsonValue

/-- A numeral taken apart. -/
structure Numeral where
  negative : Bool
  whole : Text
  /-- The digits after the point, where there is a point. -/
  places : Option Text
  /-- The sign and the digits after `e`, where there is one. -/
  power : Option (Bool × Text)

/-- Takes a numeral from the start of a text. No zero may stand before another digit. -/
def takeNumeral? (text : Text) : Option (Numeral × Text) := do
  let (negative, unsigned) := match text with
    | '-' :: rest => (true, rest)
    | rest => (false, rest)
  let whole := unsigned.takeWhile Char.isDigit
  let rest := unsigned.dropWhile Char.isDigit
  if whole.isEmpty || (whole.head? == some '0' && 1 < whole.length) then none
  let (places, rest) := match rest with
    | '.' :: behind => (some (behind.takeWhile Char.isDigit), behind.dropWhile Char.isDigit)
    | behind => (none, behind)
  if places == some [] then none
  let (power, rest) := match rest with
    | mark :: behind =>
        if mark = 'e' || mark = 'E' then
          let (positive, digits) := match behind with
            | '-' :: digits => (false, digits)
            | '+' :: digits => (true, digits)
            | digits => (true, digits)
          (some (positive, digits.takeWhile Char.isDigit), digits.dropWhile Char.isDigit)
        else (none, mark :: behind)
    | [] => (none, [])
  if power.any fun (_, digits) => digits.isEmpty then none
  return (⟨negative, whole, places, power⟩, rest)

def significandLimit : Nat := twoTo 64

/-- Appends digits to a significand as long as it fits 64 bits, and tells how many were taken. -/
def absorb (significand : Nat) : Text → Nat × Nat
  | [] => (significand, 0)
  | digit :: digits =>
      let next := 10 * significand + (digit.toNat - '0'.toNat)
      if significandLimit ≤ next then (significand, 0)
      else
        let (final, taken) := absorb next digits
        (final, taken + 1)

def powerOfTen (exponent : Nat) : Binary64 := Binary64.ofNat (tenTo exponent)

/-- The largest power of ten that is a finite number has this exponent. -/
def largestPower : Nat := 308

/-- Applies a power of ten in steps. Below the largest power three steps reach zero. -/
def scale : (steps : Nat) → Binary64 → Int → Option Binary64
  | 0, _, _ => some 0
  | steps + 1, value, exponent =>
      if exponent.natAbs ≤ largestPower then
        if 0 ≤ exponent then
          let product := value.mulMagnitudes (powerOfTen exponent.toNat)
          if product.isFinite then some product else none
        else some (value.divMagnitudes (powerOfTen exponent.natAbs))
      else if value = 0 then some 0
      else if 0 ≤ exponent then none
      else scale steps (value.divMagnitudes (powerOfTen largestPower)) (exponent + largestPower)

namespace Numeral

/-- The magnitude of a numeral as a binary64 number. -/
def magnitude? (numeral : Numeral) : Option Binary64 :=
  let (significand, taken) := absorb 0 numeral.whole
  let (significand, behind) := absorb significand (numeral.places.getD [])
  let shift : Int := (numeral.whole.length - taken : Nat) - (behind : Int)
  let power : Int := match numeral.power with
    | none => 0
    | some (positive, digits) =>
        if positive then Text.digitsValue digits else -(Text.digitsValue digits : Int)
  scale 4 (Binary64.ofNat significand) (shift + power)

def value? (numeral : Numeral) : Option JsonValue :=
  let whole : Int := Text.digitsValue numeral.whole
  let exact := if numeral.negative then -whole else whole
  let plain := numeral.places.isNone && numeral.power.isNone
  if plain && -(twoTo 63 : Int) ≤ exact && exact < twoTo 63 && !(numeral.negative && whole = 0) then
    some (integer exact)
  else
    numeral.magnitude?.map fun magnitude =>
      float (if numeral.negative then magnitude.neg else magnitude)

end Numeral

def isSpace (c : Char) : Bool := c == ' ' || c == '\n' || c == '\r' || c == '\t'

def skipSpace (text : Text) : Text := text.dropWhile isSpace

def hexValue? (c : Char) : Option Nat :=
  if c.isDigit then some (c.toNat - '0'.toNat)
  else if 'a' ≤ c && c ≤ 'f' then some (c.toNat - 'a'.toNat + 10)
  else if 'A' ≤ c && c ≤ 'F' then some (c.toNat - 'A'.toNat + 10)
  else none

/-- The unit that four hexadecimal digits spell. -/
def unit? (a b c d : Char) : Option Nat := do
  return ((← hexValue? a) * 16 + (← hexValue? b)) * 256 + (← hexValue? c) * 16 + (← hexValue? d)

/-- The character that a letter after a backslash stands for. -/
def shortEscape? (c : Char) : Option Char :=
  [('"', '"'), ('\\', '\\'), ('/', '/'), ('b', '\x08'), ('f', '\x0c'), ('n', '\n'), ('r', '\r'),
    ('t', '\t')].lookup c

/-- The content of a string after its opening quote, and what follows the closing one. A unit of
the upper surrogates needs one of the lower right behind it. -/
def takeString? : Text → Option (Text × Text)
  | [] => none
  | '"' :: rest => some ([], rest)
  | '\\' :: 'u' :: a :: b :: c :: d :: '\\' :: 'u' :: e :: f :: g :: h :: rest => do
      let first ← unit? a b c d
      if 0xdc00 ≤ first && first < 0xe000 then none
      else if 0xd800 ≤ first && first < 0xdc00 then
        let second ← unit? e f g h
        if second < 0xdc00 || 0xe000 ≤ second then none
        let (content, behind) ← takeString? rest
        return (Char.ofNat (0x10000 + (first - 0xd800) * 0x400 + (second - 0xdc00)) :: content,
          behind)
      else
        let (content, behind) ← takeString? ('\\' :: 'u' :: e :: f :: g :: h :: rest)
        return (Char.ofNat first :: content, behind)
  | '\\' :: 'u' :: a :: b :: c :: d :: rest => do
      let first ← unit? a b c d
      if 0xd800 ≤ first && first < 0xe000 then none
      let (content, behind) ← takeString? rest
      return (Char.ofNat first :: content, behind)
  | '\\' :: c :: rest => do
      let escaped ← shortEscape? c
      let (content, behind) ← takeString? rest
      return (escaped :: content, behind)
  | c :: rest => do
      if c.toNat < 32 || c = '\\' then none
      let (content, behind) ← takeString? rest
      return (c :: content, behind)
termination_by text => text.length

/-- The deepest nesting of lists and objects. -/
def deepest : Nat := 127

mutual

/-- Takes a value from the start of a text. `fuel` bounds the calls, `depth` the nesting left. -/
def takeValue? : (fuel depth : Nat) → Text → Option (JsonValue × Text)
  | 0, _, _ => none
  | fuel + 1, depth, text =>
      match skipSpace text with
      | 'n' :: 'u' :: 'l' :: 'l' :: rest => some (null, rest)
      | 't' :: 'r' :: 'u' :: 'e' :: rest => some (bool true, rest)
      | 'f' :: 'a' :: 'l' :: 's' :: 'e' :: rest => some (bool false, rest)
      | '"' :: rest => (takeString? rest).map fun (content, behind) => (string content, behind)
      | '[' :: rest =>
          match depth, skipSpace rest with
          | 0, _ => none
          | _, ']' :: behind => some (list [], behind)
          | depth + 1, _ =>
              (takeItems? fuel depth rest).map fun (items, behind) => (list items, behind)
      | '{' :: rest =>
          match depth, skipSpace rest with
          | 0, _ => none
          | _, '}' :: behind => some (object [], behind)
          | depth + 1, _ =>
              (takeMembers? fuel depth rest).map fun (members, behind) => (object members, behind)
      | other => do
          let (numeral, behind) ← takeNumeral? other
          return (← numeral.value?, behind)

/-- Takes the items of a list up to its end, at least one. -/
def takeItems? : (fuel depth : Nat) → Text → Option (List JsonValue × Text)
  | 0, _, _ => none
  | fuel + 1, depth, text => do
      let (item, behind) ← takeValue? fuel depth text
      match skipSpace behind with
      | ',' :: rest =>
          let (items, behind) ← takeItems? fuel depth rest
          return (item :: items, behind)
      | ']' :: rest => return ([item], rest)
      | _ => none

/-- Takes the members of an object up to its end, at least one. -/
def takeMembers? : (fuel depth : Nat) → Text → Option (List (Text × JsonValue) × Text)
  | 0, _, _ => none
  | fuel + 1, depth, text => do
      match skipSpace text with
      | '"' :: rest =>
          let (key, behind) ← takeString? rest
          match skipSpace behind with
          | ':' :: rest =>
              let (value, behind) ← takeValue? fuel depth rest
              match skipSpace behind with
              | ',' :: rest =>
                  let (members, behind) ← takeMembers? fuel depth rest
                  return ((key, value) :: members, behind)
              | '}' :: rest => return ([(key, value)], rest)
              | _ => none
          | _ => none
      | _ => none

end

/-- The value that a text spells, with nothing but space around it. Every call that does not end
takes at least one character with the next one, so that the fuel is never used up. -/
def ofText? (text : Text) : Option JsonValue := do
  let (value, behind) ← takeValue? (2 * text.length + 2) deepest text
  if (skipSpace behind).isEmpty then return value else none

end ShaderCost.JsonValue
