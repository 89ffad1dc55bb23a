import ShaderCost.Text.Basic

/-!
Whole numbers in decimal, written with ASCII digits, and powers of the two bases that numbers are
written in.
-/

namespace ShaderCost.Text

/-- The natural that a list of ASCII digits spells. -/
def digitsValue (digits : Text) : Nat :=
  digits.foldl (fun value digit => 10 * value + (digit.toNat - '0'.toNat)) 0

/-- The natural that a text of at least one ASCII digit spells. -/
def nat? (text : Text) : Option Nat :=
  if text.isEmpty || !text.all Char.isDigit then none else some (digitsValue text)

def natBelow? (limit : Nat) (text : Text) : Option Nat :=
  (nat? text).filter (· < limit)

/-- The same, with one plus sign allowed in front. -/
def signedNatBelow? (limit : Nat) : Text → Option Nat
  | '+' :: digits => natBelow? limit digits
  | text => natBelow? limit text

/-- The decimal digits of a natural. -/
def ofNat (number : Nat) : Text := Nat.toDigits 10 number

def ofInt (number : Int) : Text :=
  if number < 0 then '-' :: ofNat number.natAbs else ofNat number.natAbs

end ShaderCost.Text

namespace ShaderCost

def twoTo (exponent : Nat) : Nat := Nat.pow 2 exponent

def tenTo (exponent : Nat) : Nat := Nat.pow 10 exponent

end ShaderCost
