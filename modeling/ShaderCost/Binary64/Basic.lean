import ShaderCost.Text.Numeral

/-!
Floating-point numbers of 64 bits, as bit patterns with an exact meaning in integer arithmetic.
No machine arithmetic is used: a finite number is a signed multiple of a power of two, and every
operation rounds its exact result once, to the nearest number, a tie to the even one.
-/

namespace ShaderCost

/-- A binary64 number, told apart by its bits: `-0` differs from `0`, and a NaN equals itself. -/
structure Binary64 where
  bits : UInt64
  deriving DecidableEq, Inhabited

namespace Binary64

/-- What a bit pattern stands for; a finite number is `mantissa * 2 ^ exponent`, signed. -/
inductive Meaning where
  | nan
  | infinite (negative : Bool)
  | finite (negative : Bool) (mantissa : Nat) (exponent : Int)
  deriving DecidableEq

def exponentField (value : Binary64) : Nat := value.bits.toNat / twoTo 52 % twoTo 11

def fractionField (value : Binary64) : Nat := value.bits.toNat % twoTo 52

def isNegative (value : Binary64) : Bool := twoTo 63 ≤ value.bits.toNat

def meaning (value : Binary64) : Meaning :=
  let exponent := value.exponentField
  let fraction := value.fractionField
  if exponent = 2047 then
    if fraction = 0 then .infinite value.isNegative else .nan
  else if exponent = 0 then .finite value.isNegative fraction (-1074)
  else .finite value.isNegative (twoTo 52 + fraction) (exponent - 1075)

def isFinite (value : Binary64) : Bool := value.exponentField != 2047

def isNaN (value : Binary64) : Bool := value.exponentField == 2047 && value.fractionField != 0

/-- The number with the given magnitude bits and sign. -/
def ofMagnitude (negative : Bool) (magnitude : Nat) : Binary64 :=
  ⟨UInt64.ofNat (magnitude + if negative then twoTo 63 else 0)⟩

def zero : Binary64 := ofMagnitude false 0

instance : OfNat Binary64 0 := ⟨zero⟩

def infinityMagnitude : Nat := 2047 * twoTo 52

def infinity (negative : Bool) : Binary64 := ofMagnitude negative infinityMagnitude

def nan : Binary64 := ofMagnitude false (infinityMagnitude + twoTo 51)

def neg (value : Binary64) : Binary64 :=
  ofMagnitude (!value.isNegative) (value.bits.toNat % twoTo 63)

/-- A quotient of naturals, rounded to the nearest natural, a tie to the even one. -/
def roundQuotient (numerator denominator : Nat) : Nat :=
  let floor := numerator / denominator
  let twice := 2 * (numerator % denominator)
  if twice < denominator then floor
  else if denominator < twice then floor + 1
  else floor + floor % 2

/-- `numerator / denominator * 2 ^ (-exponent)`, rounded to a natural. -/
def roundScaled (numerator denominator : Nat) (exponent : Int) : Nat :=
  roundQuotient (numerator * twoTo (-exponent).toNat) (denominator * twoTo exponent.toNat)

/-- The exponent at which `numerator / denominator` has a mantissa of 53 bits, but never below
the least one. -/
def exponentOf (numerator denominator : Nat) : Int :=
  let estimate : Int := numerator.log2 - denominator.log2 - 52
  let short :=
    numerator * twoTo (-estimate).toNat < twoTo 52 * (denominator * twoTo estimate.toNat)
  max (if short then estimate - 1 else estimate) (-1074)

/-- The number nearest to `numerator / denominator`. A magnitude is the mantissa added to the
exponent's place, so a mantissa that rounds up to the next power of two carries into it. -/
def ofRatio (negative : Bool) (numerator denominator : Nat) : Binary64 :=
  if numerator = 0 then ofMagnitude negative 0
  else
    let exponent := exponentOf numerator denominator
    let mantissa := roundScaled numerator denominator exponent
    let magnitude := (exponent + 1074).toNat * twoTo 52 + mantissa
    ofMagnitude negative (min magnitude infinityMagnitude)

def ofNat (number : Nat) : Binary64 := ofRatio false number 1

/-- The product of two non-negative finite numbers. -/
def mulMagnitudes (left right : Binary64) : Binary64 :=
  match left.meaning, right.meaning with
  | .finite _ m e, .finite _ n f =>
      let exponent := e + f
      ofRatio false (m * n * twoTo exponent.toNat) (twoTo (-exponent).toNat)
  | _, _ => nan

/-- The quotient of two non-negative finite numbers, the second not zero. -/
def divMagnitudes (left right : Binary64) : Binary64 :=
  match left.meaning, right.meaning with
  | .finite _ m e, .finite _ n f =>
      let exponent := e - f
      ofRatio false (m * twoTo exponent.toNat) (n * twoTo (-exponent).toNat)
  | _, _ => nan

/-- The place of a number other than NaN in the order of the reals; both zeros share one. -/
def orderKey (value : Binary64) : Int :=
  let magnitude : Int := value.bits.toNat % twoTo 63
  if value.isNegative then -magnitude else magnitude

/-- Numeric comparison; false as soon as one side is NaN. -/
def lt (left right : Binary64) : Bool :=
  !left.isNaN && !right.isNaN && left.orderKey < right.orderKey

/-- The nearest natural, a half rounded up; below zero gives 0, and so does NaN. -/
def roundToNat (limit : Nat) (value : Binary64) : Nat :=
  match value.meaning with
  | .nan => 0
  | .infinite negative => if negative then 0 else limit
  | .finite true _ _ => 0
  | .finite false mantissa exponent =>
      let denominator := twoTo (-exponent).toNat
      min limit ((2 * mantissa * twoTo exponent.toNat + denominator) / (2 * denominator))

end Binary64

end ShaderCost
