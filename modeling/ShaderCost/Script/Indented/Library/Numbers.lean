import ShaderCost.Digest.Basic
import ShaderCost.Script.Indented.Library.Features
import ShaderCost.Script.Utility.Octets

/-!
Parts of the library that compute: functions of numbers, and digests and other alphabets of octets.
-/

namespace ShaderCost.Script.Indented

variable (evaluator : Evaluator)

/-! Functions of numbers. -/

/-- The real number of an argument. -/
def realIn (given : Given) (place : Nat) : Run Float := do
  let value := given.get place [] .none
  match ← coreOf value with
  | .real number => return number
  | core =>
      match core.whole? with
      | some number => return realOf number
      | none =>
          match ← callOwn? evaluator value "__float__" [] with
          | some (.real number) => return number
          | _ => failType ("must be real number, not ".toList ++ (← typeName value))

def domainError {α : Type} : Run α := failValue "math domain error"

/-- A result that is a number where the arguments are. -/
def settledReal (arguments : List Float) (result : Float) : Run Value := do
  if result.isNaN && arguments.all (!·.isNaN) then domainError
  else if result.isInf && arguments.all (fun value => !value.isInf) then
    fail "OverflowError" "math range error"
  else return .real result

/-- The logarithm of a positive whole number, however great. -/
def logarithmOf (log : Float → Float) (value : Nat) : Float :=
  let bits := value.log2
  if bits < 1000 then log (realOf value)
  else log (realOf (value >>> (bits - 60))) + log 2.0 * Float.ofNat (bits - 60)

def logarithm (log : Float → Float) (value : Value) : Run Float := do
  match ← coreOf value with
  | .real number =>
      if number ≤ 0 then domainError
      else return log number
  | core =>
      match core.whole? with
      | some number =>
          if number ≤ 0 then domainError else return logarithmOf log number.toNat
      | none => failType ("must be real number, not ".toList ++ (← typeName value))

def factorial : Nat → Nat
  | 0 => 1
  | number + 1 => (number + 1) * factorial number

/-- How many ways there are to choose, in order, some of several things. -/
def fallingProduct (number : Nat) : (count : Nat) → Nat
  | 0 => 1
  | count + 1 => fallingProduct number count * (number - count)

/-- The sum of numbers without losses on the way. -/
def exactSum (values : List Float) : Float :=
  if values.all fun value => (ratio? value).isSome then
    let (numerator, denominator) := values.foldl (fun (a, b) value =>
      match ratio? value with
      | some (c, d) => (a * d + c * b, b * d)
      | none => (a, b)) ((0, 1) : Int × Nat)
    ofRatio numerator denominator
  else values.foldl (· + ·) 0

def plainFunction? (name : Text) : Option (Float → Float) :=
  match String.ofList name with
  | "sqrt" => some Float.sqrt
  | "exp" => some Float.exp
  | "sin" => some Float.sin
  | "cos" => some Float.cos
  | "tan" => some Float.tan
  | "asin" => some Float.asin
  | "acos" => some Float.acos
  | "atan" => some Float.atan
  | "sinh" => some Float.sinh
  | "cosh" => some Float.cosh
  | "tanh" => some Float.tanh
  | "asinh" => some Float.asinh
  | "acosh" => some Float.acosh
  | "atanh" => some Float.atanh
  | "fabs" => some Float.abs
  | "exp2" => some Float.exp2
  | "cbrt" => some Float.cbrt
  | "degrees" => some fun value => value * (180.0 / 3.141592653589793)
  | "radians" => some fun value => value * (3.141592653589793 / 180.0)
  | _ => none

def wholeIn (given : Given) (place : Nat) : Run Int := wholeOr evaluator 0 (given.at? place [])

def naturalIn (given : Given) (place : Nat) (title : Text) : Run Nat := do
  let number ← wholeIn evaluator given place
  if number < 0 then failValue (title ++ "() not defined for negative values".toList)
  return number.toNat

/-- The whole number near a real one. -/
def roundedBy (round : Float → Int) (own : Text) (given : Given) : Run Value := do
  let value := given.get 0 [] .none
  match ← coreOf value with
  | .real number =>
      if number.isNaN then failValue "cannot convert float NaN to integer"
      if number.isInf then fail "OverflowError" "cannot convert float infinity to integer"
      return .whole (round number)
  | core =>
      match core.whole?, ← callOwn? evaluator value own [] with
      | some number, _ => return .whole number
      | none, some answer => return answer
      | none, none => failType ("must be real number, not ".toList ++ (← typeName value))

def isClose (given : Given) : Run Bool := do
  let left ← realIn evaluator given 0
  let right ← realIn evaluator given 1
  let tolerance (name : Text) (usual : Float) : Run Float := do
    match given.named? name with
    | some value => realIn evaluator ⟨[value], []⟩ 0
    | none => return usual
  let relative ← tolerance "rel_tol" 1e-9
  let absolute ← tolerance "abs_tol" 0.0
  let difference := (left - right).abs
  return left == right || (!left.isInf && !right.isInf &&
    (difference ≤ (relative * left).abs || difference ≤ (relative * right).abs ||
      difference ≤ absolute))

def ofFloats (name : Text) (given : Given) : Run (Option Value) := do
  let real (place : Nat) : Run Float := realIn evaluator given place
  match String.ofList name with
  | "pow" =>
      let (base, exponent) := (← real 0, ← real 1)
      return some (← settledReal [base, exponent] (Float.pow base exponent))
  | "atan2" => return some (.real (Float.atan2 (← real 0) (← real 1)))
  | "copysign" =>
      let magnitude := (← real 0).abs
      return some (.real (if isRealNegative (← real 1) then -magnitude else magnitude))
  | "fmod" =>
      let (left, right) := (← real 0, ← real 1)
      match ratio? left, ratio? right with
      | some (a, b), some (c, d) =>
          if c = 0 then domainError
          else
            let result := ofRatio ((a * d).tmod (c * b)) (b * d)
            return some (.real (if isRealNegative left then -(result.abs) else result))
      | some _, none => return some (.real left)
      | none, _ => domainError
  | "modf" =>
      let number ← real 0
      let whole := realOf (truncated number)
      return some (.tuple [.real (number - whole), .real whole])
  | "frexp" =>
      let (mantissa, exponent) := (← real 0).frExp
      return some (.tuple [.real mantissa, .whole exponent])
  | "ldexp" => return some (.real (Float.scaleB (← real 0) (← wholeIn evaluator given 1)))
  | "hypot" =>
      let numbers ← (List.range given.values.length).mapM real
      return some (.real ((exactSum (numbers.map fun number => number * number)).sqrt))
  | "dist" =>
      let left ← valuesOf evaluator (given.get 0 [] .none)
      let right ← valuesOf evaluator (given.get 1 [] .none)
      let squares ← (left.zip right).mapM fun (left, right) => do
        let difference := (← realIn evaluator ⟨[left], []⟩ 0) - (← realIn evaluator ⟨[right], []⟩ 0)
        return difference * difference
      return some (.real (exactSum squares).sqrt)
  | "log" =>
      let value := given.get 0 [] .none
      let result ← logarithm Float.log value
      match given.values[1]? with
      | some base => return some (.real (result / (← logarithm Float.log base)))
      | none => return some (.real result)
  | "log2" => return some (.real (← logarithm Float.log2 (given.get 0 [] .none)))
  | "log10" => return some (.real (← logarithm Float.log10 (given.get 0 [] .none)))
  | "log1p" => return some (.real (Float.log (1.0 + (← real 0))))
  | "expm1" => return some (.real (Float.exp (← real 0) - 1.0))
  | "isnan" => return some (.bool (← real 0).isNaN)
  | "isinf" => return some (.bool (← real 0).isInf)
  | "isfinite" => return some (.bool (← real 0).isFinite)
  | "isclose" => return some (.bool (← isClose evaluator given))
  | "fsum" =>
      let values ← valuesOf evaluator (given.get 0 [] .none)
      return some (.real (exactSum (← values.mapM fun value => realIn evaluator ⟨[value], []⟩ 0)))
  | _ =>
      match plainFunction? name with
      | some function =>
          let number ← real 0
          return some (← settledReal [number] (function number))
      | none => return none

/-- Functions of numbers that give whole ones. -/
def ofWholes (name : Text) (given : Given) : Run (Option Value) := do
  let numbers : Run (List Int) := given.values.mapM fun value => wholeOr evaluator 0 (some value)
  match String.ofList name with
  | "floor" => return some (← roundedBy evaluator floored "__floor__" given)
  | "ceil" => return some (← roundedBy evaluator (fun value => -floored (-value)) "__ceil__" given)
  | "trunc" => return some (← roundedBy evaluator truncated "__trunc__" given)
  | "gcd" =>
      return some (.ofNat ((← numbers).foldl (fun result number => result.gcd number.natAbs) 0))
  | "lcm" =>
      return some (.ofNat ((← numbers).foldl (fun result number => result.lcm number.natAbs) 1))
  | "factorial" =>
      let number ← naturalIn evaluator given 0 name
      liftM (n := Run) (spend number)
      return some (.ofNat (factorial number))
  | "isqrt" =>
      let number ← wholeIn evaluator given 0
      if number < 0 then failValue "isqrt() argument must be nonnegative"
      return some (.ofNat (Digest.wholeRoot 2 number.toNat))
  | "comb" =>
      let number ← naturalIn evaluator given 0 name
      let count ← naturalIn evaluator given 1 name
      liftM (n := Run) (spend count)
      return some (.ofNat (fallingProduct number count / factorial count))
  | "perm" =>
      let number ← naturalIn evaluator given 0 name
      let count := match given.some? 1 "k" with
        | some (.whole count) => count.toNat
        | _ => number
      liftM (n := Run) (spend count)
      return some (.ofNat (fallingProduct number count))
  | "prod" =>
      let values ← valuesOf evaluator (given.get 0 [] .none)
      let start := (given.named? "start").getD (.whole 1)
      return some (← values.foldlM (fun total value =>
        compute evaluator .multiply total value) start)
  | _ => return none

def mathFeatures : List Text := [
  "sqrt", "exp", "sin", "cos", "tan", "asin", "acos", "atan", "sinh", "cosh", "tanh", "asinh",
  "acosh", "atanh", "fabs", "exp2", "cbrt", "degrees", "radians", "pow", "atan2", "copysign",
  "fmod", "modf", "frexp", "ldexp", "hypot", "dist", "log", "log2", "log10"]

def furtherMathFeatures : List Text := [
  "log1p", "expm1", "isnan", "isinf", "isfinite", "isclose", "fsum", "floor", "ceil", "trunc",
  "gcd", "lcm", "factorial", "isqrt", "comb", "perm", "prod"]

def mathValues : List (Text × Value) := [
  ("pi", .real 3.141592653589793), ("e", .real 2.718281828459045),
  ("tau", .real 6.283185307179586), ("inf", .real (1.0 / 0.0)), ("nan", .real (0.0 / 0.0))]

def ofMath (name : Text) (given : Given) : Run (Option Value) := do
  match ← ofWholes evaluator name given with
  | some value => return some value
  | none => ofFloats evaluator name given

/-! Octets. -/

def digestOf? (name : Text) : Option (Octets → List UInt8) :=
  match String.ofList name with
  | "md5" => some Digest.md5
  | "sha1" => some Digest.sha1
  | "sha224" => some Digest.sha224
  | "sha256" => some Digest.sha256
  | "sha384" => some Digest.sha384
  | "sha512" => some Digest.sha512
  | _ => none

def octetsOfDigest (octets : List UInt8) : Text := octets.map fun octet => Char.ofNat octet.toNat

/-- The code of an alphabet that goes by a number of digits. -/
def alphabetOf (size : Int) : Utility.Alphabet.Code :=
  if size = 32 then Utility.Alphabet.base32 else Utility.Alphabet.base64

def ofOctets (name : Text) (given : Given) : Run (Option Value) := do
  let octetsAt (place : Nat) : Run Text := do textIn true (given.get place [] .none)
  let work (octets : Text) : Run Unit :=
    liftM (n := Run) (spend (octets.length / charactersPerTurn))
  match String.ofList name with
  | "_digest" =>
      let title ← textIn false (given.get 0 [] .none)
      let octets ← octetsAt 1
      work octets
      match digestOf? title with
      | some digest => return some (.octets (octetsOfDigest (digest (gather octets))))
      | none => failValue ("unsupported hash type ".toList ++ title)
  | "_encode" =>
      let code := alphabetOf (← wholeIn evaluator given 0)
      let octets ← octetsAt 1
      work octets
      return some (.octets (code.encode (octets.length + 1) (octets.map Char.toNat)).flatten)
  | "_decode" =>
      let code := alphabetOf (← wholeIn evaluator given 0)
      let octets ← octetsAt 1
      work octets
      let (decoded, isWhole) := code.decode (octets.length + 1) octets []
      return some (if isWhole then .octets decoded else .none)
  | "crc32" =>
      let octets ← octetsAt 0
      work octets
      return some (.ofNat (Digest.reflectedSum (gather octets) (← wholeIn evaluator given 1).toNat))
  | "adler32" =>
      let octets ← octetsAt 0
      work octets
      let start ← wholeOr evaluator 1 (given.at? 1 "value")
      return some (.ofNat (Digest.doubleSum (gather octets) start.toNat))
  | "hexlify" | "b2a_hex" =>
      return some (.octets ((← octetsAt 0).flatMap fun c => hexOf 2 c.toNat))
  | "unhexlify" | "a2b_hex" =>
      let value := given.get 0 [] .none
      let text ← match value with
        | .text text => pure text
        | value => textIn true value
      if text.length % 2 = 1 then fail "binascii.Error" "Odd-length string"
      match octetsOfHex? text with
      | some octets => return some (.octets octets)
      | none => fail "binascii.Error" "Non-hexadecimal digit found"
  | _ => return none

end ShaderCost.Script.Indented
