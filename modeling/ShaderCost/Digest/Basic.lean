import ShaderCost.Text.Numeral
import ShaderCost.Text.Octets

/-!
Digests of octets: what they have in common. A message is padded to whole blocks, and each block in
turn is mixed into a state of a few words.
-/

namespace ShaderCost.Digest

/-- The octets of a number, the least significant first. -/
def octetsOf : (count : Nat) → Nat → List UInt8
  | 0, _ => []
  | count + 1, number => UInt8.ofNat number :: octetsOf count (number / 256)

/-- A message with a bit set behind it and its length in bits at its end, in whole blocks. -/
def padded (blockSize lengthSize : Nat) (isBigEndian : Bool) (message : Octets) : Octets :=
  let filled := (message.size + 1 + lengthSize) % blockSize
  let zeros := if filled = 0 then 0 else blockSize - filled
  let length := octetsOf lengthSize (8 * message.size)
  let behind := 128 :: List.replicate zeros 0 ++ if isBigEndian then length.reverse else length
  message ++ ⟨behind.toArray⟩

/-- The number that octets from a place on spell, the least significant first. -/
def littleAt (octets : Octets) (place count : Nat) : Nat :=
  (List.range count).foldr (fun offset value =>
    256 * value + (octets.get! (place + offset)).toNat) 0

def bigAt (octets : Octets) (place count : Nat) : Nat :=
  (List.range count).foldl (fun value offset =>
    256 * value + (octets.get! (place + offset)).toNat) 0

/-- Where the blocks of a message begin. -/
def blockPlaces (blockSize : Nat) (message : Octets) : List Nat :=
  (List.range (message.size / blockSize)).map (· * blockSize)

def turnLeft32 (word : UInt32) (count : UInt32) : UInt32 :=
  (word <<< count) ||| (word >>> (32 - count))

def turnRight32 (word : UInt32) (count : UInt32) : UInt32 := turnLeft32 word (32 - count)

def turnRight64 (word : UInt64) (count : UInt64) : UInt64 :=
  (word >>> count) ||| (word <<< (64 - count))

/-- The digits of octets in base sixteen. -/
def hexadecimal (octets : List UInt8) : Text :=
  octets.flatMap fun octet =>
    let digits := Nat.toDigits 16 octet.toNat
    List.replicate (2 - digits.length) '0' ++ digits

/-- The largest number whose power, for an exponent of two or three, is no larger. -/
def wholeRoot (exponent number : Nat) : Nat :=
  (List.range (number.log2 / exponent + 1)).foldr (fun bit root =>
    let larger := root + twoTo bit
    let power := if exponent = 2 then larger * larger else larger * larger * larger
    if power ≤ number then larger else root) 0

/-- The first bits behind the point of a root. -/
def rootBits (exponent bits number : Nat) : Nat :=
  wholeRoot exponent (number * twoTo (exponent * bits)) % twoTo bits

def isPrime (number : Nat) : Bool :=
  2 ≤ number && (List.range (number - 2)).all fun offset => number % (offset + 2) != 0

/-- The first primes. There are eighty of them below 410. -/
def primes : List Nat := (List.range 410).filter isPrime

end ShaderCost.Digest

/-!
Sums that tell whether octets were changed by accident.
-/

namespace ShaderCost.Digest

/-- What a polynomial leaves of an octet in front of others. -/
def polynomialStep (word : UInt32) : (count : Nat) → UInt32
  | 0 => word
  | count + 1 =>
      let before := polynomialStep word count
      if before &&& 0x80000000 = 0 then before <<< 1 else (before <<< 1) ^^^ 0x04c11db7

def polynomialTable : Array UInt32 :=
  ((List.range 256).map fun octet => polynomialStep (UInt32.ofNat octet <<< 24) 8).toArray

/-- What the same polynomial leaves where the least significant bit comes first. -/
def reflectedStep (word : UInt32) : (count : Nat) → UInt32
  | 0 => word
  | count + 1 =>
      let before := reflectedStep word count
      if before &&& 1 = 0 then before >>> 1 else (before >>> 1) ^^^ 0xedb88320

def reflectedTable : Array UInt32 :=
  ((List.range 256).map fun octet => reflectedStep (UInt32.ofNat octet) 8).toArray

/-- What the polynomial leaves of octets behind those that a sum is of. -/
def reflectedSum (octets : Octets) (sum : Nat) : Nat :=
  let step (sum : UInt32) (octet : UInt8) : UInt32 :=
    (sum >>> 8) ^^^ reflectedTable.getD (sum.toUInt8 ^^^ octet).toNat 0
  (~~~(octets.foldl step (~~~UInt32.ofNat sum))).toNat

/-- A sum of octets and of the sums on the way. -/
def doubleSum (octets : Octets) (sum : Nat) : Nat :=
  let prime := 65521
  let (first, second) := octets.foldl (fun (first, second) octet =>
    let first := (first + octet.toNat) % prime
    (first, (second + first) % prime)) (sum % 65536, sum / 65536)
  second * 65536 + first

/-- The octets of a length, the least significant first, without zeros behind them. -/
def lengthOctets : (limit : Nat) → Nat → List UInt8
  | 0, _ => []
  | limit + 1, length =>
      if length = 0 then [] else UInt8.ofNat length :: lengthOctets limit (length / 256)

/-- What a polynomial leaves of octets and their length. -/
def polynomialSum (octets : Octets) : Nat :=
  let step (sum : UInt32) (octet : UInt8) : UInt32 :=
    (sum <<< 8) ^^^ polynomialTable.getD ((sum >>> 24).toUInt8 ^^^ octet).toNat 0
  let sum := octets.foldl step 0
  (~~~((lengthOctets 8 octets.size).foldl step sum)).toNat

/-- A sum of sixteen bits that is turned before each octet. -/
def turningSum (octets : Octets) : Nat :=
  octets.foldl (fun sum octet =>
    ((sum / 2 + sum % 2 * 32768) + octet.toNat) % 65536) 0

/-- A plain sum, folded to sixteen bits. -/
def foldedSum (octets : Octets) : Nat :=
  let sum := octets.foldl (fun sum octet => sum + octet.toNat) 0
  let folded := sum % 65536 + sum % 4294967296 / 65536
  folded % 65536 + folded / 65536

end ShaderCost.Digest

/-!
Digests with a state of four or five words of 32 bits: MD5 and SHA-1.
-/

namespace ShaderCost.Digest

/-- The whole parts of sines, scaled by `2 ^ 32`. -/
def sineWords : Array UInt32 := #[
  0xd76aa478, 0xe8c7b756, 0x242070db, 0xc1bdceee, 0xf57c0faf, 0x4787c62a, 0xa8304613, 0xfd469501,
  0x698098d8, 0x8b44f7af, 0xffff5bb1, 0x895cd7be, 0x6b901122, 0xfd987193, 0xa679438e, 0x49b40821,
  0xf61e2562, 0xc040b340, 0x265e5a51, 0xe9b6c7aa, 0xd62f105d, 0x02441453, 0xd8a1e681, 0xe7d3fbc8,
  0x21e1cde6, 0xc33707d6, 0xf4d50d87, 0x455a14ed, 0xa9e3e905, 0xfcefa3f8, 0x676f02d9, 0x8d2a4c8a,
  0xfffa3942, 0x8771f681, 0x6d9d6122, 0xfde5380c, 0xa4beea44, 0x4bdecfa9, 0xf6bb4b60, 0xbebfbc70,
  0x289b7ec6, 0xeaa127fa, 0xd4ef3085, 0x04881d05, 0xd9d4d039, 0xe6db99e5, 0x1fa27cf8, 0xc4ac5665,
  0xf4292244, 0x432aff97, 0xab9423a7, 0xfc93a039, 0x655b59c3, 0x8f0ccc92, 0xffeff47d, 0x85845dd1,
  0x6fa87e4f, 0xfe2ce6e0, 0xa3014314, 0x4e0811a1, 0xf7537e82, 0xbd3af235, 0x2ad7d2bb, 0xeb86d391]

/-- By how many bits words are turned, in the four quarters of the steps. -/
def turns : Array UInt32 := #[7, 12, 17, 22, 5, 9, 14, 20, 4, 11, 16, 23, 6, 10, 15, 21]

/-- The state of MD5. -/
structure Four where
  a : UInt32
  b : UInt32
  c : UInt32
  d : UInt32

def Four.step (words : Array UInt32) (state : Four) (number : Nat) : Four :=
  let { a, b, c, d } := state
  let (mixed, place) : UInt32 × Nat :=
    if number < 16 then ((b &&& c) ||| (~~~b &&& d), number)
    else if number < 32 then ((d &&& b) ||| (~~~d &&& c), (5 * number + 1) % 16)
    else if number < 48 then (b ^^^ c ^^^ d, (3 * number + 5) % 16)
    else (c ^^^ (b ||| ~~~d), 7 * number % 16)
  let sum := a + mixed + sineWords.getD number 0 + words.getD place 0
  let turn := turns.getD (number / 16 * 4 + number % 4) 0
  ⟨d, b + turnLeft32 sum turn, b, c⟩

def Four.mix (message : Octets) (state : Four) (place : Nat) : Four :=
  let words := ((List.range 16).map fun index =>
    UInt32.ofNat (littleAt message (place + 4 * index) 4)).toArray
  let mixed := (List.range 64).foldl (Four.step words) state
  ⟨state.a + mixed.a, state.b + mixed.b, state.c + mixed.c, state.d + mixed.d⟩

def md5 (message : Octets) : List UInt8 :=
  let message := padded 64 8 false message
  let { a, b, c, d } := (blockPlaces 64 message).foldl (Four.mix message)
    ⟨0x67452301, 0xefcdab89, 0x98badcfe, 0x10325476⟩
  [a, b, c, d].flatMap fun word => octetsOf 4 word.toNat

/-- The state of SHA-1. -/
structure Five where
  a : UInt32
  b : UInt32
  c : UInt32
  d : UInt32
  e : UInt32

/-- Sixteen words and as many more as are needed, each made of earlier ones. -/
def extended (next : Array UInt32 → UInt32) : (count : Nat) → Array UInt32 → Array UInt32
  | 0, words => words
  | count + 1, words => extended next count (words.push (next words))

def Five.step (words : Array UInt32) (state : Five) (number : Nat) : Five :=
  let { a, b, c, d, e } := state
  let (mixed, constant) : UInt32 × UInt32 :=
    if number < 20 then ((b &&& c) ||| (~~~b &&& d), 0x5a827999)
    else if number < 40 then (b ^^^ c ^^^ d, 0x6ed9eba1)
    else if number < 60 then ((b &&& c) ||| (b &&& d) ||| (c &&& d), 0x8f1bbcdc)
    else (b ^^^ c ^^^ d, 0xca62c1d6)
  ⟨turnLeft32 a 5 + mixed + e + constant + words.getD number 0, a, turnLeft32 b 30, c, d⟩

def Five.mix (message : Octets) (state : Five) (place : Nat) : Five :=
  let first := ((List.range 16).map fun index =>
    UInt32.ofNat (bigAt message (place + 4 * index) 4)).toArray
  let words := extended (fun words =>
    let back (count : Nat) : UInt32 := words.getD (words.size - count) 0
    turnLeft32 (back 3 ^^^ back 8 ^^^ back 14 ^^^ back 16) 1) 64 first
  let mixed := (List.range 80).foldl (Five.step words) state
  ⟨state.a + mixed.a, state.b + mixed.b, state.c + mixed.c, state.d + mixed.d, state.e + mixed.e⟩

def sha1 (message : Octets) : List UInt8 :=
  let message := padded 64 8 true message
  let { a, b, c, d, e } := (blockPlaces 64 message).foldl (Five.mix message)
    ⟨0x67452301, 0xefcdab89, 0x98badcfe, 0x10325476, 0xc3d2e1f0⟩
  [a, b, c, d, e].flatMap fun word => (octetsOf 4 word.toNat).reverse

end ShaderCost.Digest

/-!
The digests of the family SHA-2, with a state of eight words of 32 or of 64 bits. The constants are
bits of roots of the first primes.
-/

namespace ShaderCost.Digest

/-- How words of a size are worked on. -/
structure Words (α : Type) where
  /-- How many octets a word has. -/
  size : Nat
  /-- How many steps a block takes. -/
  steps : Nat
  ofNat : Nat → α
  toNat : α → Nat
  add : α → α → α
  exclusive : α → α → α
  choose : (which yes no : α) → α
  majority : α → α → α → α
  /-- How words of the message are mixed, and those of the state. -/
  firstSmall : α → α
  secondSmall : α → α
  firstLarge : α → α
  secondLarge : α → α

def words32 : Words UInt32 where
  size := 4
  steps := 64
  ofNat := UInt32.ofNat
  toNat := UInt32.toNat
  add := (· + ·)
  exclusive := (· ^^^ ·)
  choose which yes no := (which &&& yes) ^^^ (~~~which &&& no)
  majority a b c := (a &&& b) ^^^ (a &&& c) ^^^ (b &&& c)
  firstSmall w := turnRight32 w 7 ^^^ turnRight32 w 18 ^^^ (w >>> 3)
  secondSmall w := turnRight32 w 17 ^^^ turnRight32 w 19 ^^^ (w >>> 10)
  firstLarge w := turnRight32 w 2 ^^^ turnRight32 w 13 ^^^ turnRight32 w 22
  secondLarge w := turnRight32 w 6 ^^^ turnRight32 w 11 ^^^ turnRight32 w 25

def words64 : Words UInt64 where
  size := 8
  steps := 80
  ofNat := UInt64.ofNat
  toNat := UInt64.toNat
  add := (· + ·)
  exclusive := (· ^^^ ·)
  choose which yes no := (which &&& yes) ^^^ (~~~which &&& no)
  majority a b c := (a &&& b) ^^^ (a &&& c) ^^^ (b &&& c)
  firstSmall w := turnRight64 w 1 ^^^ turnRight64 w 8 ^^^ (w >>> 7)
  secondSmall w := turnRight64 w 19 ^^^ turnRight64 w 61 ^^^ (w >>> 6)
  firstLarge w := turnRight64 w 28 ^^^ turnRight64 w 34 ^^^ turnRight64 w 39
  secondLarge w := turnRight64 w 14 ^^^ turnRight64 w 18 ^^^ turnRight64 w 41

/-- A state of eight words. -/
structure Eight (α : Type) where
  a : α
  b : α
  c : α
  d : α
  e : α
  f : α
  g : α
  h : α

namespace Words

variable {α : Type}

/-- The words of a block and those made of them. -/
def schedule [Inhabited α] (words : Words α) : (count : Nat) → Array α → Array α
  | 0, made => made
  | count + 1, made =>
      let back (distance : Nat) : α := made.getD (made.size - distance) default
      let next := words.add (words.add (words.secondSmall (back 2)) (back 7))
        (words.add (words.firstSmall (back 15)) (back 16))
      schedule words count (made.push next)

def step (words : Words α) (state : Eight α) (constant word : α) : Eight α :=
  let { a, b, c, d, e, f, g, h } := state
  let first := words.add (words.add h (words.secondLarge e))
    (words.add (words.choose e f g) (words.add constant word))
  let second := words.add (words.firstLarge a) (words.majority a b c)
  ⟨words.add first second, a, b, c, words.add d first, e, f, g⟩

def mix [Inhabited α] (words : Words α) (constants : List α) (message : Octets)
    (state : Eight α) (place : Nat) : Eight α :=
  let first := ((List.range 16).map fun index =>
    words.ofNat (bigAt message (place + words.size * index) words.size)).toArray
  let made := words.schedule (words.steps - 16) first
  let mixed := (constants.zip made.toList).foldl (fun state (constant, word) =>
    words.step state constant word) state
  ⟨words.add state.a mixed.a, words.add state.b mixed.b, words.add state.c mixed.c,
    words.add state.d mixed.d, words.add state.e mixed.e, words.add state.f mixed.f,
    words.add state.g mixed.g, words.add state.h mixed.h⟩

/-- The first octets of the digest that begins with some state. -/
def digest [Inhabited α] (words : Words α) (constants : List α) (start : List Nat) (count : Nat)
    (message : Octets) : List UInt8 :=
  let word (place : Nat) : α := words.ofNat (start.getD place 0)
  let state : Eight α :=
    ⟨word 0, word 1, word 2, word 3, word 4, word 5, word 6, word 7⟩
  let blockSize := 16 * words.size
  let message := padded blockSize (2 * words.size) true message
  let { a, b, c, d, e, f, g, h } :=
    (blockPlaces blockSize message).foldl (words.mix constants message) state
  ([a, b, c, d, e, f, g, h].flatMap fun word =>
    (octetsOf words.size (words.toNat word)).reverse).take count

end Words

/-- Bits of the cube roots of primes. -/
def constants32 : List UInt32 := (primes.take 64).map fun prime =>
  UInt32.ofNat (rootBits 3 32 prime)

def constants64 : List UInt64 := (primes.take 80).map fun prime =>
  UInt64.ofNat (rootBits 3 64 prime)

/-- Bits of the square roots of the first primes. -/
def firstStart (bits : Nat) : List Nat := (primes.take 8).map (rootBits 2 bits)

/-- The 64 bits of the square roots of the primes behind the first ones. -/
def secondStart : List Nat := ((primes.drop 8).take 8).map (rootBits 2 64)

def sha224 : Octets → List UInt8 := words32.digest constants32 (secondStart.map (· % twoTo 32)) 28

def sha256 : Octets → List UInt8 := words32.digest constants32 (firstStart 32) 32

def sha384 : Octets → List UInt8 := words64.digest constants64 secondStart 48

def sha512 : Octets → List UInt8 := words64.digest constants64 (firstStart 64) 64

end ShaderCost.Digest
