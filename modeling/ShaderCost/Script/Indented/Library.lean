import ShaderCost.Script.Indented.Comparing
import ShaderCost.Script.Indented.Library.Notation
import ShaderCost.Script.Indented.Library.Numbers
import ShaderCost.Script.Indented.Library.System
import ShaderCost.Script.Indented.Machine

/-!
What is said about faults: the way to where they happened with the lines of the program, and those
that came before them.
-/

namespace ShaderCost.Script.Indented

variable (evaluator : Evaluator)

/-- A line of a file that the program was read from. -/
def sourceLine? (path : Text) (line : Nat) : Run (Option Text) := do
  return ((← get).sources.lookup path).bind fun lines => lines[line - 1]?

def keepSource (path text : Text) : Run Unit := modify fun state =>
  { state with sources := (path, (text.splitOn '\n').toArray) :: state.sources }

def spotText (spot : Spot) : Run Text := do
  let line : Text := match ← sourceLine? spot.path spot.line with
    | some line => "    ".toList ++ trimmed line ++ ['\n']
    | none => []
  return "  File \"".toList ++ spot.path ++ "\", line ".toList ++ Text.ofNat spot.line ++
    ", in ".toList ++ spot.name ++ '\n' :: line

def sameSpot (left right : Spot) : Bool :=
  left.line = right.line && left.name = right.name && left.path = right.path

/-- How often a spot is told before it is only counted. -/
def toldRepeats : Nat := 3

def repeatText (count : Nat) : Text :=
  if count ≤ toldRepeats then []
  else
    let more := count - toldRepeats
    "  [Previous line repeated ".toList ++ Text.ofNat more ++ " more time".toList ++
      (if more = 1 then [] else ['s']) ++ "]\n".toList

/-- The texts of spots. The same one over and over is told three times. -/
def spotTexts : List Spot → (last : Option Spot) → (count : Nat) → Run Text
  | [], _, count => return repeatText count
  | spot :: rest, last, count => do
      if last.any (sameSpot spot) then
        let text ← if count < toldRepeats then spotText spot else pure []
        return text ++ (← spotTexts rest last (count + 1))
      else
        return repeatText count ++ (← spotText spot) ++ (← spotTexts rest (some spot) 1)

/-- The last line of what is said about a fault. -/
def faultLine (value : Value) : Run Text := do
  let type ← typeOf value
  let name ← fullNameOf type
  let name := (Text.after? "__main__." name).getD name
  let text ← shown evaluator value
  return name ++ (if text.isEmpty then [] else ": ".toList ++ text) ++ ['\n']

/-- How many faults in a row are told. -/
def mostFaults : Nat := 100

/-- All that is said about a fault of which calls around it are left out. -/
def reportWithin : (fuel : Nat) → (level : Nat) → Value → Run Text
  | 0, _, _ => return []
  | fuel + 1, level, value => do
      match ← faultAt? value with
      | none => faultLine evaluator value
      | some (_, fault) =>
          let earlier (other : Value) (words : Text) : Run Text := do
            let level := ((← faultAt? other).map fun (_, fault) => fault.level).getD 0
            return (← reportWithin fuel level other) ++ '\n' :: words ++ ":\n\n".toList
          let before ← match fault.cause, fault.context, fault.hidesContext with
            | some (.object cause), _, _ =>
                earlier (.object cause)
                  "The above exception was the direct cause of the following exception"
            | _, some (.object context), false =>
                earlier (.object context)
                  "During handling of the above exception, another exception occurred"
            | _, _, _ => pure []
          let spots := fault.spots.drop level
          let way ← if spots.isEmpty then pure []
            else do pure ("Traceback (most recent call last):\n".toList ++
              (← spotTexts spots none 0))
          let notes := match fault.attributes.get? "__notes__" with
            | some (.tuple notes) => notes.flatMap fun note => (note.text?.getD []) ++ ['\n']
            | _ => []
          return before ++ way ++ (← faultLine evaluator value) ++ notes

def report (level : Nat) (fault : Value) : Run Text := reportWithin evaluator mostFaults level fault

end ShaderCost.Script.Indented

/-!
Numbers that look as if they came by chance: six hundred and twenty-four words that are mixed with
one another, and all begin with a key.
-/

namespace ShaderCost.Script.Indented

namespace Twister

/-- How many words there are, and how far apart those are that are mixed. -/
def size : Nat := 624

def distance : Nat := 397

/-- Words that begin with one. -/
def ofWord (word : UInt32) : Array UInt32 :=
  (List.range (size - 1)).foldl (fun (words : Array UInt32) (place : Nat) =>
    let last := words.getD place 0
    words.push ((1812433253 : UInt32) * (last ^^^ (last >>> 30)) + UInt32.ofNat (place + 1)))
    #[word]

/-- Mixes the words with a factor and, at each place, with something else. -/
def stir (factor : UInt32) (work : Nat → UInt32 → UInt32) (count : Nat)
    (start : Array UInt32 × Nat) : Array UInt32 × Nat :=
  (List.range count).foldl (fun (words, place) (round : Nat) =>
    let last := words.getD (place - 1) 0
    let word := words.getD place 0 ^^^ ((last ^^^ (last >>> 30)) * factor)
    let words := words.setIfInBounds place (work (if factor = 1664525 then round else place) word)
    if place + 1 < size then (words, place + 1)
    else (words.setIfInBounds 0 (words.getD (size - 1) 0), 1)) start

/-- Words that begin with a key of several words. -/
def ofKey (key : Array UInt32) : Array UInt32 :=
  let first := stir 1664525 (fun round word =>
    let place := round % key.size
    word + key.getD place 0 + UInt32.ofNat place) (max size key.size) (ofWord 19650218, 1)
  let second := stir 1566083941 (fun place word => word - UInt32.ofNat place) (size - 1) first
  second.1.setIfInBounds 0 0x80000000

/-- The words of a number, the least significant first. -/
def wordsOf : (fuel : Nat) → Nat → List UInt32
  | 0, _ => []
  | fuel + 1, number =>
      if number = 0 then [] else UInt32.ofNat number :: wordsOf fuel (number / 4294967296)

def ofNat (number : Nat) : Array UInt32 :=
  let key := wordsOf (number.log2 / 32 + 1) number
  ofKey (if key.isEmpty then #[0] else key.toArray)

/-- The words after all of them were used. -/
def turned (words : Array UInt32) : Array UInt32 :=
  (List.range size).foldl (fun (words : Array UInt32) (place : Nat) =>
    let high := words.getD place 0 &&& 0x80000000
    let low := words.getD ((place + 1) % size) 0 &&& 0x7fffffff
    let joined := high ||| low
    let mixed := words.getD ((place + distance) % size) 0 ^^^ (joined >>> 1)
    words.setIfInBounds place (if joined &&& 1 = 0 then mixed else mixed ^^^ 0x9908b0df)) words

def tempered (word : UInt32) : UInt32 :=
  let word := word ^^^ (word >>> 11)
  let word := word ^^^ ((word <<< 7) &&& 0x9d2c5680)
  let word := word ^^^ ((word <<< 15) &&& 0xefc60000)
  word ^^^ (word >>> 18)

end Twister

/-- The next word of a source of chance. -/
def nextWord (place : Nat) : Run Nat :=
  onContent place fun content => match content with
    | .chance words next =>
        let (words, next) := if next < Twister.size then (words, next)
          else (Twister.turned words, 0)
        ((Twister.tempered (words.getD next 0)).toNat, .chance words (next + 1))
    | content => (0, content)

/-- A number of so many bits, the first word as the least significant one. -/
def nextBits (place : Nat) : (fuel : Nat) → (bits : Nat) → Run Nat
  | 0, _ => return 0
  | fuel + 1, bits => do
      let word ← nextWord place
      if bits ≤ 32 then return word / twoTo (32 - bits)
      else return word + 4294967296 * (← nextBits place fuel (bits - 32))

/-- A number below one. -/
def nextReal (place : Nat) : Run Float := do
  let high := (← nextWord place) / 32
  let low := (← nextWord place) / 64
  return ofRatio (high * 67108864 + low : Nat) 9007199254740992

def chanceFeatures : List Text := ["_seeded", "_bits", "_real"]

def ofChance (name : Text) (arguments : List Value) : Run (Option Value) := do
  match String.ofList name, arguments with
  | "_seeded", [.whole number] =>
      liftM (n := Run) (spend 20)
      return some (← make (.chance (Twister.ofNat number.natAbs) Twister.size))
  | "_bits", [.object place, .whole bits] =>
      if bits < 0 then failValue "number of bits must be non-negative"
      else if bits = 0 then return some (.whole 0)
      else return some (.ofNat (← nextBits place (bits.toNat / 32 + 1) bits.toNat))
  | "_real", [.object place] => return some (.real (← nextReal place))
  | _, _ => return none

end ShaderCost.Script.Indented

/-!
The library: its parts, with what each of them has by itself, and calls of its routines.
-/

namespace ShaderCost.Script.Indented

/-- A part of the library: the routines and values that it has by itself, and a text that tells the
rest in the language. -/
structure Part where
  features : List Text
  values : List (Text × Value)
  text : Text

/-- Where the parts of the library are. -/
def libraryPath : Text := "/usr/lib/python3.12/"

/-! Patterns as a part. -/

def patternFeatures : List Text := [
  "compile", "search", "match", "fullmatch", "findall", "finditer", "sub", "subn", "split",
  "escape", "purge"]

def patternValues : List (Text × Value) :=
  let flags : List (Text × Int) := [
    ("A", 256), ("ASCII", 256), ("I", 2), ("IGNORECASE", 2), ("L", 4), ("LOCALE", 4), ("M", 8),
    ("MULTILINE", 8), ("S", 16), ("DOTALL", 16), ("U", 32), ("UNICODE", 32), ("X", 64),
    ("VERBOSE", 64), ("NOFLAG", 0)]
  let types : List (Text × Value) := [
    ("error", .type "re.error"), ("Pattern", .type "re.Pattern"), ("Match", .type "re.Match")]
  flags.map (fun (name, number) => (name, Value.whole number)) ++ types

/-- Where the flags of a routine are. -/
def flagsPlace (name : Text) : Nat :=
  if name = "compile" then 1
  else if name = "sub" || name = "subn" then 4
  else if name = "split" then 3
  else 2

/-! Signals and time as parts. -/

def signalValues : List (Text × Value) :=
  let names : List (Text × Nat) := (List.range Signal.table.length).zip Signal.table |>.map
    fun (place, name, _) => ("SIG".toList ++ name, place + 1)
  let handlers : List (Text × Value) := [("SIG_DFL", .whole 0), ("SIG_IGN", .whole 1)]
  names.map (fun (name, number) => (name, Value.ofNat number)) ++ handlers

variable (evaluator : Evaluator)

def ofPatterns (name : Text) (given : Given) : Run (Option Value) := do
  match String.ofList name with
  | "purge" => return some .none
  | "escape" =>
      match ← coreOf (← given.first name) with
      | .octets octets => return some (.octets (escapedPattern octets))
      | value => return some (.text (escapedPattern (← textIn false value)))
  | _ =>
      let flags ← wholeOr evaluator 0 (given.at? (flagsPlace name) "flags")
      let (place, pattern) ← patternOf (given.get 0 "pattern" .none) flags
      if name = "compile" then return some (.object place)
      else
        let values := (given.values.drop 1).take (flagsPlace name - 1)
        let named := given.named.filter fun (title, _) => title != "flags" && title != "pattern"
        callPattern evaluator place pattern name ⟨values, named⟩

/-! The system. -/

def systemFeatures : List Text := [
  "exit", "exc_info", "exception", "getrecursionlimit", "setrecursionlimit", "getsizeof", "intern",
  "getdefaultencoding", "getfilesystemencoding", "getrefcount", "settrace", "setprofile",
  "excepthook", "is_finalizing", "getswitchinterval", "setswitchinterval"]

/-- How many calls a program may let go inside one another at most. -/
def mostCalls : Nat := 3000

/-- Routines of the system part. -/
def ofSystem (name : Text) (given : Given) : Run (Option Value) := do
  match String.ofList name with
  | "exit" => raiseWith "SystemExit" (given.values.take 1)
  | "exc_info" =>
      match (← get).handled with
      | fault :: _ => return some (.tuple [← typeOf fault, fault, .none])
      | [] => return some (.tuple [.none, .none, .none])
  | "exception" => return some ((← get).handled.headD .none)
  | "getrecursionlimit" => return some (.ofNat (← get).deepest)
  | "setrecursionlimit" =>
      let limit ← wholeOr evaluator 1000 (given.at? 0 "limit")
      if limit < 1 then failValue "recursion limit must be greater or equal than 1"
      modify fun state => { state with deepest := min limit.toNat mostCalls }
      return some .none
  | "getsizeof" => return some (.ofNat (48 + 8 * ((← sizeOf? (← given.first name)).getD 0)))
  | "intern" => return some (← given.first name)
  | "getdefaultencoding" | "getfilesystemencoding" => return some (.text "utf-8")
  | "getrefcount" => return some (.whole 2)
  | "is_finalizing" => return some (.bool false)
  | "getswitchinterval" => return some (.real 0.005)
  | "excepthook" =>
      putTo evaluator (← systemValue "stderr")
        (← report evaluator 0 (given.get 1 "value" .none))
      return some .none
  | _ => return some .none

/-! The course of the program. -/

/-- Octets of a real number, and the number of octets. -/
def ofRealOctets (name : Text) (given : Given) : Run (Option Value) := do
  let turned (isGreatFirst : Bool) (octets : Text) : Text :=
    if isGreatFirst then octets.reverse else octets
  match String.ofList name, given.values with
  | "_real_octets", [.real value, .whole size, .text order] =>
      let bits := if size = 4 then value.toFloat32.toBits.toNat else value.toBits.toNat
      return some (.octets (turned (order = "big") (octetsOfNat size.toNat bits)))
  | "_octets_real", [.octets octets, .text order] =>
      let bits := (turned (order != "big") octets).foldl (fun bits c => 256 * bits + c.toNat) 0
      return some (.real (if octets.length = 4 then (Float32.ofBits (UInt32.ofNat bits)).toFloat
        else Float.ofBits (UInt64.ofNat bits)))
  | _, _ => return none

/-- Routines about what the program does last, and about where it is. -/
def ofCourse (name : Text) (given : Given) : Run (Option Value) := do
  match String.ofList name with
  | "register" =>
      let code ← given.first name
      modify fun state => { state with
        lastCalls := (code, given.values.drop 1, given.named) :: state.lastCalls }
      return some code
  | "unregister" =>
      let code ← given.first name
      let calls ← (← get).lastCalls.filterM fun call => do return !(← same evaluator call.1 code)
      modify fun state => { state with lastCalls := calls }
      return some .none
  | "_report" =>
      let fault ← given.first name
      let frames := (← get).frames.filter fun frame => !isOfLibrary frame.path
      let level := match ← faultAt? fault with
        | some (_, fault) => fault.level
        | none => frames.length - 1
      return some (.text (← report evaluator level fault))
  | "_stack" =>
      let spots := (← presentSpots).filter fun spot => !isOfLibrary spot.path
      return some (← makeList (Value.ofTexts (← spots.mapM spotText)))
  | "_place" =>
      let frames := (← get).frames.filter fun frame => !isOfLibrary frame.path
      let level ← wholeOr evaluator 1 (given.at? 0 "level")
      let frame := (frames.drop (level.toNat - 1)).headD (frames.getLast?.getD default)
      let text := (← sourceLine? frame.path frame.line).getD []
      return some (.tuple [.text frame.path, .ofNat frame.line, .text (trimmed text)])
  | "isenabled" => return some (.bool true)
  | "collect" => return some (.whole 0)
  | _ => return some .none
where
  /-- Whether a path is one of the library. -/
  isOfLibrary (path : Text) : Bool := (Text.after? libraryPath path).isSome

/-! Types. -/

/-- Routines of types that work without a value of the type. -/
def stillRoutines : List Text := [
  "dict.fromkeys", "bytes.fromhex", "bytearray.fromhex", "str.maketrans",
  "bytes.maketrans", "float.fromhex"]

/-- Calls a routine of a type. -/
def callOfType (name method : Text) (given : Given) : Run Value := do
  let type := name.take (name.length - method.length - 1)
  if name = "int.from_bytes" then
    let octets ← octetsFrom evaluator ⟨[given.get 0 "bytes" .none], []⟩
    let order ← textIn false (given.get 1 "byteorder" (.text "big"))
    let isSigned := (given.get 2 "signed" (.bool false)).isTrue
    return .whole (wholeOfOctets (order = "big") isSigned octets)
  else if stillRoutines.elem name then
    callMethod evaluator (← makeOf evaluator type ⟨[], []⟩) method given
  else if method = "__new__" then
    match given.values with
    | made :: values =>
        match made with
        | .type library => makeOf evaluator library ⟨values, given.named⟩
        | made => bareMember evaluator made ⟨values, given.named⟩
    | [] => failType "object.__new__(): not enough arguments"
  else
    match given.values with
    | object :: values => callMethod evaluator object method ⟨values, given.named⟩
    | [] =>
        if method = "__init_subclass__" then return .none
        else failType ("unbound method ".toList ++ type ++ '.' :: method ++
            "() needs an argument".toList)

/-! All of it. -/

/-- Calls a routine of a part of the library. -/
def callPart (part name : Text) (given : Given) : Run (Option Value) := do
  match String.ofList part with
  | "os" =>
      if name = "fdopen" || name = "_open" then return some (← opened evaluator given)
      else match ← ofFiles evaluator name given with
        | some value => return some value
        | none =>
            match ← ofVariables name given with
            | some value => return some value
            | none => ofProcesses evaluator name given
  | "signal" => ofProcesses evaluator name given
  | "time" => ofTime evaluator name given
  | "re" => ofPatterns evaluator name given
  | "sys" => ofSystem evaluator name given
  | "io" =>
      if name = "open" then return some (← opened evaluator given)
      else ofStreams name given
  | "math" => ofMath evaluator name given
  | "random" => ofChance name given.values
  | "struct" => ofRealOctets name given
  | "hashlib" | "base64" | "binascii" | "zlib" => ofOctets evaluator name given
  | "json" => ofNotation evaluator name given
  | "atexit" | "traceback" | "warnings" | "gc" => ofCourse evaluator name given
  | _ => return none

/-- Calls a routine of the library. -/
def callLibrary (feature : Text) (given : Given) : Run Value := do
  let name := lastPart feature
  let unknown : Run Value :=
    fail "NotImplementedError" (feature ++ " is not known".toList)
  if name = feature then
    match ← callCommon evaluator name given with
    | some value => return value
    | none => unknown
  else
    match methodName? feature with
    | some method => callOfType evaluator feature method given
    | none =>
        let part := feature.take (feature.length - name.length - 1)
        match ← callPart evaluator part name given with
        | some value => return value
        | none => unknown

end ShaderCost.Script.Indented
