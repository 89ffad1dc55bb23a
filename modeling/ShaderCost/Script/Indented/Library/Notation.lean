import ShaderCost.Script.Indented.Library.Features

/-!
Values in the notation of braces and brackets, which programs exchange: how they are written, and
how they are read.
-/

namespace ShaderCost.Script.Indented

variable (evaluator : Evaluator)

namespace Notation

/-! Writing. -/

/-- How values are written. -/
structure Layout where
  /-- What each level is indented by. -/
  indent : Option Text
  between : Text
  behindKey : Text
  isPlain : Bool
  sortsKeys : Bool
  skipsKeys : Bool
  allowsNumberless : Bool
  /-- What makes another value of one that cannot be written. -/
  usual : Value

/-- A unit of sixteen bits. -/
def unitText (code : Nat) : Text := "\\u".toList ++ hexOf 4 code

def charText (isPlain : Bool) (c : Char) : Text :=
  match c with
  | '"' => ['\\', '"']
  | '\\' => ['\\', '\\']
  | '\n' => ['\\', 'n']
  | '\r' => ['\\', 'r']
  | '\t' => ['\\', 't']
  | c =>
      let code := c.toNat
      if code = 8 then ['\\', 'b']
      else if code = 12 then ['\\', 'f']
      else if code < 32 then unitText code
      else if code < 127 || !isPlain then [c]
      else if code < 65536 then unitText code
      else
        let rest := code - 65536
        unitText (55296 + rest / 1024) ++ unitText (56320 + rest % 1024)

def quoted (isPlain : Bool) (text : Text) : Text := '"' :: text.flatMap (charText isPlain) ++ ['"']

def realNotation (layout : Layout) (value : Float) : Run Text := do
  let special (text : Text) : Run Text := do
    if layout.allowsNumberless then return text
    else failValue ("Out of range float values are not JSON compliant: ".toList ++ realText value)
  if value.isNaN then special "NaN"
  else if value.isInf then special (if value < 0 then "-Infinity" else "Infinity")
  else return realText value

/-- The text of a key, unless it is left out. -/
def keyText (layout : Layout) (key : Value) : Run (Option Text) := do
  match ← coreOf key with
  | .text text => return some text
  | .none => return some "null"
  | .bool value => return some (if value then "true" else "false")
  | .whole value => return some (Text.ofInt value)
  | .real value => some <$> realNotation layout value
  | _ =>
      if layout.skipsKeys then return none
      else
        failType ("keys must be str, int, float, bool or None, not ".toList ++ (← typeName key))

/-- Parts between brackets. -/
def wrap (layout : Layout) (level : Nat) (opening closing : Text) (parts : List Text) : Text :=
  match parts, layout.indent with
  | [], _ => opening ++ closing
  | parts, none => opening ++ List.intercalate layout.between parts ++ closing
  | parts, some indent =>
      let line (level : Nat) : Text := '\n' :: (List.replicate level indent).flatten
      opening ++ line (level + 1) ++
        List.intercalate (layout.between ++ line (level + 1)) parts ++ line level ++ closing

def write (layout : Layout) : (fuel : Nat) → (level : Nat) → Value → Run Text
  | 0, _, _ => fail "RecursionError" "maximum recursion depth exceeded while encoding a JSON object"
  | fuel + 1, level, value => do
      liftM (n := Run) (spend 1)
      let list (items : List Value) : Run Text := do
        return wrap layout level "[" "]" (← items.mapM (write layout fuel (level + 1)))
      let otherwise : Run Text := do
        match layout.usual with
        | .none =>
            failType ("Object of type ".toList ++ (← typeName value) ++
              " is not JSON serializable".toList)
        | code => write layout fuel level (← evaluator.call code [value] [])
      match ← coreOf value with
      | .none => return "null"
      | .bool value => return if value then "true" else "false"
      | .whole value => return Text.ofInt value
      | .real value => realNotation layout value
      | .text text => return quoted layout.isPlain text
      | .tuple items => list items
      | .object place =>
          match ← readableAt place with
          | .list items => list items.toList
          | .table entries =>
              let pairs ← entries.values.filterMapM fun (key, value) => do
                return (← keyText layout key).map fun key => (key, value)
              let pairs := if layout.sortsKeys then
                pairs.mergeSort fun left right => Text.atMost left.1 right.1 else pairs
              let parts ← pairs.mapM fun (key, value) => do
                return quoted layout.isPlain key ++ layout.behindKey ++
                  (← write layout fuel (level + 1) value)
              return wrap layout level "\x7b" "\x7d" parts
          | _ => otherwise
      | _ => otherwise

def layoutOf (given : Given) : Run Layout := do
  let flag (name : Text) (usual : Bool) : Bool := ((given.named? name).map Value.isTrue).getD usual
  let indent ← match given.named? "indent" with
    | none | some .none => pure none
    | some (.text text) => pure (some text)
    | some value => do
        pure (some (List.replicate (← wholeOr evaluator 0 (some value)).toNat ' '))
  let (between, behindKey) ← match given.named? "separators" with
    | none | some .none => pure ((if indent.isSome then "," else ", " : String).toList, ": ".toList)
    | some value => do
        match ← valuesOf evaluator value with
        | [.text first, .text second] => pure (first, second)
        | _ => failValue "too many values to unpack (expected 2)"
  let usual ← match given.named? "default", given.named? "cls" with
    | some value, _ => pure value
    | none, none | none, some .none => pure .none
    | none, some type => do
        attributeOf evaluator (← evaluator.call type [] []) "default"
  return {
    indent, between, behindKey, isPlain := flag "ensure_ascii" true
    sortsKeys := flag "sort_keys" false, skipsKeys := flag "skipkeys" false
    allowsNumberless := flag "allow_nan" true, usual }

/-- How deep values go inside one another. -/
def deepest : Nat := 990

def written (given : Given) : Run Text := do
  write evaluator (← layoutOf evaluator given) deepest 0 (given.get 0 "obj" .none)

/-! Reading. -/

/-- What is wrong with a text, and where. -/
def refuse {α : Type} (whole : Text) (message : Text) (position : Nat) : Run α := do
  let before := whole.take position
  let line := before.countP (· = '\n') + 1
  let column := (before.reverse.takeWhile (· != '\n')).length + 1
  let place ← makeFault (.type "json.decoder.JSONDecodeError")
    [.text (message ++ ": line ".toList ++ Text.ofNat line ++ " column ".toList ++
      Text.ofNat column ++ " (char ".toList ++ Text.ofNat position ++ [')'])]
  let attributes : List (Text × Value) := [
    ("msg", .text message), ("doc", .text whole), ("pos", .ofNat position), ("lineno", .ofNat line),
    ("colno", .ofNat column)]
  for (name, value) in attributes do plainlySet (.object place) name value
  raiseFault place

/-- A text that is read, what is left of it, and what happens to numbers and tables. -/
structure Source where
  whole : Text
  ofTable : Value
  ofPairs : Value
  ofReal : Value
  ofWhole : Value

def isBlank (c : Char) : Bool := c = ' ' || c = '\n' || c = '\r' || c = '\t'

abbrev Rest := Text × Nat

def skip (rest : Rest) : Rest :=
  let left := rest.1.dropWhile isBlank
  (left, rest.2 + (rest.1.length - left.length))

def hexadecimal? (digits : Text) : Option Nat :=
  if digits.length = 4 && digits.all isHexDigit then some (digitsIn 16 digits) else none

/-- The text up to a quote. -/
def readText (source : Source) (start : Nat) : (fuel : Nat) → Rest → (before : Text) →
    Run (Text × Rest)
  | 0, _, _ => refuse source.whole "Unterminated string starting at" start
  | fuel + 1, (text, position), before => do
      match text with
      | [] => refuse source.whole "Unterminated string starting at" start
      | '"' :: rest => return (before.reverse, (rest, position + 1))
      | '\\' :: c :: rest =>
          let plain (made : Char) : Run (Text × Rest) :=
            readText source start fuel (rest, position + 2) (made :: before)
          match c with
          | '"' | '\\' | '/' => plain c
          | 'n' => plain '\n'
          | 't' => plain '\t'
          | 'r' => plain '\r'
          | 'b' => plain (Char.ofNat 8)
          | 'f' => plain (Char.ofNat 12)
          | 'u' =>
              match hexadecimal? (rest.take 4) with
              | none => refuse source.whole "Invalid \\uXXXX escape" (position + 2)
              | some code =>
                  let behind := rest.drop 4
                  let second := (Text.after? "\\u" behind).bind fun rest =>
                    hexadecimal? (rest.take 4)
                  match second with
                  | some low =>
                      if 55296 ≤ code && code < 56320 && 56320 ≤ low && low < 57344 then
                        let made := Char.ofNat (65536 + (code - 55296) * 1024 + (low - 56320))
                        readText source start fuel (behind.drop 6, position + 12) (made :: before)
                      else
                        readText source start fuel (behind, position + 6)
                          (Char.ofNat code :: before)
                  | none =>
                      readText source start fuel (behind, position + 6) (Char.ofNat code :: before)
          | _ => refuse source.whole "Invalid \\escape" position
      | c :: rest =>
          if c.toNat < 32 then refuse source.whole "Invalid control character at" position
          else readText source start fuel (rest, position + 1) (c :: before)

/-- The number at the front of a text: the whole part, and all of it with whether it is whole. -/
def numberText? (text : Text) : Option (Text × Bool) :=
  let (sign, digits) : Text × Text := match text with
    | '-' :: rest => (['-'], rest)
    | text => ([], text)
  let whole := match digits with
    | '0' :: _ => ['0']
    | digits => digits.takeWhile Char.isDigit
  if whole.isEmpty then none
  else
    let rest := digits.drop whole.length
    let fraction := match rest with
      | '.' :: rest =>
          let places := rest.takeWhile Char.isDigit
          if places.isEmpty then [] else '.' :: places
      | _ => []
    let rest := rest.drop fraction.length
    let exponent := match rest with
      | mark :: rest =>
          if mark = 'e' || mark = 'E' then
            let sign := rest.takeWhile fun c => c = '+' || c = '-'
            let places := (rest.drop sign.length).takeWhile Char.isDigit
            if places.isEmpty || 1 < sign.length then [] else mark :: sign ++ places
          else []
      | [] => []
    some (sign ++ whole ++ fraction ++ exponent, fraction.isEmpty && exponent.isEmpty)

/-- The words that stand for values. -/
def words : List (Text × Value) := [
  ("null", .none), ("true", .bool true), ("false", .bool false), ("NaN", .real (0.0 / 0.0)),
  ("Infinity", .real (1.0 / 0.0)), ("-Infinity", .real (-1.0 / 0.0))]

def made (code : Value) (usual : Value) (arguments : List Value) : Run Value := do
  match code with
  | .none => return usual
  | code => evaluator.call code arguments []

def readPlain (source : Source) (rest : Rest) : Run (Value × Rest) := do
  let word? := words.findSome? fun (word, value) =>
    (Text.after? word rest.1).map fun behind => (value, (behind, rest.2 + word.length))
  match word? with
  | some found => return found
  | none =>
      match numberText? rest.1 with
      | none => refuse source.whole "Expecting value" rest.2
      | some (text, isWhole) =>
          let behind := (rest.1.drop text.length, rest.2 + text.length)
          if isWhole then
            let value := Value.whole ((wholeOf? 10 text).getD 0)
            return (← made evaluator source.ofWhole value [.text text], behind)
          else
            let value := Value.real ((realOf? text).getD 0)
            return (← made evaluator source.ofReal value [.text text], behind)

/-- The table of entries that were read. -/
def finish (source : Source) (entries : Array (Text × Value)) : Run Value := do
  match source.ofPairs with
  | .none =>
      let table ← make (.table (.ofEntries (entries.toList.map fun (name, value) =>
        ('s' :: name, (.text name, value)))))
      made evaluator source.ofTable table [table]
  | code =>
      let pairs := entries.toList.map fun (name, value) => Value.tuple [.text name, value]
      evaluator.call code [← makeList pairs] []

mutual

def readValue (source : Source) : (fuel : Nat) → Rest → Run (Value × Rest)
  | 0, _ => fail "RecursionError" "maximum recursion depth exceeded while decoding a JSON object"
  | fuel + 1, (text, position) => do
      match text with
      | '"' :: rest =>
          let (text, rest) ← readText source position (rest.length + 1) (rest, position + 1) []
          return (.text text, rest)
      | '[' :: rest =>
          let rest := skip (rest, position + 1)
          match rest.1 with
          | ']' :: behind => return (← makeList [], (behind, rest.2 + 1))
          | _ => readItems source fuel rest #[]
      | '\x7b' :: rest =>
          let rest := skip (rest, position + 1)
          match rest.1 with
          | '\x7d' :: behind => return (← finish evaluator source #[], (behind, rest.2 + 1))
          | _ => readEntries source fuel rest #[]
      | _ => readPlain evaluator source (text, position)

def readItems (source : Source) : (fuel : Nat) → Rest → (before : Array Value) →
    Run (Value × Rest)
  | 0, _, _ => fail "RecursionError" "maximum recursion depth exceeded while decoding a JSON object"
  | fuel + 1, rest, before => do
      liftM (n := Run) (spend 1)
      let (value, rest) ← readValue source fuel rest
      let rest := skip rest
      let before := before.push value
      match rest.1 with
      | ',' :: behind => readItems source fuel (skip (behind, rest.2 + 1)) before
      | ']' :: behind => return (← make (.list before), (behind, rest.2 + 1))
      | _ => refuse source.whole "Expecting ',' delimiter" rest.2

def readEntries (source : Source) : (fuel : Nat) → Rest → (before : Array (Text × Value)) →
    Run (Value × Rest)
  | 0, _, _ => fail "RecursionError" "maximum recursion depth exceeded while decoding a JSON object"
  | fuel + 1, rest, before => do
      liftM (n := Run) (spend 1)
      match rest.1 with
      | '"' :: behind =>
          let (key, rest) ← readText source rest.2 (behind.length + 1) (behind, rest.2 + 1) []
          let rest := skip rest
          match rest.1 with
          | ':' :: behind =>
              let (value, rest) ← readValue source fuel (skip (behind, rest.2 + 1))
              let rest := skip rest
              let before := before.push (key, value)
              match rest.1 with
              | ',' :: behind =>
                  let rest := skip (behind, rest.2 + 1)
                  readEntries source fuel rest before
              | '\x7d' :: behind => return (← finish evaluator source before, (behind, rest.2 + 1))
              | _ => refuse source.whole "Expecting ',' delimiter" rest.2
          | _ => refuse source.whole "Expecting ':' delimiter" rest.2
      | _ =>
          refuse source.whole "Expecting property name enclosed in double quotes" rest.2

end

def read (given : Given) (value : Value) : Run Value := do
  let text ← match ← coreOf value with
    | .text text => pure text
    | .octets octets => decodeOctets "utf-8" "strict" octets
    | .object place => do
        match ← contentAt place with
        | .buffer octets => decodeOctets "utf-8" "strict" octets
        | _ => failType ("the JSON object must be str, bytes or bytearray, not ".toList ++
            (← typeName value))
    | _ => failType ("the JSON object must be str, bytes or bytearray, not ".toList ++
        (← typeName value))
  let hook (name : Text) : Value := (given.named? name).getD .none
  let source : Source := {
    whole := text, ofTable := hook "object_hook", ofPairs := hook "object_pairs_hook"
    ofReal := hook "parse_float", ofWhole := hook "parse_int" }
  let (value, rest) ← readValue evaluator source (text.length + 2) (skip (text, 0))
  let rest := skip rest
  if !rest.1.isEmpty then refuse text "Extra data" rest.2
  return value

end Notation

def notationFeatures : List Text := ["dumps", "dump", "loads", "load"]

def ofNotation (name : Text) (given : Given) : Run (Option Value) := do
  match String.ofList name with
  | "dumps" => return some (.text (← Notation.written evaluator given))
  | "dump" =>
      let text ← Notation.written evaluator given
      let code ← attributeOf evaluator (given.get 1 "fp" .none) "write"
      let _ ← evaluator.call code [.text text] []
      return some .none
  | "loads" => return some (← Notation.read evaluator given (given.get 0 "s" .none))
  | "load" =>
      let code ← attributeOf evaluator (given.get 0 "fp" .none) "read"
      return some (← Notation.read evaluator given (← evaluator.call code [] []))
  | _ => return none

end ShaderCost.Script.Indented
