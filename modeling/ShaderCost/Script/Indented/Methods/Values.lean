import ShaderCost.Script.Indented.Library.Patterns
import ShaderCost.Script.Indented.Methods.Containers
import ShaderCost.Script.Utility.Entries

/-!
Routines of numbers, files, faults and series, those that every value has, and where the routine of
a value is looked for.
-/

namespace ShaderCost.Script.Indented

variable (evaluator : Evaluator)

/-! Numbers. -/

/-- How often a whole number can be halved before nothing is left. -/
def bitLength (value : Int) : Nat := if value = 0 then 0 else value.natAbs.log2 + 1

/-- The octets of a number, the lowest first. -/
def octetsOfNat : (count : Nat) → Nat → Text
  | 0, _ => []
  | count + 1, value => Char.ofNat (value % 256) :: octetsOfNat count (value / 256)

/-- The number that octets stand for. -/
def wholeOfOctets (isGreatFirst isSigned : Bool) (octets : Text) : Int :=
  let octets := if isGreatFirst then octets else octets.reverse
  let value : Nat := octets.foldl (fun value c => value * 256 + c.toNat) 0
  let whole := twoTo (8 * octets.length)
  if isSigned && whole ≤ 2 * value then (value : Int) - whole else value

def octetsOfWhole (value : Int) (length : Nat) (isGreatFirst isSigned : Bool) : Run Text := do
  let whole : Int := twoTo (8 * length)
  if value < 0 && !isSigned then fail "OverflowError" "can't convert negative int to unsigned"
  let fits := if isSigned then -whole ≤ 2 * value && 2 * value < whole else value < whole
  if !fits then fail "OverflowError" "int too big to convert"
  let octets := octetsOfNat length (value % whole).toNat
  return if isGreatFirst then octets.reverse else octets

/-- The quotient in smallest numbers that a number is. -/
def smallestRatio (value : Float) : Int × Nat :=
  match ratio? value with
  | some (numerator, denominator) =>
      let common := Nat.gcd numerator.natAbs denominator
      (numerator / common, denominator / common)
  | none => (0, 1)

def hexadecimalReal (value : Float) : Text :=
  match (encode value).meaning with
  | .nan => "nan"
  | .infinite isNegative => if isNegative then "-inf" else "inf"
  | .finite isNegative mantissa exponent =>
      let text := Floating.hexadecimal mantissa exponent
      let front := text.takeWhile (· != 'p')
      let power := text.drop front.length
      let places := (front.dropWhile (· != '.')).drop 1
      let lead := front.takeWhile (· != '.')
      let padded := places ++ List.replicate (13 - places.length) '0'
      (if isNegative then ['-'] else []) ++ lead ++
        (if mantissa = 0 then ".0".toList else '.' :: padded) ++ power

def callWhole (value : Int) (name : Text) (given : Given) : Run (Option Value) := do
  match String.ofList name with
  | "bit_length" => return some (.ofNat (bitLength value))
  | "bit_count" =>
      return some (.ofNat ((Nat.toDigits 2 value.natAbs).filter (· == '1')).length)
  | "to_bytes" =>
      let length ← wholeOr evaluator 1 (given.at? 0 "length")
      let order ← textIn false (given.get 1 "byteorder" (.text "big"))
      let isSigned := (given.get 2 "signed" (.bool false)).isTrue
      return some (.octets (← octetsOfWhole value length.toNat (order = "big") isSigned))
  | "conjugate" | "__index__" | "__int__" | "__trunc__" => return some (.whole value)
  | "is_integer" => return some (.bool true)
  | "as_integer_ratio" => return some (.tuple [.whole value, .whole 1])
  | _ => return none

def callReal (value : Float) (name : Text) : Run (Option Value) := do
  match String.ofList name with
  | "is_integer" =>
      return some (.bool (match ratio? value with
        | some (numerator, denominator) => numerator % denominator = 0
        | none => false))
  | "as_integer_ratio" =>
      if value.isNaN then failValue "cannot convert NaN to integer ratio"
      if value.isInf then fail "OverflowError" "cannot convert Infinity to integer ratio"
      let (numerator, denominator) := smallestRatio value
      return some (.tuple [.whole numerator, .ofNat denominator])
  | "hex" => return some (.text (hexadecimalReal value))
  | "conjugate" => return some (.real value)
  | _ => return none

/-! Files. -/

def fileNumber (place : Nat) : Run Value := do
  match ← handleAt? (← handlePlace place) with
  | some { way := .stream stream, .. } => return .ofNat stream.number
  | some { way := .memory _ _, .. } => unsupported "fileno"
  | _ => failValue "I/O operation on closed file"

/-- The lines of a file that are left. -/
def linesLeft (place : Nat) : (fuel : Nat) → (before : List Value) → Run (List Value)
  | 0, before => return before.reverse
  | fuel + 1, before => do
      match ← evaluator.next (.object place) with
      | some line => linesLeft place fuel (line :: before)
      | none => return before.reverse

/-- Writes a value to a file. The result is how much that was. -/
def writeValue (place : Nat) (value : Value) : Run Value := do
  let isText ← givesText place
  match isText, ← coreOf value with
  | true, .text text =>
      putText place text
      return .ofNat text.length
  | true, _ => failType ("write() argument must be str, not ".toList ++ (← typeName value))
  | false, .text _ => failType "a bytes-like object is required, not 'str'"
  | false, _ =>
      let octets ← textIn true value
      putOctets place octets
      return .ofNat octets.length

def checkOpen (place : Nat) : Run Unit := do
  if ← isClosed place then failValue "I/O operation on closed file."

def callFile (place : Nat) (name : Text) (given : Given) : Run (Option Value) := do
  let way := (← handleAt? (← handlePlace place)).map Handle.way
  match String.ofList name with
  | "write" =>
      checkOpen place
      return some (← writeValue place (← given.first name))
  | "writelines" =>
      for value in ← valuesOf evaluator (← given.first name) do
        let _ ← writeValue place value
      return some .none
  | "read" | "read1" =>
      checkOpen place
      match given.some? 0 "size" with
      | none =>
          let text ← if (← sheetAt? place).isSome then takeText place id else takeAllOctets place
          return some (← filed place text)
      | some size =>
          let count ← wholeOr evaluator (-1) (some size)
          let front (text : Text) : Text := if count < 0 then text else text.take count.toNat
          return some (← filed place (← takeText place front))
  | "readline" =>
      checkOpen place
      let line ← match given.some? 0 "size" with
        | none => takeText place lineOf
        | some size => do
            let count ← wholeOr evaluator (-1) (some size)
            takeText place fun text => if count < 0 then lineOf text else
              (lineOf text).take count.toNat
      return some (← filed place line)
  | "readlines" =>
      checkOpen place
      return some (← makeList (← linesLeft evaluator place evaluator.limit []))
  | "flush" =>
      checkOpen place
      flushFile place
      return some .none
  | "close" =>
      closeFile place
      return some .none
  | "fileno" => return some (← fileNumber place)
  | "isatty" => return some (.bool false)
  | "readable" =>
      return some (.bool (((← handleAt? (← handlePlace place)).map Handle.mayRead).getD false))
  | "writable" =>
      return some (.bool (((← handleAt? (← handlePlace place)).map Handle.mayWrite).getD false))
  | "seekable" =>
      return some (.bool (match way with
        | some (.memory _ _) => true
        | some (.stream stream) => 2 < stream.number
        | _ => false))
  | "seek" =>
      let offset ← wholeOr evaluator 0 (given.at? 0 "offset")
      let origin ← wholeOr evaluator 0 (given.at? 1 "whence")
      return some (.ofNat (← seekIn place offset origin))
  | "tell" => return some (.ofNat (← positionIn place))
  | "truncate" =>
      match way with
      | some (.memory content position) =>
          let size ← wholeOr evaluator position (given.some? 0 "size")
          setWay place (.memory (content.take size.toNat) position)
          return some (.whole size)
      | some (.stream _) =>
          flushFile place
          let size ← wholeOr evaluator (← positionIn place) (given.some? 0 "size")
          match ← handleAt? (← handlePlace place) with
          | some { name := .text path, .. } =>
              let _ ← liftM (n := Run) (Utility.change fun tree => do
                let content ← tree.readOctets path
                tree.writeOctets path (gather ((spread content).take size.toNat)))
          | _ => pure ()
          return some (.whole size)
      | _ => return none
  | "getvalue" | "getbuffer" =>
      match way with
      | some (.memory content _) => return some (← filed place content)
      | _ => lacks (.object place) name
  | "reconfigure" =>
      match ← sheetAt? place with
      | some sheet =>
          let isLines := (given.named? "line_buffering").map Value.isTrue
          let encoding ← match given.named? "encoding" with
            | some (.text encoding) => pure encoding
            | _ => pure sheet.encoding
          let errors ← match given.named? "errors" with
            | some (.text errors) => pure errors
            | _ => pure sheet.errors
          setSheet place { sheet with
            endsLines := isLines.getD sheet.endsLines, encoding, errors }
          flushFile place
      | none => pure ()
      return some .none
  | "detach" =>
      match ← sheetAt? place with
      | some sheet =>
          flushFile place
          return some (.object sheet.below)
      | none => return some (.object place)
  | "__enter__" =>
      checkOpen place
      return some (.object place)
  | "__exit__" =>
      closeFile place
      return some .none
  | "__iter__" => return some (.object place)
  | "__next__" =>
      match ← evaluator.next (.object place) with
      | some value => return some value
      | none => raiseWith "StopIteration" []
  | _ => return none

/-! Faults and series. -/

def callFault (place : Nat) (fault : Fault) (name : Text) (given : Given) :
    Run (Option Value) := do
  match String.ofList name with
  | "__init__" =>
      setContent place (.fault { fault with arguments := given.values })
      return some .none
  | "with_traceback" => return some (.object place)
  | "add_note" =>
      let note ← given.first name
      let before := match fault.attributes.get? "__notes__" with
        | some (.tuple notes) => notes
        | _ => []
      let attributes := fault.attributes.insert "__notes__" (.tuple (before ++ [note]))
      setContent place (.fault { fault with attributes })
      return some .none
  | _ => return none

/-- The fault that a call raises in a series. -/
def faultFrom (given : Given) : Run Value := do
  let first ← given.first "throw"
  if ← isType first then evaluator.call first (given.values.drop 1 |>.take 1) []
  else return first

def endSeries {α : Type} (result : Value) : Run α := do
  raiseWith "StopIteration" (match result with
    | .none => []
    | value => [value])

def callSeries (place : Nat) (name : Text) (given : Given) : Run (Option Value) := do
  let answer (result : Except Value Value) : Run (Option Value) := do
    match result with
    | .ok value => return some value
    | .error result => endSeries result
  match String.ofList name with
  | "__iter__" => return some (.object place)
  | "__next__" => answer (← evaluator.resume place (.send .none))
  | "send" => answer (← evaluator.resume place (.send (← given.first name)))
  | "throw" => answer (← evaluator.resume place (.raise (← faultFrom evaluator given)))
  | "close" =>
      let fault ← makeFault (.type "GeneratorExit") []
      let ended : Run Bool := do
        match ← evaluator.resume place (.raise (.object fault)) with
        | .ok _ => return false
        | .error _ => return true
      let isOver ← tryCatch ended fun leave => match leave with
        | .raised other => do
            if (← isInstance other (.type "GeneratorExit")) || (← isEnd other) then return true
            else throw leave
        | leave => throw leave
      if isOver then return some .none
      else fail "RuntimeError" "generator ignored GeneratorExit"
  | _ => return none

/-! What every value has. -/

/-- A number that equal values share. -/
def hashOf (value : Value) : Run Int := do
  let largest : Int := 2305843009213693951
  match ← callOwn? evaluator value "__hash__" [] with
  | some answer => return answer.whole?.getD 0
  | none =>
      match value.whole? with
      | some number =>
          let result := number.tmod largest
          return if result = -1 then -2 else result
      | none =>
          let key ← keyFor evaluator value
          let code : Nat := key.foldl (fun code c =>
            (code * 1000003 + c.toNat) % 2305843009213693951) 7
          return code

/-- Fills the value of the library that a member of a type holds. -/
def fillCore (core : Value) (given : Given) : Run Unit := do
  match core with
  | .object place =>
      match ← contentAt place with
      | .table _ => updateTable evaluator place given
      | .list _ =>
          match given.values with
          | source :: _ => setContent place (.list (← valuesOf evaluator source).toArray)
          | [] => pure ()
      | .set _ false =>
          match given.values with
          | source :: _ =>
              setContent place (.set (← entriesFrom evaluator (← valuesOf evaluator source)) false)
          | [] => pure ()
      | _ => pure ()
  | _ => pure ()

def callAny (object : Value) (name : Text) (given : Given) : Run (Option Value) := do
  let plainly (work : Value → Run Text) : Run (Option Value) := do
    match object with
    | .object place =>
        match ← contentAt place with
        | .member type _ .none =>
            return some (.text ('<' :: (← fullNameOf type) ++ " object at ".toList ++
              addressText place ++ ['>']))
        | .member _ _ core => return some (.text (← work core))
        | .fault fault =>
            if name = "__str__" then
              return some (.text (← faultText (written evaluator) (shown evaluator) fault))
            else return some (.text (← writtenContent evaluator [] deepestValue place))
        | _ => return some (.text (← work object))
    | object => return some (.text (← work object))
  match String.ofList name with
  | "__init__" =>
      fillCore evaluator (← coreOf object) given
      return some .none
  | "__init_subclass__" => return some .none
  | "__repr__" => plainly (written evaluator)
  | "__str__" =>
      match object with
      | .object place =>
          match ← contentAt place with
          | .member _ _ .none => return some (.text (← written evaluator object))
          | _ => plainly (shown evaluator)
      | _ => plainly (shown evaluator)
  | "__eq__" =>
      let other ← given.first name
      if isThat object other then return some (.bool true)
      let core ← coreOf object
      match core with
      | .object place =>
          match ← contentAt place with
          | .member _ _ _ => return some .unsupported
          | _ =>
              let other ← coreOf other
              return some (.bool (← sameContents evaluator comparisonLimit core other))
      | core => return some (.bool (← same evaluator core (← coreOf other)))
  | "__ne__" =>
      let other ← given.first name
      return some (.bool !(← same evaluator object other))
  | "__hash__" =>
      match object with
      | .object place => return some (.ofNat (addressOf place / 16))
      | object => return some (.whole (← hashOf evaluator object))
  | "__setattr__" =>
      plainlySet object ((given.get 0 "name" .none).text?.getD []) (given.get 1 "value" .none)
      return some .none
  | "__delattr__" => return some .none
  | "__getattribute__" =>
      let sought := ((given.get 0 "name" .none).text?).getD []
      match ← plainlyHas? evaluator object sought with
      | some value => return some value
      | none => lacks object sought
  | "__format__" =>
      let format := ((given.get 0 "format_spec" .none).text?).getD []
      let core ← coreOf object
      if format.isEmpty then return some (.text (← shown evaluator object))
      else return some (.text (← formatted evaluator core format))
  | "__dir__" => return some (← makeList [])
  | _ => return none

/-! All routines. -/

/-- A routine of a value that lies at a place. -/
def callContent (object : Value) (place : Nat) (name : Text) (given : Given) :
    Run (Option Value) := do
  match ← contentAt place with
  | .list items => callList evaluator place items name given
  | .buffer octets =>
      match String.ofList name with
      | "append" =>
          let code ← wholeOr evaluator 0 (given.at? 0 "item")
          setContent place (.buffer (octets ++ [Char.ofNat code.toNat]))
          return some .none
      | "extend" =>
          let more ← match ← given.first name with
            | .octets more => pure more
            | value => do
                pure ((← valuesOf evaluator value).map fun value =>
                  Char.ofNat (value.whole?.getD 0).toNat)
          setContent place (.buffer (octets ++ more))
          return some .none
      | "clear" =>
          setContent place (.buffer [])
          return some .none
      | _ => callOctets evaluator octets name given
  | .table entries => callTable evaluator object place entries name given
  | .scope _ | .names _ => callNames place
  | .set entries isFrozen => callSet evaluator place entries isFrozen name given
  | .range start stop step =>
      let items := (List.range (rangeSize start stop step)).map fun (number : Nat) =>
        Value.whole (start + step * number)
      callItems evaluator "range" items name given
  | .handle _ | .sheet _ => callFile evaluator place name given
  | .pattern pattern => callPattern evaluator place pattern name given
  | .found found => callFound found name given
  | .fault fault => callFault place fault name given
  | .series _ => callSeries evaluator place name given
  | .property read write delete =>
      let code := given.get 0 "f" .none
      match String.ofList name with
      | "getter" => return some (← make (.property code write delete))
      | "setter" => return some (← make (.property read code delete))
      | "deleter" => return some (← make (.property read write code))
      | _ => return none
  | .kind kind => if name = "mro" then return some (← makeList kind.order) else return none
  | _ => return none
where
  /-- Works on names as on a table. -/
  callNames (place : Nat) : Run (Option Value) := do
    match ← readableAt place with
    | .table entries =>
        let isView := (["keys", "values", "items"] : List Text).elem name
        let table ← if isView then pure place else allocate (.table entries)
        let answer ← callTable evaluator object table entries name given
        match ← ownerOfNames? place, ← contentAt table with
        | some owner, .table changed =>
            let names : Roster Value := .ofEntries (changed.values.filterMap fun (key, value) =>
              key.text?.map fun name => (name, value))
            onContent owner fun content => ((), content.withNames names)
        | _, _ => pure ()
        return answer
    | _ => return none

/-- Calls the routine of a value that goes by a name. -/
def callMethod (object : Value) (name : Text) (given : Given) : Run Value := do
  let core ← coreOf object
  let own : Option Value ← match core with
    | .text text => callText evaluator text name given
    | .octets octets => callOctets evaluator octets name given
    | .tuple items => callItems evaluator "tuple" items name given
    | .whole value => callWhole evaluator value name given
    | .bool value => callWhole evaluator (if value then 1 else 0) name given
    | .real value => callReal value name
    | .type _ => if name = "mro" then some <$> (do makeList (← orderOf core)) else pure none
    | .object place => callContent evaluator object place name given
    | _ => pure none
  match own with
  | some value => return value
  | none =>
      match ← callContainer evaluator object name given with
      | some value => return value
      | none =>
          match ← callAny evaluator object name given with
          | some value => return value
          | none => lacks object name

end ShaderCost.Script.Indented
