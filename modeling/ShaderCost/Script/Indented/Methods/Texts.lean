import ShaderCost.Script.Indented.Operations

/-!
Routines of texts and octets: searching, parting, trimming, filling and spelling.
-/

namespace ShaderCost.Script.Indented

/-- The arguments of a call. -/
structure Given where
  values : List Value
  named : List (Text × Value)

namespace Given

/-- The argument at a place, or with a name. -/
def at? (given : Given) (place : Nat) (name : Text) : Option Value :=
  (given.values[place]?).or (given.named.lookup name)

def named? (given : Given) (name : Text) : Option Value := given.named.lookup name

def get (given : Given) (place : Nat) (name : Text) (usual : Value) : Value :=
  (given.at? place name).getD usual

/-- An argument that is not none. -/
def some? (given : Given) (place : Nat) (name : Text) : Option Value :=
  match given.at? place name with
  | some .none => none
  | value => value

/-- A call with the first argument told apart. -/
def first (given : Given) (title : Text) : Run Value := do
  match given.values with
  | value :: _ => return value
  | [] => failType (title ++ " expected at least 1 argument, got 0".toList)

end Given

variable (evaluator : Evaluator)

/-- The whole number of an argument, or another one where there is none. -/
def wholeOr (usual : Int) (value : Option Value) : Run Int := do
  match value with
  | none => return usual
  | some value =>
      match ← indexOf? evaluator value with
      | some number => return number
      | none => failType ('\'' :: (← typeName value) ++
          "' object cannot be interpreted as an integer".toList)

/-- The octets or characters of an argument. -/
def textIn (isOctets : Bool) (value : Value) : Run Text := do
  let refuse : Run Text := do
    if isOctets then
      failType ("a bytes-like object is required, not '".toList ++ (← typeName value) ++ ['\''])
    else failType ("must be str, not ".toList ++ (← typeName value))
  match isOctets, ← coreOf value with
  | false, .text text => return text
  | true, .octets text => return text
  | true, .object place =>
      match ← contentAt place with
      | .buffer octets => return octets
      | _ => refuse
  | _, _ => refuse

def wrapped (isOctets : Bool) (text : Text) : Value := if isOctets then .octets text else .text text

/-! Searching. -/

/-- Where a text is first found in another one. -/
def placeOf? (part : Text) : Text → (place : Nat) → Option Nat
  | [], place => if part.isEmpty then some place else none
  | c :: rest, place =>
      if part.isPrefixOf (c :: rest) then some place else placeOf? part rest (place + 1)

/-- Where a text is found last. -/
def lastPlaceOf? (part text : Text) : Option Nat :=
  (placeOf? part.reverse text.reverse 0).map fun place => text.length - place - part.length

/-- How often a text is found, one time behind the other. -/
def countOf (part : Text) : (fuel : Nat) → Text → (count : Nat) → Nat
  | 0, _, count | _ + 1, [], count => count
  | fuel + 1, c :: rest, count =>
      match Text.after? part (c :: rest) with
      | some behind => countOf part fuel behind (count + 1)
      | none => countOf part fuel rest count

/-- The part of a text between bounds that may count from its end, with where that begins. -/
def between (text : Text) (given : Given) (place : Nat) : Run (Text × Nat × Bool) := do
  let size : Int := text.length
  let bound (value : Int) : Int := if value < 0 then max 0 (value + size) else value
  let first := bound (← wholeOr evaluator 0 (given.some? place "start"))
  let last := min size (bound (← wholeOr evaluator size (given.some? (place + 1) "end")))
  if first = 0 && last = size then return (text, 0, true)
  return ((text.take last.toNat).drop first.toNat, first.toNat, first ≤ last)

def searching (isOctets : Bool) (text : Text) (name : Text) (given : Given) :
    Run (Option Value) := do
  match String.ofList name with
  | "find" | "rfind" | "index" | "rindex" =>
      let sought ← given.first name
      let part ← match isOctets, sought.whole? with
        | true, some code => pure [Char.ofNat code.toNat]
        | _, _ => textIn isOctets sought
      let (within, start, isOrdered) ← between evaluator text given 1
      let found := if !isOrdered then none else if name.head? = some 'r' then
          lastPlaceOf? part within else placeOf? part within 0
      match found with
      | some place => return some (.ofNat (start + place))
      | none =>
          if Text.endsWith "find" name then return some (.whole (-1))
          else failValue (if isOctets then "subsection not found" else "substring not found")
  | "count" =>
      let part ← textIn isOctets (← given.first name)
      let (within, _, _) ← between evaluator text given 1
      if part.isEmpty then return some (.ofNat (within.length + 1))
      else return some (.ofNat (countOf part (within.length + 1) within 0))
  | "startswith" | "endswith" =>
      let sought ← given.first name
      let parts ← match sought with
        | .tuple values => values.mapM (textIn isOctets)
        | .text _ | .octets _ | .object _ => do pure [← textIn isOctets sought]
        | sought =>
            failType (name ++ " first arg must be ".toList ++
              (if isOctets then "bytes".toList else "str".toList) ++ " or a tuple of ".toList ++
              (if isOctets then "bytes".toList else "str".toList) ++ ", not ".toList ++
              (← typeName sought))
      let (within, _, isOrdered) ← between evaluator text given 1
      return some (.bool (isOrdered && parts.any fun part =>
        if name.head? = some 's' then part.isPrefixOf within else part.isSuffixOf within))
  | _ => return none

/-! Parting. -/

/-- A text parted at blanks, at most so often. -/
def partAtBlanks : (fuel : Nat) → (most : Option Nat) → Text → List Text
  | 0, _, _ => []
  | fuel + 1, most, text =>
      match trimmedFront text with
      | [] => []
      | text =>
          if most = some 0 then [trimmedEnd text]
          else
            let word := text.takeWhile fun c => !isBlankChar c
            word :: partAtBlanks fuel (most.map (· - 1)) (text.drop word.length)

/-- A text parted at a mark, at most so often. -/
def partAt (mark : Text) : (fuel : Nat) → (most : Option Nat) → Text → (before : Text) → List Text
  | 0, _, text, before => [before.reverse ++ text]
  | _ + 1, _, [], before => [before.reverse]
  | fuel + 1, most, c :: rest, before =>
      match (if most = some 0 then none else Text.after? mark (c :: rest)) with
      | some behind => before.reverse :: partAt mark fuel (most.map (· - 1)) behind []
      | none => partAt mark fuel most rest (c :: before)

def isLineEnd (isOctets : Bool) (c : Char) : Bool :=
  c = '\n' || c = '\r' || (!isOctets && (c = '\x0b' || c = '\x0c' || ('\x1c' ≤ c && c ≤ '\x1e') ||
    c.toNat = 133 || c.toNat = 8232 || c.toNat = 8233))

/-- The lines of a text. -/
def linesOf (isOctets keeps : Bool) : Text → (line : Text) → List Text
  | [], line => if line.isEmpty then [] else [line.reverse]
  | '\r' :: '\n' :: rest, line =>
      (if keeps then ('\n' :: '\r' :: line).reverse else line.reverse) ::
        linesOf isOctets keeps rest []
  | c :: rest, line =>
      if isLineEnd isOctets c then
        (if keeps then (c :: line).reverse else line.reverse) :: linesOf isOctets keeps rest []
      else linesOf isOctets keeps rest (c :: line)

def parting (isOctets : Bool) (text : Text) (name : Text) (given : Given) :
    Run (Option Value) := do
  let wrap (text : Text) : Value := wrapped isOctets text
  let most : Run (Option Nat) := do
    let count ← wholeOr evaluator (-1) (given.at? 1 "maxsplit")
    return if count < 0 then none else some count.toNat
  match String.ofList name with
  | "split" =>
      match given.some? 0 "sep" with
      | none =>
          return some (← makeList ((partAtBlanks (text.length + 1) (← most) text).map wrap))
      | some mark =>
          let mark ← textIn isOctets mark
          if mark.isEmpty then failValue "empty separator"
          return some (← makeList ((partAt mark (text.length + 1) (← most) text []).map wrap))
  | "rsplit" =>
      let turned (parts : List Text) : List Value :=
        (parts.map fun part => wrap part.reverse).reverse
      match given.some? 0 "sep" with
      | none =>
          return some (← makeList (turned
            (partAtBlanks (text.length + 1) (← most) text.reverse)))
      | some mark =>
          let mark ← textIn isOctets mark
          if mark.isEmpty then failValue "empty separator"
          return some (← makeList (turned
            (partAt mark.reverse (text.length + 1) (← most) text.reverse [])))
  | "splitlines" =>
      let keeps := (given.get 0 "keepends" (.bool false)).isTrue
      return some (← makeList ((linesOf isOctets keeps text []).map wrap))
  | "partition" =>
      let mark ← textIn isOctets (← given.first name)
      if mark.isEmpty then failValue "empty separator"
      match placeOf? mark text 0 with
      | some place =>
          return some (.tuple [wrap (text.take place), wrap mark,
            wrap (text.drop (place + mark.length))])
      | none => return some (.tuple [wrap text, wrap [], wrap []])
  | "rpartition" =>
      let mark ← textIn isOctets (← given.first name)
      if mark.isEmpty then failValue "empty separator"
      match lastPlaceOf? mark text with
      | some place =>
          return some (.tuple [wrap (text.take place), wrap mark,
            wrap (text.drop (place + mark.length))])
      | none => return some (.tuple [wrap [], wrap [], wrap text])
  | "join" =>
      let values ← valuesOf evaluator (← given.first name)
      let texts ← (values.zip (List.range values.length)).mapM fun (value, number) => do
        match isOctets, ← coreOf value with
        | false, .text part => return part
        | true, .octets part => return part
        | true, .object _ => textIn true value
        | _, _ =>
            failType ("sequence item ".toList ++ Text.ofNat number ++
              (if isOctets then ": expected a bytes-like object, ".toList
                else ": expected str instance, ".toList) ++
              (← typeName value) ++ " found".toList)
      let joined := List.intercalate text texts
      liftM (n := Run) (spend (joined.length / charactersPerTurn))
      return some (wrap joined)
  | _ => return none

/-! Trimming and filling. -/

/-- Replaces a text by another one, at most so often. -/
def replaced (part other text : Text) (most : Option Nat) : Text :=
  if part.isEmpty then
    let rec weave : Option Nat → Text → Text
      | some 0, text => text
      | _, [] => other
      | most, c :: rest => other ++ c :: weave (most.map (· - 1)) rest
    weave most text
  else List.intercalate other (partAt part (text.length + 1) most text [])

def expanded (size : Nat) : Text → (column : Nat) → Text
  | [], _ => []
  | c :: rest, column =>
      if c = '\t' then
        let count := if size = 0 then 0 else size - column % size
        List.replicate count ' ' ++ expanded size rest (column + count)
      else if c = '\n' || c = '\r' then c :: expanded size rest 0
      else c :: expanded size rest (column + 1)

def trimming (isOctets : Bool) (text : Text) (name : Text) (given : Given) :
    Run (Option Value) := do
  let answer (text : Text) : Run (Option Value) := return some (wrapped isOctets text)
  match String.ofList name with
  | "strip" | "lstrip" | "rstrip" =>
      let test : Char → Bool ← match given.some? 0 "chars" with
        | none => pure isBlankChar
        | some value => do
            let chars ← textIn isOctets value
            pure fun c => chars.elem c
      let text := if name = "rstrip" then text else text.dropWhile test
      answer (if name = "lstrip" then text else (text.reverse.dropWhile test).reverse)
  | "center" | "ljust" | "rjust" | "zfill" =>
      let width ← wholeOr evaluator 0 (given.at? 0 "width")
      let missing := (width - text.length).toNat
      let fill ← match given.at? 1 "fillchar" with
        | some value => do pure ((← textIn isOctets value).headD ' ')
        | none => pure ' '
      let filling (count : Nat) : Text := List.replicate count fill
      match String.ofList name with
      | "ljust" => answer (text ++ filling missing)
      | "rjust" => answer (filling missing ++ text)
      | "zfill" =>
          let zeros := List.replicate missing '0'
          match text with
          | c :: rest =>
              if c = '-' || c = '+' then answer (c :: zeros ++ rest) else answer (zeros ++ text)
          | [] => answer zeros
      | _ =>
          let left := missing / 2 + (if missing % 2 = 1 && width % 2 = 1 then 1 else 0)
          answer (filling left ++ text ++ filling (missing - left))
  | "replace" =>
      let part ← textIn isOctets (← given.first name)
      let other ← textIn isOctets (given.get 1 "new" .none)
      let count ← wholeOr evaluator (-1) (given.at? 2 "count")
      liftM (n := Run) (spend (text.length / charactersPerTurn))
      answer (replaced part other text (if count < 0 then none else some count.toNat))
  | "expandtabs" =>
      let size ← wholeOr evaluator 8 (given.at? 0 "tabsize")
      answer (expanded size.toNat text 0)
  | "removeprefix" =>
      let part ← textIn isOctets (← given.first name)
      answer ((Text.after? part text).getD text)
  | "removesuffix" =>
      let part ← textIn isOctets (← given.first name)
      answer (if part.isSuffixOf text then text.take (text.length - part.length) else text)
  | _ => return none

/-! Spelling. -/

/-- A text with each letter as it comes behind others. -/
def titled (text : Text) : Text :=
  let rec go : (isBehind : Bool) → Text → Text
    | _, [] => []
    | isBehind, c :: rest =>
        (if !isLetter c then [c] else if isBehind then lowered [c] else raisedChar c) ++
          go (isLetter c) rest
  go false text

def isTitled (text : Text) : Bool := text.any isLetter && titled text = text

def isPrintableChar (c : Char) : Bool := c = ' ' || writtenChar ' ' false c = [c]

/-- Whether all characters are of a kind, and there are some. -/
def testOf (name : Text) : Option (Char → Bool) :=
  match String.ofList name with
  | "isdigit" | "isdecimal" | "isnumeric" => some Text.isDecimalDigit
  | "isalpha" => some isLetter
  | "isalnum" => some fun c => isLetter c || Text.isDecimalDigit c
  | "isspace" => some isBlankChar
  | _ => none

def spelling (isOctets : Bool) (text : Text) (name : Text) : Option Value :=
  let lower (text : Text) : Text := if isOctets then text.map Char.toLower else lowered text
  let upper (text : Text) : Text := if isOctets then text.map Char.toUpper else raised text
  let wrap (text : Text) : Option Value := some (wrapped isOctets text)
  match testOf name with
  | some test =>
      some (.bool (!text.isEmpty && text.all fun c => test c && (!isOctets || c.toNat < 128)))
  | none =>
      match String.ofList name with
      | "lower" | "casefold" => wrap (lower text)
      | "upper" => wrap (upper text)
      | "capitalize" => wrap (upper (text.take 1) ++ lower (text.drop 1))
      | "title" => wrap (titled text)
      | "swapcase" => wrap (text.flatMap fun c => if isGreat c then lower [c] else upper [c])
      | "islower" => some (.bool (text.any isSmall && !text.any isGreat))
      | "isupper" => some (.bool (text.any isGreat && !text.any isSmall))
      | "istitle" => some (.bool (isTitled text))
      | "isascii" => some (.bool (text.all fun c => c.toNat < 128))
      | "isprintable" => some (.bool (text.all isPrintableChar))
      | "isidentifier" =>
          some (.bool (text.head?.any (fun c => isLetter c || c = '_') &&
            text.all fun c => isLetter c || c = '_' || Text.isDecimalDigit c))
      | _ => none

/-- A text with its characters replaced as a table says. -/
def translated (text : Text) (table : Value) : Run Value := do
  let parts ← text.mapM fun c => do
    let found ← unlessRaised "LookupError" (subscript evaluator table (.ofNat c.toNat))
    match found with
    | none => return [c]
    | some .none => return []
    | some (.text text) => return text
    | some value => return [Char.ofNat (value.whole?.getD 0).toNat]
  return .text parts.flatten

/-- A table of what stands for characters. -/
def mapping (given : Given) : Run Value := do
  match given.values with
  | [table] =>
      match ← coreOf table with
      | .object place =>
          match ← readableAt place with
          | .table entries =>
              let pairs : List (Text × Value × Value) := entries.values.map fun (key, value) =>
                match key with
                | .text (c :: _) => ('i' :: Text.ofNat c.toNat, .ofNat c.toNat, value)
                | key => ('i' :: Text.ofInt (key.whole?.getD 0), key, value)
              make (.table (.ofEntries pairs))
          | _ => failType "if you give only one argument to maketrans it must be a dict"
      | _ => failType "if you give only one argument to maketrans it must be a dict"
  | first :: second :: rest =>
      let source ← textIn false first
      let target ← textIn false second
      if source.length != target.length then
        failValue "the first two maketrans arguments must have equal length"
      let dropped ← match rest with
        | value :: _ => textIn false value
        | [] => pure []
      let pairs : List (Text × Value × Value) :=
        ((source.zip target).map fun (c, d) =>
          ('i' :: Text.ofNat c.toNat, .ofNat c.toNat, .ofNat d.toNat)) ++
        dropped.map fun c => ('i' :: Text.ofNat c.toNat, .ofNat c.toNat, .none)
      make (.table (.ofEntries pairs))
  | [] => failType "maketrans expected at least 1 argument, got 0"

/-- A name for a table or none. -/
def namedIn (table : Value) (name : Text) : Run (Option Value) := do
  unlessRaised "KeyError" (subscript evaluator table (.text name))

/-- Routines of a text. -/
def callText (text : Text) (name : Text) (given : Given) : Run (Option Value) := do
  match ← searching evaluator false text name given with
  | some value => return some value
  | none =>
  match ← parting evaluator false text name given with
  | some value => return some value
  | none =>
  match ← trimming evaluator false text name given with
  | some value => return some value
  | none =>
      match String.ofList name with
      | "encode" =>
          let encoding ← textIn false (given.get 0 "encoding" (.text "utf-8"))
          let errors ← textIn false (given.get 1 "errors" (.text "strict"))
          return some (.octets (← encodeText encoding errors text))
      | "format" =>
          let named (name : Text) : Run (Option Value) := return given.named.lookup name
          return some (.text (← filled evaluator text given.values named))
      | "format_map" =>
          let table ← given.first name
          return some (.text (← filled evaluator text [] (namedIn evaluator table)))
      | "translate" => return some (← translated evaluator text (← given.first name))
      | "maketrans" => return some (← mapping given)
      | _ => return spelling false text name

/-- The octets that a text of hexadecimal digits spells. -/
def octetsOfHex? : Text → Option Text
  | [] => some []
  | [_] => none
  | a :: b :: rest =>
      if isHexDigit a && isHexDigit b then do
        return Char.ofNat (digitValue a * 16 + digitValue b) :: (← octetsOfHex? rest)
      else none

/-- Routines of octets. -/
def callOctets (octets : Text) (name : Text) (given : Given) : Run (Option Value) := do
  match ← searching evaluator true octets name given with
  | some value => return some value
  | none =>
  match ← parting evaluator true octets name given with
  | some value => return some value
  | none =>
  match ← trimming evaluator true octets name given with
  | some value => return some value
  | none =>
      match String.ofList name with
      | "decode" =>
          let encoding ← textIn false (given.get 0 "encoding" (.text "utf-8"))
          let errors ← textIn false (given.get 1 "errors" (.text "strict"))
          return some (.text (← decodeOctets encoding errors octets))
      | "hex" =>
          let digits := octets.map fun c => hexOf 2 c.toNat
          match given.some? 0 "sep" with
          | some mark =>
              let mark ← shown evaluator mark
              return some (.text (List.intercalate mark digits))
          | none => return some (.text digits.flatten)
      | "fromhex" =>
          let text ← textIn false (← given.first name)
          match octetsOfHex? (text.filter fun c => !isBlankChar c) with
          | some octets => return some (.octets octets)
          | none =>
              let place := (text.findIdx? fun c => !isHexDigit c && !isBlankChar c).getD text.length
              failValue ("non-hexadecimal number found in fromhex() arg at position ".toList ++
                Text.ofNat place)
      | "translate" =>
          let table ← textIn true (← given.first name)
          let dropped ← match given.some? 1 "delete" with
            | some value => textIn true value
            | none => pure []
          let kept := octets.filter fun c => !dropped.elem c
          return some (.octets (kept.map fun c => table.getD c.toNat c))
      | _ => return spelling true octets name

end ShaderCost.Script.Indented
