import ShaderCost.Script.Indented.Attributes
import ShaderCost.Script.Indented.Files

/-!
Values that come one after the other: of what there are such values, what the next one is, and all
of them at once.
-/

namespace ShaderCost.Script.Indented

variable (evaluator : Evaluator)

/-- The part of an entry that is asked for. -/
def sideOf (side : Side) (key value : Value) : Value :=
  match side with
  | .keys => key
  | .values => value
  | .entries => .tuple [key, value]

/-- How many whole numbers a range has. -/
def rangeSize (start stop step : Int) : Nat :=
  if 0 < step then ((stop - start + step - 1) / step).toNat
  else if step < 0 then ((start - stop - step - 1) / (-step)).toNat
  else 0

def notIterable {α : Type} (value : Value) : Run α := do
  failType ('\'' :: (← typeName value) ++ "' object is not iterable".toList)

/-- What gives the values of a value one after the other. -/
def iterate (value : Value) : Run Value := do
  let items (values : List Value) : Run Value := make (.iterator (.items values))
  let ofContent (value : Value) (place : Nat) : Run Value := do
    match ← readableAt place with
    | .list _ => make (.iterator (.list place 0))
    | .buffer octets => items (octets.map fun c => .ofNat c.toNat)
    | .table entries => make (.iterator (.entries place .keys entries.keys))
    | .set entries _ => items (setOrder entries)
    | .range start stop step => make (.iterator (.range start step (rangeSize start stop step)))
    | .view table side =>
        match ← readableAt table with
        | .table entries => make (.iterator (.entries table side entries.keys))
        | _ => items []
    | .iterator _ | .series _ | .handle _ | .sheet _ => return value
    | _ => notIterable value
  match value with
  | .text text => items (text.map fun c => .text [c])
  | .octets text => items (text.map fun c => .ofNat c.toNat)
  | .tuple values => items values
  | .object place =>
      match ← callOwn? evaluator value "__iter__" [] with
      | some iterator => return iterator
      | none =>
          if (← ownMember? value "__getitem__").isSome then
            make (.iterator (.indexed value 0))
          else
            match ← contentAt place with
            | .kind _ =>
                match ← attribute? evaluator value "__values__" with
                | some code => evaluator.call code [] []
                | none => notIterable value
            | .member _ _ _ =>
                match ← coreOf value with
                | .object core => if core = place then notIterable value else ofContent value core
                | .text text => items (text.map fun c => .text [c])
                | .octets text => items (text.map fun c => .ofNat c.toNat)
                | .tuple values => items values
                | _ => notIterable value
            | _ => ofContent value place
  | value => notIterable value

/-- Whether a fault ends a series. -/
def isEnd (fault : Value) : Run Bool := isInstance fault (.type "StopIteration")

/-- Does something that a fault of some type may end. -/
def unlessRaised {α : Type} (type : Text) (action : Run α) : Run (Option α) :=
  tryCatch (some <$> action) fun leave => match leave with
    | .raised fault => do
        if ← isInstance fault (.type type) then return none else throw leave
    | leave => throw leave

def setIteration (place : Nat) (iteration : Iteration) : Run Unit :=
  setContent place (.iterator iteration)

/-- The next values of some sources, unless one of them has none. The number tells how many had. -/
def nextOfEach : List Value → Run (List Value × Nat × Bool)
  | [] => return ([], 0, true)
  | source :: rest => do
      match ← evaluator.next source with
      | some value =>
          let (values, count, isWhole) ← nextOfEach rest
          return (value :: values, count + 1, isWhole)
      | none => return ([], 0, false)

/-- The next value that an iteration gives. -/
def nextOfIteration (place : Nat) (iteration : Iteration) : Run (Option Value) := do
  match iteration with
  | .items [] => return none
  | .items (value :: values) =>
      setIteration place (.items values)
      return some value
  | .list list index =>
      match ← contentAt list with
      | .list items =>
          match items[index]? with
          | some value =>
              setIteration place (.list list (index + 1))
              return some value
          | none =>
              setIteration place (.items [])
              return none
      | _ => return none
  | .range next step left =>
      match left with
      | 0 => return none
      | left + 1 =>
          setIteration place (.range (next + step) step left)
          return some (.whole next)
  | .entries table side keys =>
      match keys, ← readableAt table with
      | [], _ => return none
      | key :: keys, .table entries =>
          setIteration place (.entries table side keys)
          match entries.get? key with
          | some (key, value) => return some (sideOf side key value)
          | none => fail "RuntimeError" "dictionary changed size during iteration"
      | _, _ => return none
  | .mapped code sources =>
      match ← nextOfEach evaluator sources with
      | (values, _, true) => some <$> evaluator.call code values []
      | _ => return none
  | .chosen code source =>
      let rec choose : (fuel : Nat) → Run (Option Value)
        | 0 => return none
        | fuel + 1 => do
            match ← evaluator.next source with
            | none => return none
            | some value =>
                let verdict ← match code with
                  | .none => pure value
                  | code => evaluator.call code [value] []
                if ← truthOf evaluator verdict then return some value else choose fuel
      choose evaluator.limit
  | .joined sources isStrict =>
      match ← nextOfEach evaluator sources with
      | (values, count, true) => return if count = 0 then none else some (.tuple values)
      | (_, count, false) =>
          if isStrict then
            let shorter (number : Nat) : Text :=
              "zip() argument ".toList ++ Text.ofNat number ++ " is shorter than argument".toList ++
                (if number = 2 then " 1".toList else "s 1-".toList ++ Text.ofNat (number - 1))
            if count != 0 then failValue (shorter (count + 1))
            else
              for (source, number) in (sources.drop 1).zip (List.range sources.length) do
                if (← evaluator.next source).isSome then
                  failValue ("zip() argument ".toList ++ Text.ofNat (number + 2) ++
                    " is longer than argument".toList ++
                    (if number = 0 then " 1".toList else "s 1-".toList ++ Text.ofNat (number + 1)))
          return none
  | .numbered next source =>
      match ← evaluator.next source with
      | some value =>
          setIteration place (.numbered (next + 1) source)
          return some (.tuple [.whole next, value])
      | none => return none
  | .called code last =>
      let value ← evaluator.call code [] []
      if ← same evaluator value last then
        setIteration place (.items [])
        return none
      else return some value
  | .indexed object next =>
      setIteration place (.indexed object (next + 1))
      match ← unlessRaised "IndexError" (callOwn? evaluator object "__getitem__" [.ofNat next]) with
      | some value => return value
      | none => return none

/-- The next value of what gives values, series apart. -/
def nextValue (value : Value) : Run (Option Value) := do
  liftM (n := Run) (spend 1)
  match value with
  | .object place =>
      match ← contentAt place with
      | .iterator iteration => nextOfIteration evaluator place iteration
      | .handle _ | .sheet _ =>
          let line ← match ← contentAt place with
            | .handle { isText := false, .. } => takeOctetLine place
            | _ => takeText place lineOf
          if line.isEmpty then return none else some <$> filed place line
      | _ =>
          match ← unlessRaised "StopIteration" (callOwn? evaluator value "__next__" []) with
          | some (some value) => return some value
          | some none =>
              failType ('\'' :: (← typeName value) ++ "' object is not an iterator".toList)
          | none => return none
  | value => failType ('\'' :: (← typeName value) ++ "' object is not an iterator".toList)

/-- All values that are left, after those before, which come with the last one first. -/
def remaining (iterator : Value) : (fuel : Nat) → (before : List Value) → Run (List Value)
  | 0, before => return before.reverse
  | fuel + 1, before => do
      match ← evaluator.next iterator with
      | some value => remaining iterator fuel (value :: before)
      | none => return before.reverse

/-- All values of a value. -/
def valuesOf (value : Value) : Run (List Value) := do
  let slowly : Run (List Value) := do
    remaining evaluator (← iterate evaluator value) evaluator.limit []
  match value with
  | .tuple values => return values
  | .object place =>
      match ← readableAt place with
      | .list items => return items.toList
      | .table entries => return entries.values.map Prod.fst
      | _ => slowly
  | _ => slowly

/-! Values taken apart. -/

/-- As many values as are wanted. -/
def unpack (count : Nat) (value : Value) : Run (List Value) := do
  let iterator ← match ← unlessRaised "TypeError" (iterate evaluator value) with
    | some iterator => pure iterator
    | none => failType ("cannot unpack non-iterable ".toList ++ (← typeName value) ++
        " object".toList)
  let rec take : (left : Nat) → (before : List Value) → Run (List Value)
    | 0, before => do
        match ← evaluator.next iterator with
        | some _ =>
            failValue ("too many values to unpack (expected ".toList ++ Text.ofNat count ++ [')'])
        | none => return before.reverse
    | left + 1, before => do
        match ← evaluator.next iterator with
        | some value => take left (value :: before)
        | none =>
            failValue ("not enough values to unpack (expected ".toList ++ Text.ofNat count ++
              ", got ".toList ++ Text.ofNat before.length ++ [')'])
  take count []

/-- Values of which some come before and some behind all that are left. -/
def unpackAround (before behind : Nat) (value : Value) :
    Run (List Value × List Value × List Value) := do
  let values ← valuesOf evaluator value
  let count := values.length
  if count < before + behind then
    failValue ("not enough values to unpack (expected at least ".toList ++
      Text.ofNat (before + behind) ++ ", got ".toList ++ Text.ofNat count ++ [')'])
  return (values.take before, (values.drop before).take (count - before - behind),
    values.drop (count - behind))

end ShaderCost.Script.Indented

/-!
Values in texts: by formats that tell width, sign and precision, by marks with a letter, and by
fields in braces.
-/

namespace ShaderCost.Script.Indented

/-- How a value is to be written. -/
structure Form where
  fill : Char := ' '
  alignment : Option Char := none
  sign : Char := '-'
  isAlternate : Bool := false
  width : Nat := 0
  /-- What stands between groups of digits. -/
  grouping : Option Char := none
  precision : Option Nat := none
  letter : Option Char := none

namespace Form

def isAlignment (c : Char) : Bool := c = '<' || c = '>' || c = '=' || c = '^'

/-- Reads a form. -/
def ofText? (text : Text) : Option Form :=
  let (form, rest) : Form × Text := match text with
    | fill :: c :: rest =>
        if isAlignment c then ({ fill, alignment := some c }, rest)
        else if isAlignment fill then ({ alignment := some fill }, c :: rest)
        else ({}, text)
    | [c] => if isAlignment c then ({ alignment := some c }, []) else ({}, text)
    | [] => ({}, [])
  let (sign, rest) : Char × Text := match rest with
    | c :: behind => if c = '+' || c = '-' || c = ' ' then (c, behind) else ('-', rest)
    | [] => ('-', [])
  let rest := if rest.head? = some 'z' then rest.drop 1 else rest
  let (isAlternate, rest) : Bool × Text := match rest with
    | '#' :: rest => (true, rest)
    | rest => (false, rest)
  let isZero := rest.head? = some '0'
  let form : Form := if isZero && form.alignment.isNone then
      { form with fill := '0', alignment := some '=' } else form
  let digits := rest.takeWhile Char.isDigit
  let rest := rest.drop digits.length
  let (grouping, rest) : Option Char × Text := match rest with
    | c :: behind => if c = ',' || c = '_' then (some c, behind) else (none, rest)
    | [] => (none, [])
  let (precision, rest) : Option Nat × Text := match rest with
    | '.' :: behind =>
        let digits := behind.takeWhile Char.isDigit
        if digits.isEmpty then (none, rest)
          else (some (digitsIn 10 digits), behind.drop digits.length)
    | rest => (none, rest)
  let form : Form := { form with
    sign, isAlternate, width := digitsIn 10 digits, grouping, precision }
  match rest with
  | [] => some form
  | [letter] => if letter = '.' then none else some { form with letter := some letter }
  | _ => none

/-- A text with what fills its width. -/
def pad (form : Form) (usual : Char) (text : Text) : Text :=
  let missing := form.width - text.length
  let fill (count : Nat) : Text := List.replicate count form.fill
  match form.alignment.getD usual with
  | '<' => text ++ fill missing
  | '^' => fill (missing / 2) ++ text ++ fill (missing - missing / 2)
  | _ => fill missing ++ text

/-- Digits in groups, the last one of which is whole. -/
def grouped (size : Nat) (mark : Char) (digits : Text) : Text :=
  let rec go : (count : Nat) → Text → Text
    | _, [] => []
    | count, c :: rest =>
        if count != 0 && count % size = 0 then mark :: c :: go (count + 1) rest
        else c :: go (count + 1) rest
  (go 0 digits.reverse).reverse

/-- Digits with as many zeros in front, in groups, that they fill a width. -/
def widened (size : Nat) (mark : Option Char) (width : Nat) (digits : Text) : Text :=
  match mark with
  | none => List.replicate (width - digits.length) '0' ++ digits
  | some mark =>
      let counts := (List.range (width + 1)).map (digits.length + ·)
      let lengthFor (count : Nat) : Nat := count + (count - 1) / size
      let count := (counts.find? fun count => width ≤ lengthFor count).getD digits.length
      grouped size mark (List.replicate (count - digits.length) '0' ++ digits)

/-- A number of digits before a point and what comes behind them. -/
def number (form : Form) (isNegative : Bool) (mark : Text) (size : Nat) (digits behind : Text) :
    Text :=
  let sign : Text := if isNegative then ['-'] else if form.sign = '-' then [] else [form.sign]
  let front := sign ++ mark
  if form.alignment = some '=' && form.fill = '0' then
    front ++ widened size form.grouping (form.width - front.length - behind.length) digits ++ behind
  else
    let body := (match form.grouping with
      | some mark => grouped size mark digits
      | none => digits) ++ behind
    if form.alignment = some '=' then
      front ++ List.replicate (form.width - front.length - body.length) form.fill ++ body
    else form.pad '>' (front ++ body)

end Form

/-- The digits of a number that is not negative, as a letter says. -/
def realDigits (form : Form) (value : Float) : Text :=
  match (encode value).meaning with
  | .nan => "nan"
  | .infinite _ => "inf"
  | .finite _ mantissa exponent =>
      let places := form.precision.getD 6
      match form.letter with
      | some 'f' | some 'F' => Floating.fixed form.isAlternate places mantissa exponent
      | some 'e' | some 'E' => Floating.scientific form.isAlternate places mantissa exponent
      | some 'g' | some 'G' | some 'n' =>
          Floating.general form.isAlternate places mantissa exponent
      | some '%' =>
          let (numerator, denominator) := Floating.quotient mantissa exponent
          let digits := Text.ofNat
            (Binary64.roundQuotient (numerator * 100 * tenTo places) denominator)
          let padded := List.replicate (places + 1 - digits.length) '0' ++ digits
          let split := padded.length - places
          Floating.withPoint form.isAlternate (padded.take split) (padded.drop split) ++ ['%']
      | _ =>
          match form.precision with
          | none => realText value.abs
          | some precision =>
              let text := Floating.general form.isAlternate (max precision 1) mantissa exponent
              let place := (Floating.digitsOf (max precision 1 - 1) mantissa exponent).2
              if text.elem '.' || text.elem 'e' then text
              else if (max precision 1 : Int) - 1 ≤ place && mantissa != 0 then
                Floating.scientific form.isAlternate (max precision 1 - 1) mantissa exponent
              else text ++ ".0".toList

def isRealNegative (value : Float) : Bool := !value.isNaN && (encode value).isNegative

/-- A number as a form says. -/
def formReal (form : Form) (value : Float) : Text :=
  let digits := realDigits form value
  let digits := if form.letter.any Char.isUpper then digits.map Char.toUpper else digits
  let whole := digits.takeWhile Char.isDigit
  form.number (isRealNegative value) [] 3 whole (digits.drop whole.length)

def unknownLetter {α : Type} (letter : Char) (type : Text) : Run α :=
  failValue ("Unknown format code '".toList ++ letter :: "' for object of type '".toList ++ type ++
    ['\''])

/-- A whole number as a form says. -/
def formWhole (form : Form) (value : Int) : Run Text := do
  let inBase (base : Nat) (mark : Text) (size : Nat) (isUpper : Bool) : Run Text := do
    if form.precision.isSome then
      failValue "Precision not allowed in integer format specifier"
    let digits := Nat.toDigits base value.natAbs
    let digits := if isUpper then digits.map Char.toUpper else digits
    return form.number (value < 0) (if form.isAlternate then mark else []) size digits []
  match form.letter with
  | none | some 'd' | some 'n' => inBase 10 [] 3 false
  | some 'x' => inBase 16 "0x" 4 false
  | some 'X' => inBase 16 "0X" 4 true
  | some 'o' => inBase 8 "0o" 4 false
  | some 'b' => inBase 2 "0b" 4 false
  | some 'c' => return form.pad '<' [Char.ofNat value.toNat]
  | some letter =>
      if "eEfFgG%".toList.elem letter then return formReal form (realOf value)
      else unknownLetter letter "int"

def formText (form : Form) (text : Text) : Run Text := do
  match form.letter with
  | some letter => if letter != 's' then unknownLetter letter "str"
  | none => pure ()
  if form.alignment = some '=' then
    if form.fill = '0' then
      let form : Form := { form with alignment := some '<' }
      return form.pad '<' (text.take (form.precision.getD text.length))
    failValue "'=' alignment not allowed in string format specifier"
  if form.sign != '-' then failValue "Sign not allowed in string format specifier"
  return form.pad '<' (text.take (form.precision.getD text.length))

variable (evaluator : Evaluator)

/-- A value as a format says. -/
def formatted (value : Value) (format : Text) : Run Text := do
  let typed (form : Form → Run Text) : Run Text := do
    match Form.ofText? format with
    | some found => form found
    | none =>
        failValue ("Invalid format specifier '".toList ++ format ++
          "' for object of type '".toList ++
          (← typeName value) ++ ['\''])
  match value with
  | .text text => if format.isEmpty then return text else typed fun form => formText form text
  | .whole number =>
      if format.isEmpty then return Text.ofInt number else typed fun form => formWhole form number
  | .bool truth =>
      if format.isEmpty then shown evaluator value
      else typed fun form =>
        if form.letter = some 's' then formText form (if truth then "True" else "False")
        else formWhole form (if truth then 1 else 0)
  | .real number =>
      if format.isEmpty then return realText number
      else typed fun form => do
        match form.letter with
        | some letter =>
            if !"eEfFgGn%".toList.elem letter then unknownLetter letter "float"
        | none => pure ()
        return formReal form number
  | value =>
      match ← callOwn? evaluator value "__format__" [.text format] with
      | some answer => shown evaluator answer
      | none =>
          if format.isEmpty then shown evaluator value
          else
            match ← coreOf value with
            | .text _ => typed fun form => do formText form (← shown evaluator value)
            | .whole number => typed fun form => formWhole form number
            | .real number => typed fun form => return formReal form number
            | _ =>
                failType ("unsupported format string passed to ".toList ++ (← typeName value) ++
                  ".__format__".toList)

/-- A value as a conversion says. -/
def converted (conversion : Option Char) (value : Value) : Run Value := do
  match conversion with
  | some 'r' => return .text (← written evaluator value)
  | some 's' => return .text (← shown evaluator value)
  | some 'a' => return .text (plainlyWritten (← written evaluator value))
  | _ => return value

/-! Marks with a letter. -/

/-- What is filled into a text: values that are left, and a table of them. -/
structure Supply where
  left : List Value
  table : Option Value

def Supply.take (supply : Supply) : Run (Value × Supply) := do
  match supply.left with
  | value :: left => return (value, { supply with left })
  | [] => failType "not enough arguments for format string"

/-- A number for a mark with a letter. -/
def numberFor (letter : Char) (value : Value) : Run Value := do
  let core ← coreOf value
  match core with
  | .whole _ | .real _ | .bool _ => return core
  | core =>
      match ← callOwn? evaluator core "__index__" [] with
      | some answer => return answer
      | none =>
          let title : Text := if "eEfFgG".toList.elem letter then "must be real number, not " else
            '%' :: letter :: " format: a real number is required, not ".toList
          failType (title ++ (← typeName value))

def realFor (value : Value) : Float :=
  match value with
  | .real value => value
  | value => realOf (value.whole?.getD 0)

/-- A value as a letter and the signs before it say. -/
def marked (isOctets : Bool) (flags : Text) (width : Nat) (precision : Option Nat) (letter : Char)
    (value : Value) : Run Text := do
  let placing : Format.Placing := {
    left := flags.elem '-', zeros := flags.elem '0', plus := flags.elem '+'
    space := flags.elem ' ', isAlternate := flags.elem '#', width, precision }
  let plain (text : Text) : Text := placing.pad (text.take (precision.getD text.length))
  match letter with
  | 's' =>
      match isOctets, value with
      | true, .octets octets => return plain octets
      | _, value => return plain (← shown evaluator value)
  | 'b' =>
      match value with
      | .octets octets => return plain octets
      | value => return plain (← shown evaluator value)
  | 'r' => return plain (← written evaluator value)
  | 'a' => return plain (plainlyWritten (← written evaluator value))
  | 'c' =>
      match value with
      | .text text => return placing.pad text
      | value =>
          match value.whole? with
          | some code => return placing.pad [Char.ofNat code.toNat]
          | none => failType "%c requires int or char"
  | _ =>
      if !"diuoxXeEfFgG".toList.elem letter then
        failValue ("unsupported format character '".toList ++ letter :: "' (0x".toList ++
          Nat.toDigits 16 letter.toNat ++ ")".toList)
      let number ← numberFor evaluator letter value
      let form : Form := {
        fill := if placing.zeros && !placing.left then '0' else ' '
        alignment := if placing.left then some '<' else if placing.zeros then some '=' else none
        sign := if placing.plus then '+' else if placing.space then ' ' else '-'
        isAlternate := placing.isAlternate, width
        precision := precision, letter := some letter }
      if "eEfFgG".toList.elem letter then return formReal form (realFor number)
      else
        let whole : Int := match number with
          | .real number => truncated number
          | number => number.whole?.getD 0
        let base : Nat := match letter with
          | 'o' => 8
          | 'x' | 'X' => 16
          | _ => 10
        let digits := Nat.toDigits base whole.natAbs
        let digits := List.replicate (precision.getD 0 - digits.length) '0' ++ digits
        let digits := if letter = 'X' then digits.map Char.toUpper else digits
        let mark : Text := if !placing.isAlternate then [] else match letter with
          | 'o' => "0o"
          | 'x' => "0x"
          | 'X' => "0X"
          | _ => []
        return form.number (whole < 0) mark 3 digits []

/-- Fills the marks of a text with values. The text before it comes with its last character
first. -/
def fillMarks (isOctets : Bool) : (fuel : Nat) → Text → Supply → (before : Text) →
    Run (Text × Supply)
  | 0, _, supply, before | _ + 1, [], supply, before => return (before.reverse, supply)
  | fuel + 1, '%' :: rest, supply, before => do
      let (key, rest) : Option Text × Text := match rest with
        | '(' :: behind =>
            let name := behind.takeWhile (· != ')')
            (some name, behind.drop (name.length + 1))
        | rest => (none, rest)
      let flags := rest.takeWhile fun c => "-+ #0".toList.elem c
      let rest := rest.drop flags.length
      let count (rest : Text) (supply : Supply) : Run (Option Int × Text × Supply) := do
        match rest with
        | '*' :: rest =>
            let (value, supply) ← supply.take
            return (value.whole?, rest, supply)
        | rest =>
            let digits := rest.takeWhile Char.isDigit
            let value : Option Int := if digits.isEmpty then none else some (digitsIn 10 digits)
            return (value, rest.drop digits.length, supply)
      let (width, rest, supply) ← count rest supply
      let (precision, rest, supply) ← match rest with
        | '.' :: rest => do
            let (precision, rest, supply) ← count rest supply
            pure (some (precision.getD 0).toNat, rest, supply)
        | rest => pure (none, rest, supply)
      match rest.dropWhile fun c => "lhL".toList.elem c with
      | [] => failValue "incomplete format"
      | '%' :: rest => fillMarks isOctets fuel rest supply ('%' :: before)
      | letter :: rest =>
          let (value, supply) ← match key with
            | some key => do
                match supply.table with
                | some table =>
                    let key : Value := if isOctets then .octets key else .text key
                    let member ← attributeOf evaluator table "__getitem__"
                    pure (← evaluator.call member [key] [], { supply with left := [] })
                | none => failType "format requires a mapping"
            | none => supply.take
          let width := width.getD 0
          let flags := if width < 0 then '-' :: flags else flags
          let text ← marked evaluator isOctets flags width.natAbs precision letter value
          fillMarks isOctets fuel rest supply (text.reverse ++ before)
  | fuel + 1, c :: rest, supply, before => fillMarks isOctets fuel rest supply (c :: before)

/-- A text with its marks filled. -/
def interpolated (isOctets : Bool) (text : Text) (value : Value) : Run Text := do
  let core ← coreOf value
  let table : Option Value ← match core with
    | .object place =>
        match ← contentAt place with
        | .table _ | .scope _ | .names _ => pure (some value)
        | .member _ _ _ =>
            pure (if (← ownMember? value "__getitem__").isSome then some value else none)
        | _ => pure none
    | _ => pure none
  let left : List Value := match core with
    | .tuple values => values
    | _ => [value]
  let (text, supply) ← fillMarks evaluator isOctets (text.length + 1) text ⟨left, table⟩ []
  if table.isNone && !supply.left.isEmpty then
    failType "not all arguments converted during string formatting"
  return text

/-! Fields in braces. -/

/-- What fields are filled with, and the number of the next one. -/
structure Fields where
  values : List Value
  named : Text → Run (Option Value)
  next : Nat

/-- Where a field leads behind its first name. -/
def followField : (fuel : Nat) → Text → Value → Run Value
  | 0, _, value | _ + 1, [], value => return value
  | fuel + 1, '.' :: rest, value => do
      let name := rest.takeWhile fun c => c != '.' && c != '['
      followField fuel (rest.drop name.length) (← attributeOf evaluator value name)
  | fuel + 1, '[' :: rest, value => do
      let name := rest.takeWhile (· != ']')
      let index : Value := if !name.isEmpty && name.all Char.isDigit then
          .ofNat (digitsIn 10 name) else .text name
      let member ← attributeOf evaluator value "__getitem__"
      followField fuel (rest.drop (name.length + 1)) (← evaluator.call member [index] [])
  | _ + 1, _ :: _, _ => failValue "Only '.' or '[' may follow ']' in format field specifier"

/-- The value of a field, and the fields behind it. -/
def valueOfField (name : Text) (fields : Fields) : Run (Value × Fields) := do
  let first := name.takeWhile fun c => c != '.' && c != '['
  let rest := name.drop first.length
  let outOfRange {α : Type} (index : Nat) : Run α :=
    fail "IndexError" ("Replacement index ".toList ++ Text.ofNat index ++
      " out of range for positional args tuple".toList)
  let (value, fields) ←
    if first.isEmpty then do
      match fields.values[fields.next]? with
      | some value => pure (value, { fields with next := fields.next + 1 })
      | none => outOfRange fields.next
    else if first.all Char.isDigit then do
      match fields.values[digitsIn 10 first]? with
      | some value => pure (value, fields)
      | none => outOfRange (digitsIn 10 first)
    else do
      match ← fields.named first with
      | some value => pure (value, fields)
      | none => raiseWith "KeyError" [.text first]
  return (← followField evaluator (rest.length + 1) rest value, fields)

/-- The text up to the brace that closes a field, with what follows. -/
def takeField : (depth : Nat) → Text → (before : Text) → Option (Text × Text)
  | _, [], _ => none
  | depth, '\x7b' :: rest, before => takeField (depth + 1) rest ('\x7b' :: before)
  | 0, '\x7d' :: rest, before => some (before.reverse, rest)
  | depth + 1, '\x7d' :: rest, before => takeField depth rest ('\x7d' :: before)
  | depth, c :: rest, before => takeField depth rest (c :: before)

/-- Fills the fields of a text. -/
def fillFields : (depth : Nat) → (fuel : Nat) → Text → Fields → (before : Text) →
    Run (Text × Fields)
  | _, 0, _, fields, before | _, _ + 1, [], fields, before => return (before.reverse, fields)
  | depth, fuel + 1, '\x7b' :: '\x7b' :: rest, fields, before =>
      fillFields depth fuel rest fields ('\x7b' :: before)
  | depth, fuel + 1, '\x7d' :: '\x7d' :: rest, fields, before =>
      fillFields depth fuel rest fields ('\x7d' :: before)
  | _, _ + 1, '\x7d' :: _, _, _ => failValue "Single '\x7d' encountered in format string"
  | 0, _ + 1, '\x7b' :: _, _, _ => failValue "Max string recursion exceeded"
  | depth + 1, fuel + 1, '\x7b' :: rest, fields, before => do
      match takeField 0 rest [] with
      | none =>
          if rest.isEmpty then failValue "Single '\x7b' encountered in format string"
          else failValue "expected '\x7d' before end of string"
      | some (field, rest) =>
          let name := field.takeWhile fun c => c != ':' && c != '!'
          let behind := field.drop name.length
          let (conversion, behind) : Option Char × Text := match behind with
            | '!' :: c :: behind => (some c, behind)
            | behind => (none, behind)
          let (value, fields) ← valueOfField evaluator name fields
          let value ← converted evaluator conversion value
          let (format, fields) ← fillFields depth (behind.length + 1) (behind.drop 1) fields []
          let text ← formatted evaluator value format
          fillFields (depth + 1) fuel rest fields (text.reverse ++ before)
  | depth, fuel + 1, c :: rest, fields, before => fillFields depth fuel rest fields (c :: before)

/-- A text with its fields filled. -/
def filled (text : Text) (values : List Value) (named : Text → Run (Option Value)) : Run Text := do
  let (text, _) ← fillFields evaluator 3 (text.length + 1) text ⟨values, named, 0⟩ []
  return text

end ShaderCost.Script.Indented
