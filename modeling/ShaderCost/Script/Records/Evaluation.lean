import ShaderCost.Script.Records.Machine
import ShaderCost.Script.Utility.Clock

/-!
Carrying out programs on records: terms have values, statements have effects, and rules are tried in
order for each record. A utility does this with the programs and files that its arguments name.
-/

namespace ShaderCost.Script.Records

/-! Numbers. -/

/-- What is left of a number after as many times another one as fit, with the sign of the first. -/
def remainder (left right : Float) : Float :=
  match (encode left).meaning, (encode right).meaning with
  | .finite isNegative m e, .finite _ n f =>
      if n = 0 then 0.0 / 0.0
      else
        let lowest := min e f
        let rest := (m * twoTo (e - lowest).toNat) % (n * twoTo (f - lowest).toNat)
        decode (Binary64.ofRatio isNegative (rest * twoTo lowest.toNat) (twoTo (-lowest).toNat))
  | .finite .., .infinite _ => left
  | _, _ => 0.0 / 0.0

def compute (operation : Operation) (left right : Float) : Float :=
  match operation with
  | .add => left + right
  | .subtract => left - right
  | .multiply => left * right
  | .divide => left / right
  | .remainder => remainder left right
  | .power => Float.pow left right

/-- What is no number counts as the same as every number. -/
def compareNumbers (relation : Relation) (left right : Float) : Bool :=
  match relation with
  | .less => left < right
  | .atMost => !(right < left)
  | .same => !(left < right) && !(right < left)
  | .different => left < right || right < left
  | .greater => right < left
  | .atLeast => !(left < right)

def compareTexts (relation : Relation) (left right : Text) : Bool :=
  match relation with
  | .less => !Text.atMost right left
  | .atMost => Text.atMost left right
  | .same => left == right
  | .different => left != right
  | .greater => !Text.atMost left right
  | .atLeast => Text.atMost right left

def compareValues (relation : Relation) (left right : Value) : Run Bool := do
  match left.number?, right.number? with
  | some left, some right => return compareNumbers relation left right
  | _, _ => return compareTexts relation (← textOf left) (← textOf right)

def withoutPlaces (value : Float) : Float := if value < 0 then value.ceil else value.floor

/-- Part of a text, from a place on that is counted from one. What lies before the text is added to
the length. -/
def substring (text : Text) (first : Float) (length : Option Float) : Text :=
  let begin := wholeOf first
  let rest := text.drop (begin - 1).toNat
  match length with
  | none => rest
  | some length =>
      let length := wholeOf length
      rest.take (if begin < 1 then length - begin else length).toNat

/-- The place of a text inside another one, counted from one, or zero. -/
def placeOf (needle : Text) : Text → (place : Nat) → Nat
  | [], _ => 0
  | c :: rest, place =>
      if needle.isPrefixOf (c :: rest) then place else placeOf needle rest (place + 1)

/-- The next of numbers without an order that could be seen. -/
def nextRandom (state : UInt64) : UInt64 := state * 6364136223846793005 + 1442695040888963407

/-! Replacing. -/

/-- What stands in the place of an occurrence: an ampersand is the occurrence itself. -/
def filled (found : Text) : Text → Text
  | '\\' :: '&' :: rest => '&' :: filled found rest
  | '\\' :: '\\' :: rest => '\\' :: filled found rest
  | '&' :: rest => found ++ filled found rest
  | c :: rest => c :: filled found rest
  | [] => []

/-- A text with one occurrence or all of them replaced, and how many were. -/
def replaced (expression : Expression) (all : Bool) (replacement text : Text) : Text × Nat :=
  if all then
    let (occurrences, last) := expression.occurrencesIn text
    let pieces := occurrences.map fun occurrence =>
      occurrence.before ++ filled occurrence.found replacement
    (pieces.flatten ++ last, occurrences.length)
  else match expression.find? [] text with
    | some occurrence =>
        (occurrence.before ++ filled occurrence.found replacement ++ occurrence.behind, 1)
    | none => (text, 0)

/-! Terms. -/

def keyOf (values : List Value) : Run Key := do
  let state ← get
  let format := numberFormat state
  match values with
  | [value] => return value.toKey format
  | values =>
      let separator := textAt state ofKeySeparator
      return .text (List.intercalate separator (values.map (Value.toText format)))

def formatted (host : Host) (values : List Value) : Run Text := do
  match values with
  | [] => return []
  | format :: arguments =>
      let format ← textOf format
      let numbers := numberFormat (← get)
      match fill (Value.toText numbers) (format.length + 1) 1 format ⟨[], arguments⟩ with
      | .ok text => return text
      | .error (.tooFewArguments, _) =>
          failAtRecord host ("not enough arguments passed to sprintf(\"".toList ++ format ++
            "\")".toList)
      | .error (.improperConversion number, _) =>
          failAtRecord host ("improper conversion(number ".toList ++ Text.ofNat number ++
            ") in sprintf(\"".toList ++ format ++ "\")".toList)

/-- Prints after a format. What was made before a fault is printed as well. -/
def printFormatted (host : Host) (values : List Value) (put : Text → Run Unit) : Run Unit := do
  match values with
  | [] => return ()
  | format :: arguments =>
      let format ← textOf format
      let numbers := numberFormat (← get)
      match fill (Value.toText numbers) (format.length + 1) 1 format ⟨[], arguments⟩ with
      | .ok text => put text
      | .error (.tooFewArguments, text) =>
          put text
          failAtRecord host ("not enough arguments passed to printf(\"".toList ++ format ++
            "\")".toList)
      | .error (.improperConversion number, text) =>
          put text
          failAtRecord host ("improper conversion(number ".toList ++ Text.ofNat number ++
            ") in printf(\"".toList ++ format ++ "\")".toList)

/-- The values of functions that only compute. -/
def numericFeature (feature : Feature) (values : List Float) : Float :=
  match feature, values with
  | .sine, [value] => value.sin
  | .cosine, [value] => value.cos
  | .arcTangent, [left, right] => Float.atan2 left right
  | .exponential, [value] => value.exp
  | .logarithm, [value] => value.log
  | .whole, [value] => withoutPlaces value
  | .root, [value] => value.sqrt
  | _, _ => 0

/-- The value of a function that every program has. -/
def applyFeature (host : Host) (feature : Feature) (values : List Value) : Run Value := do
  match feature, values with
  | .length, [] => return .ofNat (← presentRecord).length
  | .length, value :: _ => return .ofNat (← textOf value).length
  | .index, [text, needle] =>
      let text ← textOf text
      return .ofNat (placeOf (← textOf needle) text 1)
  | .substring, text :: first :: rest =>
      return .text (substring (← textOf text) first.toNumber (rest.head?.map Value.toNumber))
  | .format, values => return .text (← formatted host values)
  | .lower, value :: _ => return .text ((← textOf value).map Char.toLower)
  | .upper, value :: _ => return .text ((← textOf value).map Char.toUpper)
  | .close, value :: _ => return .number (Float.ofInt (← close host (← textOf value)))
  | .system, value :: _ =>
      flushAll
      let (status, _) ← carryOut host (← textOf value) none false
      return .ofNat status
  | .flush, [] =>
      flushAll
      return .number 0
  | .flush, value :: _ =>
      flushAll
      let path ← textOf value
      let isKnown := (← get).outgoing.any fun item => item.path = path
      return .number (if isKnown then 0 else -1)
  | .random, _ =>
      let random := nextRandom (← get).random
      modify fun state => { state with random }
      return .number (Float.ofNat (random.toNat / twoTo 11) / Float.ofNat (twoTo 53))
  | .seed, values =>
      let before := (← get).seed
      let seed := match values with
        | value :: _ => value.toNumber
        | [] => 0
      modify fun state => { state with seed, random := seed.toBits }
      return .number before
  | .clock, _ =>
      let now : Calendar.Moment ← liftM (n := Run) Clock.ask
      return .number (Float.ofInt now.seconds)
  | .moment, values =>
      let format ← match values with
        | value :: _ => textOf value
        | [] => pure "%c".toList
      let shell ← getThe Shell
      let now := Clock.now shell
      let moment := match values with
        | _ :: value :: _ => { now with seconds := wholeOf value.toNumber, nanos := 0 }
        | _ => now
      let isPlain := match values with
        | [_, _, value] => value.toNumber != 0
        | _ => false
      let face := if isPlain then ⟨moment, "UTC"⟩ else Clock.faceOf shell moment
      return .text (face.text format)
  | .secondsOf, value :: _ =>
      let shell ← getThe Shell
      let seconds? := Calendar.secondsOfFields? (← textOf value)
      return .number (match seconds? with
        | some seconds => Float.ofInt (seconds - (Clock.zone shell).2)
        | none => -1)
  | feature, values => return .number (numericFeature feature (values.map Value.toNumber))

/-- Puts a place where an expression was found into variables. -/
def noteFound (host : Host) (occurrence : Option Expression.Occurrence) : Run Value := do
  let (start, length) : Float × Float := match occurrence with
    | some occurrence =>
        (Float.ofNat (occurrence.before.length + 1), Float.ofNat occurrence.found.length)
    | none => (0, -1)
  store host (.shared ofFoundStart) (.number start)
  store host (.shared ofFoundLength) (.number length)
  return .number start

/-- A place that a value is stored in, with what it depends on worked out. -/
inductive Slot where
  | name (name : Name)
  | element (table : Nat) (key : Key)
  | field (number : Nat)

def loadSlot (host : Host) : Slot → Run Value
  | .name name => load host name
  | .field number => field host number
  | .element table key => onTable table fun table =>
      match table.find true key with
      | (some place, table) => (table.get place, table)
      | (none, table) => (.unset, table)

def storeSlot (host : Host) (value : Value) : Slot → Run Unit
  | .name name => store host name value
  | .field number => setField host number value
  | .element table key => onTable table fun table => ((), table.insert key value)

/-- Puts a record that was read where it belongs. The result is that of the reading. -/
def receive (host : Host) (slot : Option Slot) (record : Option Text) : Run Value := do
  match record with
  | none => return .number 0
  | some record =>
      match slot with
      | some slot => storeSlot host (.input record) slot
      | none => setRecord record
      return .number 1

/-- Reads a record of a file. -/
def readFrom (host : Host) (path : Text) : Run (Option (Option Text)) := do
  let isMain := path = "-" && (← get).feed.any fun feed => feed.isInput
  if isMain then return some none
  let feed? ← match (← get).readers.lookup path with
    | some feed => pure (some feed)
    | none =>
        if path = "-" || path = "/dev/stdin" then pure (some ⟨[], true⟩)
        else match ← Utility.content path with
          | .ok text => pure (some ⟨text, false⟩)
          | .error .isDirectory => fail host "read error (Is a directory)"
          | .error _ => pure none
  match feed? with
  | none => return none
  | some feed =>
      let (record, feed) ← takeRecord host feed
      modify fun state => { state with
        readers := (path, feed) :: state.readers.filter fun entry => entry.1 != path }
      return some record

/-- Does something again and again until it says that it is done. -/
def repeatUntil (action : Run Bool) : (limit : Nat) → Run Unit
  | 0 => throw .failed
  | limit + 1 => do
      spend 1
      if ← action then return () else repeatUntil action limit

/-- Carries out the body of a loop. The result tells whether the loop is left. -/
def asRound (body : Run Unit) : Run Bool :=
  tryCatch (do
    body
    return false)
    fun leave => match leave with
      | .brokeOff => return true
      | .wentOn => return false
      | leave => throw leave

/-- Does something for each of some keys, until it says that it is done. -/
def untilLeft (action : Text → Run Bool) : List Text → Run Unit
  | [] => return ()
  | key :: keys => do
      spend 1
      if ← action key then return () else untilLeft action keys

/-- Carries out the body of a routine with variables of its own. -/
def asRoutine (own : Array Cell) (body : Run Unit) : Run Value := do
  let before := (← get).own
  modify fun state => { state with own }
  let value ← tryCatch (do
    body
    return .unset)
    fun leave => match leave with
      | .returned value => return value
      | leave => throw leave
  modify fun state => { state with own := before }
  return value

mutual

def evaluate (host : Host) (fuel : Nat) (term : Term) : Run Value :=
  match fuel with
  | 0 => fail host "function call nesting too deep"
  | fuel + 1 => do
      let number (term : Term) : Run Float := do return (← evaluate host fuel term).toNumber
      let isTrue (term : Term) : Run Bool := do return (← evaluate host fuel term).isTrue
      match term with
      | .number value => return .number value
      | .text text => return .text text
      | .finding expression =>
          let record ← presentRecord
          spend (record.length / charactersPerTurn)
          return .ofBool (expression.occursIn record)
      | .load target => loadSlot host (← slotOf host fuel target)
      | .store none target value =>
          let value ← evaluate host fuel value
          let slot ← slotOf host fuel target
          storeSlot host value slot
          return value
      | .store (some operation) target value =>
          let slot ← slotOf host fuel target
          let right ← number value
          let left := (← loadSlot host slot).toNumber
          let value := Value.number (compute operation left right)
          storeSlot host value slot
          return value
      | .step isBefore isUp target =>
          let slot ← slotOf host fuel target
          let before := (← loadSlot host slot).toNumber
          let after := if isUp then before + 1 else before - 1
          storeSlot host (.number after) slot
          return .number (if isBefore then after else before)
      | .negative term => return .number (-(← number term))
      | .numeric term => return .number (← number term)
      | .not term => return .ofBool (!(← isTrue term))
      | .compute operation left right =>
          let left ← number left
          let right ← number right
          return .number (compute operation left right)
      | .join left right =>
          let left ← textOf (← evaluate host fuel left)
          let right ← textOf (← evaluate host fuel right)
          spend ((left.length + right.length) / charactersPerTurn / 8)
          return .text (left ++ right)
      | .compare relation left right =>
          let left ← evaluate host fuel left
          let right ← evaluate host fuel right
          return .ofBool (← compareValues relation left right)
      | .matching wanted subject pattern =>
          let subject ← textOf (← evaluate host fuel subject)
          let expression ← patternOf host fuel pattern
          spend (subject.length / charactersPerTurn)
          return .ofBool (expression.occursIn subject == wanted)
      | .both left right =>
          if !(← isTrue left) then return .number 0
          return .ofBool (← isTrue right)
      | .either left right =>
          if ← isTrue left then return .number 1
          return .ofBool (← isTrue right)
      | .choose condition yes no =>
          if ← isTrue condition then evaluate host fuel yes else evaluate host fuel no
      | .contains table key =>
          let key ← keyOf (← key.mapM (evaluate host fuel))
          let table ← tableNumber table
          onTable table fun table =>
            let (place, table) := table.find false key
            (.ofBool place.isSome, table)
      | .call number arguments => call host fuel number arguments
      | .feature .length [.load (.name name)] =>
          let state ← get
          let cell := match name with
            | .shared place => state.shared.getD place default
            | .own place => state.own.getD place default
          match cell with
          | .table number => return .ofNat (state.tables.getD number .empty).size
          | .value _ => applyFeature host .length [← load host name]
      | .feature .search [subject, pattern] =>
          let subject ← textOf (← evaluate host fuel subject)
          let expression ← patternOf host fuel pattern
          spend (subject.length / charactersPerTurn)
          noteFound host (expression.find? [] subject)
      | .feature feature arguments =>
          let values ← arguments.mapM (evaluate host fuel)
          applyFeature host feature values
      | .split subject table separator =>
          let subject ← textOf (← evaluate host fuel subject)
          let pieces ← match separator with
            | none => piecesOf host (textAt (← get) ofFieldSeparator) subject
            | some (.finding expression) =>
                pure (if subject.isEmpty then [] else piecesBetween expression subject)
            | some separator => do
                piecesOf host (← textOf (← evaluate host fuel separator)) subject
          spend (subject.length / charactersPerTurn)
          let table ← tableNumber table
          setTable table (Table.ofValues (pieces.map Value.input))
          return .ofNat pieces.length
      | .replace all pattern replacement target =>
          let expression ← patternOf host fuel pattern
          let replacement ← textOf (← evaluate host fuel replacement)
          let slot ← slotOf host fuel target
          let text ← textOf (← loadSlot host slot)
          spend (text.length / charactersPerTurn)
          let (text, count) := replaced expression all replacement text
          if count != 0 then storeSlot host (.text text) slot
          return .ofNat count
      | .readNext target =>
          let slot ← target.mapM (slotOf host fuel)
          receive host slot (← nextRecord host mostSources)
      | .readFile target path =>
          let path ← textOf (← evaluate host fuel path)
          let slot ← target.mapM (slotOf host fuel)
          match ← readFrom host path with
          | some record => receive host slot record
          | none => return .number (-1)
      | .readCommand target command =>
          let command ← textOf (← evaluate host fuel command)
          let slot ← target.mapM (slotOf host fuel)
          let answer ← answerTo host command
          let (record, feed) ← takeRecord host answer.feed
          putAnswer { answer with feed }
          receive host slot record
      | .listed terms =>
          let values ← terms.mapM (evaluate host fuel)
          match ← keyOf values with
          | .text text => return .text text
          | .number number => return .number (Float.ofInt number)

/-- The place that a target stands for. -/
def slotOf (host : Host) (fuel : Nat) (target : Target) : Run Slot :=
  match fuel with
  | 0 => fail host "function call nesting too deep"
  | fuel + 1 => do
      match target with
      | .name name => return .name name
      | .element table key =>
          let key ← keyOf (← key.mapM (evaluate host fuel))
          return .element (← tableNumber table) key
      | .field number => return .field (← fieldNumber host (← evaluate host fuel number))

def patternOf (host : Host) (fuel : Nat) (pattern : Term) : Run Expression :=
  match fuel with
  | 0 => fail host "function call nesting too deep"
  | fuel + 1 => do
      match pattern with
      | .finding expression => return expression
      | pattern => expressionFor host (← textOf (← evaluate host fuel pattern))

/-- Calls a routine. Tables are handed on themselves, other arguments as copies. -/
def call (host : Host) (fuel : Nat) (number : Nat) (arguments : List Term) : Run Value :=
  match fuel with
  | 0 => fail host "function call nesting too deep"
  | fuel + 1 => do
      spend 1
      let routine := host.program.routines.getD number default
      let cells ← (arguments.zipIdx).mapM fun (argument, place) => do
        match argument with
        | .load (.name name) =>
            let state ← get
            let cell := match name with
              | .shared place => state.shared.getD place default
              | .own place => state.own.getD place default
            match cell with
            | .table number => return .table number
            | .value _ =>
                if routine.tables.getD place false then return .table (← tableNumber name)
                else return .value (← load host name)
        | argument => return .value (← evaluate host fuel argument)
      let missing := routine.parameters.length - cells.length
      let own := (cells ++ List.replicate missing default).toArray
      asRoutine own (execute host fuel routine.body)

/-- Puts a text out where an outlet leads. -/
def putTo (host : Host) (fuel : Nat) (outlet : Outlet) (text : Text) : Run Unit :=
  match fuel with
  | 0 => fail host "function call nesting too deep"
  | fuel + 1 => do
      let toFile (opening : Opening) (path : Term) : Run Unit := do
        let path ← textOf (← evaluate host fuel path)
        if path = "/dev/stdout" then emit text
        else if path = "/dev/stderr" then
          let _ ← write standardError text
        else holdBack (← outgoingFile host opening path) text
      match outlet with
      | .standard => emit text
      | .file path => toFile .replacing path
      | .appended path => toFile .appending path
      | .command command =>
          holdBack (← outgoingCommand (← textOf (← evaluate host fuel command))) text

def execute (host : Host) (fuel : Nat) (statement : Statement) : Run Unit :=
  match fuel with
  | 0 => fail host "function call nesting too deep"
  | fuel + 1 => do
      spend 1
      let isTrue (term : Term) : Run Bool := do return (← evaluate host fuel term).isTrue
      let round (body : Statement) : Run Bool := asRound (execute host fuel body)
      let limit := (← getThe Shell).machine.effort + 1
      match statement with
      | .block statements => statements.forM (execute host fuel)
      | .evaluate term =>
          let _ ← evaluate host fuel term
      | .print terms outlet =>
          let values ← terms.mapM (evaluate host fuel)
          let state ← get
          let text ←
            if terms.isEmpty then presentRecord
            else pure (List.intercalate (textAt state ofOutputSeparator)
              (values.map (Value.toText (outputFormat state))))
          putTo host fuel outlet (text ++ textAt state ofOutputEnd)
      | .printf terms outlet =>
          let values ← terms.mapM (evaluate host fuel)
          printFormatted host values (putTo host fuel outlet)
      | .choose condition yes no =>
          if ← isTrue condition then execute host fuel yes else execute host fuel no
      | .whileTrue condition body =>
          repeatUntil (do
            if ← isTrue condition then round body else return true) limit
      | .doWhile body condition =>
          repeatUntil (do
            if ← round body then return true
            return !(← isTrue condition)) limit
      | .loop start condition step body =>
          match start with
          | some start =>
              let _ ← evaluate host fuel start
          | none => pure ()
          repeatUntil (do
            let goesOn ← match condition with
              | some condition => isTrue condition
              | none => pure true
            if !goesOn then return true
            if ← round body then return true
            match step with
            | some step =>
                let _ ← evaluate host fuel step
            | none => pure ()
            return false) limit
      | .forEach name table body =>
          let table ← tableNumber table
          let keys ← onTable table Table.keys
          untilLeft (fun key => do
            store host name (.text key)
            round body) keys
      | .breakOff => throw .brokeOff
      | .goOn => throw .wentOn
      | .next => throw .next
      | .nextFile => throw .nextFile
      | .exit status =>
          match status with
          | some term =>
              let value := wholeOf (← evaluate host fuel term).toNumber
              modify fun state => { state with status := (value % 256).toNat }
          | none => pure ()
          throw .exit
      | .giveBack value =>
          match value with
          | some term => throw (.returned (← evaluate host fuel term))
          | none => throw (.returned .unset)
      | .delete table key =>
          let key ← keyOf (← key.mapM (evaluate host fuel))
          let table ← tableNumber table
          onTable table fun table => ((), table.erase key)
      | .clear table => setTable (← tableNumber table) .empty

end

/-- How deep terms, statements and calls go inside one another. -/
def deepest : Nat := 20000

/-! Rules. -/

/-- Whether a rule is for the record. -/
def isFor (host : Host) (guard : Guard) : Run Bool := do
  let holds (term : Term) : Run Bool := do return (← evaluate host deepest term).isTrue
  match guard with
  | .all => return true
  | .when condition => holds condition
  | .range number first last =>
      let isInside := (← get).ranges.getD number false
      if !isInside then
        if !(← holds first) then return false
      let ends ← holds last
      modify fun state => { state with ranges := state.ranges.set! number (!ends) }
      return true

/-- Tries all rules for the record. -/
def applyRules (host : Host) : Run Unit := do
  for rule in host.program.rules do
    if ← isFor host rule.guard then
      match rule.action with
      | some action => execute host deepest action
      | none => execute host deepest (.print [] .standard)

/-- Carries out the rules for all records. -/
def processRecords (host : Host) : Run Unit := do
  let limit := (← getThe Shell).machine.effort + 1
  repeatUntil (do
    match ← nextRecord host mostSources with
    | none => return true
    | some record =>
        spend (record.length / charactersPerTurn)
        setRecord record
        tryCatch (applyRules host) fun leave => match leave with
          | .next => return ()
          | .nextFile => modify fun state => { state with feed := none }
          | leave => throw leave
        return false) limit

/-- Carries out a program. Where it is left by its exit, what is to be done at the end is done all
the same. -/
def perform (host : Host) : Run Unit := do
  let program := host.program
  tryCatch (do
    program.starts.forM (execute host deepest)
    if !(program.rules.isEmpty && program.ends.isEmpty) then processRecords host)
    fun leave => match leave with
      | .exit => return ()
      | leave => throw leave
  program.ends.forM (execute host deepest)

end ShaderCost.Script.Records

namespace ShaderCost.Script.Utility

namespace Scanning

/-- What a call asks for. -/
structure Setup where
  /-- Files that hold the program. -/
  paths : List Text
  separator : Option Text
  assignments : List (Text × Text)
  operands : List Text

/-- Reads arguments. -/
def Setup.ofArguments (setup : Setup) : (fuel : Nat) → List Text → Except Text Setup
  | 0, _ | _ + 1, [] => .ok setup
  | fuel + 1, argument :: rest =>
      match argument with
      | ['-', '-'] => .ok { setup with operands := rest }
      | '-' :: letter :: attached =>
          if letter = 'f' || letter = 'v' || letter = 'F' then
            let value? : Option (Text × List Text) := match attached, rest with
              | [], value :: rest => some (value, rest)
              | [], [] => none
              | attached, rest => some (attached, rest)
            match value? with
            | none => .error ("option -".toList ++ letter :: " lacks argument".toList)
            | some (value, rest) =>
                if letter = 'f' then
                  ({ setup with paths := setup.paths ++ [value] } : Setup).ofArguments fuel rest
                else if letter = 'F' then
                  ({ setup with separator := some value } : Setup).ofArguments fuel rest
                else match assignment? value with
                  | some entry =>
                      ({ setup with assignments := setup.assignments ++ [entry] } : Setup
                        ).ofArguments fuel rest
                  | none => .error ("improper assignment: -v ".toList ++ value)
          else .error ("not an option: ".toList ++ argument)
      | _ => .ok { setup with operands := argument :: rest }

/-- The text of a program in files, and what messages say before the line. -/
def sourceOf (name : Text) : List Text → Step (Option Text)
  | [] => return some []
  | path :: paths => do
      match ← content path with
      | .ok text => return (← sourceOf name paths).map (text ++ ·)
      | .error error =>
          complain name ("cannot open \"".toList ++ path ++ "\" (".toList ++ wording error ++ [')'])
          return none

/-- The state that a program begins with. -/
def firstState (shell : Shell) (name : Text) (program : Records.Program)
    (arguments : List Text) : Records.State :=
  let entries := arguments.zipIdx.map fun (argument, place) =>
    (Records.Key.number (place + 1), Records.Value.input argument)
  let arguments := ((.number 0, .text name) :: entries).foldl (fun table (key, value) =>
    Records.Table.insert table key value) Records.Table.empty
  let environment := shell.environment.bindings.foldl (fun table (name, value) =>
    Records.Table.insert table (.text name) (.input value)) Records.Table.empty
  let known : List (Nat × Records.Cell) := [
    (Records.ofRecordCount, .value (.number 0)), (Records.ofFileRecordCount, .value (.number 0)),
    (Records.ofFieldSeparator, .value (.text " ")),
    (Records.ofRecordSeparator, .value (.text "\n")),
    (Records.ofOutputSeparator, .value (.text " ")), (Records.ofOutputEnd, .value (.text "\n")),
    (Records.ofKeySeparator, .value (.text "\x1c")), (Records.ofFoundStart, .value (.number 0)),
    (Records.ofFoundLength, .value (.number (-1))), (Records.ofNumberFormat, .value (.text "%.6g")),
    (Records.ofOutputFormat, .value (.text "%.6g")), (Records.ofEnvironment, .table 1),
    (Records.ofArgumentCount, .value (.ofNat arguments.size)), (Records.ofArguments, .table 0)]
  let shared := (List.range program.names.length).map fun place =>
    (known.lookup place).getD default
  { shared := shared.toArray, own := #[], tables := #[arguments, environment]
    record := [], isStale := false, fields := #[], isParted := true, separator := " ", feed := none
    next := 1, hasOpened := false, isOver := false, readers := [], answers := [], outgoing := []
    stream := 100, held := [], heldLength := 0, ranges := Array.replicate program.ranges false
    expressions := [], seed := 0, random := 0, usesInput := false, status := 0 }

end Scanning

/-- Carries out a program on records. -/
def awk (become : (program name : Text) → (arguments : List Text) → Step Unit) : Utility :=
    fun name arguments => do
  match Scanning.Setup.ofArguments ⟨[], none, [], []⟩ (arguments.length + 1) arguments with
  | .error problem =>
      complain name problem
      return 2
  | .ok setup =>
      let (text?, arguments) ← match setup.paths, setup.operands with
        | [], [] => pure (none, [])
        | [], text :: operands => pure (some text, operands)
        | paths, operands => pure (← Scanning.sourceOf name paths, operands)
      let some text := text? | return 2
      let title : Text := match setup.paths with
        | path :: _ => path ++ ": ".toList
        | [] => []
      match Records.Program.ofText text with
      | .error problems =>
          for problem in problems do complain name (title ++ problem)
          return 2
      | .ok program =>
          let host : Records.Host := ⟨name, program, become⟩
          let run : Records.Run Unit := do
            tryCatch (do
              match setup.separator with
              | some separator =>
                  let separator := Records.Token.unescaped (separator.length + 1) separator
                  Records.store host (.shared Records.ofFieldSeparator) (.text separator)
              | none => pure ()
              for (name, value) in setup.assignments do Records.assignNamed host name value
              Records.perform host)
              fun _ => pure ()
            Records.finishAll host
          let (_, state) ← (run.run).run (Scanning.firstState (← get) name program arguments)
          if state.usesInput then drainPipe
          return state.status

end ShaderCost.Script.Utility
