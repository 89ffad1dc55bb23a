import ShaderCost.Script.Records.Reader
import ShaderCost.Script.Records.Value
import ShaderCost.Script.Process
import ShaderCost.Script.Utility.Lines

/-!
Tables of values under keys. Entries lie in slots, by a hash of the text of the key and, for keys
that are numbers, by the number as well; inside a slot the one that was used last comes first. The
keys are listed slot by slot.
-/

namespace ShaderCost.Script.Records

inductive Key where
  | number (value : Int)
  | text (value : Text)

structure Table where
  cells : Array Value
  /-- For each slot the numbers in it, with the places of their values. -/
  byNumber : Array (List (Int × Nat))
  /-- For each slot the texts in it with their hashes and the places of their values. -/
  byText : Array (List (UInt32 × Text × Nat))
  size : Nat
  hasNumbers : Bool
  hasTexts : Bool

instance : Inhabited Table := ⟨⟨#[], #[], #[], 0, false, false⟩⟩

namespace Table

/-- How many slots a table has at first. -/
def firstSlots : Nat := 64

/-- How many entries there may be for each slot, before there are more slots. -/
def entriesPerSlot : Nat := 12

def empty : Table :=
  ⟨#[], Array.replicate firstSlots [], Array.replicate firstSlots [], 0, false, false⟩

def hash (text : Text) : UInt32 :=
  text.foldl (fun value c => (value ^^^ UInt32.ofNat c.toNat) * 16777619) 2166136261

def slots (table : Table) : Nat := table.byText.size

def numberSlot (table : Table) (key : Int) : Nat := (key % (table.slots : Int)).toNat

def textSlot (table : Table) (hash : UInt32) : Nat := hash.toNat % table.slots

/-- The first entry that passes a test, and the others. -/
def takeOut {α : Type} (test : α → Bool) : List α → (before : List α) → Option (α × List α)
  | [], _ => none
  | entry :: rest, before =>
      if test entry then some (entry, before.reverse ++ rest)
      else takeOut test rest (entry :: before)

/-- Lists twice as many, the second half with what does not stay in the first one. -/
def spread {α : Type} (lists : Array (List α)) (slotOf : α → Nat) : Array (List α) :=
  let parts := lists.mapIdx fun slot entries => entries.partition fun entry => slotOf entry = slot
  parts.map Prod.fst ++ parts.map Prod.snd

/-- The same entries in twice as many slots. -/
def doubled (table : Table) : Table :=
  let slots := 2 * table.slots
  { table with
    byNumber := spread table.byNumber fun (key, _) => (key % (slots : Int)).toNat
    byText := spread table.byText fun (hash, _, _) => hash.toNat % slots }

/-- A place for another value. -/
def grow (table : Table) : Nat × Table :=
  let place := table.cells.size
  let table := { table with cells := table.cells.push .unset, size := table.size + 1 }
  (place, if table.slots * entriesPerSlot < table.size then table.doubled else table)

def linkNumber (table : Table) (key : Int) (place : Nat) : Table :=
  let slot := table.numberSlot key
  { table with byNumber := table.byNumber.modify slot ((key, place) :: ·), hasNumbers := true }

def linkText (table : Table) (hash : UInt32) (key : Text) (place : Nat) : Table :=
  let slot := table.textSlot hash
  { table with byText := table.byText.modify slot ((hash, key, place) :: ·), hasTexts := true }

/-- Gives all numbers their texts. -/
def withTexts (table : Table) : Table :=
  if table.hasTexts then table
  else table.byNumber.foldl (fun table entries =>
    entries.foldl (fun table (key, place) =>
      let text := Text.ofInt key
      table.linkText (hash text) text place) table) table

/-- The place of the value under a text, which is made if need be. -/
def findText (creates : Bool) (table : Table) (key : Text) : Option Nat × Table :=
  let table := table.withTexts
  let hash := hash key
  let slot := table.textSlot hash
  match takeOut (fun (other, text, _) => other = hash && text = key)
      (table.byText.getD slot []) [] with
  | some (entry, others) =>
      (some entry.2.2, { table with byText := table.byText.set! slot (entry :: others) })
  | none =>
      if creates then
        let (place, table) := table.grow
        (some place, table.linkText hash key place)
      else (none, table)

def findNumber (creates : Bool) (table : Table) (key : Int) : Option Nat × Table :=
  let slot := table.numberSlot key
  match takeOut (fun (other, _) => other = key) (table.byNumber.getD slot []) [] with
  | some (entry, others) =>
      (some entry.2, { table with byNumber := table.byNumber.set! slot (entry :: others) })
  | none =>
      if table.hasTexts then
        match findText creates table (Text.ofInt key) with
        | (some place, table) => (some place, table.linkNumber key place)
        | (none, table) => (none, table)
      else if creates then
        let (place, table) := table.grow
        (some place, table.linkNumber key place)
      else (none, table)

def find (creates : Bool) (table : Table) : Key → Option Nat × Table
  | .number key => table.findNumber creates key
  | .text key => table.findText creates key

def get (table : Table) (place : Nat) : Value := table.cells.getD place .unset

def set (table : Table) (place : Nat) (value : Value) : Table :=
  { table with cells := table.cells.set! place value }

/-- A table with a value put under a key. -/
def insert (table : Table) (key : Key) (value : Value) : Table :=
  match table.find true key with
  | (some place, table) => table.set place value
  | (none, table) => table

/-- The number that is written as a text. -/
def numberOf? (text : Text) : Option Int :=
  let (isNegative, digits) : Bool × Text := match text with
    | '-' :: digits => (true, digits)
    | digits => (false, digits)
  (Text.nat? digits).map fun value => if isNegative then -(value : Int) else value

def erase (table : Table) (key : Key) : Table :=
  match table.find false key with
  | (none, table) => table
  | (some place, table) =>
      if table.size = 1 then empty
      else
        let number? := match key with
          | .number value => some value
          | .text text => numberOf? text
        let table := match number? with
          | some value =>
              { table with byNumber := table.byNumber.modify (table.numberSlot value) fun entries =>
                  entries.filter fun entry => entry.2 != place }
          | none => table
        let text := match key with
          | .number value => Text.ofInt value
          | .text text => text
        { table with
          byText := table.byText.modify (table.textSlot (hash text)) fun entries =>
            entries.filter fun entry => entry.2.2 != place
          size := table.size - 1 }

/-- The keys in order. -/
def keys (table : Table) : List Text × Table :=
  let table := table.withTexts
  (table.byText.toList.flatMap fun entries => entries.map fun (_, key, _) => key, table)

/-- A table of values with the keys one, two and so on. -/
def ofValues (values : List Value) : Table :=
  (values.foldl (fun (number, table) value =>
    ((number + 1 : Int), insert table (.number number) value)) ((1 : Int), empty)).2

end Table

/-- The key that a value stands for. -/
def Value.toKey (format : Text) : Value → Key
  | .number value =>
      if isPlain value then .number (wholeOf value)
      else .text (numberText format value)
  | value => .text (value.toText format)

end ShaderCost.Script.Records

/-!
The state that a program on records works on: variables, the record with its fields, and where
records come from and output goes to.
-/

namespace ShaderCost.Script.Records

/-- What a name leads to. -/
inductive Cell where
  | value (value : Value)
  /-- The table with a number. -/
  | table (number : Nat)

instance : Inhabited Cell := ⟨.value .unset⟩

/-- What is left to read of a source. -/
structure Feed where
  rest : Text
  /-- Whether more may come from the input. -/
  isInput : Bool

/-- Output that is on its way to a file or a command. -/
structure Outgoing where
  path : Text
  /-- The stream of a file. -/
  stream : Option Nat
  /-- What is held back, the last piece first. -/
  held : List Text

/-- What was started to read from. -/
structure Answer where
  command : Text
  feed : Feed
  status : Nat

structure State where
  shared : Array Cell
  own : Array Cell
  tables : Array Table
  record : Text
  /-- Whether fields were changed that the record does not show yet. -/
  isStale : Bool
  fields : Array Value
  /-- Whether the record was parted into fields. -/
  isParted : Bool
  /-- What parts the fields of the record. -/
  separator : Text
  feed : Option Feed
  /-- The number of the next argument. -/
  next : Nat
  hasOpened : Bool
  isOver : Bool
  readers : List (Text × Feed)
  answers : List Answer
  outgoing : List Outgoing
  /-- The number of the next stream. -/
  stream : Nat
  /-- Output that is held back, the last piece first, and its length. -/
  held : List Text
  heldLength : Nat
  ranges : Array Bool
  /-- Expressions that texts spell. -/
  expressions : List (Text × Expression)
  seed : Float
  random : UInt64
  /-- Whether the input was read. -/
  usesInput : Bool
  status : Nat

/-- Why the course of a program is left. -/
inductive Leave where
  | next
  | nextFile
  | exit
  | returned (value : Value)
  | brokeOff
  | wentOn
  | failed

abbrev Run := ExceptT Leave (StateT State Step)

/-- What a program is carried out with. -/
structure Host where
  name : Text
  program : Program
  /-- Carries out another program. -/
  become : (program name : Text) → (arguments : List Text) → Step Unit

/-! Output. -/

/-- How much output is held back. -/
def heldAtMost : Nat := 4096

def flushOutput : Run Unit := do
  let held := (← get).held
  if !held.isEmpty then
    modify fun state => { state with held := [], heldLength := 0 }
    let _ ← write standardOutput held.reverse.flatten

def emit (text : Text) : Run Unit := do
  modify fun state => { state with
    held := text :: state.held, heldLength := state.heldLength + text.length }
  if heldAtMost ≤ (← get).heldLength then flushOutput

/-- Writes what is held back for files. -/
def flushFiles : Run Unit := do
  let outgoing := (← get).outgoing
  modify fun state => { state with outgoing := state.outgoing.map fun item =>
    if item.stream.isSome then { item with held := [] } else item }
  for item in outgoing do
    match item.stream with
    | some stream => if !item.held.isEmpty then
        let _ ← write stream item.held.reverse.flatten
    | none => pure ()

def flushAll : Run Unit := do
  flushOutput
  flushFiles

/-! Failures. -/

def fail {α : Type} (host : Host) (problem : Text) : Run α := do
  report (host.name ++ ": " ++ problem)
  modify fun state => { state with status := 2 }
  throw .failed

def valueAt (state : State) (place : Nat) : Value :=
  match state.shared.getD place default with
  | .value value => value
  | .table _ => .unset

def numberFormat (state : State) : Text :=
  match valueAt state ofNumberFormat with
  | .text text | .input text => text
  | _ => "%.6g"

def outputFormat (state : State) : Text :=
  match valueAt state ofOutputFormat with
  | .text text | .input text => text
  | _ => "%.6g"

def textAt (state : State) (place : Nat) : Text := (valueAt state place).toText (numberFormat state)

/-- Fails at a place in the input. -/
def failAtRecord {α : Type} (host : Host) (problem : Text) : Run α := do
  let state ← get
  let count (place : Nat) : Text := textAt state place
  fail host ("run time error: ".toList ++ problem ++ "\n\tFILENAME=\"".toList ++
    textAt state ofPath ++ "\" FNR=".toList ++ count ofFileRecordCount ++ " NR=".toList ++
    count ofRecordCount)

def textOf (value : Value) : Run Text := do return value.toText (numberFormat (← get))

/-! Expressions. -/

def keptExpressions : Nat := 20

/-- The expression that a text spells. -/
def expressionFor (host : Host) (text : Text) : Run Expression := do
  match (← get).expressions.lookup text with
  | some expression => return expression
  | none =>
      match Reader.expressionOf text with
      | .ok expression =>
          modify fun state => { state with
            expressions := (text, expression) :: state.expressions.take keptExpressions }
          return expression
      | .error problem => failAtRecord host problem

/-- The pieces of a text that blanks part. -/
def blankPieces (text : Text) : List Text :=
  (text.splitOnP isBlankOctet).filter fun piece => !piece.isEmpty

/-- The pieces of a text between occurrences that are not void. -/
def piecesBetween (expression : Expression) (text : Text) : List Text :=
  let (occurrences, last) := expression.occurrencesIn text
  let (pieces, open_) := occurrences.foldl (fun (pieces, lead) occurrence =>
    if occurrence.found.isEmpty then (pieces, lead ++ occurrence.before)
    else ((lead ++ occurrence.before) :: pieces, [])) (([], []) : List Text × Text)
  ((open_ ++ last) :: pieces).reverse

/-- The fields of a text. -/
def piecesOf (host : Host) (separator text : Text) : Run (List Text) := do
  if text.isEmpty then return []
  match separator with
  | [' '] => return blankPieces text
  | [] => return text.map fun c => [c]
  | [c] => return text.splitOn c
  | separator => return piecesBetween (← expressionFor host separator) text

/-! The record and its fields. -/

/-- What parts the fields of the next record. Where records are paragraphs, ends of lines do so as
well. -/
def presentSeparator (state : State) : Text :=
  let separator := textAt state ofFieldSeparator
  if (textAt state ofRecordSeparator).isEmpty && separator != [' '] then
    match separator with
    | [c] => "[\n".toList ++ (if c = '\\' then "\\\\".toList else [c]) ++ [']']
    | separator => separator ++ "|\n".toList
  else separator

def setRecord (text : Text) : Run Unit := modify fun state =>
  { state with
    record := text, isStale := false, isParted := false, separator := presentSeparator state }

/-- Parts the record into fields, unless that was done. -/
def part (host : Host) : Run Unit := do
  let state ← get
  if !state.isParted then
    let pieces ← piecesOf host state.separator state.record
    modify fun state => { state with
      fields := (pieces.map Value.input).toArray, isParted := true }

/-- The record, with the fields that were changed. -/
def presentRecord : Run Text := do
  let state ← get
  if !state.isStale then return state.record
  let format := numberFormat state
  let joint := textAt state ofOutputSeparator
  let record := List.intercalate joint (state.fields.toList.map (Value.toText format))
  modify fun state => { state with record, isStale := false }
  return record

/-- The number of a field. -/
def fieldNumber (host : Host) (value : Value) : Run Nat := do
  let number := wholeOf value.toNumber
  if number < 0 then
    failAtRecord host ("negative field index $".toList ++ Text.ofInt number)
  return number.toNat

def field (host : Host) (number : Nat) : Run Value := do
  if number = 0 then return .input (← presentRecord)
  part host
  return (← get).fields.getD (number - 1) (.input [])

/-- Gives the record as many fields as asked for. -/
def resize (host : Host) (count : Nat) : Run Unit := do
  part host
  spend count
  modify fun state =>
    let fields := state.fields.extract 0 count
    { state with
      fields := fields ++ Array.replicate (count - fields.size) (Value.input [])
      isStale := true }

def setField (host : Host) (number : Nat) (value : Value) : Run Unit := do
  if number = 0 then setRecord (← textOf value)
  else
    part host
    if (← get).fields.size < number then resize host number
    modify fun state => { state with
      fields := state.fields.set! (number - 1) value, isStale := true }

/-! Names. -/

def load (host : Host) (name : Name) : Run Value := do
  let cell ← match name with
    | .shared place =>
        if place = ofFieldCount then
          part host
          return .ofNat (← get).fields.size
        pure ((← get).shared.getD place default)
    | .own place => pure ((← get).own.getD place default)
  match cell with
  | .value value => return value
  | .table _ => return .unset

def store (host : Host) (name : Name) (value : Value) : Run Unit := do
  match name with
  | .shared place =>
      if place = ofFieldCount then
        resize host (wholeOf value.toNumber).toNat
      else modify fun state => { state with shared := state.shared.set! place (.value value) }
  | .own place => modify fun state => { state with own := state.own.set! place (.value value) }

/-- The number of the table that a name leads to, which is made if need be. -/
def tableNumber (name : Name) : Run Nat := do
  let state ← get
  let cell := match name with
    | .shared place => state.shared.getD place default
    | .own place => state.own.getD place default
  match cell with
  | .table number => return number
  | .value _ =>
      let number := state.tables.size
      modify fun state =>
        let state := { state with tables := state.tables.push .empty }
        match name with
        | .shared place => { state with shared := state.shared.set! place (.table number) }
        | .own place => { state with own := state.own.set! place (.table number) }
      return number

/-- Works on a table. -/
def onTable {α : Type} (number : Nat) (work : Table → α × Table) : Run α :=
  modifyGet fun state =>
    let table := state.tables.getD number .empty
    let state := { state with tables := state.tables.set! number default }
    let (result, table) := work table
    (result, { state with tables := state.tables.set! number table })

def setTable (number : Nat) (table : Table) : Run Unit :=
  modify fun state => { state with tables := state.tables.set! number table }

/-! Reading records. -/

/-- The record at the front of a text, and what follows it. -/
def splitRecord (host : Host) (separator text : Text) : Run (Text × Text) := do
  match separator with
  | [] =>
      let text := text.dropWhile (· = '\n')
      let (record, rest) := paragraph text []
      return (record, rest.dropWhile (· = '\n'))
  | [c] =>
      let record := text.takeWhile (· != c)
      return (record, (text.drop record.length).tail)
  | separator =>
      let expression ← expressionFor host separator
      match expression.find? [] text with
      | some occurrence =>
          if occurrence.found.isEmpty then return (text, [])
          return (occurrence.before, occurrence.behind)
      | none => return (text, [])
where
  /-- The text before two line feeds, without one at its end. -/
  paragraph : Text → (before : Text) → Text × Text
    | [], before => (before.reverse, [])
    | ['\n'], before => (before.reverse, [])
    | '\n' :: '\n' :: rest, before => (before.reverse, rest)
    | c :: rest, before => paragraph rest (c :: before)

/-- Whether a text holds no record. -/
def isExhausted (separator text : Text) : Bool :=
  if separator.isEmpty then text.all (· = '\n') else text.isEmpty

/-- Takes a record from a source. -/
def takeRecord (host : Host) (feed : Feed) : Run (Option Text × Feed) := do
  let separator := textAt (← get) ofRecordSeparator
  if feed.isInput then modify fun state => { state with usesInput := true }
  if feed.isInput && feed.rest.isEmpty && separator = ['\n'] then
    let line ← readInput true
    if line.isEmpty then return (none, { feed with isInput := false })
    return (some (if line.getLast? = some '\n' then line.dropLast else line), feed)
  let feed ←
    if feed.isInput then pure ⟨feed.rest ++ (← readInput false), false⟩ else pure feed
  if isExhausted separator feed.rest then return (none, { feed with rest := [] })
  let (record, rest) ← splitRecord host separator feed.rest
  return (some record, { feed with rest })

def assignNamed (host : Host) (name value : Text) : Run Unit := do
  let value := Value.input (Token.unescaped (value.length + 1) value)
  match host.program.names.idxOf? name with
  | some place => store host (.shared place) value
  | none => pure ()

/-- Opens a source of records. -/
def openFeed (host : Host) (path : Text) : Run Feed := do
  if path = "-" || path = "/dev/stdin" then return ⟨[], true⟩
  match ← Utility.content path with
  | .ok text => return ⟨text, false⟩
  | .error .isDirectory => fail host "read error (Is a directory)"
  | .error error =>
      fail host ("cannot open \"".toList ++ path ++ "\" (".toList ++ Utility.wording error ++ [')'])

/-- The argument with a number, unless it was taken away. -/
def argument? (number : Nat) : Run (Option Value) := do
  let table ← tableNumber (.shared ofArguments)
  onTable table fun table =>
    match table.find false (.number number) with
    | (some place, table) => (some (table.get place), table)
    | (none, table) => (none, table)

/-- Opens the next source that the arguments name. The result tells whether there is one. -/
def openNext (host : Host) : (limit : Nat) → Run Bool
  | 0 => return false
  | limit + 1 => do
      let state ← get
      if wholeOf (valueAt state ofArgumentCount).toNumber ≤ state.next then
        if state.hasOpened then return false
        let path := "-".toList
        modify fun state => { state with feed := some ⟨[], true⟩, hasOpened := true }
        store host (.shared ofPath) (.text path)
        return true
      set { state with next := state.next + 1 }
      match ← argument? state.next with
      | none => openNext host limit
      | some value =>
          let text ← textOf value
          if text.isEmpty then openNext host limit
          else match assignment? text with
            | some (name, value) =>
                assignNamed host name value
                openNext host limit
            | none =>
                store host (.shared ofPath) (.input text)
                store host (.shared ofFileRecordCount) (.number 0)
                let feed ← openFeed host text
                modify fun state => { state with feed := some feed, hasOpened := true }
                return true

def countRecord (host : Host) (place : Nat) : Run Unit := do
  let value := valueAt (← get) place
  store host (.shared place) (.number (value.toNumber + 1))

/-- The next record of all sources. -/
def nextRecord (host : Host) : (limit : Nat) → Run (Option Text)
  | 0 => return none
  | limit + 1 => do
      let state ← get
      if state.isOver then return none
      match state.feed with
      | some feed =>
          match ← takeRecord host feed with
          | (some record, feed) =>
              modify fun state => { state with feed := some feed }
              countRecord host ofRecordCount
              countRecord host ofFileRecordCount
              return some record
          | (none, _) =>
              modify fun state => { state with feed := none }
              nextRecord host limit
      | none =>
          let count := wholeOf (valueAt state ofArgumentCount).toNumber
          if ← openNext host (count.toNat + 2) then nextRecord host limit
          else
            modify fun state => { state with isOver := true }
            return none

/-- How often a source that holds nothing may be followed by another one. -/
def mostSources : Nat := 100000

/-! Commands. -/

/-- Carries out a command with an input of its own, if there is one, and takes what it prints, if
that is wanted. The result is its status, with the output. -/
def carryOut (host : Host) (command : Text) (input : Option Text) (takesOutput : Bool) :
    Step (Nat × Text) := do
  let (finished, texts) ← Script.carryOut (if takesOutput then [standardOutput] else []) do
    match input with
    | some text => setChannel standardInput (some (← textChannel text))
    | none => pure ()
    host.become "sh" "sh" ["-c", command]
  return (match finished.signal with
    | some signal => 256 + signal
    | none => finished.status, texts.flatten)

/-- What was started under a command to read from, which is started if need be. -/
def answerTo (host : Host) (command : Text) : Run Answer := do
  match (← get).answers.find? fun answer => answer.command = command with
  | some answer => return answer
  | none =>
      flushAll
      let (status, text) ← carryOut host command none true
      return ⟨command, ⟨text, false⟩, status⟩

def putAnswer (answer : Answer) : Run Unit := modify fun state =>
  { state with answers :=
    answer :: state.answers.filter fun other => other.command != answer.command }

/-- Where output to a file goes, which is opened if need be. -/
def outgoingFile (host : Host) (opening : Opening) (path : Text) : Run Outgoing := do
  match (← get).outgoing.find? fun item => item.path = path && item.stream.isSome with
  | some item => return item
  | none =>
      match ← openChannel opening path with
      | .ok channel =>
          let stream := (← get).stream
          modify fun state => { state with stream := stream + 1 }
          setChannel stream (some channel)
          return ⟨path, some stream, []⟩
      | .error error =>
          fail host ("cannot open \"".toList ++ path ++ "\" for output (".toList ++
            Utility.wording error ++ [')'])

def outgoingCommand (command : Text) : Run Outgoing := do
  match (← get).outgoing.find? fun item => item.path = command && item.stream.isNone with
  | some item => return item
  | none =>
      flushAll
      return ⟨command, none, []⟩

/-- Holds output back for a file or a command, which is the one used last from now on. -/
def holdBack (item : Outgoing) (text : Text) : Run Unit := do
  spend (text.length / charactersPerTurn)
  modify fun state =>
    let others := state.outgoing.filter fun other =>
      other.path != item.path || other.stream.isSome != item.stream.isSome
    { state with outgoing := { item with held := text :: item.held } :: others }

/-- Ends output to a file or a command. The result is the status of the command. -/
def finishOutput (host : Host) (item : Outgoing) : Run Nat := do
  match item.stream with
  | some stream =>
      let _ ← write stream item.held.reverse.flatten
      setChannel stream none
      return 0
  | none =>
      let (status, _) ← carryOut host item.path (some item.held.reverse.flatten) false
      return status

/-- Ends all that goes by a name. The result is a status, or a negative number if there is nothing
of that name. -/
def close (host : Host) (name : Text) : Run Int := do
  let state ← get
  let (ended, left) := state.outgoing.partition fun item => item.path = name
  let isRead := (state.readers.lookup name).isSome
  let answer? := state.answers.find? fun answer => answer.command = name
  set { state with
    outgoing := left
    readers := state.readers.filter fun entry => entry.1 != name
    answers := state.answers.filter fun answer => answer.command != name }
  let mut result : Int := if isRead then 0 else -1
  match answer? with
  | some answer => result := answer.status
  | none => pure ()
  for item in ended do
    result := ← finishOutput host item
  return result

/-- Ends all output, that of the program itself last. -/
def finishAll (host : Host) : Run Unit := do
  let outgoing := (← get).outgoing
  modify fun state => { state with outgoing := [] }
  for item in outgoing do
    let _ ← finishOutput host item
  flushOutput

end ShaderCost.Script.Records
