import ShaderCost.Script.Condition
import ShaderCost.Script.Expansion
import ShaderCost.Script.Sigil.Places
import ShaderCost.Script.Utility.Finding
import ShaderCost.Script.Utility.Paths

/-!
Features that every program has: on numbers and texts, on lists and tables, on handles and files,
and on the course of the program.
-/

namespace ShaderCost.Script.Sigil

namespace Feature

/-- The result of a feature whose name is not one of those that a function knows is none. -/
abbrev Answer := Run (Option (List Value))

def answer (value : Value) : Answer := return some [value]

def answerText (text : Text) : Answer := answer (.text text)

def answerBool (value : Bool) : Answer := answer (.ofBool value)

/-- The value of the first argument, or the topic. -/
def firstOrTopic (evaluator : Evaluator) : List Term → Run Value
  | term :: _ => evaluator.value term
  | [] => topic

def valueAt (evaluator : Evaluator) (terms : List Term) (place : Nat) : Run Value := do
  match terms[place]? with
  | some term => evaluator.value term
  | none => return .undefined

def textAt (evaluator : Evaluator) (terms : List Term) (place : Nat) : Run Text := do
  textOf (← valueAt evaluator terms place)

def valuesOf (evaluator : Evaluator) (terms : List Term) : Run (List Value) := do
  return (← terms.mapM evaluator.values).flatten

def textsOf (evaluator : Evaluator) (terms : List Term) : Run (List Text) := do
  (← valuesOf evaluator terms).mapM textOf

/-! Numbers and single texts. -/

def ofNumber (name : Text) (value : Value) : Answer := do
  let real (value : Float) : Answer := answer (.real value)
  let number := value.toFloat
  match String.ofList name with
  | "int" =>
      match value.toNumeric with
      | .whole value => answer (.whole value)
      | .real value =>
          if value.isFinite && value.abs < 18446744073709551616.0 then
            answer (.whole (truncated value))
          else real value
  | "abs" =>
      match value.toNumeric with
      | .whole value => answer (.whole value.natAbs)
      | .real value => real value.abs
  | "sqrt" =>
      if number < 0 then die ("Can't take sqrt of ".toList ++ (← textOf value))
      else answer (Numeric.settled number.sqrt).toValue
  | "sin" => real number.sin
  | "cos" => real number.cos
  | "exp" => real number.exp
  | "log" =>
      if number ≤ 0 then die ("Can't take log of ".toList ++ (← textOf value))
      else real number.log
  | "chr" =>
      let code := value.toInt
      if code < 256 then answerText [Char.ofNat (code % 256).toNat]
      else answerText (spreadText [Char.ofNat code.toNat])
  | "hex" => answer (.whole (hex (← textOf value)))
  | "oct" => answer (.whole (oct (← textOf value)))
  | _ => return none

def ofText (name : Text) (value : Value) : Answer := do
  match String.ofList name with
  | "lc" | "fc" => answerText ((← textOf value).map Char.toLower)
  | "uc" => answerText ((← textOf value).map Char.toUpper)
  | "lcfirst" => answerText (onFirst Char.toLower (← textOf value))
  | "ucfirst" => answerText (onFirst Char.toUpper (← textOf value))
  | "length" =>
      match value with
      | .undefined => answer .undefined
      | value => answer (.ofNat (← textOf value).length)
  | "ord" => answer (.whole ((((← textOf value).head?).map Char.toNat).getD 0))
  | "quotemeta" => answerText (quoteMeta (← textOf value))
  | "ref" =>
      match value with
      | .reference kind place =>
          match ← classOf? value with
          | some package => answerText package
          | none =>
              let isDeep := match (← cellAt place).content with
                | .scalar (.reference _ _) => true
                | _ => false
              let word : Text := match kind with
                | .scalar => if isDeep then "REF" else "SCALAR"
                | .list => "ARRAY"
                | .table => "HASH"
                | .routine => "CODE"
                | .handle => "GLOB"
                | .pattern => "Regexp"
              answerText word
      | _ => answerText []
  | _ => return none

def oneValue : List Text := [
  "int", "abs", "sqrt", "sin", "cos", "exp", "log", "chr", "hex", "oct", "lc", "fc", "uc",
  "lcfirst", "ucfirst", "length", "ord", "quotemeta", "ref"]

/-- Cuts the ends of lines off, or last characters. -/
def chop (evaluator : Evaluator) (isChomp : Bool) (terms : List Term) : Answer := do
  let places ← match terms with
    | [] => pure [← sharedPlace .scalar "main::_"]
    | terms => pure (← terms.mapM evaluator.aliases).flatten
  let mark ← match ← scalarAt placeOfMark with
    | .undefined => pure []
    | value => textOf value
  let mut count := 0
  let mut last : Text := []
  for place in places do
    match ← scalarAt place with
    | .undefined => pure ()
    | value =>
        let text ← textOf value
        if isChomp then
          let ending : Text := if mark.isEmpty then ['\n'] else mark
          if ending.isSuffixOf text then
            setScalar place (.text (text.take (text.length - ending.length)))
            count := count + ending.length
        else if !text.isEmpty then
          last := text.drop (text.length - 1)
          setScalar place (.text text.dropLast)
  answer (if isChomp then .ofNat count else .text last)

/-! Texts and lists. -/

/-- The part of a text, which may be replaced. -/
def substr (evaluator : Evaluator) (terms : List Term) (replacement : Option Text) : Run Value := do
  let text ← textAt evaluator terms 0
  let start := (← valueAt evaluator terms 1).toInt
  let length ← match terms[2]? with
    | some term => do
        match ← evaluator.value term with
        | .undefined => pure none
        | value => pure (some value.toInt)
    | none => pure none
  match partOf? text.length start length with
  | none =>
      match replacement with
      | some _ => die "substr outside of string"
      | none => return .undefined
  | some (first, count) =>
      match replacement, terms with
      | some replacement, subject :: _ =>
          let place ← evaluator.place subject
          setScalar place (.text (text.take first ++ replacement ++ text.drop (first + count)))
      | _, _ => pure ()
      return .text ((text.drop first).take count)

def split_ (evaluator : Evaluator) (terms : List Term) : Run (List Value) := do
  let text ← match terms[1]? with
    | some term => textOf (← evaluator.value term)
    | none => textOf (← topic)
  let limit := (← valueAt evaluator terms 2).toInt
  spend (text.length / charactersPerTurn)
  let plain (pattern : Term) (asked : Asked) : Run (List Value) := do
    let expression ← patternOf evaluator pattern asked
    return split (some expression) text limit
  match terms.head? with
  | none => return split none text limit
  | some (.constant (.text [' '])) => return split none text limit
  | some (.matching none _ (.constant (.text ['^'])) asked) =>
      plain (.constant (.text ['^'])) { asked with flags := { asked.flags with seesLines := true } }
  | some (.matching none _ pattern asked) => plain pattern asked
  | some term =>
      let value ← evaluator.value term
      let isBlank : Bool := match value with
        | .text [' '] => true
        | _ => false
      if isBlank then return split none text limit
      else plain (.constant value) ⟨{}, false, false, false, 0⟩

/-- Features on texts and lists of values. -/
def ofTexts (evaluator : Evaluator) (name : Text) (terms : List Term) (want : Want) : Answer := do
  match String.ofList name with
  | "join" =>
      match ← valuesOf evaluator terms with
      | [] => answerText []
      | joint :: values =>
          let texts ← values.mapM textOf
          let text := List.intercalate (← textOf joint) texts
          spend (text.length / charactersPerTurn)
          answerText text
  | "split" =>
      let values ← split_ evaluator terms
      if want = .all then return some values else answer (.ofNat values.length)
  | "sprintf" =>
      match ← valuesOf evaluator terms with
      | [] => answerText []
      | format :: values =>
          let cells := (← get).cells
          answerText (formatted (titleOf cells) (← textOf format) values)
  | "reverse" =>
      let values ← match terms with
        | [] => pure [← topic]
        | terms => valuesOf evaluator terms
      if want = .all then return some values.reverse
      else answerText (← values.mapM textOf).flatten.reverse
  | "index" =>
      answer (.whole (index (← textAt evaluator terms 0) (← textAt evaluator terms 1)
        (← valueAt evaluator terms 2).toInt))
  | "rindex" =>
      let limit ← match terms[2]? with
        | some term => pure (some (← evaluator.value term).toInt)
        | none => pure none
      answer (.whole (lastIndex (← textAt evaluator terms 0) (← textAt evaluator terms 1) limit))
  | "substr" =>
      let replacement ← match terms[3]? with
        | some term => some <$> (textOf (← evaluator.value term))
        | none => pure none
      answer (← substr evaluator terms replacement)
  | "pack" =>
      match ← valuesOf evaluator terms with
      | [] => answerText []
      | template :: values =>
          let template ← textOf template
          let cells := (← get).cells
          answerText (pack (Value.toText (titleOf cells)) (slots (template.length + 1) template)
            values)
  | "unpack" =>
      let template ← textAt evaluator terms 0
      let text ← match terms[1]? with
        | some term => textOf (← evaluator.value term)
        | none => textOf (← topic)
      let values := unpack (slots (template.length + 1) template) text
      if want = .all then return some values else answer (values.headD .undefined)
  | "atan2" =>
      answer (.real (Float.atan2 (← valueAt evaluator terms 0).toFloat
        (← valueAt evaluator terms 1).toFloat))
  | "not" => answerBool !(← valueAt evaluator terms 0).isTrue
  | "chomp" => chop evaluator true terms
  | "chop" => chop evaluator false terms
  | _ => return none

/-! Lists and tables. -/

/-- A list with a part taken out and others in its place. -/
def splice (evaluator : Evaluator) (terms : List Term) (want : Want) : Answer := do
  match terms with
  | [] => return some []
  | target :: terms =>
      let list ← evaluator.listPlace target
      let places ← listAt list
      let start ← match terms[0]? with
        | some term => pure (← evaluator.value term).toInt
        | none => pure 0
      let length ← match terms[1]? with
        | some term => do
            match ← evaluator.value term with
            | .undefined => pure none
            | value => pure (some value.toInt)
        | none => pure none
      let added ← freshAll (← valuesOf evaluator (terms.drop 2))
      let (first, count) := (partOf? places.size start length).getD (places.size, 0)
      let removed := places.extract first (first + count)
      setContent list (.list (places.extract 0 first ++ added ++
        places.extract (first + count) places.size))
      let values ← removed.toList.mapM scalarAt
      if want = .all then return some values else answer (values.getLast?.getD .undefined)

/-- Takes an entry or an element away. -/
def delete (evaluator : Evaluator) (target : Term) : Run (List Value) := do
  let fromTable (table : Nat) (keys : List Text) : Run (List Value) :=
    keys.mapM fun key => do
      let value ← entryAt table key
      onContent table fun content => match content with
        | .table entries => ((), .table (entries.erase key))
        | content => ((), content)
      return value
  match target with
  | .entry table key => fromTable (← evaluator.tablePlace table) [← keyOf evaluator key]
  | .entries table keys => fromTable (← evaluator.tablePlace table) (← keysOf evaluator keys)
  | .localize target =>
      match target with
      | .entry table key =>
          let table ← evaluator.tablePlace table
          let key ← keyOf evaluator key
          keep (← entryPlace table key)
          fromTable table [key]
      | _ => return []
  | .element list index =>
      let list ← evaluator.listPlace list
      let index := (← evaluator.value index).toInt
      let value ← elementAt list index
      let places ← listAt list
      match indexIn? places.size index with
      | some number =>
          if number + 1 = places.size then setContent list (.list places.pop)
          else if number < places.size then setScalar (places.getD number 0) .undefined
      | none => pure ()
      return [value]
  | _ => return []

def exists_ (evaluator : Evaluator) (target : Term) : Run Bool := do
  match target with
  | .entry table key =>
      let table ← evaluator.tablePlace table
      return (← tableAt table).has (← keyOf evaluator key)
  | .element list index =>
      let places ← listAt (← evaluator.listPlace list)
      match indexIn? places.size (← evaluator.value index).toInt with
      | some number => return number < places.size
      | none => return false
  | .call name _ _ => return (← routineNamed? name).isSome
  | term => return (← evaluator.value term).isDefined

def defined (evaluator : Evaluator) (terms : List Term) : Run Bool := do
  match terms with
  | [] => return (← topic).isDefined
  | [.call name none _] => return (← routineNamed? name).isSome
  | [.name .list name] => return !(← listAt (← placeOf .list name)).isEmpty
  | [.name .table name] => return (← tableAt (← placeOf .table name)).size != 0
  | term :: _ => return (← evaluator.value term).isDefined

/-- The values or the keys of what a term leads to. -/
def walk (evaluator : Evaluator) (isKeys : Bool) (target : Term) (want : Want) : Answer := do
  let isList := match target with
    | .name .list _ | .behind .list _ => true
    | _ => false
  if isList then
    let values ← listValues (← evaluator.listPlace target)
    if want != .all then answer (.ofNat values.length)
    else if isKeys then return some ((List.range values.length).map .ofNat)
    else return some values
  else
    let table ← evaluator.tablePlace target
    let entries ← tableAt table
    modify fun state => { state with walks := state.walks.filter fun walk => walk.1 != table }
    if want != .all then answer (.ofNat entries.size)
    else if isKeys then return some (entries.keys.map .text)
    else return some (← entries.values.mapM scalarAt)

/-- The next entry of a table, with its value. -/
def each (evaluator : Evaluator) (target : Term) (want : Want) : Answer := do
  let table ← evaluator.tablePlace target
  let state ← get
  let keys ← match state.walks.lookup table with
    | some keys => pure keys
    | none => pure (← tableAt table).keys
  let others := state.walks.filter fun walk => walk.1 != table
  match keys with
  | [] =>
      modify fun state => { state with walks := others }
      return some (if want = .all then [] else [.undefined])
  | key :: keys =>
      modify fun state => { state with walks := (table, keys) :: others }
      let value ← entryAt table key
      return some (if want = .all then [.text key, value] else [.text key])

def undefine (evaluator : Evaluator) (target : Term) : Run Unit := do
  match target with
  | .name .list _ | .behind .list _ => setContent (← evaluator.listPlace target) (.list #[])
  | .name .table _ | .behind .table _ => setContent (← evaluator.tablePlace target) (.table .empty)
  | .call name none _ => modify fun state => { state with names := state.names.erase ('&' :: name) }
  | target => setScalar (← evaluator.place target) .undefined

def ofLists (evaluator : Evaluator) (name : Text) (terms : List Term) (want : Want) : Answer := do
  match String.ofList name, terms with
  | "push", target :: terms =>
      let values ← valuesOf evaluator terms
      let list ← evaluator.listPlace target
      let added ← freshAll values
      let size ← onContent list fun content => match content with
        | .list places => (places.size + added.size, .list (places ++ added))
        | content => (0, content)
      answer (.ofNat size)
  | "unshift", target :: terms =>
      let values ← valuesOf evaluator terms
      let list ← evaluator.listPlace target
      let places ← listAt list
      let added ← freshAll values
      setContent list (.list (added ++ places))
      answer (.ofNat (places.size + added.size))
  | "pop", target :: _ =>
      let list ← evaluator.listPlace target
      let last ← onContent list fun content => match content with
        | .list places => (places.back?, .list places.pop)
        | content => (none, content)
      match last with
      | some place => answer (← scalarAt place)
      | none => answer .undefined
  | "shift", target :: _ =>
      let list ← evaluator.listPlace target
      let first ← onContent list fun content => match content with
        | .list places => (places[0]?, .list (places.extract 1 places.size))
        | content => (none, content)
      match first with
      | some place => answer (← scalarAt place)
      | none => answer .undefined
  | "splice", terms => splice evaluator terms want
  | "scalar", term :: _ => answer (← evaluator.value term)
  | "keys", target :: _ => walk evaluator true target want
  | "values", target :: _ => walk evaluator false target want
  | "each", target :: _ => each evaluator target want
  | "delete", target :: _ =>
      let values ← delete evaluator target
      if want = .all then return some values else answer (values.getLast?.getD .undefined)
  | "exists", target :: _ => answerBool (← exists_ evaluator target)
  | "defined", terms => answerBool (← defined evaluator terms)
  | "undef", [] => answer .undefined
  | "undef", target :: _ =>
      undefine evaluator target
      answer .undefined
  | "wantarray", _ =>
      match ((← get).frames.head?).map Frame.want with
      | some .all => answer (.whole 1)
      | some .one => answer (.text [])
      | _ => answer .undefined
  | "bless", target :: rest =>
      let value ← evaluator.value target
      let package ← match rest with
        | term :: _ => textOf (← evaluator.value term)
        | [] => presentPackage
      match value with
      | .reference _ place =>
          let cell ← cellAt place
          setCell place { cell with package := some package }
          answer value
      | _ => die "Can't bless non-reference value"
  | "pos", terms =>
      let place ← match terms with
        | term :: _ => evaluator.place term
        | [] => sharedPlace .scalar "main::_"
      answer (((← positionOf place).map fun entry => Value.ofNat entry.1).getD .undefined)
  | "local", _ | "lock", _ | "study", _ => answer .undefined
  | _, _ => return none

/-! Handles. -/

/-- The place of the handle that a value stands for. -/
def handleOf (value : Value) : Run Nat := do
  match value with
  | .reference .handle place => return place
  | .reference .scalar place =>
      match ← scalarAt place with
      | .reference .handle place => return place
      | _ => return place
  | .reference _ place => return place
  | value =>
      let name ← textOf value
      handleNamed (match Text.after? "*main::" name, name with
        | some name, _ => name
        | none, '*' :: name => name
        | none, name => name)

def handleBy (evaluator : Evaluator) (term : Term) : Run Nat := do
  match term with
  | .word name => handleNamed name
  | .symbol (.constant (.text name)) => handleNamed name
  | .listed [term] =>
      match term with
      | .word name => handleNamed name
      | term => handleOf (← evaluator.value term)
  | term => handleOf (← evaluator.value term)

/-- The name that messages have for the handle in a term. -/
def handleTitle (term : Term) : Run Text := do
  let declared := (← get).program.declared
  match term with
  | .word name => return name
  | .declare _ _ number | .name .scalar (.own number) =>
      return (declared[number]?).elim [] fun entry => '$' :: entry.2
  | .name .scalar (.shared name) => return '$' :: name
  | .symbol (.constant (.text name)) => return name
  | _ => return "__ANONIO__"

/-- The handle that an open gives its file, which is made if need be. -/
def handleToOpen (evaluator : Evaluator) (term : Term) : Run Nat := do
  match term with
  | .word name => handleNamed name
  | .symbol (.constant (.text name)) => handleNamed name
  | term =>
      let holder ← evaluator.place term
      match ← scalarAt holder with
      | .undefined =>
          let place ← allocate (.handle { (default : Handle) with name := ← handleTitle term })
          setScalar holder (.reference .handle place)
          return place
      | value => handleOf value

/-- How a file is opened. -/
structure Access where
  opening : Opening
  mayRead : Bool
  mayWrite : Bool

/-- What a mode asks for; a pipe or another handle is none. -/
def accessOf? (mode : Text) : Option Access :=
  match String.ofList mode with
  | "<" => some ⟨.reading, true, false⟩
  | ">" => some ⟨.replacing, false, true⟩
  | ">>" => some ⟨.appending, false, true⟩
  | "+<" => some ⟨.both, true, true⟩
  | "+>" => some ⟨.replacing, true, true⟩
  | "+>>" => some ⟨.appending, true, true⟩
  | _ => none

/-- Puts a way under a handle that leads nowhere yet. -/
def lead (place : Nat) (way : Way) (mayRead mayWrite : Bool) : Run Unit := do
  let name := ((← handleAt? place).map Handle.name).getD []
  setHandle place { name, way, mayRead, mayWrite, lines := 0, status := none }

def isBoth (mode : Text) : Bool := mode.head? = some '+'

/-- Opens a file for a handle. -/
def openFile (evaluator : Evaluator) (place : Nat) (access : Access) (path : Text) : Run Bool := do
  match ← handleAt? place with
  | some handle =>
      match handle.way with
      | .closed => pure ()
      | .stream stream =>
          if stream.number ≤ 2 then
            let (_, stream) ← stream.flush
            setHandle place { handle with way := .stream stream }
          else
            let _ ← closeHandle evaluator.host place
      | _ =>
          let _ ← closeHandle evaluator.host place
  | none => pure ()
  let present := match (← handleAt? place).map Handle.way with
    | some (.stream stream) => some stream.number
    | _ => none
  let number ← match present, place with
    | some number, _ => pure number
    | none, 12 => pure 0
    | none, 13 => pure 1
    | none, 14 => pure 2
    | none, _ => liftM (n := Run) (Stream.freeNumber 3)
  let opening := if access.mayRead && access.mayWrite then Opening.both else access.opening
  let result : Except FileError Stream ← liftM (n := Run) (Stream.open? number access.opening path)
  match result with
  | .error error =>
      noteFileError error
      return false
  | .ok stream =>
      if opening = .both && access.opening != .both then
        let _ ← liftM (n := Run) (Stream.open? number opening path)
      lead place (.stream { stream with most := if number = 2 then 0 else stream.most })
        access.mayRead access.mayWrite
      noteError 25
      return true

/-- Opens a command for a handle: to read what it prints, or to write what it gets. -/
def openCommand (evaluator : Evaluator) (place : Nat) (isReading : Bool) (words : List Text) :
    Run Bool := do
  if isReading then
    match ← carryOutCommand evaluator.host words none true with
    | (some status, text) =>
        let number ← liftM (n := Run) (Stream.freeNumber 3)
        let fresh := Stream.ofNumber number Stream.usualMost
        let stream := { fresh with ahead := text, isDrained := true }
        lead place (.stream stream) true false
        modify fun state => { state with cells := state.cells.modify place fun cell =>
          match cell.content with
          | .handle handle => { cell with content := .handle { handle with status := some status } }
          | _ => cell }
        return true
    | (none, _) => return false
  else
    lead place (.command words []) false true
    return true

/-- Makes a handle a second one for where another one leads. -/
def duplicate (evaluator : Evaluator) (place : Nat) (source : Value) (isWriting : Bool) :
    Run Bool := do
  let text ← textOf source
  let number? : Option Nat ← match Text.nat? text with
    | some number => pure (some number)
    | none => do
        let other ← handleOf source
        flushHandle other
        match (← handleAt? other).map Handle.way with
        | some (.stream stream) => pure (some stream.number)
        | _ => pure none
  match number? with
  | none =>
      noteError 9
      return false
  | some number =>
      let channel := (← getThe Shell).channel? number
      let present := match (← handleAt? place).map Handle.way with
        | some (.stream stream) => some stream.number
        | _ => none
      if place < 15 then flushHandle place
      else
        let _ ← closeHandle evaluator.host place
      let target ← match present, place with
        | some target, _ => pure target
        | none, 12 => pure 0
        | none, 13 => pure 1
        | none, 14 => pure 2
        | none, _ => liftM (n := Run) (Stream.freeNumber 3)
      modifyThe Shell fun shell => shell.setChannel target channel
      lead place (.stream (.ofNumber target (if target = 2 then 0 else Stream.usualMost)))
        (!isWriting) isWriting
      return true

/-- A mode without what it says of characters. -/
def plainMode (mode : Text) : Text :=
  (mode.takeWhile (· != ':')).filter fun c => !isBlankOctet c

/-- The mode and the path in one text. -/
def splitMode (text : Text) : Text × Text :=
  let text := text.dropWhile isBlankOctet
  let text := (text.reverse.dropWhile isBlankOctet).reverse
  let mode := text.takeWhile fun c => "+<>&=".toList.elem c
  let path := (text.drop mode.length).dropWhile isBlankOctet
  if text.head? = some '|' then ("|-", (text.drop 1).dropWhile isBlankOctet)
  else if text.getLast? = some '|' then ("-|", text.dropLast)
  else if mode.isEmpty then ("<", text)
  else (mode, path)

def open_ (evaluator : Evaluator) (terms : List Term) : Run Bool := do
  match terms with
  | [] => return false
  | target :: rest =>
      let place ← handleToOpen evaluator target
      let byMode (mode : Text) (values : List Value) : Run Bool := do
        let texts ← values.mapM textOf
        match accessOf? mode, values with
        | some access, .reference .scalar text :: _ =>
            if access.opening = .replacing then setScalar text (.text [])
            lead place (.memory text 0) access.mayRead access.mayWrite
            return true
        | some access, _ => openFile evaluator place access (texts.headD [])
        | none, value :: _ =>
            if mode = "-|" then openCommand evaluator place true (wordsOf texts)
            else if mode = "|-" then openCommand evaluator place false (wordsOf texts)
            else if mode = ">&" || mode = ">&=" || mode = ">>&" then
              duplicate evaluator place value true
            else if mode = "<&" || mode = "<&=" then duplicate evaluator place value false
            else die ("Unknown open() mode '".toList ++ mode ++ ['\''])
        | none, [] => return false
      match rest with
      | [] => return false
      | [term] =>
          let (mode, path) := splitMode (← textOf (← evaluator.value term))
          if path = "-" then
            duplicate evaluator place (.whole (if mode = "<" then 0 else 1)) (mode != "<".toList)
          else byMode mode [.text path]
      | mode :: rest =>
          let mode := plainMode (← textOf (← evaluator.value mode))
          byMode mode (← valuesOf evaluator rest)

/-- Reads a part into a scalar. -/
def readPart_ (evaluator : Evaluator) (terms : List Term) : Answer := do
  match terms with
  | handle :: target :: length :: rest =>
      let place ← handleBy evaluator handle
      let target ← evaluator.place target
      let text ← takeCharacters place (← evaluator.value length).toNat
      match rest with
      | offset :: _ =>
          let start := (← evaluator.value offset).toNat
          let before ← textOf (← scalarAt target)
          let lead := before.take start ++ List.replicate (start - before.length) '\x00'
          setScalar target (.text (lead ++ text))
      | [] => setScalar target (.text text)
      answer (.ofNat text.length)
  | _ => answer .undefined

def ofHandles (evaluator : Evaluator) (name : Text) (terms : List Term) (want : Want) : Answer := do
  match String.ofList name, terms with
  | "open", terms => answerBool (← open_ evaluator terms)
  | "close", handle :: _ => answerBool (← closeHandle evaluator.host (← handleBy evaluator handle))
  | "closedir", handle :: _ =>
      answerBool (← closeHandle evaluator.host (← handleBy evaluator handle))
  | "eof", terms =>
      let place ← match terms with
        | handle :: _ => handleBy evaluator handle
        | [] => match (← get).lastRead with
          | some place => pure place
          | none => pure placeOfInput
      answerBool (← isAtEnd place)
  | "binmode", _ | "flock", _ => answer (.whole 1)
  | "fileno", handle :: _ =>
      match (← handleAt? (← handleBy evaluator handle)).map Handle.way with
      | some (.stream stream) => answer (.ofNat stream.number)
      | _ => answer .undefined
  | "readline", handle :: _ =>
      let place ← handleBy evaluator handle
      if want = .all then
        return some ((← takeLines place evaluator.limit []).map .text)
      else match ← takeLine place with
        | some line => answerText line
        | none => answer .undefined
  | "getc", terms =>
      let place ← match terms with
        | handle :: _ => handleBy evaluator handle
        | [] => pure placeOfInput
      let text ← takeCharacters place 1
      answer (if text.isEmpty then .undefined else .text text)
  | "read", terms | "sysread", terms => readPart_ evaluator terms
  | "syswrite", handle :: text :: _ =>
      let place ← handleBy evaluator handle
      let text ← textOf (← evaluator.value text)
      let _ ← putOut place text
      flushHandle place
      answer (.ofNat text.length)
  | "seek", handle :: position :: rest =>
      let place ← handleBy evaluator handle
      let position := (← evaluator.value position).toInt
      let origin := (← valueAt evaluator rest 0).toInt
      match ← handleAt? place with
      | some handle =>
          match handle.way with
          | .stream stream =>
              let (here, size) ← stream.position
              let start : Int := if origin = 1 then here else if origin = 2 then size else 0
              let stream ← stream.goTo (start + position).toNat
              setHandle place { handle with way := .stream stream }
          | .memory target _ =>
              setHandle place { handle with way := .memory target position.toNat }
          | _ => pure ()
      | none => pure ()
      answer (.whole 1)
  | "tell", handle :: _ =>
      match (← handleAt? (← handleBy evaluator handle)).map Handle.way with
      | some (.stream stream) => answer (.ofNat (← stream.position).1)
      | some (.memory _ position) => answer (.ofNat position)
      | _ => answer (.whole (-1))
  | "truncate", handle :: _ => do
      let _ ← handleBy evaluator handle
      answer (.whole 1)
  | "opendir", target :: path :: _ =>
      let place ← handleToOpen evaluator target
      let path ← textOf (← evaluator.value path)
      match (← getThe Shell).tree.find (shownText path) with
      | .ok (.directory entries) =>
          let names := ['.'] :: ['.', '.'] :: entries.map fun entry => spreadText entry.1
          lead place (.entries names) true false
          answer (.whole 1)
      | .ok _ =>
          noteError 20
          answerBool false
      | .error error =>
          noteFileError error
          answerBool false
  | "readdir", handle :: _ =>
      let place ← handleBy evaluator handle
      match (← handleAt? place).map Handle.way with
      | some (.entries names) =>
          if want = .all then
            lead place (.entries []) true false
            return some (names.map .text)
          else
            lead place (.entries names.tail) true false
            answer ((names.head?.map Value.text).getD .undefined)
      | _ => answer .undefined
  | "select", [handle] =>
      let before := (← get).selected
      let place ← handleBy evaluator handle
      modify fun state => { state with selected := place }
      answer (.reference .handle before)
  | "select", [] => answer (.reference .handle (← get).selected)
  | _, _ => return none

/-! Files. -/

/-- Changes the files by a step that may fail. -/
def changeFiles (action : FileTree → Except FileError FileTree) : Run Bool := do
  let error : Option FileError ← liftM (n := Run) (Utility.change action)
  match error with
  | none => return true
  | some error =>
      noteFileError error
      return false

/-- How many of some paths an action succeeds on. -/
def countDone (paths : List Text) (action : Text → Run Bool) : Answer := do
  let mut count := 0
  for path in paths do
    if ← action path then count := count + 1
  answer (.ofNat count)

def ofFiles (evaluator : Evaluator) (name : Text) (terms : List Term) (want : Want) : Answer := do
  let pathsOrTopic : Run (List Text) := do
    match terms with
    | [] => return [← textOf (← topic)]
    | terms => textsOf evaluator terms
  match String.ofList name with
  | "unlink" =>
      countDone (← pathsOrTopic) fun path => changeFiles fun tree => do
        match ← tree.findEntry (shownText path) with
        | .directory _ => throw .isDirectory
        | _ => return tree.remove (← tree.followEntry (shownText path)).location
  | "mkdir" =>
      let path ← textOf (← firstOrTopic evaluator terms)
      answerBool (← changeFiles fun tree => tree.makeDirectory (shownText path))
  | "rmdir" =>
      let path ← textOf (← firstOrTopic evaluator terms)
      match (← getThe Shell).tree.find (shownText path) with
      | .ok (.directory (_ :: _)) =>
          noteError 39
          answerBool false
      | _ =>
          answerBool (← changeFiles fun tree => do
            match ← tree.findEntry (shownText path) with
            | .directory _ => return tree.remove (← tree.followEntry (shownText path)).location
            | _ => throw .notDirectory)
  | "rename" =>
      let source := shownText (← textAt evaluator terms 0)
      let target := shownText (← textAt evaluator terms 1)
      answerBool (← changeFiles fun tree => do
        let node ← tree.findEntry source
        let from_ ← tree.followEntry source
        let goal ← tree.followEntry target
        return (tree.remove from_.location).insert goal.location node)
  | "link" =>
      let source := shownText (← textAt evaluator terms 0)
      let target := shownText (← textAt evaluator terms 1)
      answerBool (← changeFiles fun tree => do
        let node ← tree.findEntry source
        return tree.insert (← tree.followEntry target).location node)
  | "symlink" =>
      let source := shownText (← textAt evaluator terms 0)
      let target := shownText (← textAt evaluator terms 1)
      answerBool (← changeFiles fun tree => do
        return tree.insert (← tree.followEntry target).location (.link source))
  | "readlink" =>
      let path ← textOf (← firstOrTopic evaluator terms)
      match (← getThe Shell).tree.findEntry (shownText path) with
      | .ok (.link target) => answerText (spreadText target)
      | .ok _ =>
          noteError 22
          answer .undefined
      | .error error =>
          noteFileError error
          answer .undefined
  | "chmod" =>
      match ← valuesOf evaluator terms with
      | mode :: paths =>
          let isExecutable := mode.toInt.toNat / 64 % 2 = 1
          countDone (← paths.mapM textOf) fun path => changeFiles fun tree => do
            let trail ← tree.followEntry (shownText path)
            match ← tree.find (shownText path) with
            | .file content _ => return tree.insert trail.location (.file content isExecutable)
            | _ => return tree
      | [] => answer (.whole 0)
  | "utime" | "chown" => answer (.ofNat ((← valuesOf evaluator terms).length - 2))
  | "chdir" =>
      let path ← textOf (← firstOrTopic evaluator terms)
      let shell ← getThe Shell
      match shell.tree.locate (shownText path), shell.tree.find (shownText path) with
      | .ok location, .ok (.directory _) =>
          modifyThe Shell fun shell => { shell with directory := location, trail := location }
          answerBool true
      | .ok _, .ok _ =>
          noteError 20
          answerBool false
      | .error error, _ | _, .error error =>
          noteFileError error
          answerBool false
  | "umask" => answer (.whole 18)
  | "stat" | "lstat" =>
      let path ← textOf (← firstOrTopic evaluator terms)
      let shell ← getThe Shell
      match shell.tree.find (shownText path) with
      | .ok node =>
          let facts := Utility.Particulars.ofNode node
          let now : Value := .whole (Clock.now shell).seconds
          let mode := Utility.Status.kindBits facts.kind + facts.mode
          let values : List Value := [.whole 64, .whole 131072, .ofNat mode, .ofNat facts.names,
            .ofNat Utility.Status.ownerNumber, .ofNat Utility.Status.ownerNumber, .whole 0,
            .ofNat facts.size, now, now, now, .whole 4096, .ofNat facts.blocks]
          if want = .all then return some values else answer (.whole 1)
      | .error error =>
          noteFileError error
          return some (if want = .all then [] else [.text []])
  | "glob" =>
      let patterns := blankPieces (← textOf (← firstOrTopic evaluator terms))
      let shell := { (← getThe Shell) with options := [], settings := [] }
      let names := patterns.flatMap fun pattern =>
        if pattern.any fun c => c = '*' || c = '?' || c = '[' then
          (Expansion.pathsFrom shell shell.tree
            (Expansion.components (pattern.length + 1) (Pattern.bare pattern)) []).mergeSort
            Text.atMost
        else [pattern]
      if want = .all then return some (names.map .text)
      else answer ((names.head?.map Value.text).getD .undefined)
  | _ => return none

/-- The verdict of a test on a file. -/
def fileTest (evaluator : Evaluator) (letter : Char) (subject : Term) : Run Value := do
  let tree := (← getThe Shell).tree
  let path ← match subject with
    | .word ['_'] => pure (← get).tested
    | .word name => pure name
    | term => textOf (← evaluator.value term)
  modify fun state => { state with tested := path }
  match letter with
  | 't' => return .ofBool false
  | 'l' => return .ofBool (Condition.isLink tree path)
  | 's' =>
      match tree.find (shownText path) with
      | .ok (.file content _) => return if content.size = 0 then .text [] else .ofNat content.size
      | .ok (.directory _) => return .whole 4096
      | .ok _ => return .text []
      | .error error =>
          noteFileError error
          return .undefined
  | 'z' =>
      match tree.find (shownText path) with
      | .ok (.file content _) => return .ofBool (content.size = 0)
      | .ok _ => return .ofBool false
      | .error error =>
          noteFileError error
          return .undefined
  | 'M' | 'A' | 'C' => return if (tree.find (shownText path)).isOk then .whole 0 else .undefined
  | letter =>
      match tree.find (shownText path) with
      | .error error =>
          noteFileError error
          return .undefined
      | .ok _ =>
          let letter := if letter = 'R' || letter = 'W' || letter = 'X' then letter.toLower
            else if letter = 'o' then 'O' else letter
          return .ofBool (Condition.ofFile tree ['-', letter] path)

/-! The course of the program. -/

/-- Waits, unless an alarm comes first. The result tells whether one came. -/
def pause (millis : Nat) : Run Bool := do
  let now := (← getThe Shell).now
  match (← get).alarm with
  | some time =>
      if time ≤ now + millis then
        modify fun state => { state with alarm := none }
        liftM (n := Run) (elapse (time - now))
        return true
      else
        liftM (n := Run) (elapse millis)
        return false
  | none =>
      liftM (n := Run) (elapse millis)
      return false

/-- The handler that the program has for a signal. -/
def handlerOf (signal : Nat) : Run Value := do
  match (← get).names.get? "%main::SIG" with
  | some table => entryAt table (Signal.name signal)
  | none => return .undefined

/-- What a signal does to the program. -/
def receiveSignal (evaluator : Evaluator) (signal : Nat) : Run Unit := do
  let name := Signal.name signal
  let callBy (place : Nat) : Run Unit := do
    let argument ← fresh (.text name)
    let _ ← evaluator.call place [argument] .nothing
  match ← handlerOf signal with
  | .reference .routine place => callBy place
  | .undefined =>
      let _ ← liftM (n := Run) (Builtin.send signal (← getThe Shell).process)
  | value =>
      let text ← textOf value
      if text = "IGNORE" then pure ()
      else if text.isEmpty || text = "DEFAULT" then
        let _ ← liftM (n := Run) (Builtin.send signal (← getThe Shell).process)
      else match ← routineNamed? (fullName "main" text) with
        | some place => callBy place
        | none => pure ()

/-- The signal that a value names or numbers, and whether it goes to a group. -/
def signalOf? (value : Value) : Run (Option (Nat × Bool)) := do
  let text ← textOf value
  let (isGroup, name) : Bool × Text := match text with
    | '-' :: name => (true, name)
    | name => (false, name)
  let name := (Text.after? "SIG" name).getD name
  if name = "ZERO" then return some (0, isGroup)
  return (Signal.ofText? name).map fun signal => (signal, isGroup)

/-- Calls the routine that the program has for a kind of message, unless it has none. -/
def hook? (evaluator : Evaluator) (name : Text) (value : Value) : Run Bool := do
  match (← get).names.get? "%main::SIG" with
  | none => return false
  | some table =>
      match ← entryAt table name with
      | .reference .routine place =>
          let holder ← entryPlace table name
          let before ← scalarAt holder
          setScalar holder .undefined
          ensuring (do
            let argument ← fresh value
            let _ ← evaluator.call place [argument] .nothing) (setScalar holder before)
          return true
      | _ => return false

/-- The message that a list of values makes. -/
def messageOf (values : List Value) (usual : Text) : Run Value := do
  match values with
  | [.reference kind place] => return .reference kind place
  | values =>
      let text := (← values.mapM textOf).flatten
      let text := if text.isEmpty then usual else text
      if text.getLast? = some '\n' then return .text text
      else return .text (text ++ (← whereabouts))

def warn (evaluator : Evaluator) (values : List Value) (usual : Text) : Run Unit := do
  let message ← messageOf values usual
  if !(← hook? evaluator "__WARN__" message) then
    let _ ← putOut placeOfProblems (← textOf message)

def ofCourse (evaluator : Evaluator) (name : Text) (terms : List Term) (want : Want) : Answer := do
  match String.ofList name with
  | "die" =>
      let message ← messageOf (← valuesOf evaluator terms) "Died"
      let _ ← hook? evaluator "__DIE__" message
      throw (.died message)
  | "warn" =>
      warn evaluator (← valuesOf evaluator terms) "Warning: something's wrong"
      answer (.whole 1)
  | "return" =>
      match ((← get).frames.head?).map Frame.want with
      | some .all => throw (.returned (← valuesOf evaluator terms))
      | some .one =>
          match terms.getLast? with
          | some last =>
              for term in terms.dropLast do
                let _ ← evaluator.value term
              throw (.returned [← evaluator.value last])
          | none => throw (.returned [.undefined])
      | _ => throw (.returned (← valuesOf evaluator terms))
  | "exit" =>
      let status := (← valueAt evaluator terms 0).toInt
      throw (.ended (status % 256).toNat)
  | "last" | "next" | "redo" =>
      let label : Text ← match terms with
        | .word label :: _ => pure label
        | .constant (.text label) :: _ => pure label
        | _ => pure []
      if name = "last" then throw (.last label)
      else if name = "next" then throw (.next label)
      else throw (.redo label)
  | "sleep" =>
      let seconds := (← valueAt evaluator terms 0).toNat
      if ← pause (seconds * 1000) then receiveSignal evaluator 14
      answer (.ofNat seconds)
  | "fine sleep" =>
      let seconds := (← valueAt evaluator terms 0).toFloat
      if ← pause (seconds * 1000).toUInt64.toNat then receiveSignal evaluator 14
      answer (.real seconds)
  | "usleep" =>
      if ← pause ((← valueAt evaluator terms 0).toNat / 1000) then receiveSignal evaluator 14
      answer (.whole 0)
  | "select" =>
      let seconds := (← valueAt evaluator terms 3).toFloat
      if ← pause (seconds * 1000).toUInt64.toNat then receiveSignal evaluator 14
      answer (.whole 0)
  | "alarm" =>
      let seconds := (← firstOrTopic evaluator terms).toNat
      let now := (← getThe Shell).now
      let before := (← get).alarm
      modify fun state => { state with
        alarm := if seconds = 0 then none else some (now + seconds * 1000) }
      answer (.ofNat ((before.map fun time => (time - now + 999) / 1000).getD 0))
  | "kill" =>
      match ← valuesOf evaluator terms with
      | [] => answer (.whole 0)
      | signal :: processes =>
          match ← signalOf? signal with
          | none => die ("Unrecognized signal name \"".toList ++ (← textOf signal) ++ ['"'])
          | some (signal, _) =>
              let mut count := 0
              for process in processes do
                let process := process.toInt
                let shell ← getThe Shell
                if process.natAbs = shell.process then
                  if signal != 0 then
                    if signal = 9 then
                      let _ ← liftM (n := Run) (Builtin.send signal shell.process)
                    else receiveSignal evaluator signal
                  count := count + 1
                else if signal = 0 then count := count + 1
                else
                  let isDone ← liftM (n := Run) (Builtin.send signal process.natAbs)
                  if isDone then count := count + 1 else noteError 3
              answer (.ofNat count)
  | "system" =>
      let (status, _) ← carryOutCommand evaluator.host (wordsOf (← textsOf evaluator terms)) none
        false
      let status : Int := (status.map Int.ofNat).getD (-1)
      setScalar placeOfStatus (.whole status)
      answer (.whole status)
  | "exec" =>
      flushAll
      match wordsOf (← textsOf evaluator terms) with
      | [] => answer (.text [])
      | program :: arguments =>
          let before ← getThe Shell
          shareEnvironment
          let error : FileError ← liftM (n := Run) (evaluator.host.start program arguments)
          modifyThe Shell fun shell => { shell with bindings := before.bindings }
          noteFileError error
          answer (.text [])
  | "fork" | "wait" | "waitpid" =>
      noteError 10
      answer (if name = "fork" then .undefined else .whole (-1))
  | "getppid" => answer (.whole (firstProcess - 1))
  | "time" =>
      let now : Calendar.Moment ← liftM (n := Run) Clock.ask
      answer (.whole now.seconds)
  | "fine time" =>
      let now : Calendar.Moment ← liftM (n := Run) Clock.ask
      answer (.real (Float.ofInt now.seconds + Float.ofNat now.nanos / 1000000000.0))
  | "times" => return some [.real 0.01, .real 0, .real 0, .real 0]
  | "localtime" | "gmtime" =>
      let shell ← getThe Shell
      let moment : Calendar.Moment ← match terms with
        | term :: _ => pure { seconds := (← evaluator.value term).toInt }
        | [] => pure (Clock.now shell)
      let face := Clock.faceOf shell moment
      if want = .all then return some (momentParts face) else answerText (momentText face)
  | "rand" =>
      let most := match (← valueAt evaluator terms 0).toFloat with
        | 0 => 1.0
        | most => most
      let seed := (← get).seed * 25214903917 + 11
      modify fun state => { state with seed }
      let part := Float.ofNat (seed.toNat / twoTo 16 % twoTo 48) / Float.ofNat (twoTo 48)
      answer (.real (part * most))
  | "srand" =>
      let seed := (← valueAt evaluator terms 0).toNat
      modify fun state => { state with seed := UInt64.ofNat (seed * 65536 + 13070) }
      answer (.ofNat seed)
  | "caller" =>
      let level := (← valueAt evaluator terms 0).toNat
      let state ← get
      match state.frames[level]? with
      | none => return some (if want = .all then [] else [.undefined])
      | some frame =>
          let package := ((state.frames[level + 1]?).map Frame.package).getD "main"
          if want != .all then answer (.text package)
          else
            let facts : List Value := [.text package, .text state.path, .ofNat frame.line]
            return some (if terms.isEmpty then facts
              else facts ++ [.text frame.name, .whole 1, .ofBool (frame.want = .all)])
  | "require" => answer (.whole 1)
  | "getlogin" => answer (.text Utility.Status.owner)
  | "exists" => answer .undefined
  | _ => return none

/-- What a feature gives. -/
def evaluate (evaluator : Evaluator) (name : Text) (terms : List Term) (want : Want) :
    Run (List Value) := do
  if oneValue.elem name then
    let value ← firstOrTopic evaluator terms
    match ← ofNumber name value with
    | some values => return values
    | none => return ((← ofText name value).getD [])
  if let some values ← ofTexts evaluator name terms want then return values
  if let some values ← ofLists evaluator name terms want then return values
  if let some values ← ofCourse evaluator name terms want then return values
  if let some values ← ofHandles evaluator name terms want then return values
  if let some values ← ofFiles evaluator name terms want then return values
  die ("The ".toList ++ name ++ " function is unimplemented".toList)

end Feature

end ShaderCost.Script.Sigil
