import ShaderCost.Script.Sigil.Machine
import ShaderCost.Script.Sigil.Syntax

/-!
Places that terms lead to: what names and references stand for, elements and entries, and what is
local to a block.
-/

namespace ShaderCost.Script.Sigil

/-- The ways to evaluate what lies inside. -/
structure Evaluator where
  host : Host
  evaluate : Want → Term → Run (List Value)
  value : Term → Run Value
  values : Term → Run (List Value)
  place : Term → Run Nat
  listPlace : Term → Run Nat
  tablePlace : Term → Run Nat
  /-- The places of the elements that a term gives. -/
  aliases : Term → Run (List Nat)
  call : (routine : Nat) → (arguments : List Nat) → Want → Run (List Value)
  block : List Statement → Want → Run (List Value)
  /-- How often a loop may go round. -/
  limit : Nat

/-- How messages call what is behind a reference. -/
def Kind.wording : Kind → Text
  | .scalar => "a SCALAR"
  | .list => "an ARRAY"
  | .table => "a HASH"
  | .routine => "a CODE"
  | .handle => "a GLOB"
  | .pattern => "a Regexp"

/-- Says that a text cannot stand for a place. -/
def refuseText {α : Type} (text : Text) (kind : Kind) : Run α := do
  let shown : Text := if 32 < text.length then text.take 32 ++ "\"...".toList else text ++ ['"']
  die ("Can't use string (\"".toList ++ shown ++ ") as ".toList ++ kind.wording ++
    " ref while \"strict refs\" in use".toList)

/-- What lies behind a reference. Where there is nothing yet, it is made if that is asked for. -/
def placeBehind (shape : Shape) (holder : Nat) (creates : Bool) : Run Nat := do
  match ← scalarAt holder with
  | .reference kind place =>
      if kind = shape.kind then return place
      else die ("Not ".toList ++ shape.kind.wording ++ " reference".toList)
  | .undefined =>
      if creates then
        let place ← allocate (contentOf shape)
        setScalar holder (.reference shape.kind place)
        return place
      else die ("Can't use an undefined value as ".toList ++ shape.kind.wording ++
        " reference".toList)
  | value =>
      let text ← textOf value
      if (← get).program.isStrict then refuseText text shape.kind
      else sharedPlace shape (fullName "main" text)

/-- The place of a declaration, which is a new one each time. -/
def introduce (shape : Shape) (number : Nat) : Run Nat := do
  let state ← get
  if state.met.getD number false then
    let place ← allocate (contentOf shape)
    modify fun state => { state with own := state.own.setIfInBounds number place }
    return place
  else
    set { state with met := state.met.setIfInBounds number true }
    return state.own.getD number 0

/-! Elements and entries. -/

/-- The number of an element that may be counted from the end, unless it lies before the
beginning. -/
def indexIn? (size : Nat) (index : Int) : Option Nat :=
  if 0 ≤ index then some index.toNat
  else if (size : Int) + index < 0 then none
  else some ((size : Int) + index).toNat

def elementAt (list : Nat) (index : Int) : Run Value := do
  let places ← listAt list
  match indexIn? places.size index with
  | some number =>
      match places[number]? with
      | some place => scalarAt place
      | none => return .undefined
  | none => return .undefined

/-- The place of an element, with all before it made if need be. -/
def elementPlace (list : Nat) (index : Int) : Run Nat := do
  let places ← listAt list
  match indexIn? places.size index with
  | none =>
      die ("Modification of non-creatable array value attempted, subscript ".toList ++
        Text.ofInt index)
  | some number =>
      match places[number]? with
      | some place => return place
      | none =>
          spend (number - places.size)
          let added ← freshAll (List.replicate (number + 1 - places.size) .undefined)
          setContent list (.list (places ++ added))
          return added.back?.getD 0

def entryAt (table : Nat) (key : Text) : Run Value := do
  match (← tableAt table).get? key with
  | some place => scalarAt place
  | none => return .undefined

def entryPlace (table : Nat) (key : Text) : Run Nat := do
  match (← tableAt table).get? key with
  | some place => return place
  | none =>
      let place ← fresh .undefined
      onContent table fun content => match content with
        | .table entries => ((), .table (entries.insert key place))
        | content => ((), content)
      return place

/-- The values of a list. -/
def listValues (list : Nat) : Run (List Value) := do
  let places ← listAt list
  spend (places.size / 8)
  places.toList.mapM scalarAt

/-- The keys of a table, each with its value. -/
def tableValues (table : Nat) : Run (List Value) := do
  let entries := (← tableAt table).entries
  spend (entries.length / 4)
  let pairs ← entries.mapM fun (key, place) => do return [Value.text key, ← scalarAt place]
  return pairs.flatten

def setList (list : Nat) (values : List Value) : Run Unit := do
  spend (values.length / 8)
  setContent list (.list (← freshAll values))

/-- Keys with their values as a table. -/
def entriesOf : (fuel : Nat) → List Value → Roster Nat → Run (Roster Nat)
  | fuel + 1, key :: value :: rest, entries => do
      let key ← textOf key
      entriesOf fuel rest (entries.insert key (← fresh value))
  | _, [key], entries => do
      let key ← textOf key
      return entries.insert key (← fresh .undefined)
  | _, _, entries => return entries

def setTable (table : Nat) (values : List Value) : Run Unit := do
  spend (values.length / 8)
  setContent table (.table (← entriesOf values.length values .empty))

/-- The text that the value of a key stands for. -/
def keyOf (evaluator : Evaluator) (key : Term) : Run Text := do
  match key with
  | .constant (.text text) => return text
  | .listed terms@(_ :: _ :: _) =>
      let texts ← (← evaluator.values (.listed terms)).mapM textOf
      let joint ← textOf (← scalarAt placeOfSubscript)
      return List.intercalate joint texts
  | key => textOf (← evaluator.value key)

def keysOf (evaluator : Evaluator) (keys : Term) : Run (List Text) := do
  (← evaluator.values keys).mapM textOf

/-! What is local. -/

/-- Keeps what a place holds until the block is left. -/
def keep (place : Nat) : Run Unit := do
  let cell ← cellAt place
  modify fun state => { state with saved := (place, cell) :: state.saved }

/-- Puts back what was kept since there were as many as told. -/
def putBack : (fuel : Nat) → (count : Nat) → Run Unit
  | 0, _ => pure ()
  | fuel + 1, count => do
      match (← get).saved with
      | [] => pure ()
      | (place, cell) :: saved =>
          if saved.length < count then pure ()
          else
            modify fun state => { state with saved }
            setCell place cell
            putBack fuel count

/-- Carries out an action and something after it, however the action ends. -/
def ensuring {α : Type} (action : Run α) (after : Run Unit) : Run α := do
  let result ← tryCatch action fun leave => do
    after
    throw leave
  after
  return result

/-- Carries out an action after which all that became local is what it was. -/
def locally {α : Type} (action : Run α) : Run α := do
  let count := (← get).saved.length
  ensuring action do
    let saved := (← get).saved
    if !saved.isEmpty then putBack saved.length count

/-- Lets a name lead to another place during an action. -/
def withName {α : Type} (key : Text) (place : Nat) (action : Run α) : Run α := do
  let before := (← get).names.get? key
  modify fun state => { state with names := state.names.insert key place }
  ensuring action <| modify fun state =>
    { state with names := match before with
      | some before => state.names.insert key before
      | none => state.names.erase key }

/-- The name of the value that is worked on where none is named. -/
def topicKey : Text := "$main::_"

def topic : Run Value := do scalarAt (← sharedPlace .scalar "main::_")

/-! Routines. -/

/-- The routine that goes by a name. -/
def routineNamed? (name : Text) : Run (Option Nat) := do
  return (← get).names.get? ('&' :: name)

/-- Gives a routine a name. -/
def nameRoutine (name : Text) (place : Nat) : Run Unit := modify fun state =>
  { state with names := state.names.insert ('&' :: name) place }

/-- The package that the routine under way belongs to. -/
def presentPackage : Run Text := do
  return ((← get).frames.head?).elim "main" Frame.package

/-- The classes that a class comes from, itself first. -/
def ancestry : (fuel : Nat) → (name : Text) → Run (List Text)
  | 0, _ => return []
  | fuel + 1, name => do
      let parents ← match (← get).names.get? ("@".toList ++ name ++ "::ISA".toList) with
        | some place => (← listValues place).mapM textOf
        | none => pure []
      let above ← parents.mapM (ancestry fuel)
      return name :: above.flatten

/-- How many classes may come from one another. -/
def longestAncestry : Nat := 32

/-- The routine that members of a class have under a name. -/
def methodOf? (classes : List Text) (name : Text) : Run (Option Nat) := do
  let names := (← get).names
  return classes.findSome? fun package => names.get? ("&".toList ++ package ++ "::".toList ++ name)

/-- The class of a value that is a member of one. -/
def classOf? (value : Value) : Run (Option Text) := do
  match value with
  | .reference kind place =>
      match (← cellAt place).package, kind with
      | some package, _ => return some package
      | none, .pattern => return some "Regexp"
      | none, _ => return none
  | _ => return none

end ShaderCost.Script.Sigil

/-!
Searches in texts, replacements and mappings of characters.
-/

namespace ShaderCost.Script.Sigil

def keptExpressions : Nat := 40

/-- The letters of flags. -/
def flagLetters (flags : Expression.Rich.Flags) : Text :=
  let letter (isOn : Bool) (c : Char) : Text := if isOn then [c] else []
  letter flags.seesLines 'm' ++ letter flags.pointsAtAll 's' ++ letter flags.foldsCase 'i' ++
    letter flags.isSpaced 'x'

/-- The text that an expression is shown as. -/
def shownExpression (flags : Expression.Rich.Flags) (text : Text) : Text :=
  "(?^".toList ++ flagLetters flags ++ ':' :: text ++ [')']

/-- The expression that a text spells. -/
def expressionFor (flags : Expression.Rich.Flags) (text : Text) : Run Expression := do
  let key := flagLetters flags ++ '/' :: text
  match (← get).expressions.lookup key with
  | some expression => return expression
  | none =>
      match Expression.Rich.ofText {} flags text with
      | .ok expression =>
          modify fun state => { state with
            expressions := (key, expression) :: state.expressions.take keptExpressions }
          return expression
      | .error problem =>
          die (problem ++ " in regex; marked by <-- HERE in m/".toList ++ text ++
            " <-- HERE /".toList)

/-- The expression that a pattern term stands for. -/
def patternOf (evaluator : Evaluator) (pattern : Term) (asked : Asked) : Run Expression := do
  let ofValue (value : Value) : Run Expression := do
    match value with
    | .reference .pattern place =>
        match (← cellAt place).content with
        | .pattern expression _ => return expression
        | _ => expressionFor asked.flags []
    | value => expressionFor asked.flags (← textOf value)
  match pattern with
  | .joined [term] => ofValue (← evaluator.value term)
  | term => ofValue (← evaluator.value term)

/-- Notes what was found in a subject, a part of which lies before the text that was searched. -/
def noteFound (expression : Expression) (past : Text) (occurrence : Expression.Occurrence) :
    Run Unit :=
  let before := past ++ occurrence.before
  let start := before.length
  let groups := (List.range (expression.groups + 1)).map fun number =>
    if number = 0 then some (occurrence.found, start, start + occurrence.found.length)
    else match occurrence.noted.lookup number, occurrence.group? number with
      | some (first, last), some text => some (text, start + first, start + last)
      | _, _ => none
  modify fun state => { state with found := some {
    before
    found := occurrence.found
    behind := occurrence.behind
    groups := groups.toArray
    names := expression.names } }

/-- The texts of the groups of an occurrence. -/
def groupValues (expression : Expression) (occurrence : Expression.Occurrence) : List Value :=
  (List.range expression.groups).map fun number =>
    match occurrence.group? (number + 1) with
    | some text => .text text
    | none => .undefined

/-- Where the search in a scalar goes on, and whether nothing was found there before. -/
def positionOf (place : Nat) : Run (Option (Nat × Bool)) := do
  return (← get).positions.lookup place

def setPosition (place : Nat) (position : Option (Nat × Bool)) : Run Unit := modify fun state =>
  let others := state.positions.filter fun entry => entry.1 != place
  { state with positions := match position with
    | some position => (place, position) :: others
    | none => others }

/-- Whether a term leads to a place of its own. -/
def isPlace : Term → Bool
  | .name .scalar _ | .element _ _ | .entry _ _ | .behind .scalar _ => true
  | .declare _ .scalar _ | .localize _ | .assign _ _ => true
  | .listed [term] => isPlace term
  | _ => false

/-- The place of a subject, if it has one, and its text. -/
def subjectOf (evaluator : Evaluator) (subject : Option Term) : Run (Option Nat × Text) := do
  let place? ← match subject with
    | none => some <$> sharedPlace .scalar "main::_"
    | some (.constant (.text text)) => do
        let place ← sharedPlace .scalar ('=' :: text)
        setScalar place (.text text)
        pure (some place)
    | some term => if isPlace term then some <$> evaluator.place term else pure none
  match place?, subject with
  | some place, _ => return (some place, ← textOf (← scalarAt place))
  | none, some term => return (none, ← textOf (← evaluator.value term))
  | none, none => return (none, [])

/-- Searches once and notes what is found. -/
def searchOnce (expression : Expression) (text : Text) :
    Run (Option Expression.Occurrence) := do
  spend (text.length / charactersPerTurn)
  match expression.find? [] text with
  | some occurrence =>
      noteFound expression [] occurrence
      return some occurrence
  | none => return none

/-- Searches from where the last search in the subject ended. -/
def searchOn (expression : Expression) (asked : Asked) (place : Nat) (text : Text) :
    Run (Option Expression.Occurrence) := do
  spend (text.length / charactersPerTurn)
  let (start, refuses) := (← positionOf place).getD (0, false)
  if text.length < start then
    setPosition place none
    return none
  let past := text.take start
  match Expression.Rich.next? expression refuses past.reverse (text.drop start) with
  | some occurrence =>
      noteFound expression past occurrence
      let finish := start + occurrence.before.length + occurrence.found.length
      setPosition place (some (finish, occurrence.found.isEmpty))
      return some occurrence
  | none =>
      if !asked.keepsPlace then setPosition place none
      return none

/-- A search, with what it gives. -/
def matching (evaluator : Evaluator) (subject : Option Term) (wanted : Bool) (pattern : Term)
    (asked : Asked) (want : Want) : Run (List Value) := do
  let (place?, text) ← subjectOf evaluator subject
  let expression ← patternOf evaluator pattern asked
  let verdict (isFound : Bool) : List Value := [.ofBool (isFound == wanted)]
  match asked.everywhere, place?, want with
  | true, place?, .all =>
      spend (text.length / charactersPerTurn)
      let start ← match place? with
        | some place => pure (((← positionOf place).map Prod.fst).getD 0)
        | none => pure 0
      let (occurrences, _) := Expression.Rich.series expression (2 * text.length + 2) false
        (text.take start).reverse (text.drop start)
      match place? with
      | some place => setPosition place none
      | none => pure ()
      match occurrences.getLast? with
      | none => return if wanted then [] else [.whole 1]
      | some last =>
          let before := text.length - last.behind.length - last.found.length - last.before.length
          noteFound expression (text.take before) last
          if !wanted then return [.text []]
          return occurrences.flatMap fun occurrence =>
            if expression.groups = 0 then [.text occurrence.found]
            else groupValues expression occurrence
  | true, some place, _ => return verdict (← searchOn expression asked place text).isSome
  | true, none, _ | false, _, _ =>
      match ← searchOnce expression text, want with
      | some occurrence, .all =>
          if !wanted then return [.text []]
          else if expression.groups = 0 then return [.whole 1]
          else return groupValues expression occurrence
      | none, .all => return if wanted then [] else [.whole 1]
      | found, _ => return verdict found.isSome

/-- A replacement, with what it gives: the number of times it was made or, where that is asked for,
the result. -/
def replacing (evaluator : Evaluator) (subject : Option Term) (pattern : Term)
    (replacement : Run Text) (asked : Asked) : Run Value := do
  let (place?, text) ← subjectOf evaluator subject
  let expression ← patternOf evaluator pattern asked
  spend (text.length / charactersPerTurn)
  let (occurrences, last) : List Expression.Occurrence × Text :=
    if asked.everywhere then Expression.Rich.allIn expression text
    else match expression.find? [] text with
      | some occurrence => ([occurrence], occurrence.behind)
      | none => ([], text)
  let mut pieces : List Text := []
  let mut reached := 0
  for occurrence in occurrences do
    noteFound expression (text.take reached) occurrence
    reached := reached + occurrence.before.length + occurrence.found.length
    let made ← replacement
    pieces := made :: occurrence.before :: pieces
  let result := (last :: pieces).reverse.flatten
  if asked.gives then return .text result
  if occurrences.isEmpty then return .text []
  match place? with
  | some place =>
      setScalar place (.text result)
      setPosition place none
  | none => pure ()
  return .ofNat occurrences.length

/-- A mapping of characters, with what it gives. -/
def mapCharacters (evaluator : Evaluator) (subject : Option Term) (mapping : Mapping) :
    Run Value := do
  let (place?, text) ← subjectOf evaluator subject
  spend (text.length / charactersPerTurn)
  let (result, count) := mapping.apply text none [] 0
  if mapping.gives then return .text result
  match place? with
  | some place => if result != text then setScalar place (.text result)
  | none => pure ()
  return .ofNat count

/-- The text of a group of the last match. -/
def captured (number : Nat) : Run Value := do
  match (← get).found with
  | some found =>
      match found.groups.getD number none with
      | some (text, _, _) => return .text text
      | none => return .undefined
  | none => return .undefined

/-- The text before the last match, or behind it. -/
def aroundMatch (isBehind : Bool) : Run Value := do
  match (← get).found with
  | some found => return .text (if isBehind then found.behind else found.before)
  | none => return .undefined

/-- Where the last match and its groups begin or end. -/
def bounds (atEnd : Bool) : Run (List Value) := do
  match (← get).found with
  | some found => return found.groups.toList.map fun group => match group with
      | some (_, first, last) => .ofNat (if atEnd then last else first)
      | none => .undefined
  | none => return []

end ShaderCost.Script.Sigil
