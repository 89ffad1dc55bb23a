import ShaderCost.Script.Sigil.Calls
import ShaderCost.Script.Sigil.Inputs
import ShaderCost.Script.Sigil.Reader

/-!
Blocks and texts whose failure a program catches, and files that it carries out.
-/

namespace ShaderCost.Script.Sigil

variable (evaluator : Evaluator)

/-- Carries out an action whose failure is noted and gives nothing. -/
def catching (want : Want) (action : Run (List Value)) : Run (List Value) := do
  let before ← get
  setScalar placeOfFault (.text [])
  let attempt : Run (List Value) := do
    let values ← tryCatch action fun leave => match leave with
      | .returned values => return values
      | leave => throw leave
    setScalar placeOfFault (.text [])
    return values
  tryCatch attempt fun leave => match leave with
    | .died value => do
        modify fun state => { state with
          own := before.own, frames := before.frames, path := before.path, line := before.line }
        setScalar placeOfFault value
        return if want = .all then [] else [.undefined]
    | leave => throw leave

/-- A block whose failure is caught. -/
def guarded (body : List Statement) (want : Want) : Run (List Value) :=
  catching want do return asWanted want (← evaluator.block body want)

/-- Takes a program as the one that is under way, with places for what it adds to that. -/
def install (program : Program) : Run Unit := do
  let before := (← get).program
  let missing := program.declared.toList.drop (← get).own.size
  for (shape, _) in missing do
    let place ← allocate (contentOf shape)
    modify fun state => { state with own := state.own.push place }
  modify fun state => { state with
    program := { program with body := [] }
    met := state.met ++ (List.replicate (program.declared.size - state.met.size) false).toArray }
  let added := program.named.take (program.named.length - before.named.length)
  for (name, number) in added.reverse do
    let place ← allocate (.routine number (← get).own)
    nameRoutine name place

/-- Carries out routines that a program begins with. -/
def carryOutFirst (program : Program) (known : List Nat) : Run Unit := do
  for number in program.first do
    if !known.elem number then
      let place ← allocate (.routine number (← get).own)
      let _ ← evaluator.call place [] .nothing

/-- Carries out a text as a program. -/
def carryOutText (path text : Text) (sees : Bool) (want : Want) : Run (List Value) := do
  let state ← get
  match Program.within state.program path text (← presentPackage) sees with
  | .error (problem, _) => throw (.died (.text problem))
  | .ok program =>
      let outerPath := state.path
      modify fun state => { state with path }
      install program
      ensuring (do
        carryOutFirst evaluator program []
        evaluator.block program.body want)
        (modify fun state => { state with path := outerPath, line := state.line })

/-- Carries out a text whose failure is caught. -/
def evaluateText (text : Text) (want : Want) : Run (List Value) := do
  let number := (← get).evaluations + 1
  modify fun state => { state with evaluations := number }
  let path := "(eval ".toList ++ Text.ofNat number ++ [')']
  let line := (← get).line
  let values ← catching want (carryOutText evaluator path text true want)
  modify fun state => { state with line }
  return asWanted want values

/-- Carries out the program in a file. -/
def carryOutFile (path : Text) (want : Want) : Run (List Value) := do
  let text : Except FileError Text ← liftM (n := Run) (Utility.content path)
  match text with
  | .error error =>
      noteFileError error
      return asWanted want []
  | .ok text =>
      let line := (← get).line
      let values ← catching want (carryOutText evaluator path text false want)
      modify fun state => { state with line }
      return asWanted want values

/-- Carries out the program in a file once, which must not fail. -/
def requireFile (path : Text) : Run (List Value) := do
  let table ← sharedPlace .table "main::INC"
  if (← tableAt table).has path then return [.whole 1]
  match (← getThe Shell).tree.find (shownText path) with
  | .error _ =>
      die ("Can't locate ".toList ++ path ++ " in @INC (@INC entries checked: ".toList ++
        Reader.libraryPlaces ++ [')'])
  | .ok _ =>
      setScalar (← entryPlace table path) (.text path)
      let line := (← get).line
      let text : Except FileError Text ← liftM (n := Run) (Utility.content path)
      let values ← carryOutText evaluator path (text.toOption.getD []) false .one
      modify fun state => { state with line }
      match values.getLast? with
      | some value =>
          if value.isTrue then return [value]
          else die (path ++ " did not return a true value".toList)
      | none => die (path ++ " did not return a true value".toList)

end ShaderCost.Script.Sigil

/-!
Carrying out programs: terms have a value, or several where these are wanted, and statements are
carried out one after the other.
-/

namespace ShaderCost.Script.Sigil

variable (evaluator : Evaluator)

/-! Terms whose meaning hangs on what they are wanted for. -/

def isContextual : Term → Bool
  | .listed _ | .choose _ _ _ | .join _ _ _ | .call _ _ _ | .callBehind _ _ | .method _ _ _ _ =>
      true
  | .feature _ _ _ | .block _ | .guarded _ | .pass _ _ _ | .readLine _ | .readArguments => true
  | .matching _ _ _ _ | .assign _ _ | .output _ | .glob _ => true
  | _ => false

/-- The values of terms one after the other. Where one is wanted, it is that of the last term. -/
def inTurn (want : Want) : List Term → Run (List Value)
  | [] => return []
  | [term] => evaluator.evaluate want term
  | term :: rest => do
      let values ← evaluator.evaluate (if want = .all then .all else .nothing) term
      let others ← inTurn want rest
      return if want = .all then values ++ others else others

/-- What a command prints: as one text, or in lines. -/
def outputOf (command : Term) (want : Want) : Run (List Value) := do
  let command ← textOf (← evaluator.value command)
  let (status, text) ← carryOutCommand evaluator.host (wordsOf [command]) none true
  setScalar placeOfStatus (.whole ((status.map Int.ofNat).getD (-1)))
  match status, want with
  | none, .all => return []
  | none, _ => return [.undefined]
  | some _, .all =>
      let mark ← scalarAt placeOfMark
      if !mark.isDefined then return [.text text]
      let lines := (text.splitOn '\n').map (· ++ ['\n'])
      let lines := if text.getLast? = some '\n' || text.isEmpty then lines.dropLast
        else lines.dropLast ++ (lines.getLast?.map List.dropLast).toList
      return lines.map .text
  | some _, _ => return [.text text]

/-- Features that carry out other texts. -/
def carryOutFeature (name : Text) (terms : List Term) (want : Want) : Run (List Value) := do
  let text : Run Text := do
    match terms with
    | .word name :: _ => return name
    | term :: _ => textOf (← evaluator.value term)
    | [] => textOf (← topic)
  match String.ofList name with
  | "eval" => evaluateText evaluator (← text) want
  | "do" => carryOutFile evaluator (← text) want
  | "require" =>
      let path ← text
      if path.elem '/' || Text.endsWith ".pl" path || Text.endsWith ".pm" path then
        requireFile evaluator path
      else return [.whole 1]
  | _ => Feature.evaluate evaluator name terms want

def contextual (want : Want) (term : Term) : Run (List Value) := do
  match term with
  | .listed terms => inTurn evaluator want terms
  | .choose condition yes no =>
      if (← evaluator.value condition).isTrue then evaluator.evaluate want yes
      else evaluator.evaluate want no
  | .join junction left right =>
      let value ← evaluator.value left
      let goesOn := match junction with
        | .both => value.isTrue
        | .either => !value.isTrue
        | .defined => !value.isDefined
      if goesOn then evaluator.evaluate want right else return [value]
  | .call name arguments _ =>
      callNamed evaluator name (← argumentsOf evaluator arguments) want
  | .callBehind code arguments =>
      let code ← evaluator.value code
      callValue evaluator code (← argumentsOf evaluator arguments) want
  | .method object name dynamic arguments =>
      let object ← match object with
        | .word name => pure (Value.text name)
        | object => evaluator.value object
      let arguments ← evaluator.aliases arguments
      match dynamic with
      | none => callMethod evaluator object name arguments want
      | some term =>
          match ← evaluator.value term with
          | .reference .routine place =>
              let holder ← fresh object
              evaluator.call place (holder :: arguments) want
          | value => callMethod evaluator object (← textOf value) arguments want
  | .feature name terms _ => carryOutFeature evaluator name terms want
  | .block body => evaluator.block body want
  | .guarded body => guarded evaluator body want
  | .pass pass body values => passThrough evaluator pass body values want
  | .readLine handle => readFrom evaluator handle want
  | .readArguments => readFrom evaluator (.word "ARGV") want
  | .matching subject wanted pattern asked =>
      matching evaluator subject wanted pattern asked want
  | .assign target value =>
      if isSeveral target then
        let count ← assignList evaluator target value
        if want = .all then evaluator.values (settledTerm target) else return [.ofNat count]
      else return [← scalarAt (← assignScalar evaluator target value)]
  | .output command => outputOf evaluator command want
  | .glob pattern => globbed evaluator pattern want
  | _ => return []

/-! Several values. -/

/-- What a reference to each of some places is. -/
def referencesTo (places : List Nat) : List Value := places.map (Value.reference .scalar)

/-- The values of a list or a table behind a reference. -/
def valuesBehind (shape : Shape) (reference : Term) : Run (List Value) := do
  match ← seeBehind? evaluator shape reference with
  | none => return []
  | some place => if shape = .table then tableValues place else listValues place

def listOf (term : Term) : Run (List Value) := do
  match term with
  | .constant value => return [value]
  | .name .list name => listValues (← listNamed name)
  | .name .table name => tableValues (← tableNamed name)
  | .behind .list reference => valuesBehind evaluator .list reference
  | .behind .table reference => valuesBehind evaluator .table reference
  | .elements list indices =>
      let list ← evaluator.listPlace list
      (← evaluator.values indices).mapM fun index => elementAt list index.toInt
  | .entries table keys =>
      let table ← evaluator.tablePlace table
      (← keysOf evaluator keys).mapM fun key => entryAt table key
  | .pairs base keys =>
      let isTable := match base with
        | .name .table _ | .behind .table _ => true
        | _ => false
      let keys ← evaluator.values keys
      let pairs ←
        if isTable then do
          let table ← evaluator.tablePlace base
          keys.mapM fun key => do return [key, ← entryAt table (← textOf key)]
        else do
          let list ← evaluator.listPlace base
          keys.mapM fun index => do return [index, ← elementAt list index.toInt]
      return pairs.flatten
  | .picked values indices =>
      let values := (← evaluator.values values).toArray
      let indices ← evaluator.values indices
      let found := indices.map fun index =>
        (indexIn? values.size index.toInt).bind fun number => values[number]?
      if values.isEmpty then return [] else return found.map (·.getD .undefined)
  | .declare _ .list _ => listValues (← evaluator.listPlace term)
  | .declare _ .table _ => tableValues (← evaluator.tablePlace term)
  | .localize target =>
      match target with
      | .listed targets =>
          targets.forM (localize evaluator)
          return []
      | target =>
          localize evaluator target
          evaluator.values target
  | .compute .times (.listed terms) count =>
      let values ← evaluator.values (.listed terms)
      let count := (← evaluator.value count).toNat
      spend (values.length * count / 8)
      return (List.replicate count values).flatten
  | .range _ first last => rangeValues (← evaluator.value first) (← evaluator.value last)
  | .refer (.listed terms) => return referencesTo (← evaluator.aliases (.listed terms))
  | term =>
      if isContextual term then contextual evaluator .all term
      else return [← evaluator.value term]

/-! One value. -/

/-- Whether a term in a text stands for several values with blanks between them. -/
def givesSeveral : Term → Bool
  | .name .list _ | .behind .list _ | .elements _ _ | .entries _ _ => true
  | _ => false

/-- The text of a part of a text. -/
def partText (part : Term) : Run Text := do
  if givesSeveral part then
    let texts ← (← evaluator.values part).mapM textOf
    return List.intercalate (← textOf (← scalarAt placeOfJoint)) texts
  else textOf (← evaluator.value part)

/-- Whether the scalar place that was just changed says how much is held back. -/
def settleHaste (place : Nat) (value : Value) : Run Unit := do
  if place = placeOfHaste then
    holdAtMost (← get).selected (if value.isTrue then 0 else Stream.usualMost)

/-- Counts a place up or down. The result is its value before or after that. -/
def stepPlace (isBefore isUp : Bool) (place : Nat) : Run Value := do
  let before ← scalarAt place
  let after := if isUp then increment before else decrement before
  setScalar place after
  settleHaste place after
  if isBefore then return after
  match before with
  | .undefined => return if isUp then .whole 0 else .undefined
  | before => return before

/-- A place with the value that an operation gives. -/
def updatePlace (operation : Operation) (target value : Term) : Run Value := do
  match target with
  | .lastIndex _ | .feature _ _ _ =>
      let value ← compute operation (← evaluator.value target) (← evaluator.value value)
      let _ ← assignTo evaluator target value
      return value
  | .name .list _ | .declare _ .list _ | .behind .list _ =>
      let list ← evaluator.listPlace target
      let values ← listValues list
      let count := (← evaluator.value value).toNat
      match operation with
      | .times => setList list (List.replicate count values).flatten
      | _ => pure ()
      return .ofNat (values.length * count)
  | target =>
      let right ← evaluator.value value
      let place ← evaluator.place target
      let value ← compute operation (← scalarAt place) right
      setScalar place value
      settleHaste place value
      return value

/-- A place that gets a value if what it has asks for that. -/
def settlePlace (junction : Junction) (target value : Term) : Run Value := do
  let isMissing (present : Value) : Bool := match junction with
    | .both => present.isTrue
    | .either => !present.isTrue
    | .defined => !present.isDefined
  if isSeveral target then
    let present ← evaluator.value target
    if isMissing present then return .ofNat (← assignList evaluator target value)
    else return present
  else
    let place ← evaluator.place target
    let present ← scalarAt place
    if !isMissing present then return present
    let value ← evaluator.value value
    setScalar place value
    settleHaste place value
    return value

/-- A reference to what a term leads to. -/
def referTo (term : Term) : Run Value := do
  match term with
  | .call name none _ =>
      match ← routineNamed? name with
      | some place => return .reference .routine place
      | none => return .reference .routine (← allocate (.library name))
  | .callBehind code none => evaluator.value code
  | .name .list _ | .behind .list _ | .declare _ .list _ =>
      return .reference .list (← evaluator.listPlace term)
  | .name .table _ | .behind .table _ | .declare _ .table _ =>
      return .reference .table (← evaluator.tablePlace term)
  | .symbol _ => evaluator.value term
  | .assign target _ =>
      if isSeveral target then
        let _ ← evaluator.value term
        match settledTerm target with
        | .name .table name => return .reference .table (← tableNamed name)
        | target => return .reference .list (← evaluator.listPlace target)
      else return .reference .scalar (← evaluator.place term)
  | .listed [term] =>
      return ((referencesTo (← evaluator.aliases term)).getLast?).getD .undefined
  | term =>
      if isPlace term then return .reference .scalar (← evaluator.place term)
      else return .reference .scalar (← fresh (← evaluator.value term))

/-- Whether a range holds: from when the first condition holds until the last one does. A number
stands for the line that was read last. -/
def rangeHolds (number : Nat) (first last : Term) : Run Value := do
  let holds (term : Term) : Run Bool := do
    match term with
    | .constant (.whole line) => return (← sharedScalar "main::.").toInt = line
    | term => return (← evaluator.value term).isTrue
  let isInside := (← get).ranges.elem number
  if !isInside then
    if !(← holds first) then return .text []
    modify fun state => { state with ranges := number :: state.ranges }
  if ← holds last then
    modify fun state => { state with ranges := state.ranges.filter (· != number) }
  return .whole 1

/-- What a bare word stands for. -/
def wordValue (name : Text) : Run Value := do
  match ← routineNamed? (fullName (← presentPackage) name) with
  | some place => return ((← evaluator.call place [] .one).getLast?).getD .undefined
  | none => return (Library.constant? name).getD (.text name)

def scalarOf (term : Term) : Run Value := do
  let lastOf (values : List Value) : Value := values.getLast?.getD .undefined
  match term with
  | .constant value => return value
  | .joined parts => return .text (← parts.mapM (partText evaluator)).flatten
  | .name .scalar (.own number) => scalarAt ((← get).own.getD number 0)
  | .name .scalar (.shared name) => sharedScalar name
  | .name .list name => return .ofNat (← listAt (← listNamed name)).size
  | .name .table name => return .ofNat (← tableAt (← tableNamed name)).size
  | .captured number => captured number
  | .around isBehind => aroundMatch isBehind
  | .behind .scalar reference =>
      match ← seeBehind? evaluator .scalar reference with
      | some place => scalarAt place
      | none => return .undefined
  | .behind .list reference =>
      match ← seeBehind? evaluator .list reference with
      | some place => return .ofNat (← listAt place).size
      | none => return .whole 0
  | .behind .table reference =>
      match ← seeBehind? evaluator .table reference with
      | some place => return .ofNat (← tableAt place).size
      | none => return .whole 0
  | .element list index =>
      let list ← evaluator.listPlace list
      elementAt list (← evaluator.value index).toInt
  | .entry table key =>
      let table ← evaluator.tablePlace table
      entryAt table (← keyOf evaluator key)
  | .elements _ _ | .entries _ _ | .pairs _ _ | .picked _ _ =>
      return lastOf (← evaluator.values term)
  | .lastIndex list => return .whole ((← listAt (← evaluator.listPlace list)).size - 1 : Int)
  | .declare _ .scalar _ => scalarAt (← evaluator.place term)
  | .declare _ .list _ => return .ofNat (← listAt (← evaluator.listPlace term)).size
  | .declare _ .table _ => return .ofNat (← tableAt (← evaluator.tablePlace term)).size
  | .localize _ => return lastOf (← evaluator.values term)
  | .update operation target value => updatePlace evaluator operation target value
  | .settle junction target value => settlePlace evaluator junction target value
  | .compute operation left right =>
      let left ← evaluator.value left
      compute operation left (← evaluator.value right)
  | .exclusive left right =>
      let left ← evaluator.value left
      let right ← evaluator.value right
      return .ofBool (left.isTrue != right.isTrue)
  | .not term => return .ofBool !(← evaluator.value term).isTrue
  | .negative term => return negative (← evaluator.value term)
  | .complement term => return complement (← evaluator.value term)
  | .step isBefore isUp term =>
      match term with
      | .lastIndex _ =>
          let before ← evaluator.value term
          let after := if isUp then increment before else decrement before
          let _ ← assignTo evaluator term after
          return if isBefore then after else before
      | term => stepPlace isBefore isUp (← evaluator.place term)
  | .range number first last => rangeHolds evaluator number first last
  | .replacing subject pattern replacement asked =>
      let made : Run Text := do textOf (← evaluator.value replacement)
      replacing evaluator subject pattern made asked
  | .mapping subject mapping => mapCharacters evaluator subject mapping
  | .quoted pattern asked =>
      let expression ← patternOf evaluator pattern asked
      let text ← textOf (← evaluator.value pattern)
      let place ← allocate (.pattern expression (shownExpression asked.flags text))
      return .reference .pattern place
  | .symbol name =>
      match ← evaluator.value name with
      | .text name => return .reference .handle (← Feature.handleBy evaluator (.word name))
      | value => return value
  | .refer term => referTo evaluator term
  | .newList values =>
      let places ← freshAll (← evaluator.values values)
      return .reference .list (← allocate (.list places))
  | .newTable values =>
      let values ← evaluator.values values
      let entries ← entriesOf values.length values .empty
      return .reference .table (← allocate (.table entries))
  | .routine number =>
      return .reference .routine (← allocate (.routine number (← get).own))
  | .routineNamed name => referTo evaluator (.call name none 0)
  | .word name => wordValue evaluator name
  | .test letter subject => Feature.fileTest evaluator letter subject
  | .print printing handle values => print evaluator printing handle values
  | term => return lastOf (← contextual evaluator .one term)

/-- What a term gives where so many values are wanted. -/
def evaluate (want : Want) (term : Term) : Run (List Value) := do
  if want = .all then listOf evaluator term
  else if isContextual term then contextual evaluator want term
  else return [← scalarOf evaluator term]

/-! Statements. -/

/-- Notes the line of what comes next. -/
def goToLine (line : Nat) : Run Unit := modify fun state => { state with line }

/-- Carries out a statement. The values are those of what was evaluated last. -/
def carryOutStatement (want : Want) (statement : Statement) : Run (List Value) := do
  spend 1
  match statement with
  | .evaluate line term =>
      goToLine line
      evaluator.evaluate want term
  | .choose line condition yes no =>
      goToLine line
      let value ← evaluator.value condition
      match value.isTrue, yes, no with
      | true, [.evaluate line term], _ | false, _, [.evaluate line term] =>
          goToLine line
          evaluator.evaluate want term
      | true, yes, _ => evaluator.block yes want
      | false, _, [] => return if want = .nothing then [] else [value]
      | false, _, no => evaluator.block no want
  | .loop label line condition isAfter step body =>
      let holds : Run Bool := do
        goToLine line
        match condition with
        | some condition => return (← evaluator.value condition).isTrue
        | none => return true
      let once := round evaluator label body evaluator.limit
      let goOn : Run Unit := do
        let _ ← evaluator.block step .nothing
      locally (rounds holds once goOn evaluator.limit isAfter)
      return []
  | .forEach label line target values body =>
      goToLine line
      forEach evaluator label target values body
      return []
  | .block label body =>
      if want = .nothing then
        let _ ← round evaluator label body evaluator.limit
        return []
      else tryCatch (evaluator.block body want) fun leave => match leave with
        | .last wanted | .next wanted =>
            if wanted.isEmpty || wanted = label then return [] else throw leave
        | leave => throw leave

def carryOutAll (want : Want) : List Statement → Run (List Value)
  | [] => return []
  | [statement] => carryOutStatement evaluator want statement
  | statement :: rest => do
      let _ ← carryOutStatement evaluator .nothing statement
      carryOutAll want rest

/-- Carries out statements after which what is local to them is gone. -/
def carryOutBlock (statements : List Statement) (want : Want) : Run (List Value) := do
  let found := (← get).found
  let values ← locally (carryOutAll evaluator want statements)
  modify fun state => { state with found }
  return values

/-! All of it. -/

/-- Programs that nest without an end never end. -/
def endless {α : Type} : Run α :=
  let never : Step α := throw .late
  liftM (n := Run) never

/-- The ways to evaluate what lies at most that many levels deep inside one another. -/
def Evaluator.ofDepth (host : Host) (limit : Nat) : (depth : Nat) → Evaluator
  | 0 => {
      host, limit
      evaluate := fun _ _ => endless
      value := fun _ => endless
      values := fun _ => endless
      place := fun _ => endless
      listPlace := fun _ => endless
      tablePlace := fun _ => endless
      aliases := fun _ => endless
      call := fun _ _ _ => endless
      block := fun _ _ => endless }
  | depth + 1 => {
      host, limit
      evaluate := fun want term => Sigil.evaluate (ofDepth host limit depth) want term
      value := fun term => scalarOf (ofDepth host limit depth) term
      values := fun term => listOf (ofDepth host limit depth) term
      place := fun term => scalarPlace (ofDepth host limit depth) term
      listPlace := fun term => listPlaceOf (ofDepth host limit depth) term
      tablePlace := fun term => tablePlaceOf (ofDepth host limit depth) term
      aliases := fun term => aliasesOf (ofDepth host limit depth) term
      call := fun place arguments want => callAt (ofDepth host limit depth) place arguments want
      block := fun statements want => carryOutBlock (ofDepth host limit depth) statements want }

end ShaderCost.Script.Sigil
