import ShaderCost.Script.Sigil.Features
import ShaderCost.Script.Sigil.Places

/-!
What operators make of values.
-/

namespace ShaderCost.Script.Sigil

/-- Whether one text comes before another. -/
def textOrder (left right : Text) : Ordering :=
  if left == right then .eq else if Text.atMost left right then .lt else .gt

def orderValue (order : Ordering) : Value :=
  match order with
  | .lt => .whole (-1)
  | .eq => .whole 0
  | .gt => .whole 1

/-- Works on the bits of numbers, or on those of texts character by character. -/
def onBits (work : Nat → Nat → Nat) (drops : Bool) (left right : Value) : Value :=
  match left, right with
  | .text left, .text right =>
      let length := if drops then min left.length right.length else max left.length right.length
      .text ((List.range length).map fun place =>
        Char.ofNat (work (left.getD place '\x00').toNat (right.getD place '\x00').toNat))
  | left, right =>
      (Numeric.ofInt (work left.toNumeric.toWord right.toNumeric.toWord)).toValue

/-- Moves the bits of a number up, or down where the count is negative. -/
def shifted (value : Value) (count : Int) : Value :=
  let word := value.toNumeric.toWord
  let result : Nat :=
    if 64 ≤ count.natAbs then 0
    else if 0 ≤ count then word * twoTo count.toNat % wordEnd.toNat
    else word / twoTo count.natAbs
  (Numeric.ofInt result).toValue

/-- A text as many times. -/
def repeatText (count : Nat) (text : Text) : Text := (List.replicate count text).flatten

def compute (operation : Operation) (left right : Value) : Run Value := do
  let numbers (work : Numeric → Numeric → Numeric) : Value :=
    (work left.toNumeric right.toNumeric).toValue
  match operation with
  | .add => return numbers Numeric.add
  | .subtract => return numbers Numeric.subtract
  | .multiply => return numbers Numeric.multiply
  | .divide =>
      if right.toNumeric.isZero then die "Illegal division by zero"
      else return numbers Numeric.divide
  | .remainder =>
      if right.toInt = 0 then die "Illegal modulus zero" else return numbers Numeric.remainder
  | .power => return numbers Numeric.power
  | .join =>
      let left ← textOf left
      let right ← textOf right
      spend ((left.length + right.length) / charactersPerTurn / 32)
      return .text (left ++ right)
  | .times =>
      let text ← textOf left
      let count := right.toNat
      spend (text.length * count / charactersPerTurn)
      return .text (repeatText count text)
  | .shiftUp => return shifted left right.toInt
  | .shiftDown => return shifted left (-right.toInt)
  | .bothBits => return onBits Nat.land true left right
  | .eitherBits => return onBits Nat.lor false left right
  | .differingBits => return onBits Nat.xor false left right
  | .numbers relation =>
      match left.toNumeric.order? right.toNumeric with
      | some order => return .ofBool (relation.holds order)
      | none => return .ofBool (match relation with
          | .different => true
          | _ => false)
  | .texts relation =>
      return .ofBool (relation.holds (textOrder (← textOf left) (← textOf right)))
  | .orderNumbers =>
      match left.toNumeric.order? right.toNumeric with
      | some order => return orderValue order
      | none => return .undefined
  | .orderTexts => return orderValue (textOrder (← textOf left) (← textOf right))

/-- A value with its sign turned. A word gets a sign in front. -/
def negative (value : Value) : Value :=
  match value with
  | .text text =>
      match text with
      | '-' :: rest => if looksNumeric text then value.toNumeric.negate.toValue
          else .text ('+' :: rest)
      | '+' :: rest => if looksNumeric text then value.toNumeric.negate.toValue
          else .text ('-' :: rest)
      | c :: _ => if isNameStart c && !looksNumeric text then .text ('-' :: text)
          else value.toNumeric.negate.toValue
      | [] => .whole 0
  | value => value.toNumeric.negate.toValue

/-- All bits the other way. -/
def complement (value : Value) : Value :=
  (Numeric.ofInt (wordEnd - 1 - value.toNumeric.toWord)).toValue

/-- The value before one that counts. -/
def decrement (value : Value) : Value := (value.toNumeric.subtract (.whole 1)).toValue

/-- The values between two: whole numbers, or texts that come one behind the other. -/
def rangeValues (first last : Value) : Run (List Value) := do
  let isWord : Bool := match first with
    | .text text => !text.isEmpty && !looksNumeric text
    | _ => false
  if isWord then
    let first ← textOf first
    let last ← textOf last
    let rec goOn (limit : Nat) (text : Text) : List Value :=
      match limit with
      | 0 => []
      | limit + 1 =>
          if last.length < text.length then []
          else if text = last then [.text text]
          else .text text :: (if countsAsText text then goOn limit (succeed text.reverse).reverse
            else [])
    let limit := 475254
    let values := goOn limit first
    spend (values.length / 8)
    return values
  else
    let start := first.toInt
    let count := (last.toInt + 1 - start).toNat
    spend (count / 8)
    return (List.range count).map fun (offset : Nat) => Value.whole (start + offset)

/-- The values in the order that a comparison gives, which keeps that of equal ones. -/
def merge (isBehind : Value → Value → Run Bool) : (fuel : Nat) → List Value → List Value →
    (before : List Value) → Run (List Value)
  | 0, left, right, before => return before.reverse ++ left ++ right
  | _ + 1, [], right, before => return before.reverse ++ right
  | _ + 1, left, [], before => return before.reverse ++ left
  | fuel + 1, l :: left, r :: right, before => do
      if ← isBehind l r then merge isBehind fuel (l :: left) right (r :: before)
      else merge isBehind fuel left (r :: right) (l :: before)

def sortBy (isBehind : Value → Value → Run Bool) : (fuel : Nat) → List Value → Run (List Value)
  | 0, values => return values
  | fuel + 1, values => do
      if values.length < 2 then return values
      let half := values.length / 2
      let left ← sortBy isBehind fuel (values.take half)
      let right ← sortBy isBehind fuel (values.drop half)
      merge isBehind (values.length + 1) left right []

/-- The values in the order of their texts. -/
def sortTexts (values : List Value) : Run (List Value) := do
  let texts ← values.mapM fun value => do return (← textOf value, value)
  spend (values.length / 4)
  return (texts.mergeSort fun left right => Text.atMost left.1 right.1).map Prod.snd

end ShaderCost.Script.Sigil

/-!
Where terms lead to, and giving values to it: single places, lists and tables, and all that becomes
local.
-/

namespace ShaderCost.Script.Sigil

variable (evaluator : Evaluator)

/-! What is behind references. -/

/-- The holder of the reference that a term gives, and whether it lasts. -/
def holderOf (reference : Term) : Run (Nat × Bool) := do
  if isPlace reference then return (← evaluator.place reference, true)
  else return (← fresh (← evaluator.value reference), false)

/-- The place behind a reference that is to be changed or gone into. -/
def openBehind (shape : Shape) (reference : Term) : Run Nat := do
  let (holder, lasts) ← holderOf evaluator reference
  placeBehind shape holder (lasts || !(← get).program.isStrict)

/-- The place behind a reference that is only looked at. -/
def seeBehind? (shape : Shape) (reference : Term) : Run (Option Nat) := do
  let (holder, _) ← holderOf evaluator reference
  match ← scalarAt holder with
  | .undefined =>
      if (← get).program.isStrict then some <$> placeBehind shape holder false else return none
  | _ => some <$> placeBehind shape holder false

/-! Names with a meaning of their own. -/

/-- The list under a name. -/
def listNamed (name : Name) : Run Nat := do
  let place ← placeOf .list name
  match name with
  | .shared name =>
      if name = "main::-" then setList place (← bounds false)
      else if name = "main::+" then setList place (← bounds true)
  | .own _ => pure ()
  return place

/-- The texts that the last match noted under names. -/
def notedTexts : Run (List Value) := do
  match (← get).found with
  | none => return []
  | some found =>
      return found.names.flatMap fun (name, number) =>
        match found.groups.getD number none with
        | some (text, _, _) => [Value.text name, .text text]
        | none => []

/-- The table under a name. -/
def tableNamed (name : Name) : Run Nat := do
  let place ← placeOf .table name
  match name with
  | .shared name => if name = "main::+" then setTable place (← notedTexts)
  | .own _ => pure ()
  return place

/-- The value under a name that all of the program shares. -/
def sharedScalar (name : Text) : Run Value := do
  match name with
  | ['m', 'a', 'i', 'n', ':', ':', '.'] =>
      match (← get).lastRead with
      | some place => return ((← handleAt? place).map fun handle =>
          Value.ofNat handle.lines).getD .undefined
      | none => return .undefined
  | ['m', 'a', 'i', 'n', ':', ':', '$'] => return .ofNat (← getThe Shell).process
  | name => scalarAt (← sharedPlace .scalar name)

/-! What is local. -/

/-- Makes an entry local. One that does not exist is taken out again afterwards. -/
def keepEntry (table : Nat) (key : Text) : Run Nat := do
  match (← tableAt table).get? key with
  | some place =>
      let value ← scalarAt place
      keep place
      setScalar place value
      return place
  | none =>
      keep table
      entryPlace table key

/-- Makes what a term leads to local, and void. -/
def localize (target : Term) : Run Unit := do
  match target with
  | .name .list name =>
      let place ← placeOf .list name
      keep place
      setContent place (.list #[])
  | .name .table name =>
      let place ← placeOf .table name
      keep place
      setContent place (.table .empty)
  | .entry table key =>
      let place ← keepEntry (← evaluator.tablePlace table) (← keyOf evaluator key)
      setScalar place .undefined
  | .symbol (.constant (.text name)) =>
      let place ← Feature.handleBy evaluator (.word name)
      keep place
      lead place
  | target =>
      let place ← evaluator.place target
      keep place
      setContent place (.scalar .undefined)
where
  lead (place : Nat) : Run Unit := do
    match ← handleAt? place with
    | some handle => setHandle place { handle with way := .closed }
    | none => pure ()

/-! Places. -/

/-- The term for what a declaration has made. -/
def settledTerm : Term → Term
  | .declare _ shape number => .name shape (.own number)
  | .localize target => target
  | .listed terms => .listed (terms.map fun term => match term with
      | .declare _ shape number => .name shape (.own number)
      | .localize target => target
      | term => term)
  | term => term

/-- The place of a declaration, and whether it was made before and stays. -/
def declared (reach : Reach) (shape : Shape) (number : Nat) : Run (Nat × Bool) := do
  match reach with
  | .fresh => return (← introduce shape number, false)
  | .kept =>
      let state ← get
      let isMet := state.met.getD number false
      set { state with met := state.met.setIfInBounds number true }
      return (state.own.getD number 0, isMet)

/-- Puts a routine, a handle or a place under a name. -/
def assignSymbol (name : Text) (value : Value) : Run Unit := do
  let name := (Text.after? "*" name).getD name
  let full := fullName (← presentPackage) name
  let put (mark : Char) (place : Nat) : Run Unit := modify fun state =>
    { state with names := state.names.insert (mark :: full) place }
  match value with
  | .reference .routine place => nameRoutine full place
  | .reference .scalar place => put '$' place
  | .reference .list place => put '@' place
  | .reference .table place => put '%' place
  | .reference .handle place => put '*' place
  | value =>
      match ← routineNamed? (fullName "main" ((Text.after? "*" (← textOf value)).getD [])) with
      | some place => nameRoutine full place
      | none => pure ()

/-- Gives a value to what a term leads to. The result is its place. -/
def assignTo (target : Term) (value : Value) : Run Nat := do
  match target with
  | .lastIndex list =>
      let list ← evaluator.listPlace list
      let places ← listAt list
      let size := (value.toInt + 1).toNat
      if size ≤ places.size then setContent list (.list (places.extract 0 size))
      else
        let _ ← elementPlace list (size - 1 : Nat)
      fresh value
  | .feature name terms _ =>
      if name = "substr" then
        let _ ← Feature.substr evaluator terms (some (← textOf value))
      else if name = "pos" then
        let place ← match terms with
          | term :: _ => evaluator.place term
          | [] => sharedPlace .scalar "main::_"
        setPosition place (if value.isDefined then some (value.toNat, false) else none)
      fresh value
  | .symbol name =>
      assignSymbol (← textOf (← evaluator.value name)) value
      fresh value
  | .localize (.symbol name) =>
      assignSymbol (← textOf (← evaluator.value name)) value
      fresh value
  | target =>
      let place ← evaluator.place target
      setScalar place value
      if place = placeOfHaste then
        holdAtMost (← get).selected (if value.isTrue then 0 else Stream.usualMost)
      return place

/-- An assignment to a single place. -/
def assignScalar (target value : Term) : Run Nat := do
  match target with
  | .declare .kept .scalar number =>
      let (place, isMet) ← declared .kept .scalar number
      if !isMet then setScalar place (← evaluator.value value)
      return place
  | target => assignTo evaluator target (← evaluator.value value)

/-- Whether a term stands for several places. -/
def isSeveral : Term → Bool
  | .listed _ => true
  | .name shape _ | .declare _ shape _ | .behind shape _ => shape != .scalar
  | .elements _ _ | .entries _ _ => true
  | .localize target => isSeveral target
  | _ => false

/-- Spreads values over what terms lead to. -/
def spreadOver : List Term → List Value → Run Unit
  | [], _ => pure ()
  | target :: rest, values => do
      let bare := match target with
        | .localize target => target
        | target => target
      match bare with
      | .name .list _ | .declare _ .list _ | .behind .list _ =>
          setList (← evaluator.listPlace target) values
          spreadOver rest []
      | .name .table _ | .declare _ .table _ | .behind .table _ =>
          setTable (← evaluator.tablePlace target) values
          spreadOver rest []
      | .elements list indices =>
          let list ← evaluator.listPlace list
          let indices ← evaluator.values indices
          for (index, place) in indices.zipIdx do
            setScalar (← elementPlace list index.toInt) (values.getD place .undefined)
          spreadOver rest (values.drop indices.length)
      | .entries table keys =>
          let isLocal := match target with
            | .localize _ => true
            | _ => false
          let table ← evaluator.tablePlace table
          let keys ← keysOf evaluator keys
          for (key, place) in keys.zipIdx do
            let entry ← if isLocal then keepEntry table key else entryPlace table key
            setScalar entry (values.getD place .undefined)
          spreadOver rest (values.drop keys.length)
      | .feature _ _ _ => spreadOver rest values.tail
      | _ =>
          let _ ← assignTo evaluator target (values.headD .undefined)
          spreadOver rest values.tail

/-- The terms that a target consists of. -/
def targetsOf : Term → List Term
  | .localize (.listed terms) => terms.map .localize
  | .listed terms => terms.flatMap fun term => match term with
      | .listed terms => terms
      | term => [term]
  | term => [term]

/-- An assignment to several places. The result is how many values there were. -/
def assignList (target value : Term) : Run Nat := do
  let values ← evaluator.values value
  match target with
  | .declare .kept shape number =>
      let (place, isMet) ← declared .kept shape number
      if !isMet then
        if shape = .table then setTable place values else setList place values
  | target => spreadOver evaluator (targetsOf target) values
  return values.length

/-! The ways to get at places. -/

/-- The single place that a term leads to. -/
def scalarPlace (term : Term) : Run Nat := do
  match term with
  | .name .scalar name => placeOf .scalar name
  | .behind .scalar reference => openBehind evaluator .scalar reference
  | .element list index =>
      let list ← evaluator.listPlace list
      elementPlace list (← evaluator.value index).toInt
  | .entry table key =>
      let table ← evaluator.tablePlace table
      entryPlace table (← keyOf evaluator key)
  | .declare reach .scalar number => return (← declared reach .scalar number).1
  | .localize target =>
      localize evaluator target
      evaluator.place target
  | .assign target value =>
      if isSeveral target then fresh (.ofNat (← assignList evaluator target value))
      else assignScalar evaluator target value
  | .listed [term] => evaluator.place term
  | .choose condition yes no =>
      if (← evaluator.value condition).isTrue then evaluator.place yes else evaluator.place no
  | .update _ target _ | .settle _ target _ | .step true _ target =>
      let _ ← evaluator.value term
      evaluator.place target
  | term => fresh (← evaluator.value term)

/-- The list that a term leads to. -/
def listPlaceOf (term : Term) : Run Nat := do
  match term with
  | .name .list name => listNamed name
  | .behind .list reference => openBehind evaluator .list reference
  | .declare reach .list number => return (← declared reach .list number).1
  | .localize target =>
      localize evaluator target
      evaluator.listPlace target
  | .assign target value =>
      let _ ← assignList evaluator target value
      evaluator.listPlace (settledTerm target)
  | .listed [term] => evaluator.listPlace term
  | .choose condition yes no =>
      if (← evaluator.value condition).isTrue then evaluator.listPlace yes
      else evaluator.listPlace no
  | term =>
      let values ← evaluator.values term
      match term, values with
      | .name .scalar _, [.reference .list place] => return place
      | _, values => allocate (.list (← freshAll values))

/-- The table that a term leads to. -/
def tablePlaceOf (term : Term) : Run Nat := do
  match term with
  | .name .table name => tableNamed name
  | .behind .table reference => openBehind evaluator .table reference
  | .declare reach .table number => return (← declared reach .table number).1
  | .localize target =>
      localize evaluator target
      evaluator.tablePlace target
  | .assign target value =>
      let _ ← assignList evaluator target value
      evaluator.tablePlace (settledTerm target)
  | .listed [term] => evaluator.tablePlace term
  | .choose condition yes no =>
      if (← evaluator.value condition).isTrue then evaluator.tablePlace yes
      else evaluator.tablePlace no
  | term =>
      let values ← evaluator.values term
      match term, values with
      | .name .scalar _, [.reference .table place] => return place
      | _, values => allocate (.table (← entriesOf values.length values .empty))

/-- The places of a table's keys and values. -/
def tableAliases (table : Nat) : Run (List Nat) := do
  let entries := (← tableAt table).entries
  let places ← entries.mapM fun (key, place) => do return [← fresh (.text key), place]
  return places.flatten

/-- The places of what a term gives. Elements and entries that do not exist are not made. -/
def aliasesOf (term : Term) : Run (List Nat) := do
  match term with
  | .name .list name => return (← listAt (← listNamed name)).toList
  | .behind .list reference => return (← listAt (← openBehind evaluator .list reference)).toList
  | .name .table name => tableAliases (← tableNamed name)
  | .behind .table reference => tableAliases (← openBehind evaluator .table reference)
  | .declare _ .list _ => return (← listAt (← evaluator.listPlace term)).toList
  | .name .scalar (.shared name) =>
      if name = "main::." || name = "main::$" then return [← fresh (← sharedScalar name)]
      else return [← sharedPlace .scalar name]
  | .name .scalar (.own _) | .behind .scalar _ | .declare _ .scalar _ =>
      return [← evaluator.place term]
  | .element list index =>
      let list ← evaluator.listPlace list
      let index := (← evaluator.value index).toInt
      let places ← listAt list
      match (indexIn? places.size index).bind fun number => places[number]? with
      | some place => return [place]
      | none => return [← fresh .undefined]
  | .entry table key =>
      let table ← evaluator.tablePlace table
      match (← tableAt table).get? (← keyOf evaluator key) with
      | some place => return [place]
      | none => return [← fresh .undefined]
  | .listed terms => return (← terms.mapM evaluator.aliases).flatten
  | .assign target value =>
      if isSeveral target then
        let _ ← assignList evaluator target value
        evaluator.aliases (settledTerm target)
      else return [← assignScalar evaluator target value]
  | .choose condition yes no =>
      if (← evaluator.value condition).isTrue then evaluator.aliases yes
      else evaluator.aliases no
  | .feature name [.name .table table] _ =>
      if name = "values" then return (← tableAt (← tableNamed table)).values
      else return (← freshAll (← evaluator.values term)).toList
  | term => return (← freshAll (← evaluator.values term)).toList

end ShaderCost.Script.Sigil
