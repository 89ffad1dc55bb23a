import ShaderCost.Script.Indented.Formatting

/-!
Operations on values: arithmetic, which types of the program may have rules of their own for, and
the parts of values that indices and keys lead to.
-/

namespace ShaderCost.Script.Indented

/-! Whole numbers. -/

def powerOf (base : Int) (exponent : Nat) : Int :=
  (Nat.toDigits 2 exponent).foldl
    (fun result digit => if digit = '1' then result * result * base else result * result) 1

/-- The power of a number modulo another one, which is positive. -/
def powerModulo (base : Int) (exponent : Nat) (modulus : Int) : Int :=
  (Nat.toDigits 2 exponent).foldl
    (fun result digit =>
      let square := (result * result).fmod modulus
      if digit = '1' then (square * base).fmod modulus else square) (Int.fmod 1 modulus)

/-- Works on the bits of whole numbers, which have as many as needed. -/
def onBits (work : Nat → Nat → Nat) (left right : Int) : Int :=
  let width := max left.natAbs.log2 right.natAbs.log2 + 2
  let whole : Int := twoTo width
  let result : Int := work (left % whole).toNat (right % whole).toNat
  if (twoTo (width - 1) : Int) ≤ result then result - whole else result

def failZero {α : Type} (message : Text) : Run α := fail "ZeroDivisionError" message

/-- How many bits a whole number may have. -/
def mostBits : Nat := 4000000

def computeWhole (operation : Operation) (left right : Int) : Run (Option Value) := do
  let answer (value : Int) : Run (Option Value) := return some (.whole value)
  match operation with
  | .add => answer (left + right)
  | .subtract => answer (left - right)
  | .multiply => answer (left * right)
  | .divide =>
      if right = 0 then failZero "division by zero"
      let sign : Bool := (left < 0) != (right < 0)
      let result := decode (.ofRatio sign left.natAbs right.natAbs)
      if result.isInf then fail "OverflowError" "integer division result too large for a float"
      return some (.real result)
  | .divideWhole =>
      if right = 0 then failZero "integer division or modulo by zero"
      answer (left.fdiv right)
  | .remainder =>
      if right = 0 then failZero "integer modulo by zero"
      answer (left.fmod right)
  | .power =>
      if right < 0 then
        if left = 0 then failZero "0.0 cannot be raised to a negative power"
        return some (.real (Float.pow (realOf left) (realOf right)))
      else
        let bits := (left.natAbs.log2 + 1) * right.toNat
        if mostBits < bits && 1 < left.natAbs then fail "MemoryError" []
        liftM (n := Run) (spend (bits / 1000))
        answer (powerOf left right.toNat)
  | .shiftUp =>
      if right < 0 then failValue "negative shift count"
      if mostBits < right.toNat then fail "MemoryError" []
      answer (left * twoTo right.toNat)
  | .shiftDown =>
      if right < 0 then failValue "negative shift count"
      if left.natAbs.log2 + 1 < right.toNat then answer (if left < 0 then -1 else 0)
      else answer (left.fdiv (twoTo right.toNat))
  | .bothBits => answer (onBits Nat.land left right)
  | .eitherBits => answer (onBits Nat.lor left right)
  | .differingBits => answer (onBits Nat.xor left right)
  | .matrix => return none

def computeReal (operation : Operation) (left right : Float) : Run (Option Value) := do
  let answer (value : Float) : Run (Option Value) := return some (.real value)
  match operation with
  | .add => answer (left + right)
  | .subtract => answer (left - right)
  | .multiply => answer (left * right)
  | .divide =>
      if right == 0 then failZero "float division by zero"
      answer (left / right)
  | .divideWhole =>
      if right == 0 then failZero "float floor division by zero"
      answer (realQuotient left right)
  | .remainder =>
      if right == 0 then failZero "float modulo by zero"
      answer (realRemainder left right)
  | .power =>
      if left == 0 && right < 0 then failZero "0.0 cannot be raised to a negative power"
      let result := Float.pow left right
      if result.isInf && !left.isInf && !right.isInf then
        raiseWith "OverflowError" [.whole 34, .text "Numerical result out of range"]
      answer result
  | _ => return none

/-- The number that a value is. -/
inductive Numeric where
  | whole (value : Int)
  | real (value : Float)

def numeric? (value : Value) : Option Numeric :=
  match value with
  | .real value => some (.real value)
  | value => value.whole?.map .whole

def operationSign : Operation → Text
  | .add => "+"
  | .subtract => "-"
  | .multiply => "*"
  | .divide => "/"
  | .divideWhole => "//"
  | .remainder => "%"
  | .power => "** or pow()"
  | .shiftUp => "<<"
  | .shiftDown => ">>"
  | .bothBits => "&"
  | .eitherBits => "|"
  | .differingBits => "^"
  | .matrix => "@"

/-- The word for an operation in the names of routines for it. -/
def operationWord : Operation → Text
  | .add => "add"
  | .subtract => "sub"
  | .multiply => "mul"
  | .divide => "truediv"
  | .divideWhole => "floordiv"
  | .remainder => "mod"
  | .power => "pow"
  | .shiftUp => "lshift"
  | .shiftDown => "rshift"
  | .bothBits => "and"
  | .eitherBits => "or"
  | .differingBits => "xor"
  | .matrix => "matmul"

def routineFor (front : Text) (operation : Operation) : Text :=
  "__".toList ++ front ++ operationWord operation ++ "__".toList

variable (evaluator : Evaluator)

/-- The whole number that a value stands for as an index, if it does. -/
def indexOf? (value : Value) : Run (Option Int) := do
  match ← coreOf value with
  | .object _ =>
      match ← callOwn? evaluator value "__index__" [] with
      | some answer => return answer.whole?
      | none => return none
  | core => return core.whole?

/-! Sets. -/

def setEntries? (value : Value) : Run (Option (Roster Value × Bool)) := do
  match ← coreOf value with
  | .object place =>
      match ← contentAt place with
      | .set entries isFrozen => return some (entries, isFrozen)
      | .view table .keys =>
          match ← contentAt table with
          | .table entries =>
              return some (.ofEntries (entries.entries.map fun (key, entry) => (key, entry.1)),
                false)
          | _ => return none
      | _ => return none
  | _ => return none

/-- The values of a value as the entries of a set. -/
def entriesFrom (values : List Value) : Run (Roster Value) := do
  let mut entries : Roster Value := .empty
  for value in values do
    let key ← keyFor evaluator value
    if !entries.has key then entries := entries.insert key value
  return entries

def rosterOf (entries : List (Text × Value)) : Roster Value := .ofEntries entries

def combineSets (operation : Operation) (left right : Roster Value) : Option (Roster Value) :=
  match operation with
  | .eitherBits =>
      some (right.entries.foldl (fun entries (key, value) =>
        if entries.has key then entries else entries.insert key value) left)
  | .bothBits => some (rosterOf (left.entries.filter fun entry => right.has entry.1))
  | .subtract => some (rosterOf (left.entries.filter fun entry => !right.has entry.1))
  | .differingBits =>
      some (rosterOf ((left.entries.filter fun entry => !right.has entry.1) ++
        right.entries.filter fun entry => !left.has entry.1))
  | _ => none

/-! Operations. -/

/-- Something several times. -/
def repeatedText (text : Text) (count : Int) : Run Text := do
  liftM (n := Run) (spend (text.length * count.toNat / charactersPerTurn))
  return (List.replicate count.toNat text).flatten

def refuseOperands {α : Type} (sign : Text) (left right : Value) : Run α := do
  failType ("unsupported operand type(s) for ".toList ++ sign ++ ": '".toList ++
    (← typeName left) ++ "' and '".toList ++ (← typeName right) ++ ['\''])

/-- An operation on values of the library that are no numbers. -/
def computeContents (operation : Operation) (left right : Value) : Run (Option Value) := do
  let listOf (value : Value) : Run (Option (Array Value)) := do
    match value with
    | .object place =>
        match ← contentAt place with
        | .list items => return some items
        | _ => return none
    | _ => return none
  match operation, left, right with
  | .add, .text left, .text right => return some (.text (left ++ right))
  | .add, .octets left, .octets right => return some (.octets (left ++ right))
  | .add, .tuple left, .tuple right => return some (.tuple (left ++ right))
  | .remainder, .text text, value => return some (.text (← interpolated evaluator false text value))
  | .remainder, .octets text, value =>
      return some (.octets (← interpolated evaluator true text value))
  | .multiply, left, right =>
      let ofSequence (sequence : Value) (count : Int) : Run (Option Value) := do
        match sequence with
        | .text text => return some (.text (← repeatedText text count))
        | .octets text => return some (.octets (← repeatedText text count))
        | .tuple items =>
            return some (.tuple (List.replicate count.toNat items).flatten)
        | value =>
            match ← listOf value with
            | some items =>
                liftM (n := Run) (spend (items.size * count.toNat / charactersPerTurn))
                return some (← makeList (List.replicate count.toNat items.toList).flatten)
            | none => return none
      let isSequence (value : Value) : Run Bool := do
        match value with
        | .text _ | .octets _ | .tuple _ => return true
        | value => return (← listOf value).isSome
      match ← indexOf? evaluator right, ← indexOf? evaluator left with
      | some count, _ => ofSequence left count
      | none, some count => ofSequence right count
      | none, none =>
          if ← isSequence left then
            failType ("can't multiply sequence by non-int of type '".toList ++
              (← typeName right) ++ ['\''])
          else if ← isSequence right then
            failType ("can't multiply sequence by non-int of type '".toList ++
              (← typeName left) ++ ['\''])
          else return none
  | operation, left, right =>
      match operation, ← listOf left, ← listOf right with
      | .add, some left, some right => return some (← make (.list (left ++ right)))
      | operation, _, _ =>
          match ← setEntries? left, ← setEntries? right with
          | some (left, isFrozen), some (right, _) =>
              match combineSets operation left right with
              | some entries => return some (← make (.set entries isFrozen))
              | none => return none
          | _, _ =>
              match operation, left, right with
              | .eitherBits, .object a, .object b =>
                  match ← contentAt a, ← contentAt b with
                  | .table a, .table b =>
                      return some (← make (.table (b.entries.foldl
                        (fun entries (key, entry) => entries.insert key entry) a)))
                  | _, _ => return none
              | .add, .object a, .octets right =>
                  match ← contentAt a with
                  | .buffer octets => return some (← make (.buffer (octets ++ right)))
                  | _ => return none
              | .eitherBits, .type _, _ | .eitherBits, _, .type _ =>
                  return some (.tuple [left, right])
              | _, _, _ => return none

/-- What is said of operands that an operation does not know. -/
def refuseComputation (operation : Operation) (sign : Text) (left right : Value) : Run Value := do
  let name ← typeName right
  match operation, ← coreOf left with
  | .add, .text _ =>
      failType ("can only concatenate str (not \"".toList ++ name ++ "\") to str".toList)
  | .add, .octets _ => failType ("can't concat ".toList ++ name ++ " to bytes".toList)
  | .add, .tuple _ =>
      failType ("can only concatenate tuple (not \"".toList ++ name ++ "\") to tuple".toList)
  | .add, .object place =>
      match ← contentAt place with
      | .list _ =>
          failType ("can only concatenate list (not \"".toList ++ name ++ "\") to list".toList)
      | _ => refuseOperands sign left right
  | _, _ => refuseOperands sign left right

def computeWith (sign : Text) (operation : Operation) (left right : Value) : Run Value := do
  match numeric? left, numeric? right with
  | some (.whole a), some (.whole b) =>
      match operation, left, right with
      | .bothBits, .bool a, .bool b => return .bool (a && b)
      | .eitherBits, .bool a, .bool b => return .bool (a || b)
      | .differingBits, .bool a, .bool b => return .bool (a != b)
      | _, _, _ =>
          match ← computeWhole operation a b with
          | some value => return value
          | none => refuseOperands sign left right
  | some a, some b =>
      let real : Numeric → Float
        | .whole value => realOf value
        | .real value => value
      match ← computeReal operation (real a) (real b) with
      | some value => return value
      | none => refuseOperands sign left right
  | _, _ =>
      match ← askOwn? evaluator left (routineFor [] operation) [right] with
      | some value => return value
      | none =>
          match ← askOwn? evaluator right (routineFor ['r'] operation) [left] with
          | some value => return value
          | none =>
              let leftCore ← coreOf left
              let rightCore ← coreOf right
              match numeric? leftCore, numeric? rightCore with
              | some (.whole a), some (.whole b) =>
                  match ← computeWhole operation a b with
                  | some value => return value
                  | none => refuseOperands sign left right
              | _, _ =>
                  match ← computeContents evaluator operation leftCore rightCore with
                  | some value => return value
                  | none => refuseComputation operation sign left right

def compute (operation : Operation) (left right : Value) : Run Value :=
  computeWith evaluator (operationSign operation) operation left right

/-- Puts values behind those of a list. -/
def extend (place : Nat) (values : List Value) : Run Unit :=
  onContent place fun content => match content with
    | .list items => ((), .list (items ++ values.toArray))
    | content => ((), content)

/-- The value of a target that an operation changes. What lies at a place may stay there. -/
def computeInPlace (operation : Operation) (left right : Value) : Run Value := do
  match left with
  | .object _ =>
      match ← askOwn? evaluator left (routineFor ['i'] operation) [right] with
      | some value => return value
      | none =>
          match ← coreOf left with
          | .object core =>
              let isPlain : Bool := match left with
                | .object place => place = core
                | _ => false
              match operation, ← contentAt core with
              | .add, .list _ =>
                  extend core (← valuesOf evaluator right)
                  return left
              | .multiply, .list items =>
                  match ← indexOf? evaluator right with
                  | some count =>
                      let copies := List.replicate count.toNat items.toList
                      setContent core (.list copies.flatten.toArray)
                      return left
                  | none => compute evaluator operation left right
              | .eitherBits, .table entries =>
                  match ← coreOf right with
                  | .object other =>
                      match ← contentAt other with
                      | .table others =>
                          setContent core (.table (others.entries.foldl
                            (fun entries (key, entry) => entries.insert key entry) entries))
                          return left
                      | _ => compute evaluator operation left right
                  | _ => compute evaluator operation left right
              | operation, .set entries false =>
                  match ← setEntries? right with
                  | some (others, _) =>
                      match combineSets operation entries others with
                      | some entries =>
                          setContent core (.set entries false)
                          return left
                      | none => compute evaluator operation left right
                  | none => compute evaluator operation left right
              | .add, .buffer octets =>
                  match right with
                  | .octets more =>
                      setContent core (.buffer (octets ++ more))
                      return left
                  | _ => compute evaluator operation left right
              | _, _ =>
                  let sign := (operationSign operation).takeWhile (· != ' ') ++ ['=']
                  if isPlain then computeWith evaluator sign operation left right
                  else compute evaluator operation left right
          | _ => compute evaluator operation left right
  | left =>
      let sign := (operationSign operation).takeWhile (· != ' ') ++ ['=']
      computeWith evaluator sign operation left right

def signed (sign : Sign) (value : Value) : Run Value := do
  let (name, title) : Text × Text := match sign with
    | .minus => ("__neg__", "-")
    | .plus => ("__pos__", "+")
    | .complement => ("__invert__", "~")
  match sign, ← coreOf value with
  | .minus, .real value => return .real (-value)
  | .plus, .real value => return .real value
  | sign, core =>
      match ← callOwn? evaluator value name [], core.whole?, sign with
      | some answer, _, _ => return answer
      | none, some number, .minus => return .whole (-number)
      | none, some number, .plus => return .whole number
      | none, some number, .complement => return .whole (-number - 1)
      | none, none, _ =>
          failType ("bad operand type for unary ".toList ++ title ++ ": '".toList ++
            (← typeName value) ++ ['\''])

/-! Parts. -/

/-- Where a slice of so many values begins, how it goes on, and how many values it has. -/
def sliceOf (size : Nat) (first last step : Value) : Run (Int × Int × Nat) := do
  let part (value : Value) : Run (Option Int) := do
    match value with
    | .none => return none
    | value =>
        match ← indexOf? evaluator value with
        | some number => return some number
        | none => failType "slice indices must be integers or None or have an __index__ method"
  let step := (← part step).getD 1
  if step = 0 then failValue "slice step cannot be zero"
  let length : Int := size
  let (low, high) : Int × Int := if 0 < step then (0, length) else (-1, length - 1)
  let clamp (value : Int) : Int :=
    let value := if value < 0 then value + length else value
    max low (min high value)
  let first := ((← part first).map clamp).getD (if 0 < step then low else high)
  let last := ((← part last).map clamp).getD (if 0 < step then high else low)
  return (first, step, rangeSize first last step)

/-- The places of a slice. -/
def slicePlaces (slice : Int × Int × Nat) : List Nat :=
  (List.range slice.2.2).map fun (number : Nat) => (slice.1 + slice.2.1 * number).toNat

/-- The values of a slice. -/
def slicedItems {α : Type} (items : Array α) (slice : Int × Int × Nat) : List α :=
  if slice.2.1 = 1 then
    (items.extract slice.1.toNat (slice.1.toNat + slice.2.2)).toList
  else (slicePlaces slice).filterMap fun place => items[place]?

def slicedText (text : Text) (slice : Int × Int × Nat) : Text :=
  if slice.2.1 = 1 then (text.drop slice.1.toNat).take slice.2.2
  else slicedItems text.toArray slice

/-- The place that an index leads to. -/
def placeIn? (size : Nat) (index : Int) : Option Nat :=
  let index := if index < 0 then index + size else index
  if 0 ≤ index && index < size then some index.toNat else none

/-- Raises the fault of a key that there is not. -/
def failKey {α : Type} (key : Value) : Run α := raiseWith "KeyError" [key]

def entryAt (table : Nat) (key : Value) : Run (Option Value) := do
  match ← contentAt table with
  | .table entries =>
      if entries.size = 0 then
        let _ ← keyFor evaluator key
        return none
      else return (entries.get? (← keyFor evaluator key)).map Prod.snd
  | .scope scope => return key.text?.bind fun name => scope.names.get? name
  | .names owner =>
      let names := (← contentAt owner).ownNames
      return key.text?.bind fun name => names.get? name
  | _ => return none

/-- What a sequence says of an index that is none. -/
def indexProblem (value index : Value) : Run Text := do
  match value with
  | .text _ => return "string indices must be integers, not '".toList ++ (← typeName index) ++
      ['\'']
  | .octets _ =>
      return "byte indices must be integers or slices, not ".toList ++ (← typeName index)
  | value =>
      return (← typeName value) ++ " indices must be integers or slices, not ".toList ++
        (← typeName index)

/-- A part of a value of the library. -/
def partOf (value core index : Value) : Run Value := do
  let at_ {α : Type} (size : Nat) (title : Text) (get : Nat → Option α) (wrap : α → Value) :
      Run Value := do
    match ← indexOf? evaluator index with
    | none => failType (← indexProblem core index)
    | some number =>
        match (placeIn? size number).bind get with
        | some item => return wrap item
        | none => fail "IndexError" (title ++ "index out of range".toList)
  match core, index with
  | .text text, .slice first last step =>
      return .text (slicedText text (← sliceOf evaluator text.length first last step))
  | .text text, _ => at_ text.length "string " (text[·]?) fun c => .text [c]
  | .octets text, .slice first last step =>
      return .octets (slicedText text (← sliceOf evaluator text.length first last step))
  | .octets text, _ => at_ text.length [] (text[·]?) fun c => .ofNat c.toNat
  | .tuple items, .slice first last step =>
      return .tuple (slicedItems items.toArray (← sliceOf evaluator items.length first last step))
  | .tuple items, _ => at_ items.length "tuple " (items[·]?) id
  | .type _, _ => return core
  | .object place, index =>
      match ← contentAt place, index with
      | .list items, .slice first last step =>
          makeList (slicedItems items (← sliceOf evaluator items.size first last step))
      | .list items, _ => at_ items.size "list " (items[·]?) id
      | .buffer octets, .slice first last step =>
          make (.buffer (slicedText octets (← sliceOf evaluator octets.length first last step)))
      | .buffer octets, _ => at_ octets.length "bytearray " (octets[·]?) fun c => .ofNat c.toNat
      | .range start stop step, .slice first last by_ =>
          let (begin_, stride, count) ←
            sliceOf evaluator (rangeSize start stop step) first last by_
          let first := start + begin_ * step
          make (.range first (first + stride * step * count) (stride * step))
      | .range start stop step, _ =>
          at_ (rangeSize start stop step) "range object " some fun number =>
            .whole (start + step * number)
      | .table _, key | .scope _, key | .names _, key =>
          match ← entryAt evaluator place key with
          | some value => return value
          | none =>
              match ← callOwn? evaluator value "__missing__" [key] with
              | some value => return value
              | none => failKey key
      | .found _, key => evaluator.call (.method core "group") [key] []
      | .kind kind, key =>
          match ← attribute? evaluator core "__class_getitem__" with
          | some code => evaluator.call code [key] []
          | none => failType ("type '".toList ++ kind.name ++ "' is not subscriptable".toList)
      | _, _ => failType ('\'' :: (← typeName value) ++ "' object is not subscriptable".toList)
  | _, _ => failType ('\'' :: (← typeName value) ++ "' object is not subscriptable".toList)

/-- What an index or a key of a value leads to. -/
def subscript (value index : Value) : Run Value := do
  match ← callOwn? evaluator value "__getitem__" [index] with
  | some answer => return answer
  | none => partOf evaluator value (← coreOf value) index

/-- Values with some of them replaced by others. -/
def replacedSlice (items : Array Value) (slice : Int × Int × Nat) (values : List Value) :
    Run (Array Value) := do
  if slice.2.1 = 1 then
    let first := slice.1.toNat
    return items.extract 0 first ++ values.toArray ++ items.extract (first + slice.2.2) items.size
  else
    if values.length != slice.2.2 then
      failValue ("attempt to assign sequence of size ".toList ++ Text.ofNat values.length ++
        " to extended slice of size ".toList ++ Text.ofNat slice.2.2)
    return ((slicePlaces slice).zip values).foldl
      (fun items (place, value) => items.setIfInBounds place value) items

/-- Puts a value under a key of a table. -/
def putEntry (table : Nat) (key value : Value) : Run Unit := do
  let text ← keyFor evaluator key
  match ← contentAt table with
  | .names owner =>
      onContent owner fun content =>
        ((), content.withNames (content.ownNames.insert ((key.text?).getD text) value))
  | _ => pure ()
  onContent table fun content => match content with
    | .table entries =>
        let kept := ((entries.get? text).map Prod.fst).getD key
        ((), .table (entries.insert text (kept, value)))
    | .scope scope =>
        ((), .scope { scope with names := scope.names.insert ((key.text?).getD text) value })
    | content => ((), content)

def setSubscript (value index item : Value) : Run Unit := do
  match ← callOwn? evaluator value "__setitem__" [index, item] with
  | some _ => pure ()
  | none =>
      let refuse : Run Unit := do
        failType ('\'' :: (← typeName value) ++
          "' object does not support item assignment".toList)
      match ← coreOf value with
      | .object place =>
          match ← contentAt place, index with
          | .list items, .slice first last step =>
              let values ← valuesOf evaluator item
              let slice ← sliceOf evaluator items.size first last step
              setContent place (.list (← replacedSlice items slice values))
          | .list items, index =>
              match ← indexOf? evaluator index with
              | none => failType (← indexProblem value index)
              | some number =>
                  match placeIn? items.size number with
                  | some number =>
                      onContent place fun content => match content with
                        | .list items => ((), .list (items.setIfInBounds number item))
                        | content => ((), content)
                  | none => fail "IndexError" "list assignment index out of range"
          | .buffer octets, index =>
              match (← indexOf? evaluator index).bind (placeIn? octets.length), item.whole? with
              | some number, some code =>
                  setContent place (.buffer (octets.set number (Char.ofNat code.toNat)))
              | _, _ => fail "IndexError" "bytearray index out of range"
          | .table _, key | .scope _, key | .names _, key => putEntry evaluator place key item
          | _, _ => refuse
      | _ => refuse

def deleteSubscript (value index : Value) : Run Unit := do
  match ← callOwn? evaluator value "__delitem__" [index] with
  | some _ => pure ()
  | none =>
      let refuse : Run Unit := do
        failType ('\'' :: (← typeName value) ++
          "' object doesn't support item deletion".toList)
      match ← coreOf value with
      | .object place =>
          match ← contentAt place, index with
          | .list items, .slice first last step =>
              let slice ← sliceOf evaluator items.size first last step
              let places := slicePlaces slice
              let kept := (items.toList.zip (List.range items.size)).filter fun entry =>
                !places.elem entry.2
              setContent place (.list (kept.map Prod.fst).toArray)
          | .list items, index =>
              match (← indexOf? evaluator index).bind (placeIn? items.size) with
              | some number =>
                  setContent place (.list (items.extract 0 number ++
                    items.extract (number + 1) items.size))
              | none => fail "IndexError" "list assignment index out of range"
          | .table entries, key =>
              let text ← keyFor evaluator key
              if !entries.has text then failKey key
              onContent place fun content => match content with
                | .table entries => ((), .table (entries.erase text))
                | content => ((), content)
          | .scope scope, key =>
              let name := (key.text?).getD []
              if !scope.names.has name then failKey key
              let _ ← unbindAt place name
          | .names owner, key =>
              let names := (← contentAt owner).ownNames
              let name := (key.text?).getD []
              if !names.has name then failKey key
              onContent owner fun content => ((), content.withNames (names.erase name))
          | _, _ => refuse
      | _ => refuse

/-! Membership. -/

/-- Whether one of some values is equal to another one. -/
def isAmong (value : Value) : List Value → Run Bool
  | [] => return false
  | item :: rest => do
      if isThat item value then return true
      else if ← same evaluator item value then return true
      else isAmong value rest

/-- Whether a value is among those that come one after the other. -/
def comesUp (value iterator : Value) : (fuel : Nat) → Run Bool
  | 0 => return false
  | fuel + 1 => do
      match ← evaluator.next iterator with
      | none => return false
      | some item =>
          if isThat item value then return true
          else if ← same evaluator item value then return true
          else comesUp value iterator fuel

def contains (container value : Value) : Run Bool := do
  let slowly : Run Bool := do
    let iterator ← match ← unlessRaised "TypeError" (iterate evaluator container) with
      | some iterator => pure iterator
      | none => failType ("argument of type '".toList ++ (← typeName container) ++
          "' is not iterable".toList)
    comesUp evaluator value iterator evaluator.limit
  match ← callOwn? evaluator container "__contains__" [value] with
  | some answer => truthOf evaluator answer
  | none =>
      match ← coreOf container with
      | .text text =>
          match ← coreOf value with
          | .text part => return Text.contains part text || part.isEmpty
          | _ => failType ("'in <string>' requires string as left operand, not ".toList ++
              (← typeName value))
      | .octets text =>
          match value with
          | .octets part => return Text.contains part text || part.isEmpty
          | value =>
              match value.whole? with
              | some code => return text.elem (Char.ofNat code.toNat)
              | none => failType ("a bytes-like object is required, not '".toList ++
                  (← typeName value) ++ ['\''])
      | .tuple items => isAmong evaluator value items
      | .object place =>
          match ← contentAt place with
          | .list items => isAmong evaluator value items.toList
          | .table entries => return entries.has (← keyFor evaluator value)
          | .set entries _ => return entries.has (← keyFor evaluator value)
          | .view table .keys =>
              match ← readableAt table with
              | .table entries => return entries.has (← keyFor evaluator value)
              | _ => return false
          | .range start stop step =>
              match value.whole? with
              | some number =>
                  return (number - start) % step = 0 &&
                    (if 0 < step then start ≤ number && number < stop
                      else stop < number && number ≤ start)
              | none => slowly
          | .scope scope => return value.text?.any scope.names.has
          | .names owner =>
              let names := (← contentAt owner).ownNames
              return value.text?.any names.has
          | _ => slowly
      | _ => slowly

/-- Whether two values compare as is said, membership included. -/
def holds (comparison : Comparison) (left right : Value) : Run Value := do
  match comparison with
  | .isIn wanted => return .bool ((← contains evaluator right left) == wanted)
  | comparison =>
      let own? : Option Value ← match comparison, left with
        | .isThat _, _ => pure none
        | _, .object _ => askOwn? evaluator left (comparisonName comparison) [right]
        | _, _ => pure none
      match own? with
      | some answer => return answer
      | none => return .bool (← compareValues evaluator comparison left right)

end ShaderCost.Script.Indented
