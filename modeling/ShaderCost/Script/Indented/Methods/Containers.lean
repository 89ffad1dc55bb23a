import ShaderCost.Script.Indented.Methods.Texts

/-!
Routines of lists, tables, sets and ranges, and the order of values that are sorted.
-/

namespace ShaderCost.Script.Indented

variable (evaluator : Evaluator)

/-! Sorting. -/

/-- Merges values that are sorted. Of equal ones those of the first list come first. -/
def mergedValues (isBefore : Value → Value → Run Bool) : (fuel : Nat) →
    (left right before : List (Value × Value)) → Run (List (Value × Value))
  | 0, left, right, before => return before.reverse ++ left ++ right
  | _ + 1, [], right, before => return before.reverse ++ right
  | _ + 1, left, [], before => return before.reverse ++ left
  | fuel + 1, a :: left, b :: right, before => do
      liftM (n := Run) (spend 1)
      if ← isBefore b.1 a.1 then mergedValues isBefore fuel (a :: left) right (b :: before)
      else mergedValues isBefore fuel left (b :: right) (a :: before)

/-- Sorts values by their keys. Equal ones stay as they are. -/
def sortedPairs (isBefore : Value → Value → Run Bool) : (fuel : Nat) → List (Value × Value) →
    Run (List (Value × Value))
  | 0, pairs => return pairs
  | _ + 1, [] => return []
  | _ + 1, [pair] => return [pair]
  | fuel + 1, pairs => do
      let half := pairs.length / 2
      let left ← sortedPairs isBefore fuel (pairs.take half)
      let right ← sortedPairs isBefore fuel (pairs.drop half)
      mergedValues isBefore (pairs.length + 1) left right []

/-- How deep a list is halved. -/
def deepestHalf : Nat := 64

/-- Sorts values as the arguments of a call say. -/
def sorted (values : List Value) (given : Given) : Run (List Value) := do
  let keys ← match given.some? 0 "key" with
    | some code => values.mapM fun value => evaluator.call code [value] []
    | none => pure values
  let isDown ← truthOf evaluator (given.get 1 "reverse" (.bool false))
  let pairs := keys.zip values
  if isDown then
    let turned ← sortedPairs (comesBefore evaluator) deepestHalf pairs.reverse
    return (turned.map Prod.snd).reverse
  else return (← sortedPairs (comesBefore evaluator) deepestHalf pairs).map Prod.snd

/-! Lists. -/

/-- Where a value is among others. -/
def placeAmong? (value : Value) : List Value → (place : Nat) → Run (Option Nat)
  | [], _ => return none
  | item :: rest, place => do
      if isThat item value then return some place
      else if ← same evaluator item value then return some place
      else placeAmong? value rest (place + 1)

def countAmong (value : Value) : List Value → (count : Nat) → Run Nat
  | [], count => return count
  | item :: rest, count => do
      if isThat item value then countAmong value rest (count + 1)
      else if ← same evaluator item value then countAmong value rest (count + 1)
      else countAmong value rest count

/-- Routines of values that do not change. -/
def callItems (title : Text) (items : List Value) (name : Text) (given : Given) :
    Run (Option Value) := do
  match String.ofList name with
  | "index" =>
      let sought ← given.first name
      let size : Int := items.length
      let first ← wholeOr evaluator 0 (given.at? 1 "start")
      let first := if first < 0 then max 0 (first + size) else first
      match ← placeAmong? evaluator sought (items.drop first.toNat) first.toNat with
      | some place => return some (.ofNat place)
      | none =>
          if title = "tuple" then failValue "tuple.index(x): x not in tuple"
          else failValue ((← written evaluator sought) ++ " is not in ".toList ++ title)
  | "count" => return some (.ofNat (← countAmong evaluator (← given.first name) items 0))
  | _ => return none

def callList (place : Nat) (items : Array Value) (name : Text) (given : Given) :
    Run (Option Value) := do
  let settle (items : Array Value) : Run (Option Value) := do
    setContent place (.list items)
    return some .none
  match String.ofList name with
  | "append" =>
      if given.values.length != 1 then
        failType ("list.append() takes exactly one argument (".toList ++
          Text.ofNat given.values.length ++ " given)".toList)
      let value ← given.first name
      extend place [value]
      return some .none
  | "extend" =>
      let values ← valuesOf evaluator (← given.first name)
      extend place values
      return some .none
  | "insert" =>
      let index ← wholeOr evaluator 0 (given.at? 0 "index")
      let size : Int := items.size
      let index := (max 0 (min size (if index < 0 then index + size else index))).toNat
      let value := given.get 1 "object" .none
      settle (items.extract 0 index ++ #[value] ++ items.extract index items.size)
  | "pop" =>
      if items.isEmpty then fail "IndexError" "pop from empty list"
      let index ← wholeOr evaluator (-1) (given.at? 0 "index")
      match placeIn? items.size index with
      | none => fail "IndexError" "pop index out of range"
      | some number =>
          let value := items.getD number .none
          if number + 1 = items.size then
            onContent place fun content => match content with
              | .list items => ((), .list items.pop)
              | content => ((), content)
          else setContent place (.list (items.extract 0 number ++
            items.extract (number + 1) items.size))
          return some value
  | "remove" =>
      match ← placeAmong? evaluator (← given.first name) items.toList 0 with
      | some number =>
          settle (items.extract 0 number ++ items.extract (number + 1) items.size)
      | none => failValue "list.remove(x): x not in list"
  | "index" =>
      match ← placeAmong? evaluator (← given.first name) items.toList 0 with
      | none => failValue ((← written evaluator (← given.first name)) ++ " is not in list".toList)
      | some _ => callItems evaluator "list" items.toList name given
  | "reverse" => settle items.reverse
  | "sort" => settle (← sorted evaluator items.toList given).toArray
  | "clear" => settle #[]
  | "copy" => return some (← make (.list items))
  | _ => callItems evaluator "list" items.toList name given

/-! Tables. -/

/-- Whether a value is a table or something like it. -/
def hasKeys (value : Value) : Run Bool := hasAttribute evaluator value "keys"

/-- Puts what a call gives into a table. -/
def updateTable (place : Nat) (given : Given) : Run Unit := do
  match given.values with
  | source :: _ =>
      match ← coreOf source with
      | .object other =>
          match ← readableAt other with
          | .table entries =>
              onContent place fun content => match content with
                | .table before =>
                    ((), .table (entries.entries.foldl
                      (fun before (key, entry) => before.insert key entry) before))
                | content => ((), content)
          | _ =>
              if ← hasKeys evaluator source then
                let keys ← valuesOf evaluator
                  (← evaluator.call (← attributeOf evaluator source "keys") [] [])
                for key in keys do putEntry evaluator place key (← subscript evaluator source key)
              else takePairs source
      | .none => failType "'NoneType' object is not iterable"
      | _ => takePairs source
  | [] => pure ()
  for (name, value) in given.named do putEntry evaluator place (.text name) value
where
  takePairs (source : Value) : Run Unit := do
    let values ← valuesOf evaluator source
    for (pair, number) in values.zip (List.range values.length) do
      match ← valuesOf evaluator pair with
      | [key, value] => putEntry evaluator place key value
      | parts =>
          failValue ("dictionary update sequence element #".toList ++ Text.ofNat number ++
            " has length ".toList ++ Text.ofNat parts.length ++ "; 2 is required".toList)

def eraseEntry (place : Nat) (key : Text) : Run Unit :=
  onContent place fun content => match content with
    | .table entries => ((), .table (entries.erase key))
    | content => ((), content)

def callTable (object : Value) (place : Nat) (entries : Roster (Value × Value)) (name : Text)
    (given : Given) : Run (Option Value) := do
  match String.ofList name with
  | "get" =>
      let key ← keyFor evaluator (← given.first name)
      return some (((entries.get? key).map Prod.snd).getD (given.get 1 "default" .none))
  | "items" => return some (← make (.view place .entries))
  | "keys" => return some (← make (.view place .keys))
  | "values" => return some (← make (.view place .values))
  | "pop" =>
      let sought ← given.first name
      let key ← keyFor evaluator sought
      match entries.get? key, given.at? 1 "default" with
      | some (_, value), _ =>
          eraseEntry place key
          return some value
      | none, some usual => return some usual
      | none, none => failKey sought
  | "popitem" =>
      match entries.entries.getLast? with
      | some (key, entry) =>
          eraseEntry place key
          return some (.tuple [entry.1, entry.2])
      | none => raiseWith "KeyError" [.text "popitem(): dictionary is empty"]
  | "setdefault" =>
      let sought ← given.first name
      let key ← keyFor evaluator sought
      match entries.get? key with
      | some (_, value) => return some value
      | none =>
          let value := given.get 1 "default" .none
          putEntry evaluator place sought value
          return some value
  | "update" =>
      updateTable evaluator place given
      return some .none
  | "clear" =>
      setContent place (.table .empty)
      return some .none
  | "copy" =>
      let copy ← make (.table entries)
      match object with
      | .object other =>
          match ← contentAt other with
          | .member type attributes _ => return some (← make (.member type attributes copy))
          | _ => return some copy
      | _ => return some copy
  | _ => return none

/-! Sets. -/

def callSet (place : Nat) (entries : Roster Value) (isFrozen : Bool) (name : Text)
    (given : Given) : Run (Option Value) := do
  let settle (entries : Roster Value) : Run (Option Value) := do
    setContent place (.set entries false)
    return some .none
  let others : Run (List (Roster Value)) :=
    given.values.mapM fun value => do entriesFrom evaluator (← valuesOf evaluator value)
  let combined (operation : Operation) : Run (Roster Value) := do
    return (← others).foldl (fun entries other =>
      (combineSets operation entries other).getD entries) entries
  let makeSet (entries : Roster Value) : Run (Option Value) := do
    return some (← make (.set entries isFrozen))
  match String.ofList name with
  | "add" =>
      let value ← given.first name
      let key ← keyFor evaluator value
      if entries.has key then return some .none else settle (entries.insert key value)
  | "discard" => settle (entries.erase (← keyFor evaluator (← given.first name)))
  | "remove" =>
      let value ← given.first name
      let key ← keyFor evaluator value
      if entries.has key then settle (entries.erase key) else failKey value
  | "pop" =>
      match setOrder entries with
      | value :: _ =>
          let _ ← settle (entries.erase (← keyFor evaluator value))
          return some value
      | [] => raiseWith "KeyError" [.text "pop from an empty set"]
  | "clear" => settle .empty
  | "copy" => makeSet entries
  | "update" => settle (← combined .eitherBits)
  | "union" => makeSet (← combined .eitherBits)
  | "intersection" => makeSet (← combined .bothBits)
  | "intersection_update" => settle (← combined .bothBits)
  | "difference" => makeSet (← combined .subtract)
  | "difference_update" => settle (← combined .subtract)
  | "symmetric_difference" => makeSet (← combined .differingBits)
  | "symmetric_difference_update" => settle (← combined .differingBits)
  | "issubset" =>
      let other := (← others).headD .empty
      return some (.bool (entries.keys.all fun key => other.has key))
  | "issuperset" =>
      let other := (← others).headD .empty
      return some (.bool (other.keys.all fun key => entries.has key))
  | "isdisjoint" =>
      let other := (← others).headD .empty
      return some (.bool (other.keys.all fun key => !entries.has key))
  | _ => return none

/-! What containers have in common. -/

/-- Routines that containers have for the operations on them. -/
def callContainer (object : Value) (name : Text) (given : Given) : Run (Option Value) := do
  let core ← coreOf object
  match String.ofList name with
  | "__len__" =>
      match ← sizeOf? core with
      | some size => return some (.ofNat size)
      | none => return none
  | "__iter__" =>
      match core with
      | .object place =>
          match ← contentAt place with
          | .member _ _ _ => return none
          | _ => return some (← iterate evaluator core)
      | core => return some (← iterate evaluator core)
  | "__next__" =>
      match ← evaluator.next object with
      | some value => return some value
      | none => raiseWith "StopIteration" []
  | "__getitem__" => return some (← partOf evaluator object core (← given.first name))
  | "__setitem__" =>
      setSubscript evaluator core (← given.first name) (given.get 1 "value" .none)
      return some .none
  | "__delitem__" =>
      deleteSubscript evaluator core (← given.first name)
      return some .none
  | "__contains__" => return some (.bool (← contains evaluator core (← given.first name)))
  | "__add__" => return some (← compute evaluator .add core (← given.first name))
  | "__sub__" => return some (← compute evaluator .subtract core (← given.first name))
  | "__mul__" => return some (← compute evaluator .multiply core (← given.first name))
  | "__mod__" => return some (← compute evaluator .remainder core (← given.first name))
  | "__lt__" => return some (.bool (← compareValues evaluator .less core (← given.first name)))
  | "__le__" => return some (.bool (← compareValues evaluator .atMost core (← given.first name)))
  | "__gt__" => return some (.bool (← compareValues evaluator .greater core (← given.first name)))
  | "__ge__" => return some (.bool (← compareValues evaluator .atLeast core (← given.first name)))
  | _ => return none

end ShaderCost.Script.Indented
