import ShaderCost.Script.Indented.Types

/-!
How values are told apart, ordered and shown. Types of the program may have routines of their own
for each of these.
-/

namespace ShaderCost.Script.Indented

variable (evaluator : Evaluator)

/-- Calls the routine that the program gives a value for a purpose, if there is one. -/
def callOwn? (value : Value) (name : Text) (arguments : List Value) : Run (Option Value) := do
  match value with
  | .object _ =>
      match ← ownMember? value name with
      | some .none => return none
      | some code => return some (← evaluator.call code (value :: arguments) [])
      | none => return none
  | _ => return none

/-- The same, where an answer that the operands are not known counts as none. -/
def askOwn? (value : Value) (name : Text) (arguments : List Value) : Run (Option Value) := do
  match ← callOwn? evaluator value name arguments with
  | some .unsupported => return none
  | answer => return answer

/-! Truth. -/

/-- How many values a container has, if it is one. -/
def sizeOf? (value : Value) : Run (Option Nat) := do
  match value with
  | .text text | .octets text => return some text.length
  | .tuple items => return some items.length
  | .object place =>
      match ← readableAt place with
      | .list items => return some items.size
      | .buffer octets => return some octets.length
      | .table entries => return some entries.size
      | .set entries _ => return some entries.size
      | .range start stop step =>
          let count := if 0 < step then (stop - start + step - 1) / step
            else if step < 0 then (start - stop - step - 1) / (-step) else 0
          return some count.toNat
      | .view table _ =>
          match ← readableAt table with
          | .table entries => return some entries.size
          | _ => return some 0
      | _ => return none
  | _ => return none

def truthOf (value : Value) : Run Bool := do
  match value with
  | .object _ =>
      match ← callOwn? evaluator value "__bool__" [] with
      | some answer => return answer.isTrue
      | none =>
          match ← callOwn? evaluator value "__len__" [] with
          | some answer => return answer.isTrue
          | none =>
              let core ← coreOf value
              return ((← sizeOf? core).map (· != 0)).getD core.isTrue
  | value => return value.isTrue

/-! Keys. -/

def realKey (value : Float) : Text :=
  match ratio? value with
  | some (numerator, denominator) =>
      if numerator % denominator = 0 then 'i' :: Text.ofInt (numerator / denominator)
      else 'f' :: Text.ofNat value.toBits.toNat
  | none => 'f' :: Text.ofNat value.toBits.toNat

/-- How deep values go inside one another. -/
def deepestValue : Nat := 2000

/-- The text that a value is found by. Values that count as the same have the same one. -/
def keyOf : (fuel : Nat) → Value → Run Text
  | 0, _ => fail "RecursionError" "maximum recursion depth exceeded"
  | fuel + 1, value => do
      let unhashable : Run Text := do
        failType ("unhashable type: '".toList ++ (← typeName value) ++ ['\''])
      match value with
      | .none => return "N"
      | .ellipsis => return "E"
      | .unsupported => return "U"
      | .bool value => return if value then "i1" else "i0"
      | .whole value => return 'i' :: Text.ofInt value
      | .real value => return realKey value
      | .text text => return 's' :: text
      | .octets text => return 'b' :: text
      | .tuple items =>
          let keys ← items.mapM (keyOf fuel)
          return 't' :: keys.flatMap fun key => Text.ofNat key.length ++ ':' :: key
      | .slice _ _ _ => unhashable
      | .type name => return 'T' :: name
      | .feature name => return 'F' :: name
      | .method object name => return 'm' :: name ++ '(' :: (← keyOf fuel object)
      | .bound code object => return 'B' :: (← keyOf fuel code) ++ '(' :: (← keyOf fuel object)
      | .object _ =>
          match ← callOwn? evaluator value "__hash__" [] with
          | some answer => return 'h' :: Text.ofInt (answer.whole?.getD 0)
          | none =>
              let core ← coreOf value
              match core with
              | .object place =>
                  match ← contentAt place with
                  | .list _ | .buffer _ | .table _ | .set _ false | .scope _ | .names _ =>
                      unhashable
                  | .set entries true =>
                      return 'z' :: (entries.keys.mergeSort Text.atMost).flatMap fun key =>
                        Text.ofNat key.length ++ ':' :: key
                  | .member _ _ _ =>
                      if (← ownMember? value "__eq__").isSome then unhashable
                      else return 'o' :: Text.ofNat place
                  | _ => return 'o' :: Text.ofNat place
              | core => keyOf fuel core

def keyFor (value : Value) : Run Text := keyOf evaluator deepestValue value

/-! Equality. -/

/-- Whether two values are one and the same. -/
def isThat : Value → Value → Bool
  | .none, .none | .ellipsis, .ellipsis | .unsupported, .unsupported => true
  | .bool left, .bool right => left = right
  | .whole left, .whole right => left = right
  | .real left, .real right => left.toBits = right.toBits
  | .text left, .text right => left = right
  | .octets left, .octets right => left = right
  | .tuple [], .tuple [] => true
  | .type left, .type right => left = right
  | .feature left, .feature right => left = right
  | .object left, .object right => left = right
  | _, _ => false

/-- Whether numbers are equal, if both are numbers. -/
def sameNumbers? (left right : Value) : Option Bool :=
  match left, right with
  | .real left, .real right => some (left == right)
  | .real left, right => right.whole?.map fun right => match ratio? left with
      | some (numerator, denominator) => numerator = right * denominator
      | none => false
  | left, .real right => left.whole?.map fun left => match ratio? right with
      | some (numerator, denominator) => numerator = left * denominator
      | none => false
  | left, right => do return (← left.whole?) = (← right.whole?)

mutual

def areSame : (fuel : Nat) → (left right : Value) → Run Bool
  | 0, _, _ => fail "RecursionError" "maximum recursion depth exceeded in comparison"
  | fuel + 1, left, right => do
      match sameNumbers? left right with
      | some answer => return answer
      | none =>
          match left, right with
          | .text left, .text right | .octets left, .octets right => return left = right
          | .tuple left, .tuple right => allSame fuel left right
          | .slice a b c, .slice d e f => allSame fuel [a, b, c] [d, e, f]
          | .method left name, .method right other =>
              if name = other then return isThat left right else return false
          | .bound code left, .bound other right => return isThat code other && isThat left right
          | left, right =>
              if isThat left right && !((← ownMember? left "__eq__").isSome) then return true
              match ← askOwn? evaluator left "__eq__" [right] with
              | some answer => truthOf evaluator answer
              | none =>
                  match ← askOwn? evaluator right "__eq__" [left] with
                  | some answer => truthOf evaluator answer
                  | none => sameContents fuel (← coreOf left) (← coreOf right)

def allSame : (fuel : Nat) → (left right : List Value) → Run Bool
  | 0, _, _ => fail "RecursionError" "maximum recursion depth exceeded in comparison"
  | _ + 1, [], [] => return true
  | fuel + 1, a :: left, b :: right => do
      if isThat a b then allSame fuel left right
      else if ← areSame fuel a b then allSame fuel left right
      else return false
  | _ + 1, _, _ => return false

/-- Whether values of the library are equal. -/
def sameContents : (fuel : Nat) → (left right : Value) → Run Bool
  | 0, _, _ => fail "RecursionError" "maximum recursion depth exceeded in comparison"
  | fuel + 1, left, right => do
      match left, right with
      | .object a, .object b =>
          if a = b then return true
          match ← readableAt a, ← readableAt b with
          | .list left, .list right =>
              if left.size = right.size then allSame fuel left.toList right.toList
              else return false
          | .buffer left, .buffer right => return left = right
          | .table left, .table right =>
              if left.size != right.size then return false
              let pairs := left.entries.map fun (key, entry) => (entry.2, right.get? key)
              sameEntries fuel pairs
          | .set left _, .set right _ =>
              return left.size = right.size && left.keys.all fun key => right.has key
          | .range a b c, .range d e f => return a = d && b = e && c = f
          | .view left .keys, .view right .keys =>
              match ← readableAt left, ← readableAt right with
              | .table left, .table right =>
                  return left.size = right.size && left.keys.all fun key => right.has key
              | _, _ => return false
          | _, _ => return false
      | .octets left, .object b | .object b, .octets left =>
          match ← contentAt b with
          | .buffer right => return left = right
          | _ => return false
      | .tuple left, .tuple right => allSame fuel left right
      | left, right => return (sameNumbers? left right).getD (isThat left right)

def sameEntries : (fuel : Nat) → List (Value × Option (Value × Value)) → Run Bool
  | 0, _ => fail "RecursionError" "maximum recursion depth exceeded in comparison"
  | _ + 1, [] => return true
  | fuel + 1, (value, other) :: rest => do
      match other with
      | some (_, right) =>
          if ← areSame fuel value right then sameEntries fuel rest else return false
      | none => return false

end

/-- How much work one comparison may be. -/
def comparisonLimit : Nat := 100000

def same (left right : Value) : Run Bool := areSame evaluator comparisonLimit left right

/-! Order. -/

def orderOfTexts (left right : Text) : Ordering :=
  compareOfLessAndEq (String.ofList left) (String.ofList right)

/-- The order of numbers, unless one of them is none. -/
def orderOfNumbers? (left right : Value) : Option (Option Ordering) :=
  let ratioOf (value : Value) : Option (Option (Int × Nat)) := match value with
    | .real value => some (ratio? value)
    | value => value.whole?.map fun value => some (value, 1)
  match ratioOf left, ratioOf right with
  | some (some (a, b)), some (some (c, d)) => some (some (compare (a * d) (c * b)))
  | some _, some _ =>
      let real (value : Value) : Float := match value with
        | .real value => value
        | value => realOf (value.whole?.getD 0)
      let (left, right) := (real left, real right)
      some (if left < right then some .lt else if right < left then some .gt
        else if left == right then some .eq else none)
  | _, _ => none

def comparisonName : Comparison → Text
  | .less => "__lt__"
  | .atMost => "__le__"
  | .greater => "__gt__"
  | .atLeast => "__ge__"
  | .same => "__eq__"
  | _ => "__ne__"

def comparisonSign : Comparison → Text
  | .less => "<"
  | .atMost => "<="
  | .greater => ">"
  | .atLeast => ">="
  | .same => "=="
  | .different => "!="
  | .isThat wanted => if wanted then "is" else "is not"
  | .isIn wanted => if wanted then "in" else "not in"

/-- The comparison with its sides exchanged. -/
def reflected : Comparison → Comparison
  | .less => .greater
  | .atMost => .atLeast
  | .greater => .less
  | .atLeast => .atMost
  | comparison => comparison

def holdsFor (comparison : Comparison) (order : Ordering) : Bool :=
  match comparison with
  | .less => order = .lt
  | .atMost => order != .gt
  | .greater => order = .gt
  | .atLeast => order != .lt
  | .same => order = .eq
  | _ => order != .eq

/-- The keys of a set or of what may be taken for one. -/
def setKeys? (value : Value) : Run (Option (List Text)) := do
  match ← coreOf value with
  | .object place =>
      match ← contentAt place with
      | .set entries _ => return some entries.keys
      | .view table .keys =>
          match ← readableAt table with
          | .table entries => return some entries.keys
          | _ => return none
      | _ => return none
  | _ => return none

mutual

/-- Whether one value comes before another one. -/
def compareOrder : (fuel : Nat) → Comparison → (left right : Value) → Run Bool
  | 0, _, _, _ => fail "RecursionError" "maximum recursion depth exceeded in comparison"
  | fuel + 1, comparison, left, right => do
      match orderOfNumbers? left right with
      | some order => return order.any (holdsFor comparison)
      | none =>
          match left, right with
          | .text left, .text right | .octets left, .octets right =>
              return holdsFor comparison (orderOfTexts left right)
          | .tuple left, .tuple right => compareLists fuel comparison left right
          | left, right =>
              match ← askOwn? evaluator left (comparisonName comparison) [right] with
              | some answer => truthOf evaluator answer
              | none =>
                  let name := comparisonName (reflected comparison)
                  match ← askOwn? evaluator right name [left] with
                  | some answer => truthOf evaluator answer
                  | none => compareContents fuel comparison left right

def compareContents : (fuel : Nat) → Comparison → (left right : Value) → Run Bool
  | 0, _, _, _ => fail "RecursionError" "maximum recursion depth exceeded in comparison"
  | fuel + 1, comparison, left, right => do
      let refuse : Run Bool := do
        failType ('\'' :: comparisonSign comparison ++
          "' not supported between instances of '".toList ++ (← typeName left) ++
            "' and '".toList ++
          (← typeName right) ++ ['\''])
      match ← setKeys? left, ← setKeys? right with
      | some left, some right =>
          let isBelow := left.all right.elem
          let isAbove := right.all left.elem
          return match comparison with
            | .less => isBelow && !isAbove
            | .atMost => isBelow
            | .greater => isAbove && !isBelow
            | _ => isAbove
      | _, _ =>
          match ← coreOf left, ← coreOf right with
          | .object a, .object b =>
              match ← contentAt a, ← contentAt b with
              | .list a, .list b => compareLists fuel comparison a.toList b.toList
              | .buffer a, .buffer b => return holdsFor comparison (orderOfTexts a b)
              | _, _ => refuse
          | .object _, _ | _, .object _ => refuse
          | a, b =>
              match left, right with
              | .object _, _ | _, .object _ => compareOrder fuel comparison a b
              | _, _ => refuse

/-- Compares values one after the other by the first ones that are not equal. -/
def compareLists : (fuel : Nat) → Comparison → (left right : List Value) → Run Bool
  | 0, _, _, _ => fail "RecursionError" "maximum recursion depth exceeded in comparison"
  | _ + 1, comparison, [], [] => return holdsFor comparison .eq
  | _ + 1, comparison, [], _ => return holdsFor comparison .lt
  | _ + 1, comparison, _, [] => return holdsFor comparison .gt
  | fuel + 1, comparison, a :: left, b :: right => do
      if ← same evaluator a b then compareLists fuel comparison left right
      else compareOrder fuel comparison a b

end

/-- Whether values compare as is said. -/
def compareValues (comparison : Comparison) (left right : Value) : Run Bool := do
  match comparison with
  | .same => same evaluator left right
  | .different =>
      match ← askOwn? evaluator left "__ne__" [right] with
      | some answer => truthOf evaluator answer
      | none => return !(← same evaluator left right)
  | .isThat wanted => return isThat left right == wanted
  | comparison => compareOrder evaluator comparisonLimit comparison left right

def comesBefore (left right : Value) : Run Bool :=
  compareOrder evaluator comparisonLimit .less left right

/-! How values are shown. -/

/-- The number that tells what lies at a place from all else. -/
def addressOf (place : Nat) : Nat := 139637976727552 + 48 * place

def addressText (place : Nat) : Text := "0x".toList ++ Nat.toDigits 16 (addressOf place)

/-- The order in which the values of a set come: whole numbers by their remainders, others as they
came. -/
def setOrder (entries : Roster Value) : List Value :=
  let values := entries.values
  if values.all fun value => value.whole?.any (0 ≤ ·) then
    let rec room : (fuel : Nat) → Nat → Nat
      | 0, size => size
      | fuel + 1, size => if 5 * values.length < 3 * size then size else room fuel (2 * size)
    let size := room 40 8
    let place (value : Value) : Nat := (value.whole?.getD 0).toNat % size
    values.mergeSort fun left right => place left ≤ place right
  else values

/-- The full name of a type, with that of its module. -/
def fullNameOf (type : Value) : Run Text := do
  match type with
  | .type name => return name
  | type =>
      match ← kindAt? type with
      | some kind =>
          return if kind.module = "builtins" then kind.fullName
            else kind.module ++ '.' :: kind.fullName
      | none => return "object"

/-- Wraps texts into brackets with commas between them. -/
def bracketed (opening closing : Text) (texts : List Text) : Text :=
  opening ++ List.intercalate ", ".toList texts ++ closing

/-- The text that messages have for a fault beside its type. -/
def faultText (written : Value → Run Text) (shown : Value → Run Text) (fault : Fault) :
    Run Text := do
  let isOf (name : Text) : Run Bool := isSubtype fault.type (.type name)
  match fault.arguments with
  | [] => return []
  | [value] => if ← isOf "KeyError" then written value else shown value
  | values =>
      if (← isOf "OSError") && values.length < 4 then
        let number ← shown (values.getD 0 .none)
        let words ← shown (values.getD 1 .none)
        let file ← match fault.attributes.get? "filename" with
          | none | some .none => pure []
          | some file => do pure (": ".toList ++ (← written file))
        return "[Errno ".toList ++ number ++ "] ".toList ++ words ++ file
      else match ← isOf "UnicodeDecodeError", values with
        | true, [.text encoding, .octets octets, .whole first, .whole _, .text reason] =>
            let octet := ((octets.drop first.toNat).head?.map Char.toNat).getD 0
            return '\'' :: encoding ++ "' codec can't decode byte 0x".toList ++ hexOf 2 octet ++
              " in position ".toList ++ Text.ofInt first ++ ": ".toList ++ reason
        | _, _ => written (.tuple values)

/-- What stands for a container within itself. -/
def againText : Content → Text
  | .list _ => "[...]"
  | .table _ => "\x7b...\x7d"
  | .set _ _ => "set(...)"
  | _ => "..."

mutual

/-- The text that a value is written as, within containers at places. -/
def writtenOf (around : List Nat) : (fuel : Nat) → Value → Run Text
  | 0, _ => return "..."
  | fuel + 1, value => do
      match value with
      | .none => return "None"
      | .ellipsis => return "Ellipsis"
      | .unsupported => return "NotImplemented"
      | .bool value => return if value then "True" else "False"
      | .whole value => return Text.ofInt value
      | .real value => return realText value
      | .text text => return writtenText text
      | .octets text => return writtenOctets text
      | .tuple [item] => return '(' :: (← writtenOf around fuel item) ++ ",)".toList
      | .tuple items => return bracketed "(" ")" (← items.mapM (writtenOf around fuel))
      | .slice first last step =>
          return bracketed "slice(" ")" (← [first, last, step].mapM (writtenOf around fuel))
      | .type name => return "<class '".toList ++ name ++ "'>".toList
      | .feature name =>
          return "<built-in function ".toList ++ lastPart name ++ ['>']
      | .method object name =>
          return "<built-in method ".toList ++ name ++ " of ".toList ++ (← typeName object) ++
            " object at 0x7f0000000000>".toList
      | .bound code object =>
          let name ← match code with
            | .object place =>
                match ← contentAt place with
                | .code code =>
                    pure ((((← get).routines[code.routine]?).map Routine.fullName).getD code.name)
                | _ => pure "?".toList
            | _ => pure "?".toList
          return "<bound method ".toList ++ name ++ " of ".toList ++
            (← writtenOf around fuel object) ++
            ['>']
      | .object place =>
          match ← callOwn? evaluator value "__repr__" [] with
          | some (.text text) => return text
          | some other =>
              failType ("__repr__ returned non-string (type ".toList ++ (← typeName other) ++ [')'])
          | none => writtenContent around fuel place

def writtenContent (around : List Nat) : (fuel : Nat) → (place : Nat) → Run Text
  | 0, _ => return "..."
  | fuel + 1, place => do
      let titled (title : Text) : Text :=
        '<' :: title ++ " object at ".toList ++ addressText place ++ ['>']
      let content ← readableAt place
      if around.elem place then return againText content
      let around := place :: around
      match content with
      | .list items => return bracketed "[" "]" (← items.toList.mapM (writtenOf around fuel))
      | .buffer octets => return "bytearray(".toList ++ writtenOctets octets ++ [')']
      | .table entries =>
          let texts ← entries.values.mapM fun (key, value) => do
            let key ← writtenOf around fuel key
            return key ++ ": ".toList ++ (← writtenOf around fuel value)
          return bracketed "\x7b" "\x7d" texts
      | .set entries isFrozen =>
          let texts ← (setOrder entries).mapM (writtenOf around fuel)
          return match texts, isFrozen with
            | [], true => "frozenset()".toList
            | [], false => "set()".toList
            | texts, true => bracketed "frozenset(\x7b" "\x7d)" texts
            | texts, false => bracketed "\x7b" "\x7d" texts
      | .range start stop step =>
          let texts := [Text.ofInt start, Text.ofInt stop]
          return bracketed "range(" ")" (if step = 1 then texts else texts ++ [Text.ofInt step])
      | .view table side =>
          match ← readableAt table with
          | .table entries =>
              let items := entries.values.map fun (key, value) => match side with
                | .keys => key
                | .values => value
                | .entries => .tuple [key, value]
              return bracketed (sideType side ++
                "([".toList) "])" (← items.mapM (writtenOf around fuel))
          | _ => return titled "view"
      | .module name _ =>
          return "<module '".toList ++ name ++ "' (built-in)>".toList
      | .code code =>
          let name := (((← get).routines[code.routine]?).map Routine.fullName).getD code.name
          return "<function ".toList ++ name ++ " at ".toList ++ addressText place ++ ['>']
      | .kind _ => return "<class '".toList ++ (← fullNameOf (.object place)) ++ "'>".toList
      | .member type _ .none => return titled (← fullNameOf type)
      | .member _ _ core => writtenOf around fuel core
      | .fault fault =>
          return (← nameOfType fault.type) ++
            bracketed "(" ")" (← fault.arguments.mapM (writtenOf around fuel))
      | .series series => return titled ("generator ".toList ++ series.name)
      | .handle handle =>
          match handle.way with
          | .memory _ _ => return titled (handleType handle)
          | _ =>
              return '<' :: handleType handle ++ " name=".toList ++
                (← writtenOf around fuel handle.name) ++ ['>']
      | .sheet sheet =>
          match ← contentAt sheet.below with
          | .handle handle =>
              return "<_io.TextIOWrapper name=".toList ++ (← writtenOf around fuel handle.name) ++
                " mode='".toList ++ handle.mode.filter (· != 'b') ++ "' encoding='".toList ++
                sheet.encoding ++
                "'>".toList
          | _ => return titled "_io.TextIOWrapper"
      | .pattern pattern =>
          let text := if pattern.isOctets then writtenOctets pattern.text
            else writtenText pattern.text
          return "re.compile(".toList ++ text ++ [')']
      | .found found =>
          let (first, last) := (found.groups.getD 0 none).getD (0, 0)
          let text := (found.subject.drop first).take (last - first)
          return "<re.Match object; span=(".toList ++ Text.ofNat first ++ ", ".toList ++
            Text.ofNat last ++ "), match=".toList ++
            (if found.isOctets then writtenOctets text else writtenText text) ++ ['>']
      | content => return titled (← fullNameOf (typeOfContent content))

end

def written (value : Value) : Run Text := writtenOf evaluator [] deepestValue value

/-- The text of a value. -/
def shownOf : (fuel : Nat) → Value → Run Text
  | 0, _ => return "..."
  | fuel + 1, value => do
      match value with
      | .text text => return text
      | .object place =>
          match ← callOwn? evaluator value "__str__" [] with
          | some (.text text) => return text
          | some other =>
              failType ("__str__ returned non-string (type ".toList ++ (← typeName other) ++ [')'])
          | none =>
              match ← contentAt place with
              | .fault fault =>
                  if (← ownMember? value "__repr__").isSome && fault.arguments.isEmpty then
                    written evaluator value
                  else faultText (written evaluator) (shownOf fuel) fault
              | .member _ _ (.text text) =>
                  if (← ownMember? value "__repr__").isSome then written evaluator value
                  else return text
              | _ => written evaluator value
      | value => written evaluator value

def shown (value : Value) : Run Text := shownOf evaluator deepestValue value

end ShaderCost.Script.Indented
