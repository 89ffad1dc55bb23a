import ShaderCost.Script.Indented.Modules
import ShaderCost.Script.Indented.Operations

/-!
What gets values: names, attributes, parts of containers, and several of these at once. A choice
between patterns gives values to names in the same way.
-/

namespace ShaderCost.Script.Indented

variable (evaluator : Evaluator)

/-- How deep targets and patterns go inside one another. -/
def deepestTarget : Nat := 100

def isStarred : Term → Bool
  | .starred _ => true
  | _ => false

/-- Gives a value to what a term stands for. -/
def assignWithin : (fuel : Nat) → (target : Term) → (value : Value) → Run Unit
  | 0, _, _ => fail "RecursionError" "maximum recursion depth exceeded"
  | fuel + 1, target, value => do
      match target with
      | .name name => assignName name value
      | .attribute object name => setAttribute evaluator (← evaluator.value object) name value
      | .subscript object index =>
          let object ← evaluator.value object
          setSubscript evaluator object (← evaluator.value index) value
      | .list items | .tuple items =>
          let before := items.takeWhile fun item => !isStarred item
          match items.drop before.length with
          | .starred rest :: behind =>
              let (first, middle, last) ←
                unpackAround evaluator before.length behind.length value
              for (item, value) in before.zip first do assignWithin fuel item value
              assignWithin fuel rest (← makeList middle)
              for (item, value) in behind.zip last do assignWithin fuel item value
          | _ =>
              let values ← unpack evaluator items.length value
              for (item, value) in items.zip values do assignWithin fuel item value
      | .starred target => assignWithin fuel target value
      | _ => fail "SyntaxError" "cannot assign to expression"

def assign (target : Term) (value : Value) : Run Unit :=
  assignWithin evaluator deepestTarget target value

/-- Takes away what a term stands for. -/
def deleteWithin : (fuel : Nat) → (target : Term) → Run Unit
  | 0, _ => fail "RecursionError" "maximum recursion depth exceeded"
  | fuel + 1, target => do
      match target with
      | .name name => deleteName name
      | .attribute object name => deleteAttribute evaluator (← evaluator.value object) name
      | .subscript object index =>
          let object ← evaluator.value object
          deleteSubscript evaluator object (← evaluator.value index)
      | .list items | .tuple items => for item in items do deleteWithin fuel item
      | _ => fail "SyntaxError" "cannot delete expression"

def delete (target : Term) : Run Unit := deleteWithin evaluator deepestTarget target

/-- Computes with what a target has, and gives it the result. The parts of the target are evaluated
once. -/
def update (operation : Operation) (target value : Term) : Run Unit := do
  match target with
  | .attribute object name =>
      let object ← evaluator.value object
      let before ← attributeOf evaluator object name
      let result ← computeInPlace evaluator operation before (← evaluator.value value)
      setAttribute evaluator object name result
  | .subscript object index =>
      let object ← evaluator.value object
      let index ← evaluator.value index
      let before ← subscript evaluator object index
      let result ← computeInPlace evaluator operation before (← evaluator.value value)
      setSubscript evaluator object index result
  | target =>
      let before ← evaluator.value target
      let result ← computeInPlace evaluator operation before (← evaluator.value value)
      assign evaluator target result

/-! Patterns. -/

/-- The names that a pattern gives values to, with these. -/
abbrev Captures := List (Text × Value)

/-- The values of what a pattern of values one after the other takes. -/
def sequenceOf? (value : Value) : Run (Option (List Value)) := do
  match ← coreOf value with
  | .tuple items => return some items
  | .object place =>
      match ← contentAt place with
      | .list items => return some items.toList
      | .range _ _ _ => return some (← valuesOf evaluator (.object place))
      | _ => return none
  | _ => return none

def tableOf? (value : Value) : Run (Option (Nat × Roster (Value × Value))) := do
  match ← coreOf value with
  | .object place =>
      match ← readableAt place with
      | .table entries => return some (place, entries)
      | _ => return none
  | _ => return none

/-- The types whose patterns take the whole value first. -/
def wholeTypes : List Text :=
  ["bool", "bytearray", "bytes", "dict", "float", "frozenset", "int", "list", "set", "str", "tuple"]

/-- The attributes that the first patterns of a type are about; none stands for the value itself. -/
def memberTargets (type : Value) (count : Nat) : Run (List (Option Text)) := do
  let isWhole ← (← orderOf type).anyM fun entry => do
    match entry with
    | .type name => return wholeTypes.elem name
    | _ => return false
  let tooMany {α : Type} (most : Nat) : Run α := do
    failType ((← nameOfType type) ++ "() accepts ".toList ++ Text.ofNat most ++
      " positional sub-pattern".toList ++ (if most = 1 then [] else ['s']) ++ " (".toList ++
      Text.ofNat count ++ " given)".toList)
  if count = 0 then return []
  match ← attribute? evaluator type "__match_args__" with
  | some names =>
      let names := (← valuesOf evaluator names).filterMap Value.text?
      if names.length < count then tooMany names.length
      return (names.take count).map some
  | none =>
      if !isWhole then tooMany 0
      else if 1 < count then tooMany 1
      else return [none]

mutual

/-- The names that a value gives to a pattern that it fits. -/
def fitWithin : (fuel : Nat) → Shape → Value → Run (Option Captures)
  | 0, _, _ => return none
  | fuel + 1, shape, value => do
      match shape with
      | .any => return some []
      | .capture name => return some [(name, value)]
      | .value term =>
          let wanted ← evaluator.value term
          match wanted with
          | .none | .bool _ => return if isThat wanted value then some [] else none
          | wanted => return if ← same evaluator value wanted then some [] else none
      | .either shapes => fitFirst fuel shapes value
      | .named shape name =>
          return (← fitWithin fuel shape value).map (· ++ [(name, value)])
      | .sequence before rest behind =>
          match ← sequenceOf? evaluator value with
          | none => return none
          | some values =>
              let size := values.length
              let least := before.length + behind.length
              match rest with
              | none => if size != least then return none else fitAll fuel before values
              | some name =>
                  if size < least then return none
                  let middle := (values.drop before.length).take (size - least)
                  let pairs := values.take before.length ++ values.drop (size - behind.length)
                  match ← fitAll fuel (before ++ behind) pairs with
                  | none => return none
                  | some captures =>
                      if name = "_" then return some captures
                      else return some (captures ++ [(name, ← makeList middle)])
      | .table keys shapes rest =>
          match ← tableOf? value with
          | none => return none
          | some (_, entries) =>
              let keys ← keys.mapM fun key => do keyFor evaluator (← evaluator.value key)
              let values := keys.filterMap fun key => (entries.get? key).map Prod.snd
              if values.length != keys.length then return none
              match ← fitAll fuel shapes values with
              | none => return none
              | some captures =>
                  match rest with
                  | none => return some captures
                  | some name =>
                      let others ← make (.table (keys.foldl Roster.erase entries))
                      return some (captures ++ [(name, others)])
      | .member type shapes names named =>
          let type ← evaluator.value type
          if !(← isType type) then failType "called match pattern must be a class"
          if !(← isInstance value type) then return none
          let targets ← memberTargets evaluator type shapes.length
          fitMembers fuel (targets ++ names.map some) (shapes ++ named) value

def fitFirst : (fuel : Nat) → List Shape → Value → Run (Option Captures)
  | 0, _, _ | _ + 1, [], _ => return none
  | fuel + 1, shape :: shapes, value => do
      match ← fitWithin fuel shape value with
      | some captures => return some captures
      | none => fitFirst fuel shapes value

def fitAll : (fuel : Nat) → List Shape → List Value → Run (Option Captures)
  | 0, _, _ => return none
  | fuel + 1, shape :: shapes, value :: values => do
      match ← fitWithin fuel shape value with
      | none => return none
      | some captures => return (← fitAll fuel shapes values).map (captures ++ ·)
  | _ + 1, _, _ => return some []

/-- The same for attributes of a value. -/
def fitMembers : (fuel : Nat) → List (Option Text) → List Shape → Value → Run (Option Captures)
  | 0, _, _, _ => return none
  | fuel + 1, target :: targets, shape :: shapes, value => do
      let part ← match target with
        | none => pure (some value)
        | some name => do
            if ← hasAttribute evaluator value name then
              some <$> attributeOf evaluator value name
            else pure none
      match part with
      | none => return none
      | some part =>
          match ← fitWithin fuel shape part with
          | none => return none
          | some captures => return (← fitMembers fuel targets shapes value).map (captures ++ ·)
  | _ + 1, _, _, _ => return some []

end

/-- Whether a value fits a pattern; if so, the names of the pattern get their values. -/
def fits (shape : Shape) (value : Value) : Run Bool := do
  match ← fitWithin evaluator 1000 shape value with
  | none => return false
  | some captures =>
      for (name, value) in captures do assignName name value
      return true

end ShaderCost.Script.Indented

/-!
What terms are worth: names, calls, operations, texts with values in them, and what is gathered from
values that come one after the other.
-/

namespace ShaderCost.Script.Indented

variable (evaluator : Evaluator)

def valueOfLiteral : Literal → Value
  | .none => .none
  | .ellipsis => .ellipsis
  | .bool value => .bool value
  | .integer value => .whole value
  | .real value => .real value
  | .text value => .text value
  | .octets value => .octets value

def valueOfName (name : Text) : Run Value := do
  match ← findName name deepestScope (← presentScope) false with
  | some value => return value
  | none =>
      match commonValues.get? name with
      | some value => return value
      | none => undefinedName name

/-- The values of terms, of which some stand for several values. -/
def valuesOfTerms : List Term → Run (List Value)
  | [] => return []
  | .starred term :: rest => do
      let values ← valuesOf evaluator (← evaluator.value term)
      return values ++ (← valuesOfTerms rest)
  | term :: rest => do
      let value ← evaluator.value term
      return value :: (← valuesOfTerms rest)

/-! Calls. -/

/-- Entries of a table as arguments with names. -/
def namedFrom (value : Value) : Run (List (Text × Value)) := do
  let place ← allocate (.table .empty)
  if !(← hasKeys evaluator value) then
    failType ("argument after ** must be a mapping, not ".toList ++ (← typeName value))
  updateTable evaluator place ⟨[value], []⟩
  match ← contentAt place with
  | .table entries =>
      entries.values.mapM fun (key, value) => do
        match key with
        | .text name => return (name, value)
        | _ => failType "keywords must be strings"
  | _ => return []

def namedValues : List Argument → Run (List (Text × Value))
  | [] => return []
  | .argument name term :: rest => do
      let value ← evaluator.value term
      let here ← if name.isEmpty then namedFrom evaluator value else pure [(name, value)]
      return here ++ (← namedValues rest)

/-- Calls a value. -/
def callValue (code : Value) (arguments : List Value) (named : List (Text × Value)) :
    Run Value := do
  let given : Given := ⟨arguments, named⟩
  match code with
  | .feature name => callFeature evaluator name given
  | .method object name => callMethod evaluator object name given
  | .bound code object => evaluator.call code (object :: arguments) named
  | .type name => if name = "super" then makeAbove given else makeOf evaluator name given
  | .object place => callContentAt evaluator place given
  | value => notCallable value

def evaluateCall (line : Nat) (code : Term) (arguments : List Term) (named : List Argument) :
    Run Value := do
  let code ← evaluator.value code
  let arguments ← valuesOfTerms evaluator arguments
  let named ← match named with
    | [] => pure []
    | named => namedValues evaluator named
  setLine line
  evaluator.call code arguments named

/-! Comparisons. -/

def compareAll (left : Value) : List Compared → Run Value
  | [] => return .bool true
  | [.compared comparison term] => do
      holds evaluator comparison left (← evaluator.value term)
  | .compared comparison term :: rest => do
      let right ← evaluator.value term
      let verdict ← holds evaluator comparison left right
      if ← truthOf evaluator verdict then compareAll right rest else return verdict

/-! Texts with values in them. -/

def shownPart (term : Term) (conversion : Option Char) (format : Option Term) : Run Text := do
  let value ← converted evaluator conversion (← evaluator.value term)
  let format ← match format with
    | none => pure []
    | some format => textIn false (← evaluator.value format)
  match value with
  | .text text => if format.isEmpty then return text else formatted evaluator value format
  | value => formatted evaluator value format

def joinedText (parts : List Term) : Run Text := do
  let texts ← parts.mapM fun part => do
    match part with
    | .literal (.text text) => return text
    | .shown term conversion format => shownPart evaluator term conversion format
    | term => shown evaluator (← evaluator.value term)
  return texts.flatten

/-! What is gathered from values one after the other. -/

/-- The names that a target gives values to. -/
def targetNames : (fuel : Nat) → Term → List Text
  | 0, _ => []
  | _ + 1, .name name => [name]
  | fuel + 1, .list items | fuel + 1, .tuple items => items.flatMap (targetNames fuel)
  | fuel + 1, .starred term => targetNames fuel term
  | _ + 1, _ => []

def clauseNames (clauses : List Clause) : List Text :=
  clauses.flatMap fun (.clause target _ _) => targetNames deepestTarget target

def allHold : List Term → Run Bool
  | [] => return true
  | term :: rest => do
      if ← truthOf evaluator (← evaluator.value term) then allHold rest else return false

/-- Goes through the values that are left, as far as conditions hold for them. -/
def eachValue {α : Type} (target : Term) (conditions : List Term) (work : α → Run α)
    (iterator : Value) : (fuel : Nat) → α → Run α
  | 0, state => return state
  | fuel + 1, state => do
      match ← evaluator.next iterator with
      | none => return state
      | some value =>
          assign evaluator target value
          if ← allHold evaluator conditions then
            eachValue target conditions work iterator fuel (← work state)
          else eachValue target conditions work iterator fuel state

/-- Goes through clauses inside one another. The values of the first one may be known. -/
def throughClauses {α : Type} (work : α → Run α) : List Clause → (first : Option Value) → α → Run α
  | [], _, state => work state
  | .clause target values conditions :: rest, first, state => do
      let iterator ← match first with
        | some iterator => pure iterator
        | none => do iterate evaluator (← evaluator.value values)
      eachValue evaluator target conditions (throughClauses work rest none) iterator
        evaluator.limit state

/-- What a comprehension without a beginning or an end of its own does. -/
def seriesOf (element : Term) (clauses : List Clause) : List Statement :=
  clauses.foldr (fun (.clause target values conditions) inner =>
    let inner := conditions.foldr (fun condition inner => [.choose 0 condition inner []]) inner
    [.forEach 0 target values inner []]) [.evaluate 0 (.yields (some element))]

/-- A name that no program has, for values that are known before. -/
def firstName : Text := ".0"

def evaluateComprehension (collecting : Collecting) (element : Term) (value : Option Term)
    (clauses : List Clause) : Run Value := do
  let first ← match clauses with
    | .clause _ values _ :: _ => do iterate evaluator (← evaluator.value values)
    | [] => pure .none
  let scope ← newScope .inner (clauseNames clauses) (some (← presentScope))
  match collecting with
  | .series =>
      let clauses := match clauses with
        | .clause target _ conditions :: rest =>
            .clause target (.name firstName) conditions :: rest
        | [] => []
      bindAt scope firstName first
      let frame ← presentFrame
      make (.series {
        tasks := [.block (seriesOf element clauses)], scope, name := "<genexpr>"
        path := frame.path, owner := frame.owner, first := frame.first, isBegun := false
        isRunning := false, line := frame.line })
  | .list =>
      let items ← withScope scope (throughClauses evaluator (fun items => do
        return items.push (← evaluator.value element)) clauses (some first) #[])
      make (.list items)
  | .set =>
      let items ← withScope scope (throughClauses evaluator (fun items => do
        return items.push (← evaluator.value element)) clauses (some first) #[])
      make (.set (← entriesFrom evaluator items.toList) false)
  | .table =>
      let place ← allocate (.table .empty)
      withScope scope (throughClauses evaluator (fun () => do
        let key ← evaluator.value element
        let item ← match value with
          | some value => evaluator.value value
          | none => pure .none
        putEntry evaluator place key item) clauses (some first) ())
      return .object place

def tableOfEntries (entries : List Entry) : Run Value := do
  let place ← allocate (.table .empty)
  for .entry key value in entries do
    match key with
    | some key =>
        let key ← evaluator.value key
        putEntry evaluator place key (← evaluator.value value)
    | none =>
        let more ← evaluator.value value
        if !(← hasKeys evaluator more) then
          failType ('\'' :: (← typeName more) ++ "' object is not a mapping".toList)
        updateTable evaluator place ⟨[more], []⟩
  return .object place

/-! Routines. -/

/-- The values that parameters have where calls give them none. -/
def usualValues (number : Nat) : Run (List (Text × Value)) := do
  let routine := (← get).routines.getD number default
  routine.parameters.filterMapM fun parameter => do
    match parameter.usual with
    | some term => return some (parameter.name, ← evaluator.value term)
    | none => return none

/-! All terms. -/

def evaluate (term : Term) : Run Value := do
  match term with
  | .literal value => return valueOfLiteral value
  | .name name => valueOfName name
  | .attribute object name => attributeOf evaluator (← evaluator.value object) name
  | .call line code arguments named => evaluateCall evaluator line code arguments named
  | .subscript object index =>
      let object ← evaluator.value object
      subscript evaluator object (← evaluator.value index)
  | .compute operation left right =>
      let left ← evaluator.value left
      compute evaluator operation left (← evaluator.value right)
  | .compare first rest => compareAll evaluator (← evaluator.value first) rest
  | .joined parts => return .text (← joinedText evaluator parts)
  | .shown term conversion format => return .text (← shownPart evaluator term conversion format)
  | .both left right =>
      let left ← evaluator.value left
      if ← truthOf evaluator left then evaluator.value right else return left
  | .either left right =>
      let left ← evaluator.value left
      if ← truthOf evaluator left then return left else evaluator.value right
  | .not term => return .bool !(← truthOf evaluator (← evaluator.value term))
  | .signed sign term => signed evaluator sign (← evaluator.value term)
  | .choose condition yes no =>
      if ← truthOf evaluator (← evaluator.value condition) then evaluator.value yes
      else evaluator.value no
  | .list items => makeList (← valuesOfTerms evaluator items)
  | .tuple items => return .tuple (← valuesOfTerms evaluator items)
  | .set items => make (.set (← entriesFrom evaluator (← valuesOfTerms evaluator items)) false)
  | .table entries => tableOfEntries evaluator entries
  | .slice first last step =>
      let part (term : Option Term) : Run Value := match term with
        | some term => evaluator.value term
        | none => return .none
      let first ← part first
      let last ← part last
      return .slice first last (← part step)
  | .routine number => makeRoutine number (← usualValues evaluator number)
  | .comprehension collecting element value clauses =>
      evaluateComprehension evaluator collecting element value clauses
  | .assigned name term =>
      let value ← evaluator.value term
      assignName name value
      return value
  | .starred _ => fail "SyntaxError" "can't use starred expression here"
  | .yields _ | .yieldsFrom _ =>
      fail "NotImplementedError" "'yield' inside of an expression is not known"

end ShaderCost.Script.Indented
