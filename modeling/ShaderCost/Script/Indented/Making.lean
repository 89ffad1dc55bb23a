import ShaderCost.Script.Indented.Methods.Values

/-!
Values made by their types: numbers and texts of others, containers of what comes one after the
other, and faults.
-/

namespace ShaderCost.Script.Indented

variable (evaluator : Evaluator)

/-! Numbers. -/

def wholeOfReal (value : Float) : Run Int := do
  if value.isNaN then failValue "cannot convert float NaN to integer"
  if value.isInf then fail "OverflowError" "cannot convert float infinity to integer"
  return truncated value

/-- A whole number of another value. -/
def makeWhole (given : Given) : Run Value := do
  let problem (base : Int) (value : Value) : Run Value := do
    failValue ("invalid literal for int() with base ".toList ++ Text.ofInt base ++ ": ".toList ++
      (← written evaluator value))
  match given.values, given.at? 1 "base" with
  | [], _ => return .whole 0
  | value :: _, some base =>
      let base ← wholeOr evaluator 10 (some base)
      match ← coreOf value with
      | .text text | .octets text =>
          match wholeOf? base.toNat text with
          | some number => return .whole number
          | none => problem base value
      | _ => failType "int() can't convert non-string with explicit base"
  | value :: _, none =>
      match ← coreOf value with
      | .text text | .octets text =>
          match wholeOf? 10 text with
          | some number => return .whole number
          | none => problem 10 value
      | .real number => return .whole (← wholeOfReal number)
      | core =>
          match core.whole? with
          | some number => return .whole number
          | none =>
              let plain ← callOwn? evaluator value "__int__" []
              let index ← callOwn? evaluator value "__index__" []
              match plain, index with
              | some answer, _ | none, some answer => return answer
              | none, none =>
                  failType (("int() argument must be a string, a bytes-like object or a real " ++
                    "number, not '").toList ++ (← typeName value) ++ ['\''])

def makeReal (given : Given) : Run Value := do
  match given.values with
  | [] => return .real 0
  | value :: _ =>
      match ← coreOf value with
      | .text text | .octets text =>
          match realOf? text with
          | some number => return .real number
          | none =>
              failValue ("could not convert string to float: ".toList ++
                (← written evaluator value))
      | .real number => return .real number
      | core =>
          match core.whole? with
          | some number => return .real (realOf number)
          | none =>
              match ← callOwn? evaluator value "__float__" [] with
              | some answer => return answer
              | none =>
                  failType ("float() argument must be a string or a real number, not '".toList ++
                    (← typeName value) ++ ['\''])

/-! Texts. -/

def makeText (given : Given) : Run Value := do
  match given.at? 0 "object", given.at? 1 "encoding", given.at? 2 "errors" with
  | none, _, _ => return .text []
  | some value, none, none => return .text (← shown evaluator value)
  | some value, encoding, errors =>
      let encoding ← textIn false (encoding.getD (.text "utf-8"))
      let errors ← textIn false (errors.getD (.text "strict"))
      return .text (← decodeOctets encoding errors (← textIn true value))

/-- The octets of a value that is a text, a number of zeros, or several numbers. -/
def octetsFrom (given : Given) : Run Text := do
  match given.at? 0 "source" with
  | none => return []
  | some value =>
      match ← coreOf value with
      | .octets octets => return octets
      | .text text =>
          match given.at? 1 "encoding" with
          | some encoding =>
              let errors ← textIn false (given.get 2 "errors" (.text "strict"))
              encodeText (← textIn false encoding) errors text
          | none => failType "string argument without an encoding"
      | core =>
          match core.whole? with
          | some count =>
              if count < 0 then failValue "negative count"
              return List.replicate count.toNat '\x00'
          | none =>
              match ← callOwn? evaluator value "__bytes__" [] with
              | some (.octets octets) => return octets
              | _ =>
                  (← valuesOf evaluator value).mapM fun value => do
                    match value.whole? with
                    | some code =>
                        if code < 0 || 255 < code then
                          failValue "bytes must be in range(0, 256)"
                        return Char.ofNat code.toNat
                    | none =>
                        failType ('\'' :: (← typeName value) ++
                          "' object cannot be interpreted as an integer".toList)

/-! Containers. -/

def makeTable (given : Given) : Run Value := do
  if 1 < given.values.length then
    failType ("dict expected at most 1 argument, got ".toList ++ Text.ofNat given.values.length)
  let place ← allocate (.table .empty)
  updateTable evaluator place given
  return .object place

def makeRange (given : Given) : Run Value := do
  let numbers ← given.values.mapM fun value => wholeOr evaluator 0 (some value)
  match numbers with
  | [stop] => make (.range 0 stop 1)
  | [start, stop] => make (.range start stop 1)
  | [start, stop, step] =>
      if step = 0 then failValue "range() arg 3 must not be zero"
      make (.range start stop step)
  | [] => failType "range expected at least 1 argument, got 0"
  | numbers => failType ("range expected at most 3 arguments, got ".toList ++
      Text.ofNat numbers.length)

/-- The values of an argument that may be missing. -/
def firstValues (given : Given) : Run (List Value) := do
  match given.values with
  | [] => return []
  | value :: _ => valuesOf evaluator value

/-- The values of a sequence from the last one on. -/
def makeReversed (given : Given) : Run Value := do
  let value ← given.first "reversed"
  match ← callOwn? evaluator value "__reversed__" [] with
  | some answer => return answer
  | none =>
      let values ← valuesOf evaluator value
      make (.iterator (.items values.reverse))

/-! Faults. -/

/-- A fault of a type with the arguments of a call. -/
def makeFaultOf (type : Value) (given : Given) : Run Value := do
  let changed : Value ← match type, given.values with
    | .type name, .whole number :: _ :: _ =>
        pure (if name = "OSError" then .type (systemFaultType number) else type)
    | _, _ => pure type
  let isOfSystem ← isSubtype changed (.type "OSError")
  let arguments := if isOfSystem && 2 < given.values.length then given.values.take 2
    else given.values
  let place ← makeFault changed arguments
  match given.values with
  | _ :: _ :: file :: _ =>
      if isOfSystem then plainlySet (.object place) "filename" file
  | _ => pure ()
  for (name, value) in given.named do plainlySet (.object place) name value
  return .object place

/-! Types. -/

/-- The members that a table tells. -/
def membersOf (table : Value) : Run (Roster Value) := do
  match ← coreOf table with
  | .object place =>
      match ← readableAt place with
      | .table entries =>
          return .ofEntries (entries.values.filterMap fun (key, value) =>
            key.text?.map fun name => (name, value))
      | _ => return .empty
  | _ => return .empty

/-- Tells routines which type they are members of. -/
def claimRoutines (type : Nat) (members : Roster Value) : Run Unit := do
  let claim (value : Value) : Run Unit := do
    match value with
    | .object place =>
        onContent place fun content => match content with
          | .code code => ((), .code { code with owner := code.owner.or (some type) })
          | content => ((), content)
    | _ => pure ()
  for (_, value) in members.entries do
    claim value
    match value with
    | .object place =>
        match ← contentAt place with
        | .still code _ => claim code
        | .property read write delete =>
            claim read
            claim write
            claim delete
        | _ => pure ()
    | _ => pure ()

/-- The members of a type, with those that are always about the type itself marked so. -/
def ofTypeItself (members : Roster Value) : Run (Roster Value) := do
  let mut members := members
  for name in (["__init_subclass__", "__class_getitem__"] : List Text) do
    match members.get? name with
    | some (.object place) =>
        match ← contentAt place with
        | .code _ => members := members.insert name (← make (.still (.object place) true))
        | _ => pure ()
    | _ => pure ()
  return members

/-- Makes a type of the program and tells the types that it comes from. -/
def makeType (name fullName module : Text) (bases : List Value) (members : Roster Value)
    (named : List (Text × Value)) : Run Value := do
  let members ← ofTypeItself members
  let type ← makeKind name fullName module bases members
  match type with
  | .object place => claimRoutines place members
  | _ => pure ()
  for (title, value) in members.entries do
    match ← callOwn? evaluator value "__set_name__" [type, .text title] with
    | some _ => pure ()
    | none => pure ()
  let order ← orderOf type
  match ← memberIn? "__init_subclass__" (order.drop 1) with
  | some (.object place) =>
      let code ← match ← contentAt place with
        | .still code _ => pure code
        | _ => pure (.object place)
      let _ ← evaluator.call code [type] named
  | _ => pure ()
  return type

/-- A value made by a type of the library. -/
def makeOf (name : Text) (given : Given) : Run Value := do
  match String.ofList name with
  | "object" => make (.member (.type "object") .empty .none)
  | "int" => makeWhole evaluator given
  | "bool" =>
      match given.values with
      | [] => return .bool false
      | value :: _ => return .bool (← truthOf evaluator value)
  | "float" => makeReal evaluator given
  | "str" => makeText evaluator given
  | "bytes" | "memoryview" => return .octets (← octetsFrom evaluator given)
  | "bytearray" => make (.buffer (← octetsFrom evaluator given))
  | "list" => makeList (← firstValues evaluator given)
  | "tuple" => return .tuple (← firstValues evaluator given)
  | "dict" => makeTable evaluator given
  | "set" => make (.set (← entriesFrom evaluator (← firstValues evaluator given)) false)
  | "frozenset" => make (.set (← entriesFrom evaluator (← firstValues evaluator given)) true)
  | "range" => makeRange evaluator given
  | "slice" =>
      match given.values with
      | [last] => return .slice .none last .none
      | [first, last] => return .slice first last .none
      | first :: last :: step :: _ => return .slice first last step
      | [] => failType "slice expected at least 1 argument, got 0"
  | "type" =>
      match given.values with
      | [value] => typeOf value
      | [.text name, .tuple bases, table] =>
          makeType evaluator name name "__main__" bases (← membersOf table) given.named
      | _ => failType "type() takes 1 or 3 arguments"
  | "property" =>
      make (.property (given.get 0 "fget" .none) (given.get 1 "fset" .none)
        (given.get 2 "fdel" .none))
  | "staticmethod" => make (.still (← given.first name) false)
  | "classmethod" => make (.still (← given.first name) true)
  | "map" =>
      match given.values with
      | code :: sources =>
          make (.iterator (.mapped code (← sources.mapM (iterate evaluator))))
      | [] => failType "map() must have at least two arguments."
  | "filter" =>
      make (.iterator (.chosen (← given.first name)
        (← iterate evaluator (given.get 1 "iterable" .none))))
  | "zip" =>
      let isStrict := ((given.named? "strict").map Value.isTrue).getD false
      make (.iterator (.joined (← given.values.mapM (iterate evaluator)) isStrict))
  | "enumerate" =>
      let start ← wholeOr evaluator 0 (given.at? 1 "start")
      make (.iterator (.numbered start (← iterate evaluator (← given.first name))))
  | "reversed" => makeReversed evaluator given
  | _ =>
      if isFaultType name then makeFaultOf (.type name) given
      else failType ("cannot create '".toList ++ name ++ "' instances".toList)

/-! Members of types of the program. -/

/-- A member of a type before anything is said about it. -/
def bareMember (type : Value) (given : Given) : Run Value := do
  match ← libraryBase? type with
  | none => make (.member type .empty .none)
  | some base =>
      if isFaultType base then
        return .object (← makeFault type given.values)
      else
        let core ← match String.ofList base with
          | "dict" | "list" | "set" | "bytearray" => makeOf evaluator base ⟨[], []⟩
          | "type" => pure .none
          | _ => makeOf evaluator base given
        make (.member type .empty core)

/-- Makes a member of a type of the program. -/
def makeMember (type : Value) (given : Given) : Run Value := do
  let own (name : Text) : Run (Option Value) := do
    let order := (← orderOf type).filter fun entry => match entry with
      | .type _ => false
      | _ => true
    memberIn? name order
  let maker ← own "__new__"
  let object ← match maker with
    | some (.object place) => do
        let code ← match ← contentAt place with
          | .still code _ => pure code
          | _ => pure (.object place)
        evaluator.call code (type :: given.values) given.named
    | _ => bareMember evaluator type given
  if !(← isInstance object type) then return object
  match ← own "__init__" with
  | some code =>
      let result ← evaluator.call code (object :: given.values) given.named
      match result with
      | .none => pure ()
      | other => failType ("__init__() should return None, not '".toList ++ (← typeName other) ++
          ['\''])
  | none =>
      match ← libraryBase? type with
      | none =>
          if maker.isNone && !(given.values.isEmpty && given.named.isEmpty) then
            failType ((← nameOfType type) ++ "() takes no arguments".toList)
      | some base =>
          if !isFaultType base && maker.isNone then fillCore evaluator (← coreOf object) given
          else pure ()
  return object

end ShaderCost.Script.Indented
