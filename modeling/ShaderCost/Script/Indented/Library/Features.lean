import ShaderCost.Script.Indented.Making

/-!
Calls of routines of the program: which parameters get which arguments, and the scope and the frame
that a call works in.
-/

namespace ShaderCost.Script.Indented

variable (evaluator : Evaluator)

/-! Parameters. -/

/-- Parameters that get values in order. -/
def placedParameters (parameters : List Parameter) : List Parameter :=
  parameters.filter fun parameter => parameter.passing = .plain || parameter.passing = .placed

def quotedNames (names : List Text) : Text :=
  let quoted := names.map fun name => '\'' :: name ++ ['\'']
  match quoted.reverse with
  | [] => []
  | [name] => name
  | [second, first] => first ++ " and ".toList ++ second
  | last :: before =>
      List.intercalate ", ".toList before.reverse ++ ", and ".toList ++ last

def missing {α : Type} (title kind : Text) (names : List Text) : Run α :=
  failType (title ++ "() missing ".toList ++ Text.ofNat names.length ++ " required ".toList ++
    kind ++
    " argument".toList ++ (if names.length = 1 then [] else ['s']) ++ ": ".toList ++
      quotedNames names)

/-- What is said of too many values. -/
def tooMany {α : Type} (title : Text) (placed : List Parameter) (usual : List (Text × Value))
    (count : Nat) (bound : Nat) : Run α :=
  let most := placed.length
  let least := (placed.filter fun parameter => (usual.lookup parameter.name).isNone).length
  let (range, isOne) : Text × Bool :=
    if least = most then (Text.ofNat most, most = 1)
    else ("from ".toList ++ Text.ofNat least ++ " to ".toList ++ Text.ofNat most, false)
  let extra : Text := if bound = 0 then [] else
    " positional argument".toList ++ (if count = 1 then [] else ['s']) ++
      " (and ".toList ++ Text.ofNat bound ++ " keyword-only argument".toList ++
      (if bound = 1 then [] else ['s']) ++ ")".toList
  failType (title ++ "() takes ".toList ++ range ++ " positional argument".toList ++
    (if isOne then [] else ['s']) ++ " but ".toList ++ Text.ofNat count ++ extra ++
    (if count = 1 && bound = 0 then " was given".toList else " were given".toList))

/-- The values that parameters get. -/
def bindParameters (title : Text) (parameters : List Parameter) (usual : List (Text × Value))
    (given : Given) : Run (Roster Value) := do
  let placed := placedParameters parameters
  let rest? := (parameters.find? fun parameter => parameter.passing = .rest).map Parameter.name
  let named? := (parameters.find? fun parameter =>
    parameter.passing = .restNamed).map Parameter.name
  let onlyNamed := parameters.filter fun parameter => parameter.passing = .named
  let count := given.values.length
  let mut names : Roster Value := .empty
  for (parameter, value) in placed.zip given.values do
    names := names.insert parameter.name value
  match rest? with
  | some name => names := names.insert name (.tuple (given.values.drop placed.length))
  | none =>
      if placed.length < count then
        let bound := (onlyNamed.filter fun parameter => (given.named? parameter.name).isSome).length
        tooMany title placed usual count bound
  let mut others : List (Text × Value) := []
  for (name, value) in given.named do
    let isKnown := parameters.any fun parameter => parameter.name = name &&
      (parameter.passing = .plain || parameter.passing = .named)
    if isKnown then
      if names.has name then
        failType (title ++ "() got multiple values for argument '".toList ++ name ++ ['\''])
      names := names.insert name value
    else if named?.isSome then others := (name, value) :: others
    else
      failType (title ++ "() got an unexpected keyword argument '".toList ++ name ++ ['\''])
  let mut lackingPlaced : List Text := []
  let mut lackingNamed : List Text := []
  for parameter in parameters do
    if !names.has parameter.name then
      match parameter.passing with
      | .rest | .restNamed => pure ()
      | passing =>
          match usual.lookup parameter.name with
          | some value => names := names.insert parameter.name value
          | none =>
              if passing = .named then lackingNamed := lackingNamed ++ [parameter.name]
              else lackingPlaced := lackingPlaced ++ [parameter.name]
  if !lackingPlaced.isEmpty then missing title "positional" lackingPlaced
  if !lackingNamed.isEmpty then missing title "keyword-only" lackingNamed
  match named? with
  | some name =>
      let table ← make (.table (.ofEntries (others.reverse.map fun (name, value) =>
        ('s' :: name, (.text name, value)))))
      return names.insert name table
  | none => return names

/-! Calls. -/

/-- How much a call costs. -/
def callEffort : Nat := 3

/-- Calls a routine of the program. -/
def callRoutine (code : Code) (given : Given) : Run Value := do
  liftM (n := Run) (spend callEffort)
  let routine := (← get).routines.getD code.routine default
  let names ← bindParameters routine.fullName routine.parameters code.usual given
  let scope ← allocate (.scope ⟨names, .routine, routine.own, [], [], some code.scope⟩)
  let first := given.values.head?
  if routine.isSeries then
    make (.series {
      tasks := [.block routine.body], scope, name := routine.fullName, path := code.path
      owner := code.owner, first, line := routine.line, isBegun := false, isRunning := false })
  else
    withFrame ⟨routine.name, code.path, routine.line, scope, code.owner, first⟩
      (evaluator.perform [.block routine.body])

/-- A routine with what is around it here. -/
def makeRoutine (number : Nat) (usual : List (Text × Value)) : Run Value := do
  let routine := (← get).routines.getD number default
  let frame ← presentFrame
  make (.code {
    routine := number, name := routine.name, path := frame.path, scope := frame.scope, usual
    owner := none, attributes := .empty })

/-- The present value as a member of the types behind its own. -/
def makeAbove (given : Given) : Run Value := do
  match given.values with
  | type :: object :: _ => make (.above type object)
  | [_] => failType "super(): unsupported use"
  | [] =>
      match (← get).frames.find? fun frame => frame.owner.isSome with
      | some { owner := some owner, first := some first, .. } => make (.above (.object owner) first)
      | _ => fail "RuntimeError" "super(): no arguments"

def notCallable {α : Type} (value : Value) : Run α := do
  failType ('\'' :: (← typeName value) ++ "' object is not callable".toList)

/-- Calls what lies at a place. -/
def callContentAt (place : Nat) (given : Given) : Run Value := do
  match ← contentAt place with
  | .code code => callRoutine evaluator code given
  | .kind _ => makeMember evaluator (.object place) given
  | .still code _ => evaluator.call code given.values given.named
  | .member _ _ _ | .fault _ =>
      match ← ownMember? (.object place) "__call__" with
      | some code => evaluator.call code (.object place :: given.values) given.named
      | none => notCallable (.object place)
  | _ => notCallable (.object place)

end ShaderCost.Script.Indented

/-!
Routines that every program has: on numbers and texts, on what comes one after the other, on
attributes, and on what is printed and read.
-/

namespace ShaderCost.Script.Indented

variable (evaluator : Evaluator)

/-! Numbers. -/

/-- A number rounded to so many places. -/
def roundedTo (places : Int) (value : Float) : Float :=
  match ratio? value with
  | none => value
  | some (numerator, denominator) =>
      let magnitude := Binary64.roundQuotient (numerator.natAbs * tenTo places.toNat)
        (denominator * tenTo (-places).toNat)
      let result := Binary64.ofRatio (isRealNegative value) (magnitude * tenTo (-places).toNat)
        (tenTo places.toNat)
      decode result

/-- A whole number rounded to a power of ten. -/
def roundedWhole (places : Nat) (value : Int) : Int :=
  let unit := tenTo places
  let magnitude : Int := Binary64.roundQuotient value.natAbs unit * unit
  if value < 0 then -magnitude else magnitude

def ofNumbers (name : Text) (given : Given) : Run (Option Value) := do
  let spelled (base : Nat) (mark : Text) : Run (Option Value) := do
    return some (.text (inBase base mark (← wholeOr evaluator 0 (given.at? 0 "number"))))
  match String.ofList name with
  | "abs" =>
      let value ← given.first name
      match ← coreOf value with
      | .real number => return some (.real number.abs)
      | core =>
          match core.whole?, ← callOwn? evaluator value "__abs__" [] with
          | some number, none => return some (.whole number.natAbs)
          | _, some answer => return some answer
          | none, none =>
              failType ("bad operand type for abs(): '".toList ++ (← typeName value) ++ ['\''])
  | "hex" => spelled 16 "0x"
  | "oct" => spelled 8 "0o"
  | "bin" => spelled 2 "0b"
  | "chr" =>
      let code ← wholeOr evaluator 0 (given.at? 0 "i")
      if code < 0 || 1114111 < code then failValue "chr() arg not in range(0x110000)"
      return some (.text [charOfCode code.toNat])
  | "ord" =>
      let value ← given.first name
      match value with
      | .text [c] | .octets [c] => return some (.ofNat (codeOfChar c))
      | .text text | .octets text =>
          failType ("ord() expected a character, but string of length ".toList ++
            Text.ofNat text.length ++ " found".toList)
      | value =>
          failType ("ord() expected string of length 1, but ".toList ++ (← typeName value) ++
            " found".toList)
  | "round" =>
      let value ← given.first name
      match ← coreOf value, given.some? 1 "ndigits" with
      | .real number, none =>
          if number.isNaN then failValue "cannot convert float NaN to integer"
          if number.isInf then fail "OverflowError" "cannot convert float infinity to integer"
          return some (.whole (rounded number))
      | .real number, some places =>
          return some (.real (roundedTo (← wholeOr evaluator 0 (some places)) number))
      | core, places =>
          match core.whole?, ← callOwn? evaluator value "__round__" (given.values.drop 1) with
          | some number, _ =>
              let places ← wholeOr evaluator 0 places
              return some (.whole (if places < 0 then roundedWhole (-places).toNat number
                else number))
          | none, some answer => return some answer
          | none, none =>
              failType ("type ".toList ++ (← typeName value) ++
                " doesn't define __round__ method".toList)
  | "divmod" =>
      let left ← given.first name
      let right := given.get 1 "y" .none
      let quotient ← compute evaluator .divideWhole left right
      return some (.tuple [quotient, ← compute evaluator .remainder left right])
  | "pow" =>
      let base ← given.first name
      let exponent := given.get 1 "exp" .none
      match given.some? 2 "mod", base.whole?, exponent.whole? with
      | some modulus, some base, some exponent =>
          let modulus ← wholeOr evaluator 1 (some modulus)
          if modulus = 0 then failValue "pow() 3rd argument cannot be 0"
          return some (.whole (powerModulo base exponent.toNat modulus))
      | _, _, _ => return some (← compute evaluator .power base exponent)
  | "hash" => return some (.whole (← hashOf evaluator (← given.first name)))
  | "id" =>
      match ← given.first name with
      | .object place => return some (.ofNat (addressOf place))
      | value => return some (.whole (((← hashOf evaluator value) % 100000) * 32 + 140000000000000))
  | _ => return none

/-! Values one after the other. -/

/-- The foremost of some values by their keys. -/
def foremost (isBefore : Value → Value → Run Bool) : (best : Value × Value) →
    List (Value × Value) → Run Value
  | best, [] => return best.2
  | best, pair :: rest => do
      if ← isBefore pair.1 best.1 then foremost isBefore pair rest
      else foremost isBefore best rest

def extremeOf (name : Text) (given : Given) : Run Value := do
  let values ← match given.values with
    | [value] => valuesOf evaluator value
    | [] => failType (name ++ " expected at least 1 argument, got 0".toList)
    | values => pure values
  let keys ← match given.named? "key" with
    | none | some .none => pure values
    | some code => values.mapM fun value => evaluator.call code [value] []
  let isBefore (left right : Value) : Run Bool :=
    if name = "min" then comesBefore evaluator left right
    else compareOrder evaluator comparisonLimit .greater left right
  match keys.zip values with
  | first :: rest => foremost isBefore first rest
  | [] =>
      match given.named? "default" with
      | some usual => return usual
      | none => failValue (name ++ "() iterable argument is empty".toList)

/-- Whether a value with a wanted truth comes up. -/
def findTruth (wanted : Bool) (iterator : Value) : (fuel : Nat) → Run Bool
  | 0 => return false
  | fuel + 1 => do
      match ← evaluator.next iterator with
      | none => return false
      | some value =>
          if (← truthOf evaluator value) == wanted then return true
          else findTruth wanted iterator fuel

def ofSeries (name : Text) (given : Given) : Run (Option Value) := do
  match String.ofList name with
  | "len" =>
      let value ← given.first name
      match ← callOwn? evaluator value "__len__" [] with
      | some answer => return some answer
      | none =>
          match ← sizeOf? (← coreOf value) with
          | some size => return some (.ofNat size)
          | none =>
              match value with
              | .object place =>
                  match ← contentAt place with
                  | .kind _ =>
                      if (← attribute? evaluator value "__values__").isSome then
                        return some (.ofNat (← valuesOf evaluator value).length)
                      else failType "object of type 'type' has no len()"
                  | _ => failType ("object of type '".toList ++ (← typeName value) ++
                      "' has no len()".toList)
              | _ => failType ("object of type '".toList ++ (← typeName value) ++
                  "' has no len()".toList)
  | "min" | "max" => return some (← extremeOf evaluator name given)
  | "sum" =>
      let values ← valuesOf evaluator (← given.first name)
      let start := given.get 1 "start" (.whole 0)
      match start with
      | .text _ => failType "sum() can't sum strings [use ''.join(seq) instead]"
      | _ => pure ()
      return some (← values.foldlM (fun total value => compute evaluator .add total value) start)
  | "sorted" =>
      let values ← valuesOf evaluator (← given.first name)
      return some (← makeList (← sorted evaluator values { given with values := [] }))
  | "any" =>
      let iterator ← iterate evaluator (← given.first name)
      return some (.bool (← findTruth evaluator true iterator evaluator.limit))
  | "all" =>
      let iterator ← iterate evaluator (← given.first name)
      return some (.bool !(← findTruth evaluator false iterator evaluator.limit))
  | "iter" =>
      match given.values with
      | code :: last :: _ => return some (← make (.iterator (.called code last)))
      | _ => return some (← iterate evaluator (← given.first name))
  | "next" =>
      let source ← given.first name
      match given.values with
      | _ :: usual :: _ => return some ((← evaluator.next source).getD usual)
      | _ => nextOrRaise source
  | _ => return none
where
  /-- The next value, or what the source itself raises where it has none. -/
  nextOrRaise (source : Value) : Run (Option Value) := do
    match source with
    | .object place =>
        match ← contentAt place with
        | .series _ => return ← callSeries evaluator place "__next__" ⟨[], []⟩
        | .member _ _ _ =>
            match ← callOwn? evaluator source "__next__" [] with
            | some value => return some value
            | none => pure ()
        | _ => pure ()
    | _ => pure ()
    match ← evaluator.next source with
    | some value => return some value
    | none => raiseWith "StopIteration" []

/-! Texts and attributes. -/

/-- The types that a value stands for in a question. -/
def typesIn : (fuel : Nat) → Value → List Value
  | 0, value => [value]
  | fuel + 1, .tuple values => values.flatMap (typesIn fuel)
  | _ + 1, .none => [.type "NoneType"]
  | _ + 1, value => [value]

def nameArgument (given : Given) (place : Nat) : Run Text := do
  match given.values[place]? with
  | some (.text name) => return name
  | some value =>
      failType ("attribute name must be string, not '".toList ++ (← typeName value) ++ ['\''])
  | none => failType "getattr expected at least 2 arguments, got 1"

def isCallable (value : Value) : Run Bool := do
  match value with
  | .type _ | .feature _ | .method _ _ | .bound _ _ => return true
  | .object place =>
      match ← contentAt place with
      | .code _ | .kind _ | .still _ _ => return true
      | .member _ _ _ => return (← ownMember? value "__call__").isSome
      | _ => return false
  | _ => return false

/-- The names that a value has something under. -/
def namesOf (value : Value) : Run (List Text) := do
  let ofType (type : Value) : Run (List Text) := do
    let parts ← (← orderOf type).mapM fun entry => do
      match entry with
      | .type name => return methodsOf name
      | entry => return ((← kindAt? entry).map fun kind => kind.members.keys).getD []
    return parts.flatten
  let names ← match value with
    | .object place => do
        match ← contentAt place with
        | .module _ scope => pure (← scopeAt scope).names.keys
        | .kind _ => ofType value
        | .member type attributes _ => pure (attributes.keys ++ (← ofType type))
        | content => ofType (typeOfContent content)
    | .type name => ofType (.type name)
    | value => ofType (← typeOf value)
  return names.eraseDups.mergeSort Text.atMost

def ofAttributes (name : Text) (given : Given) : Run (Option Value) := do
  match String.ofList name with
  | "isinstance" =>
      let value ← given.first name
      let types := typesIn 8 (given.get 1 "class_or_tuple" .none)
      for type in types do
        if !(← isType type) then
          failType "isinstance() arg 2 must be a type, a tuple of types, or a union"
        if ← isInstance value type then return some (.bool true)
      return some (.bool false)
  | "issubclass" =>
      let type ← given.first name
      if !(← isType type) then failType "issubclass() arg 1 must be a class"
      for above in typesIn 8 (given.get 1 "class_or_tuple" .none) do
        if ← isSubtype type above then return some (.bool true)
      return some (.bool false)
  | "hasattr" =>
      return some (.bool (← hasAttribute evaluator (← given.first name) (← nameArgument given 1)))
  | "getattr" =>
      let object ← given.first name
      let title ← nameArgument given 1
      match given.values with
      | [_, _] => return some (← attributeOf evaluator object title)
      | _ :: _ :: usual :: _ =>
          match ← unlessRaised "AttributeError" (attributeOf evaluator object title) with
          | some value => return some value
          | none => return some usual
      | _ => return none
  | "setattr" =>
      setAttribute evaluator (← given.first name) (← nameArgument given 1)
        (given.get 2 "value" .none)
      return some .none
  | "delattr" =>
      deleteAttribute evaluator (← given.first name) (← nameArgument given 1)
      return some .none
  | "callable" => return some (.bool (← isCallable (← given.first name)))
  | "repr" => return some (.text (← written evaluator (← given.first name)))
  | "ascii" => return some (.text (plainlyWritten (← written evaluator (← given.first name))))
  | "format" =>
      let format ← match given.at? 1 "format_spec" with
        | some value => textIn false value
        | none => pure []
      return some (.text (← formatted evaluator (← given.first name) format))
  | "dir" =>
      match given.values with
      | value :: _ => return some (← makeList (Value.ofTexts (← namesOf value)))
      | [] =>
          let names := (← scopeAt (← presentScope)).names.keys
          return some (← makeList (Value.ofTexts (names.mergeSort Text.atMost)))
  | "vars" =>
      match given.values with
      | value :: _ => return some (← attributeOf evaluator value "__dict__")
      | [] => return some (.object (← presentScope))
  | "globals" => return some (.object (← presentModule))
  | "locals" => return some (.object (← presentScope))
  | "super" => return some (← makeAbove given)
  | _ => return none

/-! Files in memory. -/

def memoryFile (isText : Bool) (content : Text) : Run Value :=
  make (.handle {
    name := .none, mode := if isText then "r+" else "rb+", isText, way := .memory content 0
    mayRead := true, mayWrite := true })

/-- Routines that make files. -/
def ofStreams (name : Text) (given : Given) : Run (Option Value) := do
  match String.ofList name with
  | "StringIO" =>
      let content ← match given.some? 0 "initial_value" with
        | some value => textIn false value
        | none => pure []
      return some (← memoryFile true content)
  | "BytesIO" =>
      let content ← match given.some? 0 "initial_bytes" with
        | some value => textIn true value
        | none => pure []
      return some (← memoryFile false content)
  | "TextIOWrapper" =>
      let below ← given.first name
      let text (place : Nat) (name usual : Text) : Run Text := do
        match given.some? place name with
        | some value => textIn false value
        | none => return usual
      let ending ← match given.some? 3 "newline" with
        | some value => some <$> textIn false value
        | none => pure none
      let endsLines := ((given.some? 4 "line_buffering").map Value.isTrue).getD false
      match below with
      | .object place =>
          return some (.object (← makeSheet place (← text 1 "encoding" "utf-8")
            (← text 2 "errors" "strict") ending endsLines))
      | value => lacks value "readable"
  | _ => return none

/-! Printing and reading. -/

/-- A value that the system part of the library holds under a name. -/
def systemValue (name : Text) : Run Value := do
  match ← contentAt placeOfSystem with
  | .scope scope => return (scope.names.get? name).getD .none
  | _ => return .none

/-- Puts a text out to a value that is used like a file. -/
def putTo (file : Value) (text : Text) : Run Unit := do
  let byRoutine : Run Unit := do
    let code ← attributeOf evaluator file "write"
    let _ ← evaluator.call code [.text text] []
  match file with
  | .none => pure ()
  | .object place =>
      match ← contentAt place with
      | .sheet _ => putText place text
      | .handle { isText := true, .. } => putOctets place text
      | _ => byRoutine
  | _ => byRoutine

def printed (given : Given) : Run Unit := do
  let part (name usual : Text) : Run Text := do
    match given.named? name with
    | none | some .none => return usual
    | some (.text text) => return text
    | some value =>
        failType (name ++ " must be None or a string, not ".toList ++ (← typeName value))
  let joint ← part "sep" " "
  let ending ← part "end" "\n"
  let file ← match given.named? "file" with
    | none | some .none => systemValue "stdout"
    | some file => pure file
  let texts ← given.values.mapM (shown evaluator)
  putTo evaluator file (List.intercalate joint texts ++ ending)
  if ((given.named? "flush").map Value.isTrue).getD false then
    match file with
    | .none => pure ()
    | file =>
        let _ ← evaluator.call (← attributeOf evaluator file "flush") [] []

/-- Opens a file as the arguments of a call say. -/
def opened (given : Given) : Run Value := do
  let file ← given.first "open"
  let file ← match file with
    | .object _ => do
        match ← callOwn? evaluator file "__fspath__" [] with
        | some path => pure path
        | none => coreOf file
    | file => pure file
  let text (place : Nat) (name usual : Text) : Run Text := do
    match given.some? place name with
    | some value => textIn false value
    | none => return usual
  let ending ← match given.some? 5 "newline" with
    | some value => some <$> textIn false value
    | none => pure none
  let usage : Usage := {
    mode := ← text 1 "mode" "r"
    buffering := ← wholeOr evaluator (-1) (given.some? 2 "buffering")
    encoding := ← text 3 "encoding" "UTF-8"
    errors := ← text 4 "errors" "strict"
    ending }
  return .object (← openFile file usage)

def ofPrinting (name : Text) (given : Given) : Run (Option Value) := do
  match String.ofList name with
  | "print" =>
      printed evaluator given
      return some .none
  | "open" => return some (← opened evaluator given)
  | "input" =>
      match given.values with
      | prompt :: _ => putTo evaluator (← systemValue "stdout") (← shown evaluator prompt)
      | [] => pure ()
      let input ← systemValue "stdin"
      let line ← match input with
        | .object place => do
            match ← contentAt place with
            | .sheet _ => takeText place lineOf
            | _ => pure []
        | _ => pure []
      if line.isEmpty then fail "EOFError" "EOF when reading a line"
      return some (.text (if line.getLast? = some '\n' then line.dropLast else line))
  | "exit" | "quit" => raiseWith "SystemExit" (given.values.take 1)
  | _ => return none

/-- The names of all of these. -/
def commonFeatures : List Text := [
  "abs", "hex", "oct", "bin", "chr", "ord", "round", "divmod", "pow", "hash", "id", "len", "min",
  "max", "sum", "sorted", "any", "all", "iter", "next", "isinstance", "issubclass", "hasattr",
  "getattr", "setattr", "delattr", "callable", "repr", "ascii", "format"]

def furtherCommonFeatures : List Text := [
  "dir", "vars", "globals", "locals", "print", "open", "input", "exit", "quit", "eval", "exec",
  "__import__", "compile"]

/-- Calls a routine that every program has. -/
def callCommon (name : Text) (given : Given) : Run (Option Value) := do
  match ← ofNumbers evaluator name given with
  | some value => return some value
  | none =>
      match ← ofSeries evaluator name given with
      | some value => return some value
      | none =>
          match ← ofAttributes evaluator name given with
          | some value => return some value
          | none => ofPrinting evaluator name given

end ShaderCost.Script.Indented
