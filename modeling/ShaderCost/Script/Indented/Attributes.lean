import ShaderCost.Script.Indented.Comparing

/-!
What a value has under a name: attributes of its own, and members of its type, which are made its
own where they are found.
-/

namespace ShaderCost.Script.Indented

variable (evaluator : Evaluator)

/-- The name of a routine that members of a type of the library have. -/
def methodName? (feature : Text) : Option Text :=
  let method := lastPart feature
  let type := feature.take (feature.length - method.length - 1)
  if (methodsOf type).elem method then some method else none

/-- Whether a member of a type decides what its members have, whatever they have themselves. -/
def isDeciding (value : Value) : Run Bool := do
  match value with
  | .object place =>
      match ← contentAt place with
      | .property _ _ _ => return true
      | _ => return (← ownMember? value "__set__").isSome
  | _ => return false

/-- A member of a type as a value of that type has it. -/
def bindMember (object type member : Value) : Run Value := do
  match member with
  | .object place =>
      match ← contentAt place with
      | .code _ => return .bound member object
      | .still code false => return code
      | .still code true => return .bound code type
      | .property .none _ _ => fail "AttributeError" "unreadable attribute"
      | .property read _ _ => evaluator.call read [object] []
      | .member _ _ _ =>
          return (← callOwn? evaluator member "__get__" [object, type]).getD member
      | _ => return member
  | .feature name =>
      return match methodName? name with
        | some method => .method object method
        | none => member
  | member => return member

/-- A table of names. -/
def tableOfNames (names : Roster Value) : Run Value :=
  make (.table (.ofEntries (names.entries.map fun (name, value) =>
    ('s' :: name, (.text name, value)))))

/-- What a type has. -/
def typeAttribute? (type : Value) (name : Text) : Run (Option Value) := do
  match String.ofList name with
  | "__name__" => return some (.text (← nameOfType type))
  | "__qualname__" =>
      let kind ← kindAt? type
      return some (.text ((kind.map Kind.fullName).getD (← nameOfType type)))
  | "__mro__" => return some (.tuple (← orderOf type))
  | "__class__" => return some (.type "type")
  | "__dict__" =>
      match ← kindAt? type with
      | some kind => return some (← tableOfNames kind.members)
      | none => return none
  | "__bases__" =>
      match ← kindAt? type with
      | some kind => return some (.tuple kind.bases)
      | none => return some (.tuple [])
  | _ =>
      match ← memberOf? type name with
      | some (.object place) =>
          match ← contentAt place with
          | .still code false => return some code
          | .still code true => return some (.bound code type)
          | .member _ _ _ =>
              return some ((← callOwn? evaluator (.object place) "__get__" [.none, type]).getD
                (.object place))
          | _ => return some (.object place)
      | some value => return some value
      | none =>
          match String.ofList name with
          | "__module__" =>
              return some (.text (((← kindAt? type).map Kind.module).getD "builtins"))
          | "__doc__" => return some .none
          | "mro" => return some (.method type "mro")
          | _ => return none

/-- What a fault has beside the members of its type. -/
def faultAttribute? (fault : Fault) (name : Text) : Run (Option Value) := do
  match fault.attributes.get? name with
  | some value => return some value
  | none =>
      let first := fault.arguments.headD .none
      let isOf (type : Text) : Run Bool := isSubtype fault.type (.type type)
      match String.ofList name with
      | "args" => return some (.tuple fault.arguments)
      | "__cause__" => return some (fault.cause.getD .none)
      | "__context__" => return some (fault.context.getD .none)
      | "__suppress_context__" => return some (.bool fault.hidesContext)
      | "__traceback__" => return some .none
      | "code" =>
          if ← isOf "SystemExit" then
            return some (match fault.arguments with
              | [] => .none
              | [value] => value
              | values => .tuple values)
          else return none
      | "value" => if ← isOf "StopIteration" then return some first else return none
      | "errno" | "strerror" | "filename" | "filename2" =>
          if !(← isOf "OSError") then return none
          else if name = "errno" && 1 < fault.arguments.length then return some first
          else if name = "strerror" && 1 < fault.arguments.length then
            return some (fault.arguments.getD 1 .none)
          else return some .none
      | "encoding" | "object" | "start" | "end" | "reason" =>
          if fault.arguments.length != 5 then return none
          let place := (["encoding".toList, "object".toList, "start".toList, "end".toList,
            "reason".toList].idxOf name)
          return fault.arguments[place]?
      | "msg" => if ← isOf "ImportError" then return some first else return none
      | "name" => if (← isOf "NameError") || (← isOf "ImportError") then return some .none else
          return none
      | _ => return none

def codeAttribute? (code : Code) (name : Text) : Run (Option Value) := do
  match code.attributes.get? name with
  | some value => return some value
  | none =>
      let routine := (← get).routines.getD code.routine default
      match String.ofList name with
      | "__name__" => return some (.text code.name)
      | "__qualname__" => return some (.text routine.fullName)
      | "__module__" => return some (.text "__main__")
      | "__doc__" =>
          return match routine.body with
            | .evaluate _ (.literal (.text text)) :: _ => some (.text text)
            | _ => some .none
      | "__defaults__" => return some (.tuple (code.usual.map Prod.snd))
      | "__globals__" => return some .none
      | _ => return none

/-- What values of the library have beside their routines. -/
def contentAttribute? (place : Nat) (content : Content) (name : Text) : Run (Option Value) := do
  match content with
  | .range start stop step =>
      match String.ofList name with
      | "start" => return some (.whole start)
      | "stop" => return some (.whole stop)
      | "step" => return some (.whole step)
      | _ => return none
  | .module title scope =>
      match (← scopeAt scope).names.get? name with
      | some value => return some value
      | none =>
          match String.ofList name with
          | "__name__" => return some (.text title)
          | "__dict__" => return some (.object scope)
          | "__doc__" => return some .none
          | _ => return none
  | .code code =>
      if name = "__dict__" then return some (← make (.names place))
      else codeAttribute? code name
  | .fault fault => faultAttribute? fault name
  | .handle handle =>
      match String.ofList name with
      | "name" => return some handle.name
      | "mode" => return some (.text handle.mode)
      | "closed" =>
          return some (.bool (match handle.way with
            | .closed => true
            | _ => false))
      | "raw" => return some (.object place)
      | _ => return none
  | .sheet sheet =>
      match String.ofList name, ← contentAt sheet.below with
      | "buffer", _ => return some (.object sheet.below)
      | "encoding", _ => return some (.text sheet.encoding)
      | "errors", _ => return some (.text sheet.errors)
      | "newlines", _ => return some .none
      | "line_buffering", _ => return some (.bool sheet.endsLines)
      | "name", .handle handle => return some handle.name
      | "mode", .handle handle => return some (.text (handle.mode.filter (· != 'b')))
      | "closed", .handle handle =>
          return some (.bool (match handle.way with
            | .closed => true
            | _ => false))
      | _, _ => return none
  | .pattern pattern =>
      match String.ofList name with
      | "pattern" => return some (if pattern.isOctets then .octets pattern.text else
          .text pattern.text)
      | "groups" => return some (.ofNat pattern.expression.groups)
      | "flags" =>
          let flags := pattern.flags
          return some (.whole ((if pattern.isOctets then 0 else 32) +
            (if flags.foldsCase then 2 else 0) + (if flags.seesLines then 8 else 0) +
            (if flags.pointsAtAll then 16 else 0) + (if flags.isSpaced then 64 else 0)))
      | "groupindex" =>
          let entry (name : Text) (number : Nat) : Text × Value × Value :=
            ('s' :: name, (.text name, .ofNat number))
          let entries := pattern.expression.names.map fun (name, number) => entry name number
          return some (← make (.table (.ofEntries entries)))
      | _ => return none
  | .found found =>
      match String.ofList name with
      | "string" => return some (if found.isOctets then .octets found.subject else
          .text found.subject)
      | "re" => return some (.object found.pattern)
      | "pos" => return some (.whole 0)
      | "endpos" => return some (.ofNat found.subject.length)
      | "lastindex" | "lastgroup" =>
          let numbers := (List.range found.groups.size).filter fun number =>
            number != 0 && (found.groups.getD number none).isSome
          match numbers.getLast? with
          | none => return some .none
          | some number =>
              if name = "lastindex" then return some (.ofNat number)
              else
                let title := (found.names.find? fun entry => entry.2 = number).map Prod.fst
                return some ((title.map Value.text).getD .none)
      | _ => return none
  | .property read write delete =>
      match String.ofList name with
      | "fget" => return some read
      | "fset" => return some write
      | "fdel" => return some delete
      | "__doc__" => return some .none
      | _ => return none
  | .still code _ => return if name = "__func__" then some code else none
  | .series series => return if name = "__name__" then some (.text series.name) else none
  | _ => return none

/-- What a value of the library has that does not lie at a place. -/
def plainAttribute? (object : Value) (name : Text) : Run (Option Value) := do
  match object, String.ofList name with
  | .slice first _ _, "start" => return some first
  | .slice _ last _, "stop" => return some last
  | .slice _ _ step, "step" => return some step
  | .bound code _, "__func__" => return some code
  | .bound _ object, "__self__" => return some object
  | .bound (.object place) _, _ =>
      match ← contentAt place with
      | .code code => codeAttribute? code name
      | _ => return none
  | .feature feature, "__name__" | .feature feature, "__qualname__" =>
      return some (.text (lastPart feature))
  | .method _ method, "__name__" => return some (.text method)
  | .method object _, "__self__" => return some object
  | .feature _, "__module__" => return some (.text "builtins")
  | .whole _, "real" | .bool _, "real" | .real _, "real" | .whole _, "numerator" =>
      return some object
  | .whole _, "imag" | .real _, "imag" => return some (.whole 0)
  | .whole _, "denominator" => return some (.whole 1)
  | _, _ => return none

/-- The table of the names that a value has something under. -/
def namesOfOwner? (object : Value) : Run (Option Value) := do
  match object with
  | .object place =>
      match ← contentAt place with
      | .member _ _ _ | .fault _ => return some (← make (.names place))
      | _ => return none
  | _ => return none

/-- What a member of a type has. -/
def memberAttribute? (object type : Value) (attributes : Roster Value) (name : Text) :
    Run (Option Value) := do
  let member ← memberOf? type name
  let decides ← match member with
    | some member => isDeciding member
    | none => pure false
  match decides, attributes.get? name, member with
  | true, _, some member => some <$> bindMember evaluator object type member
  | _, some value, _ => return some value
  | _, none, some member => some <$> bindMember evaluator object type member
  | _, none, none =>
      match String.ofList name with
      | "__class__" => return some type
      | "__dict__" => namesOfOwner? object
      | "__doc__" | "__module__" => typeAttribute? evaluator type name
      | _ => return none

/-- What the types behind one have, as a value of it has that. -/
def aboveAttribute? (type object : Value) (name : Text) : Run (Option Value) := do
  let isTypeItself ← isType object
  let own ← if isTypeItself then pure object else typeOf object
  let order ← orderOf own
  let behind := (order.dropWhile fun entry => !sameType entry type).drop 1
  match ← memberIn? name behind with
  | some member =>
      if isTypeItself then
        match member with
        | .object place =>
            match ← contentAt place with
            | .still code true => return some (.bound code object)
            | .still code false => return some code
            | _ => return some member
        | member => return some member
      else some <$> bindMember evaluator object own member
  | none => return none

/-- What a value has under a name, beside what a routine of its type makes up. -/
def plainlyHas? (object : Value) (name : Text) : Run (Option Value) := do
  match object with
  | .type _ => typeAttribute? evaluator object name
  | .object place =>
      match ← contentAt place with
      | .kind _ => typeAttribute? evaluator object name
      | .above type inner => aboveAttribute? evaluator type inner name
      | .member type attributes core =>
          match ← memberAttribute? evaluator object type attributes name with
          | some value => return some value
          | none =>
              match core with
              | .object place => contentAttribute? place (← contentAt place) name
              | core => plainAttribute? core name
      | content =>
          let attributes : Roster Value := match content with
            | .fault fault => fault.attributes
            | _ => .empty
          match ← contentAttribute? place content name with
          | some value =>
              if (← kindAt? (typeOfContent content)).isSome && !attributes.has name then
                let made ← memberAttribute? evaluator object (typeOfContent content) .empty name
                return some (made.getD value)
              else return some value
          | none => memberAttribute? evaluator object (typeOfContent content) attributes name
  | object =>
      match ← plainAttribute? object name with
      | some value => return some value
      | none => memberAttribute? evaluator object (← typeOf object) .empty name

/-- The way messages call a value that lacks something. -/
def lackingTitle (object : Value) : Run Text := do
  match object with
  | .object place =>
      match ← contentAt place with
      | .module name _ => return "module '".toList ++ name ++ ['\'']
      | .kind kind => return "type object '".toList ++ kind.name ++ ['\'']
      | .above _ _ => return "'super' object"
      | _ => return '\'' :: (← typeName object) ++ "' object".toList
  | .type name => return "type object '".toList ++ lastPart name ++ ['\'']
  | object => return '\'' :: (← typeName object) ++ "' object".toList

def lacks {α : Type} (object : Value) (name : Text) : Run α := do
  fail "AttributeError"
    ((← lackingTitle object) ++ " has no attribute '".toList ++ name ++ ['\''])

/-- What a value has under a name. -/
def attribute? (object : Value) (name : Text) : Run (Option Value) := do
  match ← plainlyHas? evaluator object name with
  | some value => return some value
  | none =>
      match object with
      | .object place =>
          match ← contentAt place with
          | .member _ _ _ | .fault _ => callOwn? evaluator object "__getattr__" [.text name]
          | .module _ scope =>
              match (← scopeAt scope).names.get? "__getattr__" with
              | some code => some <$> evaluator.call code [.text name] []
              | none => return none
          | _ => return none
      | _ => return none

def attributeOf (object : Value) (name : Text) : Run Value := do
  match ← attribute? evaluator object name with
  | some value => return value
  | none => lacks object name

/-- Whether a fault says that something is lacking. -/
def isLacking (fault : Value) : Run Bool := isInstance fault (.type "AttributeError")

def hasAttribute (object : Value) (name : Text) : Run Bool := do
  tryCatch (do return (← attribute? evaluator object name).isSome) fun leave => match leave with
    | .raised fault => do if ← isLacking fault then return false else throw leave
    | leave => throw leave

/-! Giving attributes. -/

/-- Gives a value something under a name, without asking its type. -/
def plainlySet (object : Value) (name : Text) (value : Value) : Run Unit := do
  match object with
  | .object place =>
      match ← contentAt place with
      | .member type attributes core =>
          setContent place (.member type default core)
          setContent place (.member type (attributes.insert name value) core)
      | .kind kind =>
          setContent place (.kind { kind with members := kind.members.insert name value })
      | .module _ scope => bindAt scope name value
      | .code code =>
          if name = "__name__" then
            setContent place (.code { code with name := (value.text?).getD code.name })
          else
            setContent place (.code { code with attributes := code.attributes.insert name value })
      | .fault fault =>
          let changed : Fault := match String.ofList name, value with
            | "__cause__", value => { fault with cause := some value, hidesContext := true }
            | "__context__", value => { fault with context := some value }
            | "__suppress_context__", value => { fault with hidesContext := value.isTrue }
            | "__traceback__", .none => { fault with spots := [] }
            | "args", .tuple values => { fault with arguments := values }
            | _, value => { fault with attributes := fault.attributes.insert name value }
          setContent place (.fault changed)
      | .sheet _ | .handle _ => pure ()
      | _ => lacks object name
  | .bound code _ =>
      match code with
      | .object _ => lacks object name
      | _ => lacks object name
  | .type type =>
      failType ("cannot set '".toList ++ name ++ "' attribute of immutable type '".toList ++ type ++
        ['\''])
  | object => lacks object name

def setAttribute (object : Value) (name : Text) (value : Value) : Run Unit := do
  match object with
  | .object place =>
      let isMember := match ← contentAt place with
        | .member _ _ _ | .fault _ => true
        | _ => false
      if !isMember then plainlySet object name value
      else
        match ← ownMember? object "__setattr__" with
        | some code =>
            let _ ← evaluator.call code [object, .text name, value] []
        | none =>
            match ← memberOf? (← typeOf object) name with
            | some (.object member) =>
                match ← contentAt member with
                | .property _ .none _ =>
                    fail "AttributeError" ("property '".toList ++ name ++ "' of '".toList ++
                      (← typeName object) ++ "' object has no setter".toList)
                | .property _ write _ =>
                    let _ ← evaluator.call write [object, value] []
                | .member _ _ _ =>
                    match ← callOwn? evaluator (.object member) "__set__" [object, value] with
                    | some _ => pure ()
                    | none => plainlySet object name value
                | _ => plainlySet object name value
            | _ => plainlySet object name value
  | object => plainlySet object name value

def deleteAttribute (object : Value) (name : Text) : Run Unit := do
  match object with
  | .object place =>
      match ← contentAt place with
      | .member type attributes core =>
          match ← ownMember? object "__delattr__" with
          | some code =>
              let _ ← evaluator.call code [object, .text name] []
          | none =>
              if !attributes.has name then lacks object name
              setContent place (.member type (attributes.erase name) core)
      | .kind kind =>
          if !kind.members.has name then lacks object name
          setContent place (.kind { kind with members := kind.members.erase name })
      | .module _ scope =>
          if !(← unbindAt scope name) then lacks object name
      | _ => lacks object name
  | _ => lacks object name

end ShaderCost.Script.Indented
