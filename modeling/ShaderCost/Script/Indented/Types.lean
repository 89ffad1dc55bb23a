import ShaderCost.Script.Indented.Machine

/-!
Types: those of the library with what they come from and the routines that their members have,
those of the program, and which type a value is of.
-/

namespace ShaderCost.Script.Indented

/-! The types of the library. -/

/-- Types of faults with what they come from. -/
def faultTypes : List (Text × Text) := [
  ("SystemExit", "BaseException"), ("KeyboardInterrupt", "BaseException"),
  ("GeneratorExit", "BaseException"), ("Exception", "BaseException"),
  ("StopIteration", "Exception"), ("StopAsyncIteration", "Exception"),
  ("ArithmeticError", "Exception"), ("FloatingPointError", "ArithmeticError"),
  ("OverflowError", "ArithmeticError"), ("ZeroDivisionError", "ArithmeticError"),
  ("AssertionError", "Exception"), ("AttributeError", "Exception"), ("BufferError", "Exception"),
  ("EOFError", "Exception"), ("ImportError", "Exception"), ("ModuleNotFoundError", "ImportError"),
  ("LookupError", "Exception"), ("IndexError", "LookupError"), ("KeyError", "LookupError"),
  ("MemoryError", "Exception"), ("NameError", "Exception"), ("UnboundLocalError", "NameError"),
  ("ReferenceError", "Exception"), ("RuntimeError", "Exception"),
  ("NotImplementedError", "RuntimeError"), ("RecursionError", "RuntimeError"),
  ("SyntaxError", "Exception"), ("IndentationError", "SyntaxError"),
  ("TabError", "IndentationError"), ("SystemError", "Exception"), ("TypeError", "Exception")]

def furtherFaultTypes : List (Text × Text) := [
  ("ValueError", "Exception"), ("UnicodeError", "ValueError"),
  ("UnicodeDecodeError", "UnicodeError"), ("UnicodeEncodeError", "UnicodeError"),
  ("UnicodeTranslateError", "UnicodeError"), ("json.decoder.JSONDecodeError", "ValueError"),
  ("re.error", "Exception"), ("struct.error", "Exception"), ("binascii.Error", "ValueError"),
  ("io.UnsupportedOperation", "OSError"), ("OSError", "Exception"),
  ("BlockingIOError", "OSError"), ("ChildProcessError", "OSError"),
  ("ConnectionError", "OSError"), ("BrokenPipeError", "ConnectionError"),
  ("ConnectionAbortedError", "ConnectionError"), ("ConnectionRefusedError", "ConnectionError"),
  ("ConnectionResetError", "ConnectionError"), ("FileExistsError", "OSError"),
  ("FileNotFoundError", "OSError"), ("InterruptedError", "OSError"),
  ("IsADirectoryError", "OSError"), ("NotADirectoryError", "OSError"),
  ("PermissionError", "OSError"), ("ProcessLookupError", "OSError"), ("TimeoutError", "OSError")]

def warningTypes : List (Text × Text) := [
  ("Warning", "Exception"), ("UserWarning", "Warning"), ("DeprecationWarning", "Warning"),
  ("PendingDeprecationWarning", "Warning"), ("SyntaxWarning", "Warning"),
  ("RuntimeWarning", "Warning"), ("FutureWarning", "Warning"), ("ImportWarning", "Warning"),
  ("UnicodeWarning", "Warning"), ("BytesWarning", "Warning"), ("ResourceWarning", "Warning")]

/-- What a type of the library comes from. -/
def baseOf? (name : Text) : Option Text :=
  if name = "object" then none
  else if name = "bool" then some "int"
  else
    (faultTypes.lookup name <|> furtherFaultTypes.lookup name <|> warningTypes.lookup name).or
      (some "object")

/-- How far types of the library come from one another. -/
def deepestType : Nat := 8

/-- A type of the library and those that it comes from. -/
def chainOf : (fuel : Nat) → (name : Text) → List Value
  | 0, name => [.type name]
  | fuel + 1, name =>
      match baseOf? name with
      | some base => .type name :: chainOf fuel base
      | none => [.type name]

def isFaultType (name : Text) : Bool :=
  name = "BaseException" || (faultTypes.lookup name).isSome ||
    (furtherFaultTypes.lookup name).isSome
    || (warningTypes.lookup name).isSome

/-- The types that go by a name everywhere, beside those of faults. -/
def plainTypes : List Text := [
  "object", "int", "bool", "float", "str", "bytes", "bytearray", "list", "tuple", "dict", "set",
  "frozenset", "range", "type", "slice", "property", "staticmethod", "classmethod", "super", "map",
  "filter", "zip", "enumerate", "reversed", "complex", "memoryview"]

/-! The routines that members of types have. -/

def textMethods : List Text := [
  "capitalize", "casefold", "center", "count", "encode", "endswith", "expandtabs", "find", "format",
  "format_map", "index", "isalnum", "isalpha", "isascii", "isdecimal", "isdigit", "isidentifier",
  "islower", "isnumeric", "isprintable", "isspace", "istitle", "isupper", "join", "ljust"]

def furtherTextMethods : List Text := [
  "lower", "lstrip", "maketrans", "partition", "removeprefix", "removesuffix", "replace", "rfind",
  "rindex", "rjust", "rpartition", "rsplit", "rstrip", "split", "splitlines", "startswith", "strip",
  "swapcase", "title", "translate", "upper", "zfill"]

def octetMethods : List Text := [
  "center", "count", "decode", "endswith", "find", "fromhex", "hex", "index", "isalnum", "isalpha",
  "isdigit", "islower", "isspace", "isupper", "join", "ljust", "lower", "lstrip", "partition",
  "removeprefix", "removesuffix", "replace", "rfind", "rindex", "rjust", "rpartition", "rsplit"]

def furtherOctetMethods : List Text := [
  "rstrip", "split", "splitlines", "startswith", "strip", "title", "translate", "upper", "zfill"]

def listMethods : List Text := [
  "append", "clear", "copy", "count", "extend", "index", "insert", "pop", "remove", "reverse",
  "sort"]

def tableMethods : List Text := [
  "clear", "copy", "fromkeys", "get", "items", "keys", "pop", "popitem", "setdefault", "update",
  "values"]

def setMethods : List Text := [
  "copy", "difference", "intersection", "isdisjoint", "issubset", "issuperset",
  "symmetric_difference", "union"]

def changingSetMethods : List Text := [
  "add", "clear", "difference_update", "discard", "intersection_update", "pop", "remove",
  "symmetric_difference_update", "update"]

def fileMethods : List Text := [
  "close", "fileno", "flush", "getvalue", "isatty", "read", "readable", "readline", "readlines",
  "reconfigure", "seek", "seekable", "tell", "truncate", "writable", "write", "writelines",
  "detach", "getbuffer", "readinto", "read1", "__enter__", "__exit__", "__iter__", "__next__"]

def patternMethods : List Text := [
  "findall", "finditer", "fullmatch", "match", "search", "split", "sub", "subn"]

def foundMethods : List Text := [
  "end", "expand", "group", "groupdict", "groups", "span", "start", "__getitem__"]

def memberMethods : List Text := [
  "__init__", "__repr__", "__str__", "__eq__", "__ne__", "__hash__", "__setattr__",
  "__getattribute__", "__format__", "__delattr__", "__dir__", "__new__", "__init_subclass__"]

def containerMethods : List Text := ["__len__", "__iter__", "__getitem__", "__contains__"]

def changingMethods : List Text := ["__setitem__", "__delitem__"]

def arithmeticMethods : List Text := [
  "__add__", "__sub__", "__mul__", "__lt__", "__le__", "__gt__", "__ge__", "__mod__"]

/-- The routines of a type of the library that it has by itself. -/
def methodsOf (name : Text) : List Text :=
  match String.ofList name with
  | "object" => memberMethods
  | "type" => ["mro"]
  | "str" => textMethods ++ furtherTextMethods ++ containerMethods ++ arithmeticMethods
  | "bytes" => octetMethods ++ furtherOctetMethods ++ containerMethods ++ arithmeticMethods
  | "bytearray" =>
      octetMethods ++ furtherOctetMethods ++ containerMethods ++ changingMethods ++ listMethods
  | "list" => listMethods ++ containerMethods ++ changingMethods ++ arithmeticMethods
  | "tuple" => ["count".toList, "index".toList] ++ containerMethods ++ arithmeticMethods
  | "dict" => tableMethods ++ containerMethods ++ changingMethods
  | "set" => setMethods ++ changingSetMethods ++ containerMethods
  | "frozenset" => setMethods ++ containerMethods
  | "dict_keys" | "dict_values" | "dict_items" => containerMethods ++ ["isdisjoint".toList]
  | "range" => ["count".toList, "index".toList] ++ containerMethods
  | "int" => ["bit_length", "bit_count", "to_bytes", "from_bytes", "conjugate", "is_integer",
      "as_integer_ratio", "__index__", "__int__", "__add__", "__sub__", "__mul__", "__lt__"]
  | "float" => ["is_integer", "as_integer_ratio", "hex", "fromhex", "conjugate", "__add__"]
  | "generator" => ["send", "throw", "close", "__iter__", "__next__"]
  | "file" => fileMethods
  | "re.Pattern" => patternMethods
  | "re.Match" => foundMethods
  | "property" => ["setter", "getter", "deleter"]
  | "BaseException" => ["with_traceback", "add_note"]
  | _ => []

/-! Which type a value is of. -/

/-- The type of what gives values one after the other. -/
def iterationType : Iteration → Text
  | .items _ => "tuple_iterator"
  | .list _ _ => "list_iterator"
  | .range _ _ _ => "range_iterator"
  | .entries _ _ _ => "dict_keyiterator"
  | .mapped _ _ => "map"
  | .chosen _ _ => "filter"
  | .joined _ _ => "zip"
  | .numbered _ _ => "enumerate"
  | .called _ _ => "callable_iterator"
  | .indexed _ _ => "iterator"

def sideType : Side → Text
  | .keys => "dict_keys"
  | .values => "dict_values"
  | .entries => "dict_items"

def handleType (handle : Handle) : Text :=
  match handle.way with
  | .memory _ _ => if handle.isText then "_io.StringIO" else "_io.BytesIO"
  | _ => if handle.mayRead && handle.mayWrite then "_io.BufferedRandom"
      else if handle.mayRead then "_io.BufferedReader" else "_io.BufferedWriter"

def typeOfContent : Content → Value
  | .list _ => .type "list"
  | .buffer _ => .type "bytearray"
  | .table _ => .type "dict"
  | .set _ isFrozen => .type (if isFrozen then "frozenset" else "set")
  | .range _ _ _ => .type "range"
  | .view _ side => .type (sideType side)
  | .scope _ | .names _ => .type "dict"
  | .module _ _ => .type "module"
  | .code _ => .type "function"
  | .kind _ => .type "type"
  | .member type _ _ => type
  | .fault fault => fault.type
  | .iterator iteration => .type (iterationType iteration)
  | .series _ => .type "generator"
  | .handle handle => .type (handleType handle)
  | .sheet _ => .type "_io.TextIOWrapper"
  | .pattern _ => .type "re.Pattern"
  | .found _ => .type "re.Match"
  | .property _ _ _ => .type "property"
  | .still _ isOfType => .type (if isOfType then "classmethod" else "staticmethod")
  | .above _ _ => .type "super"
  | .chance _ _ => .type "object"

def typeOf (value : Value) : Run Value := do
  match value with
  | .none => return .type "NoneType"
  | .ellipsis => return .type "ellipsis"
  | .unsupported => return .type "NotImplementedType"
  | .bool _ => return .type "bool"
  | .whole _ => return .type "int"
  | .real _ => return .type "float"
  | .text _ => return .type "str"
  | .octets _ => return .type "bytes"
  | .tuple _ => return .type "tuple"
  | .slice _ _ _ => return .type "slice"
  | .type _ => return .type "type"
  | .feature _ | .method _ _ => return .type "builtin_function_or_method"
  | .bound _ _ => return .type "method"
  | .object place => return typeOfContent (← contentAt place)

/-- The last part of a name with dots. -/
def lastPart (name : Text) : Text := (name.reverse.takeWhile (· != '.')).reverse

def kindAt? (type : Value) : Run (Option Kind) := do
  match type with
  | .object place =>
      match ← contentAt place with
      | .kind kind => return some kind
      | _ => return none
  | _ => return none

def isType (value : Value) : Run Bool := do
  match value with
  | .type _ => return true
  | value => return (← kindAt? value).isSome

/-- The name that messages have for a type. -/
def nameOfType (type : Value) : Run Text := do
  match type with
  | .type name => return if Text.after? "_io." name |>.isSome then name else
      if (Text.after? "re." name).isSome then name else lastPart name
  | type => return ((← kindAt? type).map Kind.name).getD "type"

/-- The name of the type of a value. -/
def typeName (value : Value) : Run Text := do nameOfType (← typeOf value)

def sameType : Value → Value → Bool
  | .type left, .type right => left = right
  | .object left, .object right => left = right
  | _, _ => false

/-- A type and those that it has members from. -/
def orderOf (type : Value) : Run (List Value) := do
  match type with
  | .type name =>
      let front : List Value := if (Text.after? "_io." name).isSome then [.type name, .type "file"]
        else []
      return front ++ (chainOf deepestType name).filter fun entry => front.all fun other =>
        !sameType entry other
  | type => return ((← kindAt? type).map Kind.order).getD [.type "object"]

def isSubtype (type above : Value) : Run Bool := do
  return (← orderOf type).any (sameType above)

def isInstance (value type : Value) : Run Bool := do isSubtype (← typeOf value) type

/-- The member of a type, or of one that it has members from, that goes by a name. -/
def memberIn? (name : Text) : List Value → Run (Option Value)
  | [] => return none
  | type :: rest => do
      match type with
      | .type library =>
          if (methodsOf library).elem name then
            return some (.feature (library ++ '.' :: name))
          else memberIn? name rest
      | type =>
          match ((← kindAt? type).bind fun kind => kind.members.get? name) with
          | some value => return some value
          | none => memberIn? name rest

def memberOf? (type : Value) (name : Text) : Run (Option Value) := do
  memberIn? name (← orderOf type)

/-- The routine that the program gives the members of a value's type for a purpose. -/
def ownMember? (value : Value) (name : Text) : Run (Option Value) := do
  let order ← orderOf (← typeOf value)
  memberIn? name (order.filter fun type => match type with
    | .type _ => false
    | _ => true)

/-- The value of the library that a member of a type holds, or the value itself. -/
def coreOf (value : Value) : Run Value := do
  match value with
  | .object place =>
      match ← contentAt place with
      | .member _ _ .none => return value
      | .member _ _ core => return core
      | _ => return value
  | value => return value

/-! Types of the program. -/

/-- Whether a type comes behind the first one of some orders. -/
def comesLater (orders : List (List Value)) (type : Value) : Bool :=
  orders.any fun order => (order.drop 1).any (sameType type)

/-- Orders put into one that keeps each of them. -/
def merged : (fuel : Nat) → List (List Value) → List Value
  | 0, _ => []
  | fuel + 1, orders =>
      let orders := orders.filter fun order => !order.isEmpty
      match orders.filterMap List.head? |>.find? fun type => !comesLater orders type with
      | none => []
      | some type =>
          type :: merged fuel (orders.map fun order =>
            if order.head?.any (sameType type) then order.drop 1 else order)

/-- Makes a type. -/
def makeKind (name fullName module : Text) (bases : List Value) (members : Roster Value) :
    Run Value := do
  let bases := if bases.isEmpty then [.type "object"] else bases
  let orders ← bases.mapM orderOf
  let place ← allocate default
  let total := (orders.map List.length).foldl (· + ·) bases.length
  let order := .object place :: merged (total + 1) (orders ++ [bases])
  setContent place (.kind { name, fullName, module, bases, order, members })
  return .object place

/-- The type of the library that a type comes from, if that is not the most general one. -/
def libraryBase? (type : Value) : Run (Option Text) := do
  return (← orderOf type).findSome? fun entry => match entry with
    | .type name => if name = "object" then none else some name
    | _ => none

end ShaderCost.Script.Indented
