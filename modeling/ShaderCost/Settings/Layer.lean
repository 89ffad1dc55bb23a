import ShaderCost.Binary64.Decimal
import ShaderCost.Json.Value
import ShaderCost.Settings.Basic
import ShaderCost.Text.Lower

/-!
Layers of settings. A layer gives values to some keys; it comes from the settings file or from
the environment, and a later one goes over an earlier one. A value need not have the type of its
key: booleans, numbers and texts turn into each other where the meaning is plain. A key may also be
an address of a place inside a table or a list, and so make its first name one of these.
-/

namespace ShaderCost.Settings

/-- A value of a layer. Lists and tables fit no setting; an empty table says nothing about what
it goes over. -/
inductive LayerValue where
  | null
  | bool (value : Bool)
  | integer (value : Int)
  | float (value : Binary64)
  | text (value : Text)
  | list
  | table (isEmpty : Bool)
  deriving DecidableEq

namespace LayerValue

def ofJson : JsonValue → LayerValue
  | .null => null
  | .bool value => bool value
  | .integer value => integer value
  | .float value => float value
  | .string value => text value
  | .list _ => list
  | .object members => table members.isEmpty

def isList : LayerValue → Bool
  | list => true
  | _ => false

def isTable : LayerValue → Bool
  | table _ => true
  | _ => false

/-- A whole number of 64 bits with an optional sign. -/
def signedInteger? : Text → Option Int
  | '-' :: digits => (Text.natBelow? (twoTo 63 + 1) digits).map fun value => -(value : Int)
  | digits => (Text.signedNatBelow? (twoTo 63) digits).map Int.ofNat

/-- The value of an environment variable: a boolean, a number or a text, whichever it reads as
first. -/
def ofVariable (value : Text) : LayerValue :=
  let lower := Text.lowercase value
  if lower = "true" then bool true
  else if lower = "false" then bool false
  else match signedInteger? value with
    | some number => integer number
    | none => match Binary64.ofText? value with
      | some number => float number
      | none => text value

/-- How a value is described where it does not fit. -/
def description : LayerValue → Text
  | null => "unit value"
  | bool value => "boolean `" ++ (if value then "true" else "false").toList ++ "`"
  | integer value => "64-bit integer `" ++ Text.ofInt value ++ "`"
  | float value => "floating point `" ++ value.toText ++ "`"
  | text value => "string " ++ Text.quoted value
  | list => "sequence"
  | table _ => "map"

/-- What was found in place of a value of another type. -/
structure Mismatch where
  found : Text
  expected : Text
  deriving DecidableEq

def mismatch {α : Type} (value : LayerValue) (expected : Text) : Except Mismatch α :=
  .error ⟨value.description, expected⟩

/-- Yes or no. A text that is neither is shown in lower case. -/
def asBool : LayerValue → Except Mismatch Bool
  | bool value => .ok value
  | integer value => .ok (value != 0)
  | float value => .ok (value.isNaN || value.orderKey != 0)
  | text value =>
      let lower := Text.lowercase value
      match readBool? lower with
      | some answer => .ok answer
      | none => (text lower).mismatch "a boolean"
  | value => value.mismatch "a boolean"

/-- A count from a text: a word for yes or no counts as one or none. -/
def countOfText? (value : Text) : Option Nat :=
  let lower := Text.lowercase value
  if lower = "true" || lower = "on" || lower = "yes" then some 1
  else if lower = "false" || lower = "off" || lower = "no" then some 0
  else Text.signedNatBelow? timeoutLimit value

def asCount : LayerValue → Except Mismatch Nat
  | bool value => .ok (if value then 1 else 0)
  | integer value =>
      if value < 0 then (integer value).mismatch "an unsigned 64 bit or less integer"
      else .ok value.toNat
  | float value => .ok (value.roundToNat (timeoutLimit - 1))
  | text value => match countOfText? value with
      | some count => .ok count
      | none => (text value).mismatch "an integer"
  | value => value.mismatch "an integer"

def asText : LayerValue → Except Mismatch Text
  | bool value => .ok (if value then "true" else "false").toList
  | integer value => .ok (Text.ofInt value)
  | float value => .ok value.toText
  | text value => .ok value
  | value => value.mismatch "a string"

def asOptionalText : LayerValue → Except Mismatch (Option Text)
  | null => .ok none
  | value => value.asText.map some

end LayerValue

/-! Keys and what they address. -/

/-- What a key addresses below its first name. -/
inductive Place where
  | whole
  | member
  | item
  deriving DecidableEq

namespace Place

def isNameChar (c : Char) : Bool := c.isAlphanum || c == '_' || c == '-' || c == ' '

def isIndexBlank (c : Char) : Bool := c == ' ' || c == '\t'

/-- What follows the number of an item and the bracket behind it. -/
def afterIndex? (text : Text) : Option Text :=
  let signed := text.dropWhile isIndexBlank
  let (limit, digits) := match signed with
    | '-' :: digits => (twoTo 63 + 1, digits)
    | digits => (twoTo 63, digits)
  let number := digits.takeWhile Char.isDigit
  match (digits.drop number.length).dropWhile isIndexBlank with
  | ']' :: rest => (Text.natBelow? limit number).map fun _ => rest
  | _ => none

/-- Whether a text goes down through members and items, one after the other. -/
def isDescent : (fuel : Nat) → Text → Bool
  | _, [] => true
  | 0, _ => false
  | fuel + 1, '.' :: rest =>
      rest.head?.any isNameChar && isDescent fuel (rest.dropWhile isNameChar)
  | fuel + 1, '[' :: rest => (afterIndex? rest).any (isDescent fuel)
  | _, _ => false

/-- The first name of a key, and what it addresses below that. A key that is no address is a name
as a whole. -/
def ofKey (key : Text) : Text × Place :=
  let name := key.takeWhile isNameChar
  let descent := key.drop name.length
  if name.isEmpty || !isDescent descent.length descent then (key, whole)
  else match descent with
    | [] => (key, whole)
    | '.' :: _ => (name, member)
    | _ => (name, item)

end Place

/-- Values for keys, all from one place. -/
structure Layer where
  origin : Text
  values : List (Text × LayerValue)

/-- A value with the place that it comes from, if it comes from one as a whole. -/
structure Sourced where
  value : LayerValue
  origin : Option Text
  deriving DecidableEq

/-- Values by their names, one for each. -/
abbrev Stack := List (Text × Sourced)

namespace Stack

def set (stack : Stack) (name : Text) (sourced : Sourced) : Stack :=
  (name, sourced) :: stack.filter fun entry => entry.1 != name

/-- What a name stands for once a value goes over what it stood for. Tables go into each other, and
a member or an item makes the table or the list that it needs. -/
def covered (held : Option Sourced) (origin : Text) (value : LayerValue) : Place → Sourced
  | .whole => match value, held with
      | .table isEmpty, some held =>
          if isEmpty || held.value.isTable then held else ⟨.table false, none⟩
      | .table isEmpty, none => ⟨.table isEmpty, none⟩
      | value, _ => ⟨value, some origin⟩
  | .member => match held.filter fun held => held.value.isTable with
      | some held => held
      | none => ⟨.table false, none⟩
  | .item => match held.filter fun held => held.value.isList with
      | some held => held
      | none => ⟨.list, none⟩

/-- Puts a value of a layer where its key addresses it. -/
def put (origin : Text) (stack : Stack) (entry : Text × LayerValue) : Stack :=
  let (name, place) := Place.ofKey entry.1
  let name := Text.lowercase name
  stack.set name (covered (stack.lookup name) origin entry.2 place)

def add (stack : Stack) (layer : Layer) : Stack := layer.values.foldl (put layer.origin) stack

/-- Layers over one another, the first one lowest. -/
def ofLayers (layers : List Layer) : Stack := layers.foldl add []

end Stack

/-- Reads a key in the type that it has, or takes the value given instead. -/
def read {α : Type} (stack : Stack) (key : Key)
    (convert : LayerValue → Except LayerValue.Mismatch α) (otherwise : α) :
    Except SettingsError α :=
  match stack.lookup key.name with
  | none => .ok otherwise
  | some sourced =>
      (convert sourced.value).mapError fun mismatch =>
        .mistyped ⟨key.name, mismatch.found, mismatch.expected, sourced.origin⟩

/-- Puts layers over given settings. -/
def overlay (settings : Settings) (layers : List Layer) : Except SettingsError Settings := do
  let stack := Stack.ofLayers layers
  return {
    compilerPath := ← read stack .compilerPath LayerValue.asText settings.compilerPath
    gpuModel := ← read stack .gpuModel LayerValue.asOptionalText settings.gpuModel
    verbose := ← read stack .verbose LayerValue.asBool settings.verbose
    outputDirectory := ← read stack .outputDirectory LayerValue.asText settings.outputDirectory
    timeoutSeconds := ← read stack .timeoutSeconds LayerValue.asCount settings.timeoutSeconds
    includeAllVariants :=
      ← read stack .includeAllVariants LayerValue.asBool settings.includeAllVariants }

end ShaderCost.Settings
