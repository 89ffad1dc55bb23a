import ShaderCost.Binary64.Basic
import ShaderCost.Binary64.Decimal
import ShaderCost.Text.Basic

/-!
JSON values and their text. Numbers are told apart as whole numbers and as binary64 numbers; the
members of an object keep their order. The text is laid out for reading: one item or member a line,
two spaces for each level. An empty list or object stays on its line.
-/

namespace ShaderCost

inductive JsonValue where
  | null
  | bool (value : Bool)
  | integer (value : Int)
  | float (value : Binary64)
  | string (value : Text)
  | list (items : List JsonValue)
  | object (members : List (Text × JsonValue))

namespace JsonValue

end JsonValue

end ShaderCost

namespace ShaderCost.JsonValue

/-- The written form of one character inside a string. -/
def escapeChar (c : Char) : Text :=
  if c = '"' then "\\\""
  else if c = '\\' then "\\\\"
  else if c = '\n' then "\\n"
  else if c = '\r' then "\\r"
  else if c = '\t' then "\\t"
  else if c = '\x08' then "\\b"
  else if c = '\x0c' then "\\f"
  else if c.toNat < 32 then
    let digits := Nat.toDigits 16 c.toNat
    "\\u" ++ List.replicate (4 - digits.length) '0' ++ digits
  else [c]

def stringText (text : Text) : Text := "\"" ++ text.flatMap escapeChar ++ "\""

def indentation (level : Nat) : Text := List.replicate (2 * level) ' '

/-- Puts parts between an opening and a closing mark, each on a line one level further in. -/
def block (opening closing : Text) (level : Nat) (parts : List Text) : Text :=
  if parts.isEmpty then opening ++ closing
  else
    let lines := parts.map fun part => "\n" ++ indentation (level + 1) ++ part
    opening ++ List.intercalate [','] lines ++ "\n" ++ indentation level ++ closing

mutual

/-- The text of a value that starts on a line of the given level. -/
def pretty (level : Nat) : JsonValue → Text
  | null => "null"
  | bool value => if value then "true" else "false"
  | integer value => Text.ofInt value
  | float value => (value.toLiteral?).getD "null"
  | string value => stringText value
  | list items => block "[" "]" level (prettyItems (level + 1) items)
  | object members => block "\x7b" "\x7d" level (prettyMembers (level + 1) members)

def prettyItems (level : Nat) : List JsonValue → List Text
  | [] => []
  | item :: items => pretty level item :: prettyItems level items

def prettyMembers (level : Nat) : List (Text × JsonValue) → List Text
  | [] => []
  | (key, value) :: members =>
      (stringText key ++ ": " ++ pretty level value) :: prettyMembers level members

end

end ShaderCost.JsonValue
