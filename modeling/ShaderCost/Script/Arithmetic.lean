import ShaderCost.Script.Basic

/-!
Arithmetic expressions on whole numbers of 64 bits that wrap round. Variables in them may be read
and changed.
-/

namespace ShaderCost.Script.Arithmetic

/-- What is wrong with an expression. -/
inductive Problem where
  | divisionByZero
  | expecting (what : Text)
  | illegalNumber (value : Text)
  deriving DecidableEq

def Problem.message (expression : Text) : Problem → Text
  | divisionByZero => "arithmetic expression: division by zero: \"" ++ expression ++ "\""
  | expecting what =>
      "arithmetic expression: expecting " ++ what ++ ": \"" ++ expression ++ "\""
  | illegalNumber value => "Illegal number: " ++ value

inductive Token where
  | number (value : Int64)
  | name (text : Text)
  | symbol (text : Text)
  /-- A character that no expression has. -/
  | stray
  deriving DecidableEq

abbrev Operation := Int64 → Int64 → Except Problem Int64

def truth (condition : Bool) : Int64 := if condition then 1 else 0

/-- An operation that is always defined. -/
def total (operation : Int64 → Int64 → Int64) : Operation := fun a b => .ok (operation a b)

def compare (relation : Int64 → Int64 → Bool) : Operation := total fun a b => truth (relation a b)

def nonZero (operation : Int64 → Int64 → Int64) : Operation := fun a b =>
  if b = 0 then .error .divisionByZero else .ok (operation a b)

/-- Operations by how tightly they bind, the loosest first. -/
def levels : List (List (Text × Operation)) := [
  [("|", total (· ||| ·))],
  [("^", total (· ^^^ ·))],
  [("&", total (· &&& ·))],
  [("==", compare fun a b => a == b), ("!=", compare fun a b => a != b)],
  [("<", compare fun a b => decide (a < b)), ("<=", compare fun a b => decide (a ≤ b)),
    (">", compare fun a b => decide (b < a)), (">=", compare fun a b => decide (b ≤ a))],
  [("<<", total (· <<< ·)), (">>", total (· >>> ·))],
  [("+", total (· + ·)), ("-", total (· - ·))],
  [("*", total (· * ·)), ("/", nonZero (· / ·)), ("%", nonZero (· % ·))]]

/-- Operations that may stand before an equals sign. -/
def assigning : List Text := ["|", "^", "&", "<<", ">>", "+", "-", "*", "/", "%"]

def operation? (symbol : Text) : Option Operation := levels.flatten.lookup symbol

/-- The operation of a symbol that assigns; `none` inside takes the new value as it is. -/
def assignment? (symbol : Text) : Option (Option Operation) :=
  if symbol = "=" then some none
  else match symbol.reverse with
    | '=' :: reversed =>
        let operation := reversed.reverse
        if assigning.contains operation then (operation? operation).map some else none
    | _ => none

/-- Symbols, longer ones before those that they start with. -/
def symbols : List Text :=
  let longest : List Text := ["<<=", ">>="]
  let doubled : List Text :=
    ["<<", ">>", "<=", ">=", "==", "!=", "&&", "||", "|=", "^=", "&=", "+=", "-=", "*=", "/=", "%="]
  let single : List Text :=
    ["<", ">", "=", "!", "&", "|", "^", "+", "-", "*", "/", "%", "~", "?", ":", "(", ")"]
  longest ++ doubled ++ single

/-- The tokens of an expression, up to a stray character. -/
def tokens : (fuel : Nat) → Text → List Token
  | 0, _ | _ + 1, [] => []
  | fuel + 1, c :: rest =>
      if isSpace c then tokens fuel rest
      else if c.isDigit then
        match Numeral.read? true (c :: rest) with
        | some reading => .number (Int64.ofInt reading.value) :: tokens fuel reading.rest
        | none => [.stray]
      else if isNameStart c then
        let name := (c :: rest).takeWhile isNameChar
        .name name :: tokens fuel ((c :: rest).drop name.length)
      else
        match symbols.find? fun symbol => symbol.isPrefixOf (c :: rest) with
        | some symbol => .symbol symbol :: tokens fuel ((c :: rest).drop symbol.length)
        | none => [.stray]

/-- What is left of an expression, and the variables that it changed, the last change first. -/
structure State where
  tokens : List Token
  changed : List (Text × Int64)

abbrev Evaluator := StateT State (Except Problem)

def advance : Evaluator Unit := modify fun state => { state with tokens := state.tokens.tail }

/-- Takes a symbol if it comes next. -/
def takeIf (symbol : Text) : Evaluator Bool := do
  if (← get).tokens.head? = some (.symbol symbol) then
    advance
    return true
  else return false

/-- The value of a variable. One that is unset or empty counts as zero. -/
def value (valueOf : Text → Text) (name : Text) : Evaluator Int64 := do
  match (← get).changed.lookup name with
  | some value => return value
  | none =>
      let text := valueOf name
      if text.isEmpty then return 0
      match Numeral.ofText? true text with
      | some value => return Int64.ofInt value
      | none => throw (.illegalNumber text)

mutual

/-- An assignment or a choice. Where `skips` is set the value does not matter and nothing is
changed. -/
def assignment (valueOf : Text → Text) (fuel : Nat) (skips : Bool) : Evaluator Int64 :=
  match fuel with
  | 0 => throw (.expecting "primary")
  | fuel + 1 => do
      match (← get).tokens with
      | .name name :: .symbol symbol :: _ =>
          match assignment? symbol with
          | some operation =>
              advance
              advance
              let operand ← assignment valueOf fuel skips
              if skips then return operand
              let result ← match operation with
                | some operation => do
                    let before ← value valueOf name
                    liftM (operation before operand)
                | none => pure operand
              modify fun state => { state with changed := (name, result) :: state.changed }
              return result
          | none => choice valueOf fuel skips
      | _ => choice valueOf fuel skips

def choice (valueOf : Text → Text) (fuel : Nat) (skips : Bool) : Evaluator Int64 :=
  match fuel with
  | 0 => throw (.expecting "primary")
  | fuel + 1 => do
      let condition ← either valueOf fuel skips
      if ← takeIf "?" then
        let first ← assignment valueOf fuel (skips || condition == 0)
        if !(← takeIf ":") then throw (.expecting "':'")
        let second ← choice valueOf fuel (skips || condition != 0)
        return if condition == 0 then second else first
      else return condition

def either (valueOf : Text → Text) (fuel : Nat) (skips : Bool) : Evaluator Int64 :=
  match fuel with
  | 0 => throw (.expecting "primary")
  | fuel + 1 => do
      let left ← both valueOf fuel skips
      if ← takeIf "||" then
        let right ← either valueOf fuel (skips || left != 0)
        return truth (left != 0 || right != 0)
      else return left

def both (valueOf : Text → Text) (fuel : Nat) (skips : Bool) : Evaluator Int64 :=
  match fuel with
  | 0 => throw (.expecting "primary")
  | fuel + 1 => do
      let left ← level valueOf fuel skips levels
      if ← takeIf "&&" then
        let right ← both valueOf fuel (skips || left == 0)
        return truth (left != 0 && right != 0)
      else return left

/-- The operations of the first level and of the tighter ones. -/
def level (valueOf : Text → Text) (fuel : Nat) (skips : Bool) :
    List (List (Text × Operation)) → Evaluator Int64
  | [] =>
      match fuel with
      | 0 => throw (.expecting "primary")
      | fuel + 1 => operand valueOf fuel skips
  | operations :: tighter =>
      match fuel with
      | 0 => throw (.expecting "primary")
      | fuel + 1 => do
          continueLevel valueOf fuel skips operations tighter
            (← level valueOf fuel skips tighter)

/-- Operations of one level are done from left to right. -/
def continueLevel (valueOf : Text → Text) (fuel : Nat) (skips : Bool)
    (operations : List (Text × Operation)) (tighter : List (List (Text × Operation)))
    (left : Int64) : Evaluator Int64 :=
  match fuel with
  | 0 => throw (.expecting "primary")
  | fuel + 1 => do
      let operation := match (← get).tokens with
        | .symbol symbol :: _ => operations.lookup symbol
        | _ => none
      match operation with
      | none => return left
      | some operation =>
          advance
          let right ← level valueOf fuel skips tighter
          let result ← if skips then pure right else liftM (operation left right)
          continueLevel valueOf fuel skips operations tighter result

def operand (valueOf : Text → Text) (fuel : Nat) (skips : Bool) : Evaluator Int64 :=
  match fuel with
  | 0 => throw (.expecting "primary")
  | fuel + 1 => do
      match (← get).tokens with
      | .number number :: _ =>
          advance
          return number
      | .name name :: _ =>
          advance
          if skips then return 0 else value valueOf name
      | .symbol symbol :: _ =>
          match String.ofList symbol with
          | "(" =>
              advance
              let inner ← assignment valueOf fuel skips
              if ← takeIf ")" then return inner else throw (.expecting "')'")
          | "+" =>
              advance
              operand valueOf fuel skips
          | "-" =>
              advance
              return -(← operand valueOf fuel skips)
          | "!" =>
              advance
              return truth ((← operand valueOf fuel skips) == 0)
          | "~" =>
              advance
              return ~~~(← operand valueOf fuel skips)
          | _ => throw (.expecting "primary")
      | _ => throw (.expecting "primary")

end

/-- The value of an expression, and the variables that it gives new values, in order. Each token
opens at most one reader a level. -/
def evaluate (valueOf : Text → Text) (expression : Text) :
    Except Problem (Int × List (Text × Int)) := do
  let tokens := tokens (expression.length + 1) expression
  let (value, state) ← (assignment valueOf (16 * tokens.length + 16) false).run ⟨tokens, []⟩
  if state.tokens.isEmpty then
    return (value.toInt, state.changed.reverse.map fun (name, value) => (name, value.toInt))
  else throw (.expecting "EOF")

end ShaderCost.Script.Arithmetic
