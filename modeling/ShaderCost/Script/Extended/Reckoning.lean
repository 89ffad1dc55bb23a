import ShaderCost.Script.Arithmetic
import ShaderCost.Script.Shell

/-!
Arithmetic of the extended language. Beside the operations on whole numbers of 64 bits there are
powers, counting up and down, sequences, numbers of any base up to 64 and elements of lists; the
value of a variable may be an expression again.
-/

namespace ShaderCost.Script.Reckoning

/-- What an expression is made of. -/
inductive Token where
  | finish
  | number (value : Int64)
  /-- A variable or an element of a list, with its value. -/
  | place (name : Text) (subscript : Option Text) (value : Int64)
  | symbol (text : Text)
  /-- Counts a variable up or down, in front of it or behind it. -/
  | counting (isFront isUp : Bool)
  deriving DecidableEq

structure State where
  expression : Text
  /-- What is behind the token that comes next. -/
  rest : Text
  /-- What begins with the token that was read last. -/
  marked : Text
  next : Token
  /-- The token before, or a number where an operation was done. -/
  previous : Token

abbrev Reckoner := StateT State Step

/-- Complains of an expression, from the token that was read last on. -/
def refuse {α : Type} (problem : String) : Reckoner α := do
  let state ← get
  let expression := state.expression.dropWhile isSpace
  liftM (fail (expression ++ ": ".toList ++ problem.toList ++ " (error token is \"".toList ++
    state.marked ++ "\")".toList) : Step α)

/-! Places of values. -/

/-- The value of an element of a list. A plain value is a list of one. -/
def element? (inner : Text → Step Int64) (name subscript : Text) : Step (Option Text) := do
  match (← get).list? name with
  | some (.keyed elements) => return elements.lookup subscript
  | some list =>
      match list.place? (← inner subscript).toInt with
      | some place => return list.numberedAt? place
      | none =>
          complain (name ++ ": bad array subscript")
          return none
  | none =>
      let number ← inner subscript
      let value := (← get).value? name
      return if number = 0 || number = -1 then value else none

/-- The value that a variable takes, as its traits say. -/
def shaped (inner : Text → Step Int64) (binding : Binding) (value : Text) : Step Text := do
  if binding.traits.elem 'i' then return Text.ofInt (← inner value).toInt
  else if binding.traits.elem 'l' then return value.map Char.toLower
  else if binding.traits.elem 'u' then return value.map Char.toUpper
  else return value

/-- A value behind another one or, of numbers, their sum. -/
def joined (inner : Text → Step Int64) (binding : Binding) (before : Option Text) (value : Text) :
    Step Text := do
  match before with
  | none => return value
  | some before =>
      if binding.traits.elem 'i' then
        return Text.ofInt ((← inner before) + (← inner value)).toInt
      else return before ++ value

/-- Gives a variable a value or, where `appends` is set, adds to the one it has. -/
def setValue (inner : Text → Step Int64) (name value : Text) (appends : Bool) : Step Unit := do
  let shell ← get
  let binding := (shell.binding? (shell.resolve name)).getD .bare
  if binding.traits.isEmpty && !appends then assign name value
  else
    let value ← if appends then joined inner binding binding.shown value else pure value
    assign name (← shaped inner binding value)

/-- Gives an element of a list a value or adds to the one it has. -/
def setElement (inner : Text → Step Int64) (name subscript value : Text) (appends : Bool) :
    Step Unit := do
  let shell ← get
  let binding := (shell.binding? (shell.resolve name)).getD .bare
  let list : Listing := match binding.list, binding.value with
    | some list, _ => list
    | none, some value => .ofTexts [value]
    | none, none => .empty
  match list with
  | .keyed elements =>
      let value ← if appends then joined inner binding (elements.lookup subscript) value
        else pure value
      assignList name (list.setKeyed subscript (← shaped inner binding value))
  | list =>
      match list.place? (← inner subscript).toInt with
      | some place =>
          let value ← if appends then joined inner binding (list.numberedAt? place) value
            else pure value
          assignList name (list.setNumbered place (← shaped inner binding value))
      | none => fail (name ++ '[' :: subscript ++ "]: bad array subscript".toList)

/-- The number that a variable or an element stands for. -/
def numberAt (inner : Text → Step Int64) (name : Text) (subscript : Option Text) : Step Int64 := do
  let found ← match subscript with
    | some subscript => element? inner name subscript
    | none => do
        let shell ← get
        pure (shell.value? name)
  match found with
  | some value => if value.isEmpty then return 0 else inner value
  | none =>
      if (← get).hasOption 'u' then failDemand (name ++ ": unbound variable")
      return 0

/-- Gives a number to a variable or an element. -/
def setNumber (inner : Text → Step Int64) (name : Text) (subscript : Option Text)
    (value : Int64) : Step Unit :=
  match subscript with
  | some subscript => setElement inner name subscript (Text.ofInt value.toInt) false
  | none => setValue inner name (Text.ofInt value.toInt) false

/-! Tokens. -/

/-- The value of a digit in a base; large letters are digits of their own above base 36. -/
def digit (base : Nat) (c : Char) : Nat :=
  if c.isDigit then c.toNat - '0'.toNat
  else if c.isLower then c.toNat - 'a'.toNat + 10
  else if c.isUpper then c.toNat - 'A'.toNat + (if base ≤ 36 then 10 else 36)
  else if c = '@' then 62
  else 63

def isNumberChar (c : Char) : Bool := c.isAlphanum || c = '#' || c = '@' || c = '_'

/-- The number that digits spell, which may name their base in front. -/
def numberOf (text : Text) : Except String Int64 :=
  let digits (base : Nat) (text : Text) : Except String Int64 :=
    if text.elem '#' then .error "invalid number"
    else if text.any fun c => base ≤ digit base c then .error "value too great for base"
    else .ok (text.foldl (fun value c =>
      value * Int64.ofNat base + Int64.ofNat (digit base c)) 0)
  match text with
  | '0' :: x :: rest =>
      if x = 'x' || x = 'X' then
        if rest.isEmpty then .error "invalid number" else digits 16 rest
      else digits 8 (x :: rest)
  | _ =>
      match Text.splitAt? '#' text with
      | none => digits 10 text
      | some (base, rest) => do
          let base := (← digits 10 base).toInt
          if base < 2 || 64 < base then throw "invalid arithmetic base"
          if rest.isEmpty || rest.head? = some '#' then throw "invalid integer constant"
          digits base.toNat rest

/-- A subscript up to its closing bracket, and what is behind it. -/
def takeSubscript? : (depth : Nat) → Text → (before : Text) → Option (Text × Text)
  | _, [], _ => none
  | depth, c :: rest, before =>
      if c = '[' then takeSubscript? (depth + 1) rest (c :: before)
      else if c = ']' then
        match depth with
        | 0 => some (before.reverse, rest)
        | depth + 1 => takeSubscript? depth rest (c :: before)
      else takeSubscript? depth rest (c :: before)

/-- Symbols, longer ones before those that they start with. -/
def symbols : List Text :=
  let longest : List Text := ["<<=", ">>="]
  let doubled : List Text :=
    ["<<", ">>", "<=", ">=", "==", "!=", "&&", "||", "**", "|=", "^=", "&=", "+=", "-="]
  let others : List Text :=
    ["*=", "/=", "%=", "<", ">", "=", "!", "&", "|", "^", "+", "-", "*", "/", "%", "~", "?", ":"]
  longest ++ doubled ++ others ++ ["(".toList, ")".toList, ",".toList]

/-- Symbols that the operand of an expression comes behind. -/
def awaitsOperand : Token → Bool
  | .finish => true
  | .symbol text => text != ")"
  | _ => false

/-- Reads the next token. Where `skips` is set, variables have no values. -/
def advance (inner : Text → Step Int64) (skips : Bool) : Reckoner Unit := do
  let state ← get
  let text := state.rest.dropWhile isSpace
  let found (token : Token) (rest : Text) : Reckoner Unit :=
    set { state with rest, marked := text, next := token, previous := state.next }
  match text with
  | [] => set { state with rest := [], next := .finish, previous := state.next }
  | c :: behind =>
      if isNameStart c then
        let name := text.takeWhile isNameChar
        let rest := text.drop name.length
        let subscript? := match rest with
          | '[' :: behind => takeSubscript? 0 behind []
          | _ => none
        let (subscript, rest) : Option Text × Text := match subscript? with
          | some (subscript, rest) => (some subscript, rest)
          | none => (none, rest)
        set { state with rest, marked := text }
        let isAssigned := match rest.dropWhile isSpace with
          | '=' :: '=' :: _ => false
          | '=' :: _ => true
          | _ => false
        let value ← if skips || isAssigned then pure 0
          else (liftM (numberAt inner name subscript) : Reckoner Int64)
        found (.place name subscript value) rest
      else if c.isDigit then
        let digits := text.takeWhile isNumberChar
        match numberOf digits with
        | .ok value => found (.number value) (text.drop digits.length)
        | .error problem =>
            let length := state.expression.length - text.length + digits.length
            set { state with marked := digits, expression := state.expression.take length }
            refuse problem
      else if (c = '+' || c = '-') && behind.head? = some c then
        let rest := behind.drop 1
        match state.next with
        | .place _ _ _ => found (.counting false (c = '+')) rest
        | .number _ =>
            set { state with marked := text }
            refuse (if c = '+' then "++: assignment requires lvalue"
              else "--: assignment requires lvalue")
        | _ =>
            if ((rest.dropWhile isSpace).head?).any isNameStart then
              found (.counting true (c = '+')) rest
            else found (.symbol [c]) behind
      else
        match symbols.find? fun symbol => symbol.isPrefixOf text with
        | some symbol => found (.symbol symbol) (text.drop symbol.length)
        | none =>
            set { state with marked := text }
            refuse (if awaitsOperand state.next then "syntax error: operand expected"
              else "syntax error: invalid arithmetic operator")

/-! Expressions. -/

/-- Takes a symbol if it comes next. -/
def isNext (symbol : Text) : Reckoner Bool := do return (← get).next = .symbol symbol

/-- Marks what was read last as a result, to which nothing can be assigned. -/
def settle : Reckoner Unit := modify fun state => { state with previous := .number 0 }

/-- A power by repeated squares; the exponent has at most `bits` binary digits. -/
def powerOf : (bits : Nat) → (base : Int64) → (exponent : Nat) → Int64
  | 0, _, _ => 1
  | bits + 1, base, exponent =>
      let rest := powerOf bits (base * base) (exponent / 2)
      if exponent % 2 = 0 then rest else base * rest

/-- An operation on two values. -/
def combine (skips : Bool) (operation : Arithmetic.Operation) (marked : Text)
    (left right : Int64) : Reckoner Int64 := do
  if skips then return right
  match operation left right with
  | .ok value => return value
  | .error _ =>
      modify fun state => { state with marked := marked.dropWhile isSpace }
      refuse "division by 0"

mutual

/-- Expressions one behind the other, of which the last one counts. -/
def sequence (inner : Text → Step Int64) (fuel : Nat) (skips : Bool) : Reckoner Int64 :=
  match fuel with
  | 0 => refuse "expression recursion level exceeded"
  | fuel + 1 => do
      let value ← assignment inner fuel skips
      if ← isNext "," then
        advance inner skips
        sequence inner fuel skips
      else return value

def assignment (inner : Text → Step Int64) (fuel : Nat) (skips : Bool) : Reckoner Int64 :=
  match fuel with
  | 0 => refuse "expression recursion level exceeded"
  | fuel + 1 => do
      let value ← choice inner fuel skips
      let state ← get
      let operation? := match state.next with
        | .symbol symbol => Arithmetic.assignment? symbol
        | _ => none
      match operation?, state.previous with
      | none, _ => return value
      | some operation, .place name subscript _ =>
          let marked := state.rest
          advance inner skips
          let operand ← assignment inner fuel skips
          let result ← match operation with
            | some operation => combine skips operation marked value operand
            | none => pure operand
          if !skips then (liftM (setNumber inner name subscript result) : Reckoner Unit)
          settle
          return result
      | some _, _ => refuse "attempted assignment to non-variable"

def choice (inner : Text → Step Int64) (fuel : Nat) (skips : Bool) : Reckoner Int64 :=
  match fuel with
  | 0 => refuse "expression recursion level exceeded"
  | fuel + 1 => do
      let condition ← either inner fuel skips
      if !(← isNext "?") then return condition
      let skipsFirst := skips || condition == 0
      advance inner skipsFirst
      let isEmpty ← do
        let state ← get
        pure (state.next = .finish || state.next = .symbol ":")
      if isEmpty then refuse "expression expected"
      let first ← sequence inner fuel skipsFirst
      if !(← isNext ":") then refuse "\x60:' expected for conditional expression"
      let skipsSecond := skips || condition != 0
      advance inner skipsSecond
      if (← get).next = .finish then refuse "expression expected"
      let second ← choice inner fuel skipsSecond
      settle
      return if condition == 0 then second else first

def either (inner : Text → Step Int64) (fuel : Nat) (skips : Bool) : Reckoner Int64 :=
  match fuel with
  | 0 => refuse "expression recursion level exceeded"
  | fuel + 1 => do continueEither inner fuel skips (← both inner fuel skips)

def continueEither (inner : Text → Step Int64) (fuel : Nat) (skips : Bool) (left : Int64) :
    Reckoner Int64 :=
  match fuel with
  | 0 => refuse "expression recursion level exceeded"
  | fuel + 1 => do
      if !(← isNext "||") then return left
      let skipsRight := skips || left != 0
      advance inner skipsRight
      let right ← both inner fuel skipsRight
      settle
      continueEither inner fuel skips (Arithmetic.truth (left != 0 || right != 0))

def both (inner : Text → Step Int64) (fuel : Nat) (skips : Bool) : Reckoner Int64 :=
  match fuel with
  | 0 => refuse "expression recursion level exceeded"
  | fuel + 1 => do continueBoth inner fuel skips (← level inner fuel skips Arithmetic.levels)

def continueBoth (inner : Text → Step Int64) (fuel : Nat) (skips : Bool) (left : Int64) :
    Reckoner Int64 :=
  match fuel with
  | 0 => refuse "expression recursion level exceeded"
  | fuel + 1 => do
      if !(← isNext "&&") then return left
      let skipsRight := skips || left == 0
      advance inner skipsRight
      let right ← level inner fuel skipsRight Arithmetic.levels
      settle
      continueBoth inner fuel skips (Arithmetic.truth (left != 0 && right != 0))

/-- The operations of the first level and of the tighter ones. -/
def level (inner : Text → Step Int64) (fuel : Nat) (skips : Bool) :
    List (List (Text × Arithmetic.Operation)) → Reckoner Int64
  | [] =>
      match fuel with
      | 0 => refuse "expression recursion level exceeded"
      | fuel + 1 => raised inner fuel skips
  | operations :: tighter =>
      match fuel with
      | 0 => refuse "expression recursion level exceeded"
      | fuel + 1 => do
          continueLevel inner fuel skips operations tighter (← level inner fuel skips tighter)

def continueLevel (inner : Text → Step Int64) (fuel : Nat) (skips : Bool)
    (operations : List (Text × Arithmetic.Operation))
    (tighter : List (List (Text × Arithmetic.Operation))) (left : Int64) : Reckoner Int64 :=
  match fuel with
  | 0 => refuse "expression recursion level exceeded"
  | fuel + 1 => do
      let state ← get
      let operation? := match state.next with
        | .symbol symbol => operations.lookup symbol
        | _ => none
      match operation? with
      | none => return left
      | some operation =>
          let marked := state.rest
          advance inner skips
          let right ← level inner fuel skips tighter
          let result ← combine skips operation marked left right
          settle
          continueLevel inner fuel skips operations tighter result

/-- Powers group to the right. -/
def raised (inner : Text → Step Int64) (fuel : Nat) (skips : Bool) : Reckoner Int64 :=
  match fuel with
  | 0 => refuse "expression recursion level exceeded"
  | fuel + 1 => do
      let base ← operand inner fuel skips
      if !(← isNext "**") then return base
      advance inner skips
      let exponent ← raised inner fuel skips
      settle
      if exponent < 0 then refuse "exponent less than 0"
      return powerOf 64 base exponent.toInt.toNat

def operand (inner : Text → Step Int64) (fuel : Nat) (skips : Bool) : Reckoner Int64 :=
  match fuel with
  | 0 => refuse "expression recursion level exceeded"
  | fuel + 1 => do
      match (← get).next with
      | .number value =>
          advance inner skips
          return value
      | .place name subscript value =>
          advance inner skips
          match (← get).next with
          | .counting false isUp =>
              let changed := if isUp then value + 1 else value - 1
              if !skips then (liftM (setNumber inner name subscript changed) : Reckoner Unit)
              modify fun state => { state with next := .number 0 }
              advance inner skips
              return value
          | _ => return value
      | .counting _ isUp =>
          advance inner skips
          match (← get).next with
          | .place name subscript value =>
              let changed := if isUp then value + 1 else value - 1
              if !skips then (liftM (setNumber inner name subscript changed) : Reckoner Unit)
              modify fun state => { state with next := .number 0 }
              advance inner skips
              return changed
          | _ => refuse "identifier expected after pre-increment or pre-decrement"
      | .symbol symbol =>
          let alone (operation : Int64 → Int64) : Reckoner Int64 := do
            let value ← operand inner fuel skips
            settle
            return operation value
          match String.ofList symbol with
          | "(" =>
              advance inner skips
              let value ← sequence inner fuel skips
              if !(← isNext ")") then refuse "missing \x60)'"
              advance inner skips
              return value
          | "+" =>
              advance inner skips
              alone id
          | "-" =>
              advance inner skips
              alone fun value => -value
          | "!" =>
              advance inner skips
              alone fun value => Arithmetic.truth (value == 0)
          | "~" =>
              advance inner skips
              alone fun value => ~~~value
          | _ => refuse "syntax error: operand expected"
      | .finish => refuse "syntax error: operand expected"

end

/-- The value of an expression as a whole. Nothing counts as zero. -/
def whole (inner : Text → Step Int64) (expression : Text) : Step Int64 := do
  if expression.all isSpace then return 0
  spend (expression.length / charactersPerTurn)
  let action : Reckoner Int64 := do
    advance inner false
    let value ← sequence inner (24 * expression.length + 64) false
    if (← get).next != .finish then refuse "syntax error in expression"
    return value
  let (value, _) ← action.run ⟨expression, expression, [], .finish, .finish⟩
  return value

/-- How often the value of a variable may be an expression inside another one. -/
def deepest : Nat := 1024

def within : (depth : Nat) → Text → Step Int64
  | 0, expression => fail (expression ++
      ": expression recursion level exceeded (error token is \"" ++
      expression ++ "\")")
  | depth + 1, expression => whole (within depth) expression

def evaluate (expression : Text) : Step Int64 := within deepest expression

end ShaderCost.Script.Reckoning
