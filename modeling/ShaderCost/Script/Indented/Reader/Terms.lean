import ShaderCost.Script.Indented.Reader

/-!
Reading terms. Operators bind in levels; brackets, calls and texts with values in them hold terms
of their own.
-/

namespace ShaderCost.Script.Indented.Reader

/-- The ways to read what lies inside. -/
structure Tools where
  /-- Reads a term whose operators bind at least as tightly as a level says. -/
  term : (level : Nat) → Reader Term
  /-- Reads the statements of a block. -/
  block : Reader (List Statement)
  /-- How often one thing may stand behind another. -/
  fuel : Nat

variable (tools : Tools)

/-- A term with nothing but operators that a value may have. -/
def takeTest : Reader Term := tools.term 0

/-- A value or all values of another one. -/
def takeItem : Reader Term := do
  if ← takeSign ['*'] then return .starred (← tools.term 5) else takeTest tools

/-- Whether the next token ends a list of values. -/
def endsList : Reader Bool := do
  match (← front).token with
  | .newline | .ending => return true
  | .sign sign =>
      return sign.length = 1 && (")]\x7d=:;".toList.elem (sign.headD ' '))
        || (sign.length = 2 && sign.getLast? = some '=' && "+-*/%&|^@".toList.elem (sign.headD ' '))
        || sign = ("**=" : Text) || sign = ("//=" : Text) || sign = ("<<=" : Text)
        || sign = (">>=" : Text)
  | .name name => return name = "in" || name = "for" || name = "if" || name = "else"
  | _ => return false

/-- Values with commas between them, after those before. The result tells whether a comma came
last. -/
def takeItems (item : Reader Term) (fuel : Nat) (before : List Term) : Reader (List Term × Bool) :=
  match fuel with
  | 0 => exhausted
  | fuel + 1 => do
      let term ← item
      if ← takeSign [','] then
        if ← endsList then return ((term :: before).reverse, true)
        else takeItems item fuel (term :: before)
      else return ((term :: before).reverse, false)

/-- A value, or several that make one. -/
def takeTuple (item : Reader Term) : Reader Term := do
  match ← takeItems item tools.fuel [] with
  | ([.starred term], false) => return .starred term
  | ([term], false) => return term
  | (terms, _) => return .tuple terms

/-- A value that a statement works on. -/
def takeValues : Reader Term := do
  if ← seesWord "yield" then takeTest tools
  else takeTuple tools (takeItem tools)

/-- What values are given to. -/
def takeTarget : Reader Term := do
  takeTuple tools do
    if ← takeSign ['*'] then return .starred (← tools.term 5) else tools.term 5

/-! Comprehensions. -/

/-- The conditions behind what a comprehension goes through. -/
def takeConditions (fuel : Nat) (before : List Term) : Reader (List Term) :=
  match fuel with
  | 0 => exhausted
  | fuel + 1 => do
      if ← takeWord "if" then takeConditions fuel ((← tools.term 1) :: before)
      else return before.reverse

def takeClauses (fuel : Nat) (before : List Clause) : Reader (List Clause) :=
  match fuel with
  | 0 => exhausted
  | fuel + 1 => do
      let _ ← takeWord "async"
      if ← takeWord "for" then
        let target ← takeTarget tools
        expectWord "in"
        let values ← tools.term 1
        let conditions ← takeConditions tools tools.fuel []
        takeClauses fuel (.clause target values conditions :: before)
      else return before.reverse

/-- The rest of a comprehension behind its element. -/
def takeComprehension (collecting : Collecting) (element : Term) (value : Option Term) :
    Reader Term := do
  return .comprehension collecting element value (← takeClauses tools tools.fuel [])

/-! Brackets. -/

def seesFor : Reader Bool := do return (← seesWord "for") || (← seesWord "async")

/-- What stands in parentheses, the first of which was taken. -/
def takeParenthesized : Reader Term := do
  if ← takeSign [')'] then return .tuple []
  if ← seesWord "yield" then
    let term ← takeTest tools
    expectSign [')']
    return term
  let first ← takeItem tools
  if ← seesFor then
    let term ← takeComprehension tools .series first none
    expectSign [')']
    return term
  if ← takeSign [','] then
    if ← takeSign [')'] then return .tuple [first]
    let (rest, _) ← takeItems (takeItem tools) tools.fuel []
    expectSign [')']
    return .tuple (first :: rest)
  expectSign [')']
  return first

/-- A list behind its bracket. -/
def takeBracketed : Reader Term := do
  if ← takeSign [']'] then return .list []
  let first ← takeItem tools
  if ← seesFor then
    let term ← takeComprehension tools .list first none
    expectSign [']']
    return term
  if ← takeSign [','] then
    if ← takeSign [']'] then return .list [first]
    let (rest, _) ← takeItems (takeItem tools) tools.fuel []
    expectSign [']']
    return .list (first :: rest)
  expectSign [']']
  return .list [first]

/-- An entry of a table. -/
def takeEntry : Reader Entry := do
  if ← takeSign ['*', '*'] then return .entry none (← tools.term 5)
  else
    let key ← takeTest tools
    expectSign [':']
    return .entry (some key) (← takeTest tools)

def takeEntries (fuel : Nat) (before : List Entry) : Reader (List Entry) :=
  match fuel with
  | 0 => exhausted
  | fuel + 1 => do
      if ← takeSign ['\x7d'] then return before.reverse
      let entry ← takeEntry tools
      if ← takeSign [','] then takeEntries fuel (entry :: before)
      else
        expectSign ['\x7d']
        return (entry :: before).reverse

/-- A table or a set behind its brace. -/
def takeBraced : Reader Term := do
  if ← takeSign ['\x7d'] then return .table []
  if ← seesSign ['*', '*'] then return .table (← takeEntries tools tools.fuel [])
  let first ← takeItem tools
  if ← takeSign [':'] then
    let value ← takeTest tools
    if ← seesFor then
      let term ← takeComprehension tools .table first (some value)
      expectSign ['\x7d']
      return term
    else
      if ← takeSign [','] then
        return .table (.entry (some first) value :: (← takeEntries tools tools.fuel []))
      expectSign ['\x7d']
      return .table [.entry (some first) value]
  else if ← seesFor then
    let term ← takeComprehension tools .set first none
    expectSign ['\x7d']
    return term
  else
    if ← takeSign [','] then
      if ← takeSign ['\x7d'] then return .set [first]
      let (rest, _) ← takeItems (takeItem tools) tools.fuel []
      expectSign ['\x7d']
      return .set (first :: rest)
    expectSign ['\x7d']
    return .set [first]

/-! Texts. -/

/-- Reads the term that a text spells, which stands inside another one. -/
def withinText (text : Text) (line : Nat) (action : Reader Term) : Reader Term := do
  match tokensOf ('(' :: text ++ [')']) with
  | .error flaw => throw { flaw with line, message := "f-string: ".toList ++ flaw.message }
  | .ok lexemes =>
      let outer ← get
      let moved := lexemes.map fun (lexeme : Lexeme) => { lexeme with line := line }
      set { outer with rest := moved }
      let term ← action
      modify fun source => { source with rest := outer.rest }
      return term

/-- The parts of a text with terms in braces. -/
def takeParts (quoting : Quoting) (line : Nat) (fuel : Nat) (text literal : Text) :
    Reader (List Term) :=
  match fuel with
  | 0 => exhausted
  | fuel + 1 => do
      let flushed : List Term :=
        if literal.isEmpty then []
        else [.literal (.text (bodyOf quoting literal.reverse))]
      match text with
      | [] => return flushed
      | '\x7b' :: '\x7b' :: rest => takeParts quoting line fuel rest ('\x7b' :: literal)
      | '\x7d' :: '\x7d' :: rest => takeParts quoting line fuel rest ('\x7d' :: literal)
      | '\x7d' :: _ => failWith "f-string: single '\x7d' is not allowed"
      | '\\' :: c :: rest =>
          if c = '\x7b' then takeParts quoting line fuel (c :: rest) ('\\' :: literal)
          else takeParts quoting line fuel rest (c :: '\\' :: literal)
      | '\x7b' :: rest => do
          let (written, behind) := takeTermText (rest.length + 1) 0 none rest []
          let bare := (written.reverse.dropWhile isBlankOctet).reverse
          let isShown := bare.getLast? = some '=' && !(bare.dropLast.getLast?.any fun c =>
            c = '=' || c = '!' || c = '<' || c = '>')
          let body := if isShown then bare.dropLast else written
          if (body.all isBlankOctet) then
            failWith "f-string: valid expression required before '\x7d'"
          let term ← withinText body line (do
            drop
            let term ← takeValues tools
            expectSign [')']
            return term)
          let (conversion, behind) : Option Char × Text := match behind with
            | '!' :: c :: rest => (some c, rest)
            | behind => (none, behind)
          let (format?, behind) : Option Text × Text := match behind with
            | ':' :: rest =>
                let (format, behind) := takeFormatText (rest.length + 1) 0 rest []
                (some format, behind)
            | behind => (none, behind)
          let format ← match format? with
            | none => pure none
            | some format => do
                let parts ← takeParts quoting line fuel format []
                pure (some (.joined parts))
          let conversion := match conversion, format, isShown with
            | none, none, true => some 'r'
            | conversion, _, _ => conversion
          let lead : List Term := if isShown then [.literal (.text written)] else []
          match behind with
          | '\x7d' :: behind =>
              let rest ← takeParts quoting line fuel behind []
              return flushed ++ lead ++ .shown term conversion format :: rest
          | _ => failWith "f-string: expecting '\x7d'"
      | c :: rest => takeParts quoting line fuel rest (c :: literal)

/-- The parts of one text between quotes. -/
def partsOf (quoting : Quoting) (body : Text) (line : Nat) : Reader (List Term) := do
  if quoting.isFormat then takeParts tools quoting line (body.length + 2) body []
  else if quoting.isOctets then return [.literal (.octets (bodyOf quoting body))]
  else return [.literal (.text (bodyOf quoting body))]

/-- Texts that stand one behind the other. -/
def takeTexts (fuel : Nat) (before : List (List Term)) : Reader Term :=
  match fuel with
  | 0 => exhausted
  | fuel + 1 => do
      let lexeme ← front
      match lexeme.token with
      | .quoted quoting body =>
          drop
          takeTexts fuel ((← partsOf tools quoting body lexeme.line) :: before)
      | _ =>
          let parts := before.reverse.flatten
          let plain := parts.filterMap fun part => match part with
            | .literal (.text text) => some text
            | _ => none
          let octets := parts.filterMap fun part => match part with
            | .literal (.octets text) => some text
            | _ => none
          if !octets.isEmpty && octets.length = parts.length then
            return .literal (.octets octets.flatten)
          else if plain.length = parts.length then return .literal (.text plain.flatten)
          else return .joined parts

/-! Calls and subscripts. -/

/-- The arguments of a call up to its closing parenthesis. -/
def takeArguments (fuel : Nat) (values : List Term) (named : List Argument) :
    Reader (List Term × List Argument) :=
  match fuel with
  | 0 => exhausted
  | fuel + 1 => do
      if ← takeSign [')'] then return (values.reverse, named.reverse)
      let source ← get
      let isNamed := match source.rest with
        | name :: sign :: _ => isSign ['='] sign && match name.token with
            | .name name => !isKeyword name
            | _ => false
        | _ => false
      let (values, named) ←
        if ← takeSign ['*', '*'] then
          let value ← takeTest tools
          pure (values, Argument.argument [] value :: named)
        else if isNamed then
          let name ← takeName
          drop
          let value ← takeTest tools
          pure (values, Argument.argument name value :: named)
        else
          let item ← takeItem tools
          let item ← if ← seesFor then takeComprehension tools .series item none else pure item
          pure (item :: values, named)
      if ← takeSign [','] then takeArguments fuel values named
      else if ← takeSign [')'] then return (values.reverse, named.reverse)
      else failWith "invalid syntax. Perhaps you forgot a comma?"

/-- A part of a subscript: an index or a range. -/
def takeIndex : Reader Term := do
  let part : Reader (Option Term) := do
    if (← seesSign [':']) || (← seesSign [',']) || (← seesSign [']']) then return none
    else return some (← takeTest tools)
  let first ← if ← seesSign [':'] then pure none else some <$> takeItem tools
  if ← takeSign [':'] then
    let last ← part
    let step ← if ← takeSign [':'] then part else pure none
    return .slice first last step
  else match first with
    | some term => return term
    | none => fail

/-- What stands behind a value. -/
def takeTrailers (fuel : Nat) (term : Term) : Reader Term :=
  match fuel with
  | 0 => exhausted
  | fuel + 1 => do
      let lexeme ← front
      match lexeme.token with
      | .sign ['.'] =>
          drop
          match (← front).token with
          | .name name =>
              drop
              takeTrailers fuel (.attribute term name)
          | _ => fail
      | .sign ['('] =>
          drop
          let (values, named) ← takeArguments tools tools.fuel [] []
          takeTrailers fuel (.call lexeme.line term values named)
      | .sign ['['] =>
          drop
          let (items, isTuple) ← takeItems (takeIndex tools) tools.fuel []
          expectSign [']']
          let index : Term := match items, isTuple with
            | [item], false => item
            | items, _ => .tuple items
          takeTrailers fuel (.subscript term index)
      | _ => return term

/-! Routines. -/

/-- The parameters of a routine up to a sign, after those before. -/
def takeParameters (closing : Text) (isTyped : Bool) (fuel : Nat) (passing : Passing)
    (before : List Parameter) : Reader (List Parameter) :=
  match fuel with
  | 0 => exhausted
  | fuel + 1 => do
      let skipType : Reader Unit := do
        if isTyped then
          if ← takeSign [':'] then
            let _ ← takeTest tools
      let usual : Reader (Option Term) := do
        if ← takeSign ['='] then return some (← takeTest tools) else return none
      let goOn (passing : Passing) (before : List Parameter) : Reader (List Parameter) := do
        if ← takeSign [','] then takeParameters closing isTyped fuel passing before
        else if ← seesSign closing then return before.reverse
        else fail
      if ← seesSign closing then return before.reverse
      else if ← takeSign ['*', '*'] then
        let name ← takeName
        skipType
        goOn passing (⟨name, .restNamed, none⟩ :: before)
      else if ← takeSign ['*'] then
        if ← seesSign [','] then goOn .named before
        else
          let name ← takeName
          skipType
          goOn .named (⟨name, .rest, none⟩ :: before)
      else if ← takeSign ['/'] then
        goOn passing (before.map fun parameter => { parameter with passing := .placed })
      else
        let name ← takeName
        skipType
        goOn passing (⟨name, passing, ← usual⟩ :: before)

/-- A routine without a name. -/
def takeLambda : Reader Term := do
  let line ← line
  let parameters ← takeParameters tools [':'] false tools.fuel .plain []
  expectSign [':']
  let names := parameters.map Parameter.name
  let around := (← get).around
  let (term, own, isSeries) ← inRoutine "<lambda>" names (takeTest tools)
  let number ← addRoutine {
    name := "<lambda>", fullName := around ++ "<lambda>".toList, parameters
    body := [.giveBack line (some term)], own, isSeries, line }
  return .routine number

/-! Levels. -/

/-- A value of its own. -/
def takeAtom : Reader Term := do
  let lexeme ← front
  match lexeme.token with
  | .number value =>
      drop
      return .literal value
  | .quoted _ _ => takeTexts tools tools.fuel []
  | .sign ['('] =>
      drop
      takeParenthesized tools
  | .sign ['['] =>
      drop
      takeBracketed tools
  | .sign ['\x7b'] =>
      drop
      takeBraced tools
  | .sign ['.', '.', '.'] =>
      drop
      return .literal .ellipsis
  | .name name =>
      match String.ofList name with
      | "None" =>
          drop
          return .literal .none
      | "True" =>
          drop
          return .literal (.bool true)
      | "False" =>
          drop
          return .literal (.bool false)
      | _ =>
          if isKeyword name then fail
          else
            drop
            return .name name
  | _ => fail

/-- The operators between two values, by the level at which they bind. -/
def operationAt (level : Nat) (sign : Text) : Option Operation :=
  match level, String.ofList sign with
  | 5, "|" => some .eitherBits
  | 6, "^" => some .differingBits
  | 7, "&" => some .bothBits
  | 8, "<<" => some .shiftUp
  | 8, ">>" => some .shiftDown
  | 9, "+" => some .add
  | 9, "-" => some .subtract
  | 10, "*" => some .multiply
  | 10, "/" => some .divide
  | 10, "//" => some .divideWhole
  | 10, "%" => some .remainder
  | 10, "@" => some .matrix
  | _, _ => none

/-- Goes on behind a value with operators of one level. -/
def goOn (level : Nat) (fuel : Nat) (left : Term) : Reader Term :=
  match fuel with
  | 0 => exhausted
  | fuel + 1 => do
      match (← front).token with
      | .sign sign =>
          match operationAt level sign with
          | some operation =>
              drop
              let right ← tools.term (level + 1)
              goOn level fuel (.compute operation left right)
          | none => return left
      | _ => return left

/-- The comparison that comes next, if one does. -/
def takeComparison? : Reader (Option Comparison) := do
  match (← get).rest.map Lexeme.token with
  | .sign sign :: _ =>
      let found : Option Comparison := match String.ofList sign with
        | "<" => some .less
        | "<=" => some .atMost
        | "==" => some .same
        | "!=" => some .different
        | ">" => some .greater
        | ">=" => some .atLeast
        | _ => none
      if found.isSome then drop
      return found
  | .name ['i', 'n'] :: _ =>
      drop
      return some (.isIn true)
  | .name ['n', 'o', 't'] :: .name ['i', 'n'] :: _ =>
      drop
      drop
      return some (.isIn false)
  | .name ['i', 's'] :: .name ['n', 'o', 't'] :: _ =>
      drop
      drop
      return some (.isThat false)
  | .name ['i', 's'] :: _ =>
      drop
      return some (.isThat true)
  | _ => return none

def takeComparisons (fuel : Nat) (before : List Compared) : Reader (List Compared) :=
  match fuel with
  | 0 => exhausted
  | fuel + 1 => do
      match ← takeComparison? with
      | some comparison =>
          let term ← tools.term 5
          takeComparisons fuel (.compared comparison term :: before)
      | none => return before.reverse

/-- Goes on with a word between conditions. -/
def goOnWord (word : Text) (level : Nat) (join : Term → Term → Term) (fuel : Nat) (left : Term) :
    Reader Term :=
  match fuel with
  | 0 => exhausted
  | fuel + 1 => do
      if ← takeWord word then
        let right ← tools.term (level + 1)
        goOnWord word level join fuel (join left right)
      else return left

/-- A term whose operators bind at least as tightly as a level says. -/
def takeTerm (level : Nat) : Reader Term := do
  match level with
  | 0 =>
      if ← takeWord "lambda" then takeLambda tools
      else if ← takeWord "yield" then
        modify fun source => { source with isSeries := true }
        if ← takeWord "from" then return .yieldsFrom (← takeTest tools)
        else if ← endsList then return .yields none
        else return .yields (some (← takeTuple tools (takeItem tools)))
      else
        let term ← tools.term 1
        if ← takeWord "if" then
          let condition ← tools.term 1
          if !(← takeWord "else") then
            failWith "expected 'else' after 'if' expression"
          return .choose condition term (← takeTest tools)
        else match term with
          | .name name =>
              if ← takeSign [':', '='] then
                bind [name]
                return .assigned name (← takeTest tools)
              else return term
          | term => return term
  | 1 => goOnWord tools "or" 1 .either tools.fuel (← tools.term 2)
  | 2 => goOnWord tools "and" 2 .both tools.fuel (← tools.term 3)
  | 3 => if ← takeWord "not" then return .not (← tools.term 3) else tools.term 4
  | 4 =>
      let first ← tools.term 5
      match ← takeComparisons tools tools.fuel [] with
      | [] => return first
      | rest => return .compare first rest
  | 11 =>
      if ← takeSign ['-'] then return .signed .minus (← tools.term 11)
      else if ← takeSign ['+'] then return .signed .plus (← tools.term 11)
      else if ← takeSign ['~'] then return .signed .complement (← tools.term 11)
      else tools.term 12
  | 12 =>
      let _ ← takeWord "await"
      let base ← takeTrailers tools tools.fuel (← takeAtom tools)
      if ← takeSign ['*', '*'] then return .compute .power base (← tools.term 11)
      else return base
  | level => goOn tools level tools.fuel (← tools.term (level + 1))

end ShaderCost.Script.Indented.Reader
