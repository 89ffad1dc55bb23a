import ShaderCost.Script.Indented.Reader.Terms

/-!
Reading statements, blocks and whole programs.
-/

namespace ShaderCost.Script.Indented.Reader

variable (tools : Tools)

/-! Statements on one line. -/

/-- The operation of a sign that changes what a target has. -/
def updateOf (sign : Text) : Option Operation :=
  match String.ofList sign with
  | "+=" => some .add
  | "-=" => some .subtract
  | "*=" => some .multiply
  | "/=" => some .divide
  | "//=" => some .divideWhole
  | "%=" => some .remainder
  | "**=" => some .power
  | "<<=" => some .shiftUp
  | ">>=" => some .shiftDown
  | "&=" => some .bothBits
  | "|=" => some .eitherBits
  | "^=" => some .differingBits
  | "@=" => some .matrix
  | _ => none

/-- Refuses a term that cannot get a value. -/
def checkTarget (term : Term) : Reader Unit := do
  match untargetable? term with
  | some problem => failWith problem
  | none => pure ()

/-- The terms between signs of an assignment, the last of which is the value. -/
def takeAssigned (fuel : Nat) (before : List Term) : Reader (List Term × Term) :=
  match fuel with
  | 0 => exhausted
  | fuel + 1 => do
      let term ← takeValues tools
      if ← takeSign ['='] then
        checkTarget term
        bindTarget term
        takeAssigned fuel (term :: before)
      else return (before.reverse, term)

/-- A term as a statement, or what is given to it. -/
def takeExpression : Reader (List Statement) := do
  let lexeme ← front
  let isBare := match (← get).rest with
    | name :: next :: _ => (isWord "print" name || isWord "exec" name) && match next.token with
        | .name word => !isKeyword word || word = "not" || word = "lambda" || word = "None"
        | .number _ | .quoted _ _ => true
        | _ => false
    | _ => false
  if isBare then
    let word : Text := if isWord "print" lexeme then "print" else "exec"
    failWith ("Missing parentheses in call to '".toList ++ word ++ "'. Did you mean ".toList ++
      word ++ "(...)?".toList)
  let term ← takeValues tools
  match (← front).token with
  | .sign ['='] =>
      checkTarget term
      drop
      bindTarget term
      let (targets, value) ← takeAssigned tools tools.fuel [term]
      return [.assign lexeme.line targets value]
  | .sign [':'] =>
      match term with
      | .name _ | .attribute _ _ | .subscript _ _ =>
          drop
          bindTarget term
          let annotation ← takeTest tools
          let value ← if ← takeSign ['='] then some <$> takeValues tools else pure none
          return [.annotate lexeme.line term annotation value]
      | _ => fail
  | .sign sign =>
      match updateOf sign with
      | some operation =>
          checkTarget term
          drop
          bindTarget term
          return [.update lexeme.line operation term (← takeValues tools)]
      | none => return [.evaluate lexeme.line term]
  | _ => return [.evaluate lexeme.line term]

/-- A name that something gets here, if another one than its own. -/
def takeAlias : Reader (Option Text) := do
  if ← takeWord "as" then some <$> takeName else return none

def takeModules (fuel : Nat) (before : List (Text × Option Text)) :
    Reader (List (Text × Option Text)) :=
  match fuel with
  | 0 => exhausted
  | fuel + 1 => do
      let name ← takeDotted tools.fuel []
      let given ← takeAlias
      bind [given.getD (name.takeWhile (· != '.'))]
      if ← takeSign [','] then takeModules fuel ((name, given) :: before)
      else return ((name, given) :: before).reverse

/-- The names that are taken from a module, up to a parenthesis if there is one. -/
def takeImported (isEnclosed : Bool) (fuel : Nat) (before : List (Text × Option Text)) :
    Reader (List (Text × Option Text)) :=
  match fuel with
  | 0 => exhausted
  | fuel + 1 => do
      if isEnclosed && (← seesSign [')']) then return before.reverse
      let name ← takeName
      let given ← takeAlias
      bind [given.getD name]
      if ← takeSign [','] then takeImported isEnclosed fuel ((name, given) :: before)
      else return ((name, given) :: before).reverse

/-- Dots in front of the name of a module. -/
def takeDots (fuel : Nat) (before : Text) : Reader Text :=
  match fuel with
  | 0 => return before
  | fuel + 1 => do
      if ← takeSign ['.'] then takeDots fuel ('.' :: before)
      else if ← takeSign ['.', '.', '.'] then takeDots fuel ("...".toList ++ before)
      else return before

def takeFrom (line : Nat) : Reader (List Statement) := do
  let dots ← takeDots tools.fuel []
  let name ← if ← seesWord "import" then pure [] else takeDotted tools.fuel []
  expectWord "import"
  if ← takeSign ['*'] then return [.takeNames line (dots ++ name) [(['*'], none)]]
  let isEnclosed ← takeSign ['(']
  let names ← takeImported isEnclosed tools.fuel []
  if isEnclosed then expectSign [')']
  return [.takeNames line (dots ++ name) names]

def takeNames (fuel : Nat) (before : List Text) : Reader (List Text) :=
  match fuel with
  | 0 => exhausted
  | fuel + 1 => do
      let name ← takeName
      if ← takeSign [','] then takeNames fuel (name :: before)
      else return (name :: before).reverse

/-- The targets between commas. -/
def targetsOf (term : Term) : List Term :=
  match term with
  | .tuple terms => terms
  | term => [term]

/-- A statement without a block. -/
def takeSimple : Reader (List Statement) := do
  let lexeme ← front
  let line := lexeme.line
  let word : Text := match lexeme.token with
    | .name word => word
    | _ => []
  match String.ofList word with
  | "pass" =>
      drop
      return [.pass]
  | "break" =>
      drop
      return [.breakOff]
  | "continue" =>
      drop
      return [.goOn]
  | "return" =>
      if (← get).depth = 0 then failWith "'return' outside function"
      drop
      if ← endsList then return [.giveBack line none]
      else return [.giveBack line (some (← takeValues tools))]
  | "del" =>
      drop
      let target ← takeTuple tools (tools.term 5)
      bindTarget target
      return [.delete line (targetsOf target)]
  | "raise" =>
      drop
      if ← endsList then return [.raise line none none]
      let value ← takeTest tools
      let cause ← if ← takeWord "from" then some <$> takeTest tools else pure none
      return [.raise line (some value) cause]
  | "assert" =>
      drop
      let condition ← takeTest tools
      let message ← if ← takeSign [','] then some <$> takeTest tools else pure none
      return [.assertion line condition message]
  | "import" =>
      drop
      return [.take line (← takeModules tools tools.fuel [])]
  | "from" =>
      drop
      takeFrom tools line
  | "global" | "nonlocal" =>
      drop
      let names ← takeNames tools.fuel []
      modify fun source => { source with foreign := names ++ source.foreign }
      return [.scope (word = "global") names]
  | _ => takeExpression tools

/-- Statements on one line. -/
def takeLine (fuel : Nat) : Reader (List Statement) :=
  match fuel with
  | 0 => exhausted
  | fuel + 1 => do
      let statements ← takeSimple tools
      match (← front).token with
      | .sign [';'] =>
          drop
          match (← front).token with
          | .newline =>
              drop
              return statements
          | _ => return statements ++ (← takeLine fuel)
      | .newline =>
          drop
          return statements
      | .ending => return statements
      | _ => fail

/-! Blocks. -/

/-- What stands behind the colon that ends the head of a statement. -/
def takeBlock (title : Text) (line : Nat) : Reader (List Statement) := do
  expectSign [':']
  match (← get).rest.map Lexeme.token with
  | .newline :: .indent :: _ =>
      drop
      drop
      let statements ← tools.block
      match (← front).token with
      | .dedent =>
          drop
          return statements
      | .ending => return statements
      | _ => fail
  | .newline :: _ =>
      drop
      let lexeme ← front
      throw ⟨"IndentationError", "expected an indented block after ".toList ++ title ++
        " on line ".toList ++ Text.ofNat line, lexeme.line, lexeme.column, lexeme.width⟩
  | _ => takeLine tools tools.fuel

def titled (word : Text) : Text := '\'' :: word ++ "' statement".toList

/-- A choice behind the word that begins it. -/
def takeChoice (word : Text) (fuel : Nat) (line : Nat) : Reader (List Statement) :=
  match fuel with
  | 0 => exhausted
  | fuel + 1 => do
      let condition ← takeTest tools
      let yes ← takeBlock tools (titled word) line
      let next ← front
      if ← takeWord "elif" then
        return [.choose line condition yes (← takeChoice "elif" fuel next.line)]
      else if ← takeWord "else" then
        return [.choose line condition yes (← takeBlock tools (titled "else") next.line)]
      else return [.choose line condition yes []]

/-- What is done where a loop ends by itself. -/
def takeOtherwise : Reader (List Statement) := do
  let next ← front
  if ← takeWord "else" then takeBlock tools (titled "else") next.line else return []

def takeHandlers (fuel : Nat) (before : List Handler) : Reader (List Handler) :=
  match fuel with
  | 0 => exhausted
  | fuel + 1 => do
      let line ← line
      if ← takeWord "except" then
        if ← seesSign [':'] then
          let body ← takeBlock tools (titled "except") line
          takeHandlers fuel (.handler line none none body :: before)
        else
          let types ← takeTuple tools (takeTest tools)
          let name ← takeAlias
          bind name.toList
          let body ← takeBlock tools (titled "except") line
          takeHandlers fuel (.handler line (some types) name body :: before)
      else return before.reverse

def takeAttempt (line : Nat) : Reader (List Statement) := do
  let body ← takeBlock tools (titled "try") line
  let handlers ← takeHandlers tools tools.fuel []
  let otherwise ← takeOtherwise tools
  let next ← front
  let isLast ← takeWord "finally"
  let last ← if isLast then takeBlock tools (titled "finally") next.line else pure []
  if handlers.isEmpty && !isLast then
    failWith "expected 'except' or 'finally' block"
  return [.attempt line body handlers otherwise last]

/-- What a block works with, up to a sign. -/
def takeManagers (fuel : Nat) (managers : List Term) (targets : List (Option Term)) :
    Reader (List Term × List (Option Term)) :=
  match fuel with
  | 0 => exhausted
  | fuel + 1 => do
      let manager ← takeTest tools
      let target ← if ← takeWord "as" then some <$> tools.term 12 else pure none
      match target with
      | some target => bindTarget target
      | none => pure ()
      let managers := manager :: managers
      let targets := target :: targets
      if ← takeSign [','] then
        if ← seesSign [')'] then return (managers.reverse, targets.reverse)
        else takeManagers fuel managers targets
      else return (managers.reverse, targets.reverse)

def takeWith (line : Nat) : Reader (List Statement) := do
  let before ← get
  let enclosed : Reader (List Term × List (Option Term)) := do
    expectSign ['(']
    let found ← takeManagers tools tools.fuel [] []
    expectSign [')']
    if !(← seesSign [':']) then fail
    return found
  let (managers, targets) ← match enclosed.run before with
    | .ok (found, source) => do
        set source
        pure found
    | .error _ => takeManagers tools tools.fuel [] []
  return [.within line managers targets (← takeBlock tools (titled "with") line)]

def takeDefinition (decorators : List Term) (line : Nat) : Reader (List Statement) := do
  let name ← takeName
  expectSign ['(']
  let parameters ← takeParameters tools [')'] true tools.fuel .plain []
  expectSign [')']
  if ← takeSign ['-', '>'] then
    let _ ← takeTest tools
  bind [name]
  let around := (← get).around
  let names := parameters.map Parameter.name
  let (body, own, isSeries) ←
    inRoutine name names (takeBlock tools "function definition" line)
  let number ← addRoutine {
    name, fullName := around ++ name, parameters, body, own, isSeries, line }
  return [.define line name number decorators]

def takeType (decorators : List Term) (line : Nat) : Reader (List Statement) := do
  let name ← takeName
  let (bases, named) ←
    if ← takeSign ['('] then takeArguments tools tools.fuel [] [] else pure ([], [])
  bind [name]
  let outer ← get
  set { outer with around := outer.around ++ name ++ ['.'] }
  let body ← apart (takeBlock tools "class definition" line)
  modify fun source => { source with around := outer.around }
  return [.type line name bases named body decorators]

/-! Choices between patterns. -/

/-- The ways to read shapes that lie inside. -/
structure ShapeTools where
  shape : Reader Shape

/-- The name behind a star. -/
def takeRestName : Reader Text := do
  let name ← takeName
  if name != "_" then bind [name]
  return name

/-- Shapes up to a sign, with the name for those that are not told. -/
def takeShapes (shapes : ShapeTools) (closing : Text) (fuel : Nat) (before : List Shape)
    (rest : Option (Text × List Shape)) : Reader (List Shape × Option (Text × List Shape)) :=
  match fuel with
  | 0 => exhausted
  | fuel + 1 => do
      let finish := match rest with
        | some (name, lead) => (lead, some (name, before.reverse))
        | none => (before.reverse, none)
      if ← takeSign closing then return finish
      let (before, rest) ←
        if ← takeSign ['*'] then
          let name ← takeRestName
          pure (([] : List Shape), some (name, before.reverse))
        else pure ((← shapes.shape) :: before, rest)
      if ← takeSign [','] then takeShapes shapes closing fuel before rest
      else
        expectSign closing
        return match rest with
          | some (name, lead) => (lead, some (name, before.reverse))
          | none => (before.reverse, none)

def sequenceOf (found : List Shape × Option (Text × List Shape)) : Shape :=
  match found with
  | (shapes, none) => .sequence shapes none []
  | (before, some (name, behind)) => .sequence before (some name) behind

def takeTableShape (shapes : ShapeTools) (fuel : Nat) (keys : List Term) (values : List Shape)
    (rest : Option Text) : Reader Shape :=
  match fuel with
  | 0 => exhausted
  | fuel + 1 => do
      if ← takeSign ['\x7d'] then return .table keys.reverse values.reverse rest
      let (keys, values, rest) ←
        if ← takeSign ['*', '*'] then pure (keys, values, some (← takeRestName))
        else
          let key ← tools.term 5
          expectSign [':']
          pure (key :: keys, (← shapes.shape) :: values, rest)
      if ← takeSign [','] then takeTableShape shapes fuel keys values rest
      else
        expectSign ['\x7d']
        return .table keys.reverse values.reverse rest

/-- The shapes of the attributes of a member. -/
def takeMembers (shapes : ShapeTools) (type : Term) (fuel : Nat) (placed : List Shape)
    (names : List Text) (named : List Shape) : Reader Shape :=
  match fuel with
  | 0 => exhausted
  | fuel + 1 => do
      let finish := Shape.member type placed.reverse names.reverse named.reverse
      if ← takeSign [')'] then return finish
      let isNamed := match (← get).rest with
        | _ :: sign :: _ => isSign ['='] sign
        | _ => false
      let (placed, names, named) ←
        if isNamed then
          let name ← takeName
          drop
          pure (placed, name :: names, (← shapes.shape) :: named)
        else pure ((← shapes.shape) :: placed, names, named)
      if ← takeSign [','] then takeMembers shapes type fuel placed names named
      else
        expectSign [')']
        return .member type placed.reverse names.reverse named.reverse

/-- What a name with dots behind it stands for. -/
def takeMemberName (fuel : Nat) (before : Term) : Reader Term :=
  match fuel with
  | 0 => exhausted
  | fuel + 1 => do
      if ← takeSign ['.'] then takeMemberName fuel (.attribute before (← takeName))
      else return before

/-- A shape of its own. -/
def takeClosedShape (shapes : ShapeTools) : Reader Shape := do
  let lexeme ← front
  match lexeme.token with
  | .sign ['('] | .sign ['['] =>
      drop
      let isList := isSign ['['] lexeme
      let before ← get
      let found ← takeShapes shapes (if isList then [']'] else [')']) tools.fuel [] none
      let hasComma := ((before.rest.take (before.rest.length - (← get).rest.length)).any
        fun lexeme => isSign [','] lexeme)
      match found, isList || hasComma with
      | ([shape], none), false => return shape
      | found, _ => return sequenceOf found
  | .sign ['\x7b'] =>
      drop
      takeTableShape tools shapes tools.fuel [] [] none
  | .name name =>
      if isKeyword name then return .value (← tools.term 5)
      else
        let type ← takeMemberName tools.fuel (.name (← takeName))
        if ← takeSign ['('] then takeMembers shapes type tools.fuel [] [] []
        else match type with
          | .name ['_'] => return .any
          | .name name =>
              bind [name]
              return .capture name
          | type => return .value type
  | _ => return .value (← tools.term 6)

def takeEither (shapes : ShapeTools) (fuel : Nat) (before : List Shape) : Reader Shape :=
  match fuel with
  | 0 => exhausted
  | fuel + 1 => do
      let shape ← takeClosedShape tools shapes
      if ← takeSign ['|'] then takeEither shapes fuel (shape :: before)
      else match before with
        | [] => return shape
        | before => return .either (shape :: before).reverse

def takeShape (shapes : ShapeTools) : Reader Shape := do
  let shape ← takeEither tools shapes tools.fuel []
  match ← takeAlias with
  | some name =>
      bind [name]
      return .named shape name
  | none => return shape

def ShapeTools.ofDepth (tools : Tools) : (depth : Nat) → ShapeTools
  | 0 => ⟨exhausted⟩
  | depth + 1 => ⟨fun source => takeShape tools (ofDepth tools depth) source⟩

/-- How deep shapes nest. -/
def deepestShape : Nat := 32

/-- The shape of a case, which may be a sequence without brackets. -/
def takeCaseShape : Reader Shape := do
  let shapes := ShapeTools.ofDepth tools deepestShape
  let item : Reader (Shape × Option Text) := do
    if ← takeSign ['*'] then return (.any, some (← takeRestName))
    else return (← shapes.shape, none)
  let (first, rest) ← item
  if !(← seesSign [',']) && rest.isNone then return first
  let mut before : List Shape := if rest.isNone then [first] else []
  let mut behind : List Shape := []
  let mut name := rest
  for _ in List.range deepestShape do
    if ← takeSign [','] then
      if !((← seesSign [':']) || (← seesWord "if")) then
        match ← item with
        | (_, some found) => name := some found
        | (shape, none) =>
            if name.isNone then before := before ++ [shape] else behind := behind ++ [shape]
  return .sequence before name behind

def takeCases (fuel : Nat) (before : List Case) : Reader (List Case) :=
  match fuel with
  | 0 => exhausted
  | fuel + 1 => do
      let line ← line
      if ← takeWord "case" then
        let shape ← takeCaseShape tools
        let condition ← if ← takeWord "if" then some <$> takeTest tools else pure none
        let body ← takeBlock tools (titled "case") line
        takeCases fuel (.case line shape condition body :: before)
      else return before.reverse

/-- Whether the line that comes next begins a choice between patterns. -/
def seesSelection : Reader Bool := do
  let rest := (← get).rest
  if !isWord "match" (rest.headD default) then return false
  let isEnd (lexeme : Lexeme) : Bool := match lexeme.token with
    | .newline => true
    | _ => false
  let head := rest.takeWhile fun lexeme => !isEnd lexeme
  let behind := rest.drop head.length
  let opens := head.getLast?.any (isSign [':'])
  return opens && 2 < head.length && match behind with
    | _ :: indent :: word :: _ => isWord "case" word && match indent.token with
        | .indent => true
        | _ => false
    | _ => false

def takeSelection (line : Nat) : Reader (List Statement) := do
  drop
  let subject ← takeValues tools
  expectSign [':']
  drop
  drop
  let cases ← takeCases tools tools.fuel []
  match (← front).token with
  | .dedent => drop
  | _ => pure ()
  return [.select line subject cases]

/-! All statements. -/

def takeDecorators (fuel : Nat) (before : List Term) : Reader (List Term) :=
  match fuel with
  | 0 => exhausted
  | fuel + 1 => do
      if ← takeSign ['@'] then
        let term ← takeTest tools
        match (← front).token with
        | .newline => drop
        | _ => fail
        takeDecorators fuel (term :: before)
      else return before.reverse

def takeStatement : Reader (List Statement) := do
  let lexeme ← front
  let line := lexeme.line
  if isSign ['@'] lexeme then
    let decorators ← takeDecorators tools tools.fuel []
    let line ← Reader.line
    let _ ← takeWord "async"
    if ← takeWord "def" then takeDefinition tools decorators line
    else if ← takeWord "class" then takeType tools decorators line
    else fail
  else if ← seesSelection then takeSelection tools line
  else
    let _ ← takeWord "async"
    let word : Text := match (← front).token with
      | .name word => word
      | _ => []
    match String.ofList word with
    | "if" =>
        drop
        takeChoice tools "if" tools.fuel line
    | "while" =>
        drop
        let condition ← takeTest tools
        let body ← takeBlock tools (titled "while") line
        return [.loop line condition body (← takeOtherwise tools)]
    | "for" =>
        drop
        let target ← takeTarget tools
        bindTarget target
        expectWord "in"
        let values ← takeValues tools
        let body ← takeBlock tools (titled "for") line
        return [.forEach line target values body (← takeOtherwise tools)]
    | "try" =>
        drop
        takeAttempt tools line
    | "with" =>
        drop
        takeWith tools line
    | "def" =>
        drop
        takeDefinition tools [] line
    | "class" =>
        drop
        takeType tools [] line
    | _ => takeLine tools tools.fuel

/-- Statements up to the end of a block. -/
def takeStatements (fuel : Nat) (before : List (List Statement)) : Reader (List Statement) :=
  match fuel with
  | 0 => exhausted
  | fuel + 1 => do
      match (← front).token with
      | .dedent | .ending => return before.reverse.flatten
      | _ => takeStatements fuel ((← takeStatement tools) :: before)

/-- The ways to read terms and statements that lie at most that many levels deep inside one
another. -/
def Tools.ofDepth (fuel : Nat) : (depth : Nat) → Tools
  | 0 => ⟨fun _ => exhausted, exhausted, fuel⟩
  | depth + 1 => {
      term := fun level source => takeTerm (ofDepth fuel depth) level source
      block := fun source => takeStatements (ofDepth fuel depth) fuel [] source
      fuel }

/-- How deep a program goes: a term nests by levels of operators. -/
def depthFor (lexemes : List Lexeme) : Nat := 20 * lexemes.length + 100

end Reader

/-- Reads a program whose routines come behind others. -/
def Program.ofText (routines : Array Routine) (text : Text) : Except Flaw Program := do
  let lexemes ← tokensOf text
  let depth := Reader.depthFor lexemes
  let source : Source := ⟨lexemes, routines, [], [], false, [], 0⟩
  let (body, source) ← ((Reader.Tools.ofDepth depth depth).block).run source
  match source.rest.map Lexeme.token with
  | .ending :: _ | [] => return ⟨body, source.routines⟩
  | _ =>
      let lexeme := source.rest.headD default
      throw (.atLine "invalid syntax" lexeme.line lexeme.column lexeme.width)

end ShaderCost.Script.Indented
