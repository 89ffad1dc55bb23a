import ShaderCost.Script.Indented.Syntax
import ShaderCost.Script.Indented.Value

/-!
The small steps of reading a program from its tokens, and the names that its routines bind.
-/

namespace ShaderCost.Script.Indented

/-- A program in the making. -/
structure Source where
  rest : List Lexeme
  routines : Array Routine
  /-- The names that the routine at hand binds, and those that it says to belong elsewhere. -/
  bound : List Text
  foreign : List Text
  isSeries : Bool
  /-- What is around, with a dot at its end. -/
  around : Text
  /-- How many routines are around. -/
  depth : Nat

abbrev Reader := StateT Source (Except Flaw)

namespace Reader

def front : Reader Lexeme := do return (← get).rest.headD default

/-- The line of the next token. -/
def line : Reader Nat := do return (← front).line

/-- Gives up at the next token. -/
def failWith {α : Type} (message : Text) : Reader α := do
  let lexeme ← front
  match lexeme.token with
  | .indent => throw ⟨"IndentationError", "unexpected indent", lexeme.line, lexeme.column, 0⟩
  | _ => throw (.atLine message lexeme.line lexeme.column lexeme.width)

def fail {α : Type} : Reader α := failWith "invalid syntax"

def exhausted {α : Type} : Reader α := failWith "too many nested parentheses"

def drop : Reader Unit := modify fun source => { source with rest := source.rest.drop 1 }

def isSign (mark : Text) (lexeme : Lexeme) : Bool :=
  match lexeme.token with
  | .sign sign => sign = mark
  | _ => false

def isWord (word : Text) (lexeme : Lexeme) : Bool :=
  match lexeme.token with
  | .name name => name = word
  | _ => false

def seesSign (mark : Text) : Reader Bool := do return isSign mark (← front)

def seesWord (word : Text) : Reader Bool := do return isWord word (← front)

/-- Goes behind a sign, if it comes next. -/
def takeSign (mark : Text) : Reader Bool := do
  if ← seesSign mark then
    drop
    return true
  else return false

/-- Goes behind a word, if it comes next. -/
def takeWord (word : Text) : Reader Bool := do
  if ← seesWord word then
    drop
    return true
  else return false

def expectSign (mark : Text) : Reader Unit := do
  if !(← takeSign mark) then
    if mark = [':'] then failWith "expected ':'" else fail

def expectWord (word : Text) : Reader Unit := do
  if !(← takeWord word) then fail

/-- Words that cannot be names. -/
def keywords : List Text := [
  "False", "None", "True", "and", "as", "assert", "async", "await", "break", "class", "continue",
  "def", "del", "elif", "else", "except", "finally", "for", "from", "global", "if", "import"]

def furtherKeywords : List Text := [
  "in", "is", "lambda", "nonlocal", "not", "or", "pass", "raise", "return", "try", "while", "with",
  "yield"]

def isKeyword (word : Text) : Bool := keywords.elem word || furtherKeywords.elem word

/-- The name that comes next, if one does. -/
def nextName? : Reader (Option Text) := do
  match (← front).token with
  | .name name => return if isKeyword name then none else some name
  | _ => return none

def takeName : Reader Text := do
  match ← nextName? with
  | some name =>
      drop
      return name
  | none => fail

/-- A name that may have parts with dots between them, after what was read of it. -/
def takeDotted : (fuel : Nat) → (before : Text) → Reader Text
  | 0, before => return before
  | fuel + 1, before => do
      let name := before ++ (← takeName)
      if ← takeSign ['.'] then takeDotted fuel (name ++ ['.']) else return name

/-! Names that are bound. -/

/-- The names that a value is given to where a term is the target. -/
def targetNames : (fuel : Nat) → Term → List Text
  | 0, _ => []
  | fuel + 1, term =>
      match term with
      | .name name => [name]
      | .tuple items | .list items => items.flatMap (targetNames fuel)
      | .starred term => targetNames fuel term
      | _ => []

/-- How deep targets nest. -/
def deepestTarget : Nat := 32

def bind (names : List Text) : Reader Unit := modify fun source =>
  { source with bound := names ++ source.bound }

def bindTarget (target : Term) : Reader Unit := bind (targetNames deepestTarget target)

/-- What cannot get a value, in words, where a term is no target. -/
def untargetable? (term : Term) : Option Text :=
  match term with
  | .literal value =>
      match value with
      | .bool true => some "cannot assign to True"
      | .bool false => some "cannot assign to False"
      | .none => some "cannot assign to None"
      | .ellipsis => some "cannot assign to ellipsis here. Maybe you meant '==' instead of '='?"
      | _ => some "cannot assign to literal here. Maybe you meant '==' instead of '='?"
  | .call _ _ _ _ =>
      some "cannot assign to function call here. Maybe you meant '==' instead of '='?"
  | .compute _ _ _ | .signed _ _ =>
      some "cannot assign to expression here. Maybe you meant '==' instead of '='?"
  | .compare _ _ => some "cannot assign to comparison"
  | _ => none

/-- Reads in a routine of its own. The result has the names that it binds and whether it is a
series. -/
def inRoutine {α : Type} (name : Text) (parameters : List Text) (action : Reader α) :
    Reader (α × List Text × Bool) := do
  let outer ← get
  set { outer with
    bound := [], foreign := [], isSeries := false, depth := outer.depth + 1
    around := outer.around ++ name ++ ".<locals>.".toList }
  let result ← action
  let inner ← get
  set { inner with
    bound := outer.bound, foreign := outer.foreign, isSeries := outer.isSeries
    around := outer.around, depth := outer.depth }
  let own := (parameters ++ inner.bound.filter fun name => !inner.foreign.elem name).eraseDups
  return (result, own, inner.isSeries)

/-- Keeps names that are bound meanwhile to itself. -/
def apart {α : Type} (action : Reader α) : Reader α := do
  let bound := (← get).bound
  let result ← action
  modify fun source => { source with bound }
  return result

def addRoutine (routine : Routine) : Reader Nat := do
  let source ← get
  set { source with routines := source.routines.push routine }
  return source.routines.size

/-! Escapes. -/

/-- The character that digits behind a backslash spell. -/
def codeOf (digits : Text) : Char := charOfCode (digitsIn 16 digits)

/-- A text between quotes with its escapes resolved. -/
def unescaped (isOctets : Bool) : (fuel : Nat) → Text → Text
  | 0, _ | _ + 1, [] => []
  | fuel + 1, '\\' :: c :: rest =>
      let hexadecimal (count : Nat) : Text :=
        let digits := (rest.take count).takeWhile isHexDigit
        if digits.length < count then '\\' :: c :: unescaped isOctets fuel rest
        else codeOf digits :: unescaped isOctets fuel (rest.drop count)
      let plain (d : Char) : Text := d :: unescaped isOctets fuel rest
      match c with
      | '\n' => unescaped isOctets fuel rest
      | '\\' => plain '\\'
      | '\'' => plain '\''
      | '"' => plain '"'
      | 'n' => plain '\n'
      | 't' => plain '\t'
      | 'r' => plain '\r'
      | 'a' => plain '\x07'
      | 'b' => plain '\x08'
      | 'f' => plain '\x0c'
      | 'v' => plain '\x0b'
      | 'x' => hexadecimal 2
      | 'u' => if isOctets then '\\' :: c :: unescaped isOctets fuel rest else hexadecimal 4
      | 'U' => if isOctets then '\\' :: c :: unescaped isOctets fuel rest else hexadecimal 8
      | c =>
          if isOctalDigit c then
            let digits := ((c :: rest).take 3).takeWhile isOctalDigit
            Char.ofNat (digitsIn 8 digits) ::
              unescaped isOctets fuel ((c :: rest).drop digits.length)
          else '\\' :: c :: unescaped isOctets fuel rest
  | fuel + 1, c :: rest => c :: unescaped isOctets fuel rest

def bodyOf (quoting : Quoting) (body : Text) : Text :=
  if quoting.isRaw then body else unescaped quoting.isOctets (body.length + 1) body

/-! Texts with values put in. -/

/-- A text up to the end of a term in it, which a sign at the outermost level makes, with what
follows. The text before it comes with its last character first. -/
def takeTermText : (fuel : Nat) → (depth : Nat) → (quote : Option Char) → Text → (before : Text) →
    Text × Text
  | 0, _, _, text, before => (before.reverse, text)
  | _ + 1, _, _, [], before => (before.reverse, [])
  | fuel + 1, depth, some quote, c :: rest, before =>
      takeTermText fuel depth (if c = quote then none else some quote) rest (c :: before)
  | fuel + 1, depth, none, c :: rest, before =>
      if c = '"' || c = '\'' then takeTermText fuel depth (some c) rest (c :: before)
      else if c = '(' || c = '[' || c = '\x7b' then
        takeTermText fuel (depth + 1) none rest (c :: before)
      else if depth != 0 then
        let depth := if c = ')' || c = ']' || c = '\x7d' then depth - 1 else depth
        takeTermText fuel depth none rest (c :: before)
      else if c = '!' && rest.head? = some '=' then
        takeTermText fuel depth none (rest.drop 1) ('=' :: c :: before)
      else if (c = '=' || c = '<' || c = '>') && rest.head? = some '=' then
        takeTermText fuel depth none (rest.drop 1) ('=' :: c :: before)
      else if c = '\x7d' || c = '!' || c = ':' then (before.reverse, c :: rest)
      else takeTermText fuel depth none rest (c :: before)

/-- A format up to the brace that ends it, with what follows. -/
def takeFormatText : (fuel : Nat) → (depth : Nat) → Text → (before : Text) → Text × Text
  | 0, _, text, before => (before.reverse, text)
  | _ + 1, _, [], before => (before.reverse, [])
  | fuel + 1, depth, c :: rest, before =>
      if c = '\x7b' then takeFormatText fuel (depth + 1) rest (c :: before)
      else if c = '\x7d' then
        match depth with
        | 0 => (before.reverse, c :: rest)
        | depth + 1 => takeFormatText fuel depth rest (c :: before)
      else takeFormatText fuel depth rest (c :: before)

end Reader

end ShaderCost.Script.Indented
