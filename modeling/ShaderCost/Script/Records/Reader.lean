import ShaderCost.Script.Expression.Reader
import ShaderCost.Script.Records.Token
import ShaderCost.Script.Records.Value

/-!
Reading programs on records. A statement that cannot be read is told of and passed over, so that
what is wrong behind it is told of as well.
-/

namespace ShaderCost.Script.Records

/-- The part of a program that is being read. -/
inductive Section where
  | start
  | rule
  | finish
  | routine (number : Nat)
  deriving DecidableEq

structure Source where
  tokens : List Token
  place : Section
  /-- The names of the places that are shared. -/
  names : Array Text
  /-- The parameters of the routine that is being read. -/
  parameters : List Text
  routines : Array Routine
  /-- The routines that were read. -/
  defined : List Nat
  /-- Parameters that are tables, each with its routine. -/
  tables : List (Nat × Nat)
  /-- Parameters that are handed on as others. -/
  passed : List ((Nat × Nat) × (Nat × Nat))
  /-- Calls, each with the routine, the number of arguments and the line. -/
  calls : List (Nat × Nat × Nat)
  ranges : Nat
  loops : Nat
  /-- What is wrong, the last first. -/
  problems : List Text

abbrev Reader := ExceptT Text (StateM Source)

namespace Reader

def atLine (line : Nat) (problem : Text) : Text :=
  "line ".toList ++ Text.ofNat line ++ ": ".toList ++ problem

def tell (problem : Text) : Reader Unit :=
  modify fun source => { source with problems := problem :: source.problems }

def peek : Reader Token := do
  let token := (← get).tokens.headD default
  if token.kind = .fault then
    modify fun source => { source with tokens := [] }
    throw (if token.text.head?.any Char.isDigit then token.text else atLine token.line token.text)
  return token

/-- Leaves out remarks at the front of tokens. -/
def skipRemarks : List Token → (remarks : List Text) → List Token × List Text
  | token :: rest, remarks =>
      if token.kind = .remark then skipRemarks rest (atLine token.line token.text :: remarks)
      else (token :: rest, remarks)
  | [], remarks => ([], remarks)

def drop : Reader Unit := modify fun source =>
  match source.tokens with
  | token :: rest =>
      if token.kind = .finish then source
      else
        let (tokens, problems) := skipRemarks rest source.problems
        { source with tokens, problems }
  | [] => source

def isMark (token : Token) (mark : Text) : Bool := token.kind = .mark && token.text = mark

def isWord (token : Token) (word : Text) : Bool := token.kind = .word && token.text = word

/-- Refuses the token that comes next. -/
def refuse {α : Type} : Reader α := do
  let token ← peek
  let shown := if token.kind = .expression then '/' :: token.text ++ ['/'] else token.text
  let ends := token.kind = .lineEnd || token.kind = .finish || isMark token ";" ||
    isMark token "\x7d"
  if token.kind = .finish then throw (atLine token.line "missing \x7d near end of file")
  else if ends && token.depth != 0 then throw (atLine token.line ("missing ) near " ++ shown))
  else throw (atLine token.line ("syntax error at or near " ++ shown))

def takeMark (mark : Text) : Reader Bool := do
  if isMark (← peek) mark then
    drop
    return true
  return false

def takeWord (word : Text) : Reader Bool := do
  if isWord (← peek) word then
    drop
    return true
  return false

def expectMark (mark : Text) : Reader Unit := do
  if !(← takeMark mark) then refuse

/-- Passes over ends of lines. -/
def skipLines : (fuel : Nat) → Reader Unit
  | 0 => return ()
  | fuel + 1 => do
      if (← peek).kind = .lineEnd then
        drop
        skipLines fuel

def skipAllLines : Reader Unit := do skipLines (← get).tokens.length

/-- The place of a text in an array, where it is put if it is not there. -/
def placeIn (names : Array Text) (name : Text) : Nat × Array Text :=
  match names.findIdx? (· = name) with
  | some place => (place, names)
  | none => (names.size, names.push name)

/-- Where a name leads. -/
def resolve (name : Text) : Reader Name := do
  let source ← get
  match source.parameters.idxOf? name with
  | some place => return .own place
  | none =>
      let (place, names) := placeIn source.names name
      set { source with names }
      return .shared place

/-- Where the name of a table leads. -/
def resolveTable (name : Text) : Reader Name := do
  let found ← resolve name
  match found, (← get).place with
  | .own place, .routine number =>
      modify fun source => { source with tables := (number, place) :: source.tables }
  | _, _ => pure ()
  return found

/-- The number of the routine with a name. -/
def routineFor (name : Text) : Reader Nat := do
  let source ← get
  match source.routines.findIdx? fun routine => routine.name = name with
  | some number => return number
  | none =>
      set { source with routines := source.routines.push ⟨name, [], [], .block []⟩ }
      return source.routines.size

def takeName : Reader Text := do
  let token ← peek
  if token.kind = .name then
    drop
    return token.text
  refuse

/-! Expressions. -/

def style : Expression.Style := {
  isExtended := true, isStrict := true, sparesBraces := true, hasBounds := false
  sparesParentheses := true
  writesOctets := true, refusesNothing := true }

/-- What is wrong with an expression. -/
def wordingOf (problem : Text) : Text :=
  if problem = "Unmatched ( or \\(" then "missing ')'"
  else if problem = "Invalid preceding regular expression" then "missing operand"
  else if problem = "Trailing backslash" then "missing operand"
  else "bad class -- [], [^] or ["

/-- The expression that a text spells. -/
def expressionOf (text : Text) : Except Text Expression :=
  match Expression.ofText style text with
  | .ok expression => .ok expression
  | .error problem =>
      .error ("regular expression compile failed (".toList ++ wordingOf problem ++
        ")\n".toList ++ text)

/-! Terms. -/

/-- The operations with which values may be stored. -/
def storing : List (Text × Option Operation) := [
  ("=", none), ("+=", some .add), ("-=", some .subtract), ("*=", some .multiply),
  ("/=", some .divide), ("%=", some .remainder), ("^=", some .power)]

def relations : List (Text × Relation) := [
  ("<", .less), ("<=", .atMost), ("==", .same), ("!=", .different), (">", .greater),
  (">=", .atLeast)]

/-- Whether a token may begin an operand that is joined to what stands before it. -/
def beginsOperand (token : Token) : Bool :=
  match token.kind with
  | .number | .text | .expression | .name | .called | .feature => true
  | .word => token.text = "getline"
  | .mark => ["$".toList, "!".toList, "(".toList, "++".toList, "--".toList].elem token.text
  | _ => false

/-- The functions by their names, with the fewest and the most arguments that they take. -/
def features : List (Text × Feature × Nat × Nat) := [
  ("length", .length, 0, 1), ("index", .index, 2, 2), ("substr", .substring, 2, 3),
  ("sprintf", .format, 1, 1000), ("match", .search, 2, 2), ("tolower", .lower, 1, 1),
  ("toupper", .upper, 1, 1), ("close", .close, 1, 1), ("system", .system, 1, 1),
  ("fflush", .flush, 0, 1), ("sin", .sine, 1, 1), ("cos", .cosine, 1, 1),
  ("atan2", .arcTangent, 2, 2), ("exp", .exponential, 1, 1), ("log", .logarithm, 1, 1),
  ("int", .whole, 1, 1), ("sqrt", .root, 1, 1), ("rand", .random, 0, 0), ("srand", .seed, 0, 1),
  ("systime", .clock, 0, 0), ("strftime", .moment, 0, 3), ("mktime", .secondsOf, 1, 1)]

/-- A term that stands for an expression, which a text spells. -/
def patternOf (line : Nat) : Term → Reader Term
  | .text text => do
      match expressionOf text with
      | .ok expression => return .finding expression
      | .error problem =>
          tell (atLine line problem)
          return .text text
  | term => return term

/-- The target that a term loads. -/
def targetOf : Term → Reader Target
  | .load target => return target
  | _ => refuse

/-- How tightly the operands of the tightest operations between terms are bound. -/
def tightest : Nat := 9

mutual

def term (fuel : Nat) (isPrinted : Bool) : Reader Term :=
  match fuel with
  | 0 => refuse
  | fuel + 1 => do
      let condition ← operation fuel isPrinted true 1
      if !(← takeMark "?") then return condition
      skipAllLines
      let yes ← term fuel isPrinted
      skipAllLines
      expectMark ":"
      skipAllLines
      let no ← term fuel isPrinted
      return .choose condition yes no

/-- Operations that bind as tightly as a level or tighter. Only where `mayStore` the first operand
may be stored to. -/
def operation (fuel : Nat) (isPrinted mayStore : Bool) (level : Nat) : Reader Term :=
  match fuel with
  | 0 => refuse
  | fuel + 1 => do
      if tightest ≤ level then unary fuel isPrinted mayStore
      else
        let left ← operation fuel isPrinted mayStore (level + 1)
        operations fuel isPrinted level left

def operations (fuel : Nat) (isPrinted : Bool) (level : Nat) (left : Term) : Reader Term :=
  match fuel with
  | 0 => refuse
  | fuel + 1 => do
      let token ← peek
      let right : Reader Term := do
        drop
        operation fuel isPrinted (level < 6) (level + 1)
      match level with
      | 1 =>
          if !(isMark token "||") then return left
          drop
          skipAllLines
          let right ← operation fuel isPrinted true (level + 1)
          operations fuel isPrinted level (.either left right)
      | 2 =>
          if !(isMark token "&&") then return left
          drop
          skipAllLines
          let right ← operation fuel isPrinted true (level + 1)
          operations fuel isPrinted level (.both left right)
      | 3 =>
          if !(isWord token "in") then return left
          drop
          let table ← resolveTable (← takeName)
          operations fuel isPrinted level (.contains table [left])
      | 4 =>
          if isMark token "~" then
            let pattern ← patternOf token.line (← right)
            operations fuel isPrinted level (.matching true left pattern)
          else if isMark token "!~" then
            let pattern ← patternOf token.line (← right)
            operations fuel isPrinted level (.matching false left pattern)
          else return left
      | 5 =>
          if token.kind != .mark || (isPrinted && token.text = ">") then return left
          match relations.lookup token.text with
          | some relation =>
              operations fuel isPrinted level (.compare relation left (← right))
          | none => return left
      | 6 =>
          if !beginsOperand token then return left
          let right ← operation fuel isPrinted false (level + 1)
          operations fuel isPrinted level (.join left right)
      | 7 =>
          if isMark token "+" then
            operations fuel isPrinted level (.compute .add left (← right))
          else if isMark token "-" then
            operations fuel isPrinted level (.compute .subtract left (← right))
          else return left
      | _ =>
          if isMark token "*" then
            operations fuel isPrinted level (.compute .multiply left (← right))
          else if isMark token "/" then
            operations fuel isPrinted level (.compute .divide left (← right))
          else if isMark token "%" then
            operations fuel isPrinted level (.compute .remainder left (← right))
          else return left

def unary (fuel : Nat) (isPrinted mayStore : Bool) : Reader Term :=
  match fuel with
  | 0 => refuse
  | fuel + 1 => do
      if ← takeMark "!" then return .not (← unary fuel isPrinted false)
      else if ← takeMark "-" then return .negative (← unary fuel isPrinted false)
      else if ← takeMark "+" then return .numeric (← unary fuel isPrinted false)
      else
        let base ← operand fuel isPrinted mayStore
        let power ←
          if ← takeMark "^" then pure (.compute .power base (← unary fuel isPrinted false))
          else pure base
        piped fuel isPrinted power

/-- What is read from a command. -/
def piped (fuel : Nat) (isPrinted : Bool) (command : Term) : Reader Term :=
  match fuel with
  | 0 => refuse
  | fuel + 1 => do
      if isPrinted then return command
      match (← get).tokens with
      | bar :: next :: _ =>
          if !(isMark bar "|" && isWord next "getline") then return command
          drop
          drop
          let target ← receiver fuel
          piped fuel isPrinted (.readCommand target command)
      | _ => return command

/-- What a line is read into. -/
def receiver (fuel : Nat) : Reader (Option Target) :=
  match fuel with
  | 0 => refuse
  | fuel + 1 => do
      let token ← peek
      if token.kind = .name || isMark token "$" then
        return some (← targetOf (← primary fuel))
      return none

/-- A primary term, which may be stored to or stepped. -/
def operand (fuel : Nat) (isPrinted mayStore : Bool) : Reader Term :=
  match fuel with
  | 0 => refuse
  | fuel + 1 => do
      let found ← primary fuel
      match found with
      | .load target =>
          let token ← peek
          if token.kind != .mark then return found
          if ← takeMark "++" then return .step false true target
          if ← takeMark "--" then return .step false false target
          match (storing.lookup token.text).filter fun _ => mayStore with
          | some operation =>
              drop
              skipAllLines
              return .store operation target (← term fuel isPrinted)
          | none => return found
      | _ => return found

def primary (fuel : Nat) : Reader Term :=
  match fuel with
  | 0 => refuse
  | fuel + 1 => do
      let token ← peek
      match token.kind with
      | .number =>
          drop
          return .number (numberIn token.text).1
      | .text =>
          drop
          return .text token.text
      | .expression =>
          drop
          match expressionOf token.text with
          | .ok expression => return .finding expression
          | .error problem =>
              tell (atLine token.line problem)
              return .number 0
      | .name =>
          drop
          if ← takeMark "[" then
            let key ← terms fuel
            expectMark "]"
            return .load (.element (← resolveTable token.text) key)
          return .load (.name (← resolve token.text))
      | .called =>
          drop
          expectMark "("
          let routine ← routineFor token.text
          let arguments ← callTerms fuel
          for (argument, place) in arguments.zipIdx do
            match argument, (← get).place with
            | .load (.name (.own own)), .routine number =>
                modify fun source => { source with
                  passed := ((number, own), (routine, place)) :: source.passed }
            | _, _ => pure ()
          modify fun source => { source with
            calls := (routine, arguments.length, token.line) :: source.calls }
          return .call routine arguments
      | .feature =>
          drop
          feature fuel token
      | .word =>
          if token.text != "getline" then refuse
          drop
          let target ← receiver fuel
          if ← takeMark "<" then return .readFile target (← primary fuel)
          return .readNext target
      | .mark =>
          if ← takeMark "(" then
            let found ← terms fuel
            expectMark ")"
            match found with
            | [found] => return found
            | found =>
                if ← takeWord "in" then
                  let table ← resolveTable (← takeName)
                  return .contains table found
                return .listed found
          else if ← takeMark "$" then
            if ← takeMark "-" then return .load (.field (.negative (← primary fuel)))
            else if ← takeMark "+" then return .load (.field (.numeric (← primary fuel)))
            else if ← takeMark "!" then return .load (.field (.not (← primary fuel)))
            else return .load (.field (← primary fuel))
          else if ← takeMark "++" then return .step true true (← targetOf (← primary fuel))
          else if ← takeMark "--" then return .step true false (← targetOf (← primary fuel))
          else refuse
      | _ => refuse

/-- One term or more with commas between them. -/
def terms (fuel : Nat) : Reader (List Term) :=
  match fuel with
  | 0 => refuse
  | fuel + 1 => do
      let first ← term fuel false
      if ← takeMark "," then
        skipAllLines
        return first :: (← terms fuel)
      return [first]

/-- The arguments of a call, up to the parenthesis that closes them. -/
def callTerms (fuel : Nat) : Reader (List Term) :=
  match fuel with
  | 0 => refuse
  | fuel + 1 => do
      if ← takeMark ")" then return []
      let arguments ← terms fuel
      expectMark ")"
      return arguments

/-- A call of a function that every program has. -/
def feature (fuel : Nat) (token : Token) : Reader Term :=
  match fuel with
  | 0 => refuse
  | fuel + 1 => do
      let name := token.text
      let miscounted : Text := "wrong number of arguments in call to " ++ name
      if name = "length" && !(isMark (← peek) "(") then return .feature .length []
      expectMark "("
      if name = "split" then
        let subject ← term fuel false
        expectMark ","
        skipAllLines
        let table ← resolveTable (← takeName)
        let separator ← if ← takeMark "," then some <$> term fuel false else pure none
        expectMark ")"
        return .split subject table separator
      else if name = "sub" || name = "gsub" then
        let pattern ← patternOf token.line (← term fuel false)
        expectMark ","
        skipAllLines
        let replacement ← term fuel false
        let target ←
          if ← takeMark "," then targetOf (← term fuel false) else pure (.field (.number 0))
        expectMark ")"
        return .replace (name = "gsub") pattern replacement target
      else
        let arguments ← callTerms fuel
        match features.lookup name with
        | some (feature, least, most) =>
            if arguments.length < least || most < arguments.length then
              tell (atLine token.line miscounted)
            match feature, arguments with
            | .search, [subject, pattern] =>
                return .feature feature [subject, ← patternOf token.line pattern]
            | _, _ => return .feature feature arguments
        | none => refuse

end

/-! Statements. -/

/-- The end of a statement. A closing brace ends it as well, and is left. -/
def separator : Reader Unit := do
  let token ← peek
  if token.kind = .lineEnd || isMark token ";" then drop
  else if isMark token "\x7d" then return ()
  else refuse

def isSeparator (token : Token) : Bool :=
  token.kind = .lineEnd || isMark token ";" || isMark token "\x7d"

/-- Where output goes. -/
def outlet (fuel : Nat) : Reader Outlet := do
  if ← takeMark ">>" then return .appended (← term fuel false)
  else if ← takeMark ">" then return .file (← term fuel false)
  else if ← takeMark "|" then return .command (← term fuel false)
  else return .standard

/-- The terms that are printed. -/
def printed (fuel : Nat) : Reader (List Term) := do
  let token ← peek
  if isSeparator token || isMark token ">" || isMark token ">>" || isMark token "|" then return []
  more fuel
where
  more : (fuel : Nat) → Reader (List Term)
    | 0 => refuse
    | fuel + 1 => do
        let first ← term fuel true
        if ← takeMark "," then
          skipAllLines
          return first :: (← more fuel)
        match first with
        | .listed terms => return terms
        | first => return [first]

/-- Passes over tokens up to the end of a statement. -/
def skipStatement : (fuel : Nat) → Reader Unit
  | 0 => return ()
  | fuel + 1 => do
      let token ← peek
      if token.kind = .finish || isMark token "\x7d" then return ()
      drop
      if token.kind = .lineEnd || isMark token ";" then return ()
      skipStatement fuel

/-- Tells of a problem with the place of a statement. -/
def check (holds : Bool) (line : Nat) (problem : Text) : Reader Unit :=
  if holds then return () else tell (atLine line problem)

def inLoop {α : Type} (body : Reader α) : Reader α := do
  modify fun source => { source with loops := source.loops + 1 }
  let result ← body
  modify fun source => { source with loops := source.loops - 1 }
  return result

mutual

def statement (fuel : Nat) : Reader Statement :=
  match fuel with
  | 0 => refuse
  | fuel + 1 => do
      let token ← peek
      match token.kind with
      | .lineEnd =>
          drop
          return .block []
      | .mark =>
          if ← takeMark "\x7b" then return .block (← statements fuel)
          else if ← takeMark ";" then return .block []
          else simple fuel
      | .word =>
          if ← takeWord "if" then
            let condition ← condition fuel
            let yes ← statement fuel
            let before ← get
            skipAllLines
            if ← takeWord "else" then
              skipAllLines
              return .choose condition yes (← statement fuel)
            modify fun source => { source with tokens := before.tokens }
            return .choose condition yes (.block [])
          else if ← takeWord "while" then
            let condition ← condition fuel
            return .whileTrue condition (← inLoop (statement fuel))
          else if ← takeWord "do" then
            skipAllLines
            let body ← inLoop (statement fuel)
            skipAllLines
            if !(← takeWord "while") then refuse
            expectMark "("
            let condition ← term fuel false
            expectMark ")"
            separator
            return .doWhile body condition
          else if ← takeWord "for" then
            expectMark "("
            loop fuel
          else simple fuel
      | _ => simple fuel

/-- A condition in parentheses, and the ends of lines behind it. -/
def condition (fuel : Nat) : Reader Term :=
  match fuel with
  | 0 => refuse
  | fuel + 1 => do
      expectMark "("
      let found ← term fuel false
      expectMark ")"
      skipAllLines
      return found

/-- A loop behind the parenthesis that opens its head. -/
def loop (fuel : Nat) : Reader Statement :=
  match fuel with
  | 0 => refuse
  | fuel + 1 => do
      match (← get).tokens with
      | name :: word :: table :: closing :: _ =>
          if name.kind = .name && isWord word "in" && table.kind = .name && isMark closing ")" then
            drop
            drop
            drop
            drop
            let name ← resolve name.text
            let table ← resolveTable table.text
            skipAllLines
            return .forEach name table (← inLoop (statement fuel))
      | _ => pure ()
      let start ← optional fuel ";"
      let test ← optional fuel ";"
      let step ← optional fuel ")"
      skipAllLines
      return .loop start test step (← inLoop (statement fuel))

/-- A term that may be missing, with the mark behind it. -/
def optional (fuel : Nat) (mark : Text) : Reader (Option Term) :=
  match fuel with
  | 0 => refuse
  | fuel + 1 => do
      if mark = ";" then
        if ← takeMark mark then
          skipAllLines
          return none
      else if ← takeMark mark then return none
      let found ← term fuel false
      expectMark mark
      if mark = ";" then skipAllLines
      return some found

/-- A statement that holds no others, with its end. -/
def simple (fuel : Nat) : Reader Statement :=
  match fuel with
  | 0 => refuse
  | fuel + 1 => do
      let token ← peek
      let source ← get
      let ended (statement : Statement) : Reader Statement := do
        separator
        return statement
      if token.kind != .word || token.text = "getline" then
        let found ← term fuel false
        ended (.evaluate found)
      else if ← takeWord "print" then
        let terms ← printed fuel
        let outlet ← outlet fuel
        ended (.print terms outlet)
      else if ← takeWord "printf" then
        let terms ← printed fuel
        if terms.isEmpty then tell (atLine token.line "no arguments in call to printf")
        let outlet ← outlet fuel
        ended (.printf terms outlet)
      else if ← takeWord "break" then
        check (source.loops != 0) token.line "break statement outside of loop"
        ended .breakOff
      else if ← takeWord "continue" then
        check (source.loops != 0) token.line "continue statement outside of loop"
        ended .goOn
      else if ← takeWord "next" then
        check (source.place != .start && source.place != .finish) token.line "improper use of next"
        ended .next
      else if ← takeWord "nextfile" then
        check (source.place != .start && source.place != .finish) token.line
          "improper use of nextfile"
        ended .nextFile
      else if ← takeWord "exit" then
        let value ← if isSeparator (← peek) then pure none else some <$> term fuel false
        ended (.exit value)
      else if ← takeWord "return" then
        let isInside := match source.place with
          | .routine _ => true
          | _ => false
        check isInside token.line "return outside function body"
        let value ← if isSeparator (← peek) then pure none else some <$> term fuel false
        ended (.giveBack value)
      else if ← takeWord "delete" then
        let table ← resolveTable (← takeName)
        if ← takeMark "[" then
          let key ← terms fuel
          expectMark "]"
          ended (.delete table key)
        else ended (.clear table)
      else refuse

/-- Statements up to the brace that closes them. -/
def statements (fuel : Nat) : Reader (List Statement) :=
  match fuel with
  | 0 => refuse
  | fuel + 1 => do
      if ← takeMark "\x7d" then
        return []
      if (← peek).kind = .finish then refuse
      let loops := (← get).loops
      let found ← tryCatch (some <$> statement fuel) fun problem => do
        tell problem
        modify fun source => { source with loops }
        skipStatement (← get).tokens.length
        return none
      match found with
      | some (.block []) => statements fuel
      | some found => return found :: (← statements fuel)
      | none =>
          if (← peek).kind = .finish then return []
          statements fuel

end

/-! Programs. -/

def action (fuel : Nat) : Reader Statement := do
  expectMark "\x7b"
  return .block (← statements fuel)

/-- The parameters of a routine, up to the parenthesis that closes them. -/
def parameters : (fuel : Nat) → (before : List Text) → Reader (List Text)
  | 0, _ => refuse
  | fuel + 1, before => do
      let token ← peek
      let name ← takeName
      if before.elem name then
        tell (atLine token.line (name ++ " is duplicated in argument list"))
      if ← takeMark "," then
        skipAllLines
        parameters fuel (name :: before)
      else
        expectMark ")"
        return (name :: before).reverse

/-- A routine behind the word that begins it. -/
def routine (fuel : Nat) : Reader Unit := do
  let token ← peek
  if token.kind != .name && token.kind != .called then refuse
  drop
  let number ← routineFor token.text
  if (← get).defined.elem number then
    tell (atLine token.line ("redefinition of " ++ token.text))
  expectMark "("
  let names ← if ← takeMark ")" then pure [] else parameters fuel []
  skipAllLines
  modify fun source => { source with
    place := .routine number, parameters := names, defined := number :: source.defined }
  let body ← action fuel
  modify fun source => { source with
    parameters := []
    routines := source.routines.set! number ⟨token.text, names, [], body⟩ }

/-- What was read of a program, the last rule first. -/
structure Parts where
  starts : List Statement
  rules : List Rule
  ends : List Statement

def rule (fuel : Nat) (parts : Parts) : Reader Parts := do
  modify fun source => { source with place := .rule }
  if isMark (← peek) "\x7b" then
    let action ← action fuel
    return { parts with rules := ⟨.all, some action⟩ :: parts.rules }
  let first ← term fuel false
  let guard ←
    if ← takeMark "," then
      skipAllLines
      let last ← term fuel false
      let number := (← get).ranges
      modify fun source => { source with ranges := number + 1 }
      pure (.range number first last)
    else pure (.when first)
  if isMark (← peek) "\x7b" then
    let action ← action fuel
    return { parts with rules := ⟨guard, some action⟩ :: parts.rules }
  let token ← peek
  if token.kind != .finish then
    if token.kind = .lineEnd || isMark token ";" then drop else refuse
  return { parts with rules := ⟨guard, none⟩ :: parts.rules }

/-- Passes over what cannot be read, up to a brace that opens an action. -/
def skipRule : (fuel : Nat) → Reader Unit
  | 0 => return ()
  | fuel + 1 => do
      let token ← peek
      if token.kind = .finish || isMark token "\x7b" then return ()
      drop
      skipRule fuel

def items : (fuel : Nat) → Parts → Reader Parts
  | 0, parts => return parts
  | fuel + 1, parts => do
      skipAllLines
      if (← peek).kind = .finish then return parts
      let item : Reader Parts := do
        if ← takeWord "BEGIN" then
          modify fun source => { source with place := .start }
          let action ← action fuel
          return { parts with starts := action :: parts.starts }
        else if ← takeWord "END" then
          modify fun source => { source with place := .finish }
          let action ← action fuel
          return { parts with ends := action :: parts.ends }
        else if ← takeWord "function" then
          routine fuel
          return parts
        else rule fuel parts
      let parts ← tryCatch item fun problem => do
        tell problem
        skipRule (← get).tokens.length
        modify fun source => { source with parameters := [], loops := 0 }
        return parts
      items fuel parts

/-- Parameters that are tables because others are that they are handed on as. -/
def spreadTables (passed : List ((Nat × Nat) × (Nat × Nat))) : (rounds : Nat) →
    List (Nat × Nat) → List (Nat × Nat)
  | 0, tables => tables
  | rounds + 1, tables =>
      let more := passed.filterMap fun (giver, taker) =>
        if tables.elem taker && !tables.elem giver then some giver else none
      if more.isEmpty then tables else spreadTables passed rounds (more ++ tables)

/-- Checks calls once all routines were read. -/
def checkCalls : Reader Unit := do
  let source ← get
  let line := (source.tokens.headD default).line
  for (number, count, callLine) in source.calls.reverse do
    let routine := source.routines.getD number default
    if source.defined.elem number && routine.parameters.length < count then
      tell (atLine callLine ("too many arguments in call to " ++ routine.name))
  for (routine, number) in source.routines.toList.zipIdx do
    if !source.defined.elem number then
      tell (atLine line ("function " ++ routine.name ++ " never defined"))

end Reader

/-- Reads a program; or tells what is wrong with it, one complaint after the other. -/
def Program.ofText (text : Text) : Except (List Text) Program :=
  let (tokens, problems) := Reader.skipRemarks (Token.ofText text) []
  let source : Source := {
    tokens, place := .rule, names := namesWithMeaning.toArray, parameters := [], routines := #[]
    defined := [], tables := [], passed := [], calls := [], ranges := 0, loops := 0, problems }
  let read : Reader Reader.Parts := do
    let parts ← Reader.items (20 * tokens.length + 100) ⟨[], [], []⟩
    if (← get).problems.isEmpty then Reader.checkCalls
    return parts
  match read.run source with
  | (.error problem, source) => .error (problem :: source.problems).reverse
  | (.ok parts, source) =>
      if !source.problems.isEmpty then .error source.problems.reverse
      else
        let tables := Reader.spreadTables source.passed (source.passed.length + 1) source.tables
        let routines := source.routines.mapIdx fun number routine =>
          { routine with tables := routine.parameters.mapIdx fun place _ =>
              tables.elem (number, place) }
        .ok {
          starts := parts.starts.reverse, rules := parts.rules.reverse, ends := parts.ends.reverse
          routines, names := source.names.toList, ranges := source.ranges }

end ShaderCost.Script.Records
