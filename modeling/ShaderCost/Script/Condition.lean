import ShaderCost.Files.Tree
import ShaderCost.Script.Basic
import ShaderCost.Script.Expansion
import ShaderCost.Script.Expression.Reader

/-!
Conditions on texts, numbers and files, as scripts test them. An operator that has nothing to work
on is a plain operand, so how an argument counts depends on those behind it.
-/

namespace ShaderCost.Script.Condition

/-- How an operator is used. -/
inductive Arity where
  | one
  | two
  | negation
  | both
  | either
  | opening
  | closing
  deriving DecidableEq

def unaryOperators : List Text :=
  ["-r", "-w", "-x", "-e", "-f", "-d", "-c", "-b", "-p", "-u", "-g", "-k", "-s", "-t", "-z", "-n",
    "-h", "-O", "-G", "-L", "-S"]

def binaryOperators : List Text :=
  ["=", "!=", "<", ">", "-eq", "-ne", "-ge", "-gt", "-le", "-lt", "-nt", "-ot", "-ef"]

def arity? (operator : Text) : Option Arity :=
  if unaryOperators.contains operator then some .one
  else if binaryOperators.contains operator then some .two
  else if operator = "!" then some .negation
  else if operator = "-a" then some .both
  else if operator = "-o" then some .either
  else if operator = "(" then some .opening
  else if operator = ")" then some .closing
  else none

/-- How the first of some arguments counts; `none` for an operand. -/
def role? : List Text → Option Arity
  | [] => none
  | operator :: behind =>
      match arity? operator, behind with
      | some .one, [] => none
      | some .one, next :: _ :: _ => if arity? next = some .two then none else some .one
      | some .opening, [] => none
      | role, _ => role

/-- What is wrong with a condition. -/
abbrev Verdict := Except Text Bool

def number (text : Text) : Except Text Int :=
  match Numeral.ofText? false text with
  | some value => .ok value
  | none => .error ("Illegal number: " ++ text)

def compareNumbers (relation : Int → Int → Bool) (left right : Text) : Verdict := do
  return relation (← number left) (← number right)

def isSameFile (tree : FileTree) (left right : Text) : Bool :=
  match tree.locate left, tree.locate right with
  | .ok first, .ok second => first = second && tree.exists? left
  | _, _ => false

/-- The verdict of an operator on two operands. Files have no age. -/
def binary (tree : FileTree) (left operator right : Text) : Verdict :=
  match String.ofList operator with
  | "=" => return left = right
  | "!=" => return left != right
  | "<" => return left != right && Text.atMost left right
  | ">" => return left != right && Text.atMost right left
  | "-eq" => compareNumbers (fun a b => a = b) left right
  | "-ne" => compareNumbers (fun a b => a != b) left right
  | "-lt" => compareNumbers (fun a b => a < b) left right
  | "-le" => compareNumbers (fun a b => a ≤ b) left right
  | "-gt" => compareNumbers (fun a b => b < a) left right
  | "-ge" => compareNumbers (fun a b => b ≤ a) left right
  | "-ef" => return isSameFile tree (shownText left) (shownText right)
  | _ => return false

/-- Whether there is a link at a path. -/
def isLink (tree : FileTree) (path : Text) : Bool :=
  match tree.findEntry (shownText path) with
  | .ok (.link _) => true
  | _ => false

/-- The verdict of an operator on a file. -/
def ofFile (tree : FileTree) (operator path : Text) : Bool :=
  match tree.find (shownText path) with
  | .error _ => false
  | .ok node =>
      match String.ofList operator, node with
      | "-e", _ | "-r", _ | "-O", _ | "-G", _ => true
      | "-w", .program _ => false
      | "-w", _ => true
      | "-f", .file _ _ | "-f", .program _ | "-x", .directory _ | "-x", .program _ => true
      | "-x", .file _ executable => executable
      | "-d", .directory _ => true
      | "-c", .null => true
      | "-p", .stream number => number != 0
      | "-c", .stream number => number = 0
      | "-s", .file content _ => content.size != 0
      | "-s", .directory _ | "-s", .program _ => true
      | _, _ => false

/-- The verdict of an operator on one operand. Nothing is a terminal. -/
def unary (tree : FileTree) (operator operand : Text) : Verdict :=
  if operator = "-z" then return operand.isEmpty
  else if operator = "-n" then return !operand.isEmpty
  else if operator = "-t" then return (← number operand) < 0
  else if operator = "-h" || operator = "-L" then return isLink tree operand
  else return ofFile tree operator operand

/-- A condition is read from arguments whose first one comes next; what is left begins with the
last one that was used. -/
abbrev Reading := Except Text (Bool × List Text)

mutual

/-- Alternatives bind loosest. -/
def alternatives (tree : FileTree) : (fuel : Nat) → Option Arity → List Text → Reading
  | 0, _, _ => .error "argument expected"
  | fuel + 1, role, arguments => do
      let (left, rest) ← conjunction tree fuel role arguments
      if role? rest.tail = some .either then
        let behind := rest.drop 2
        let (right, rest) ← alternatives tree fuel (role? behind) behind
        return (left || right, rest)
      else return (left, rest)

def conjunction (tree : FileTree) : (fuel : Nat) → Option Arity → List Text → Reading
  | 0, _, _ => .error "argument expected"
  | fuel + 1, role, arguments => do
      let (left, rest) ← negations tree fuel role arguments
      if role? rest.tail = some .both then
        let behind := rest.drop 2
        let (right, rest) ← conjunction tree fuel (role? behind) behind
        return (left && right, rest)
      else return (left, rest)

def negations (tree : FileTree) : (fuel : Nat) → Option Arity → List Text → Reading
  | 0, _, _ => .error "argument expected"
  | fuel + 1, role, arguments =>
      if role = some .negation then do
        match arguments with
        | [last] => return (true, [last])
        | _ =>
            let (holds, rest) ← negations tree fuel (role? arguments.tail) arguments.tail
            return (!holds, rest)
      else single tree fuel role arguments

/-- One comparison, one property or a group. An operand alone holds unless it is empty. -/
def single (tree : FileTree) : (fuel : Nat) → Option Arity → List Text → Reading
  | 0, _, _ => .error "argument expected"
  | _ + 1, _, [] => .ok (false, [])
  | fuel + 1, role, first :: behind =>
      if role = some .opening then
        if role? behind = some .closing then .ok (false, behind)
        else do
          let (holds, rest) ← alternatives tree fuel (role? behind) behind
          if role? rest.tail = some .closing then return (holds, rest.tail)
          else throw "closing paren expected".toList
      else if role = some .one then
        match behind with
        | [] => .error (first ++ ": argument expected")
        | operand :: _ => (unary tree first operand).map fun holds => (holds, behind)
      else if role? behind = some .two then
        match behind with
        | operator :: right :: rest =>
            (binary tree first operator right).map fun holds => (holds, right :: rest)
        | operator :: [] => .error (operator ++ ": argument expected")
        | [] => .ok (false, [])
      else .ok (!first.isEmpty, first :: behind)

end

/-- How the first argument counts, and the arguments. Where there are three or four, a comparison,
a group or a negation is seen first. -/
def opening (arguments : List Text) : Option Arity × List Text :=
  match arguments with
  | [first, operator, last] =>
      if arity? operator = some .two then (none, arguments)
      else grouped first last
  | [first, _, _, last] => grouped first last
  | _ => (role? arguments, arguments)
where
  grouped (first last : Text) : Option Arity × List Text :=
    if first = "(" && last = ")" then
      let inner := (arguments.drop 1).dropLast
      (role? inner, inner)
    else if first = "!" then (some .negation, arguments)
    else (role? arguments, arguments)

/-- Whether a condition holds. Nothing is no condition that holds. -/
def holds (tree : FileTree) (arguments : List Text) : Verdict :=
  if arguments.isEmpty then .ok false
  else do
    let (role, operands) := opening arguments
    let (verdict, rest) ← alternatives tree (4 * arguments.length + 4) role operands
    match rest with
    | last :: _ :: _ => throw (last ++ ": unexpected operator")
    | _ => return verdict

end ShaderCost.Script.Condition

/-!
Conditions of the extended language: those that are commands of their own, whose operands may be
patterns, expressions and regular expressions, and those that are the arguments of a command.
-/

namespace ShaderCost.Script.Judging

/-- The characters that have a meaning in regular expressions. -/
def isExpressionMark (c : Char) : Bool := "\\[](){}.*+?^$|".toList.elem c

/-- A pattern as a regular expression, in which what is quoted stands for itself. -/
def expressionText (pattern : Pattern) : Text :=
  pattern.flatMap fun c =>
    if c.isQuoted && isExpressionMark c.char then ['\\', c.char] else [c.char]

/-- Where an option is kept that has a long name. -/
def isOptionOn (shell : Shell) (name : Text) : Bool :=
  shell.settings.elem name ||
    (Shell.optionLetters.any fun entry => entry.2 = name && shell.hasOption entry.1)

/-- Whether a variable, or an element of a list, has a value. -/
def isSet (title : Text) : Step Bool := do
  let name := title.takeWhile fun c => c != '['
  match title.drop name.length with
  | [] => return ((← get).value? title).isSome
  | '[' :: '@' :: ']' :: [] | '[' :: '*' :: ']' :: [] =>
      return ((← get).list? name).any fun list => list.size != 0
  | _ :: subscript =>
      return (← Reckoning.element? Reckoning.evaluate name subscript.dropLast).isSome

/-- Whether a file is newer than another one: files have no age, but one that is there is newer than
one that is not. -/
def isNewer (tree : FileTree) (left right : Text) : Bool :=
  tree.exists? (shownText left) && !tree.exists? (shownText right)

/-- The verdict of an operator on one operand. -/
def unary (operator operand : Text) : Step Condition.Verdict := do
  let shell ← get
  match String.ofList operator with
  | "-v" => return .ok (← isSet operand)
  | "-o" => return .ok (isOptionOn shell operand)
  | "-R" => return .ok ((shell.binding? operand).any fun binding => binding.traits.elem 'n')
  | "-a" => return .ok (Condition.ofFile shell.tree "-e" operand)
  | "-N" => return .ok (Condition.ofFile shell.tree "-e" operand)
  | "-t" => return .ok false
  | _ => return Condition.unary shell.tree operator operand

/-- The verdict of an operator on two operands that are numbers, if it is one of those. -/
def compared? (operator : Text) (left right : Int) : Option Bool :=
  match String.ofList operator with
  | "-eq" => some (left = right)
  | "-ne" => some (left != right)
  | "-lt" => some (left < right)
  | "-le" => some (left ≤ right)
  | "-gt" => some (right < left)
  | "-ge" => some (right ≤ left)
  | _ => none

/-- The verdict of an operator on two files, if it is one of those. -/
def files? (tree : FileTree) (operator left right : Text) : Option Bool :=
  match String.ofList operator with
  | "-nt" => some (isNewer tree left right)
  | "-ot" => some (isNewer tree right left)
  | "-ef" => some (Condition.isSameFile tree (shownText left) (shownText right))
  | _ => none

/-- Whether a text is found by a regular expression, whose groups a list keeps. `none` where it is
none. -/
def occurs? (pattern : Pattern) (text : Text) : Step (Option Bool) := do
  let foldsCase := (← get).settings.elem "nocasematch".toList
  match Expression.ofText { isExtended := true, foldsCase } (expressionText pattern) with
  | .error _ => return none
  | .ok expression =>
      match expression.find? [] text with
      | none =>
          assignList "BASH_REMATCH" .empty
          return some false
      | some occurrence =>
          let numbers := List.range (expression.groups + 1)
          assignList "BASH_REMATCH" (.ofTexts (numbers.map occurrence.group))
          return some true

/-- The verdict on a condition, or a status above one where there is none. -/
def verdict (capture : Command → Step Text) : Test → Step Nat
  | .word word => do
      let text ← Expansion.text capture word
      return if text.isEmpty then 1 else 0
  | .negation test => do
      let status ← verdict capture test
      return if status = 0 then 1 else if status = 1 then 0 else status
  | .both left right => do
      let status ← verdict capture left
      if status = 0 then verdict capture right else return status
  | .either left right => do
      let status ← verdict capture left
      if status = 1 then verdict capture right else return status
  | .one operator operand => do
      let text ← Expansion.text capture operand
      match ← unary operator text with
      | .ok holds => return if holds then 0 else 1
      | .error problem =>
          complain problem
          return 1
  | .two left operator right => do
      let leftText ← Expansion.text capture left
      let truth (holds : Bool) : Nat := if holds then 0 else 1
      match String.ofList operator with
      | "=" | "==" | "!=" =>
          let pattern ← Expansion.pattern capture right
          let ignoresCase := (← get).settings.elem "nocasematch".toList
          let matcher : Matcher := ⟨pattern.withCarets, true, ignoresCase⟩
          return truth (matcher.accepts leftText = (operator != "!="))
      | "=~" =>
          match ← occurs? (← Expansion.pattern capture right) leftText with
          | some holds => return truth holds
          | none => return 2
      | _ =>
          let rightText ← Expansion.text capture right
          match operator, files? (← get).tree operator leftText rightText with
          | ['<'], _ => return truth (leftText != rightText && Text.atMost leftText rightText)
          | ['>'], _ => return truth (leftText != rightText && Text.atMost rightText leftText)
          | _, some holds => return truth holds
          | _, none =>
              let left := (← Reckoning.evaluate leftText).toInt
              let right := (← Reckoning.evaluate rightText).toInt
              return truth ((compared? operator left right).getD false)

/-! Conditions in arguments. How many there are decides how they are read. -/

def isUnary (operator : Text) : Bool :=
  Condition.unaryOperators.elem operator ||
    ["-a".toList, "-o".toList, "-v".toList, "-N".toList, "-R".toList].elem operator

def isBinary (operator : Text) : Bool :=
  Condition.binaryOperators.elem operator || operator = "=="

/-- What is read from arguments: a verdict and the arguments that are left. -/
abbrev Reading := ExceptT Text Step

def number (text : Text) : Reading Int :=
  match Numeral.ofText? false text with
  | some value => return value
  | none => throw (text ++ ": integer expression expected".toList)

def ofOne (operator operand : Text) : Reading Bool := do
  match ← (ExceptT.lift (unary operator operand) : Reading Condition.Verdict) with
  | .ok holds => return holds
  | .error _ => throw (operand ++ ": integer expression expected".toList)

def ofTwo (left operator right : Text) : Reading Bool := do
  let shell ← (ExceptT.lift get : Reading Shell)
  match files? shell.tree operator left right, String.ofList operator with
  | some holds, _ => return holds
  | none, "=" | none, "==" => return left = right
  | none, "!=" => return left != right
  | none, "<" => return left != right && Text.atMost left right
  | none, ">" => return left != right && Text.atMost right left
  | none, _ => return (compared? operator (← number left) (← number right)).getD false

mutual

def alternatives : (fuel : Nat) → List Text → Reading (Bool × List Text)
  | 0, _ => throw ("argument expected" : Text)
  | fuel + 1, arguments => do
      let (left, rest) ← conjunction fuel arguments
      match rest with
      | ['-', 'o'] :: rest =>
          let (right, rest) ← alternatives fuel rest
          return (left || right, rest)
      | rest => return (left, rest)

def conjunction : (fuel : Nat) → List Text → Reading (Bool × List Text)
  | 0, _ => throw ("argument expected" : Text)
  | fuel + 1, arguments => do
      let (left, rest) ← single fuel arguments
      match rest with
      | ['-', 'a'] :: rest =>
          let (right, rest) ← conjunction fuel rest
          return (left && right, rest)
      | rest => return (left, rest)

def single : (fuel : Nat) → List Text → Reading (Bool × List Text)
  | 0, _ | _ + 1, [] => throw ("argument expected" : Text)
  | fuel + 1, first :: rest => do
      let binary? : Option (Bool × Text × Text × List Text) := match rest with
        | operator :: right :: rest =>
            if isBinary operator then some (true, operator, right, rest) else none
        | _ => none
      if first = "!" then
        let (holds, rest) ← single fuel rest
        return (!holds, rest)
      else if first = "(" then
        let (holds, rest) ← alternatives fuel rest
        match rest with
        | [')'] :: rest => return (holds, rest)
        | [] => throw ("\x60)' expected" : Text)
        | other :: _ => throw ("\x60)' expected, found ".toList ++ other)
      else match binary?, rest with
        | some (_, operator, right, rest), _ => return (← ofTwo first operator right, rest)
        | none, operand :: behind =>
            if isUnary first then return (← ofOne first operand, behind)
            else return (!first.isEmpty, rest)
        | none, [] => return (!first.isEmpty, [])

end

/-- The verdict on a condition of at most three arguments. -/
def short : List Text → Reading Bool
  | [] => return false
  | [operand] => return !operand.isEmpty
  | [operator, operand] =>
      if operator = "!" then return operand.isEmpty
      else if isUnary operator then ofOne operator operand
      else throw (operator ++ ": unary operator expected".toList)
  | [left, operator, right] => do
      if isBinary operator then ofTwo left operator right
      else if operator = "-a" then return !left.isEmpty && !right.isEmpty
      else if operator = "-o" then return !left.isEmpty || !right.isEmpty
      else if left = "!" then return !(← short [operator, right])
      else if left = "(" && right = ")" then return !operator.isEmpty
      else throw (operator ++ ": binary operator expected".toList)
  | _ => return false

/-- The verdict on a condition in arguments. -/
def ofArguments (arguments : List Text) : Reading Bool := do
  let whole : Reading Bool := do
    let (holds, rest) ← alternatives (4 * arguments.length + 4) arguments
    if rest.isEmpty then return holds else throw ("too many arguments" : Text)
  match arguments with
  | [first, second, third, last] =>
      if first = "!" then return !(← short [second, third, last])
      else if first = "(" && last = ")" then short [second, third]
      else whole
  | _ => if arguments.length < 4 then short arguments else whole

end ShaderCost.Script.Judging
