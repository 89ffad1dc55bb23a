import ShaderCost.Script.Indented.Methods.Texts

/-!
Regular expressions: made of texts, searched for, and put in place of.
-/

namespace ShaderCost.Script.Indented

variable (evaluator : Evaluator)

/-! Making. -/

/-- What signs mean in expressions for characters, and in those for octets. -/
def patternStyle (isOctets : Bool) : Expression.Rich.Style :=
  if isOctets then { startsAtEnd := true, endsStrictly := true, refusesLetters := true }
  else {
    isWord := fun c => Text.isWord c || Expression.isWordChar c
    isDigit := Text.isDecimalDigit, isBlank := isBlankChar
    fold := fun c => (lowered [c]).headD c
    startsAtEnd := true, endsStrictly := true, refusesLetters := true }

/-- The flags that a number stands for. -/
def flagsOf (number : Int) : Expression.Rich.Flags where
  foldsCase := number.toNat / 2 % 2 = 1
  seesLines := number.toNat / 8 % 2 = 1
  pointsAtAll := number.toNat / 16 % 2 = 1
  isSpaced := number.toNat / 64 % 2 = 1

def keptExpressions : Nat := 40

/-- Makes a pattern, unless it was made before. -/
def makePattern (isOctets : Bool) (text : Text) (flags : Int) : Run Nat := do
  let key := (if isOctets then 'b' else 's') :: Text.ofInt flags ++ '/' :: text
  let asked := flagsOf flags
  let expression ← match (← get).expressions.lookup key with
    | some expression => pure expression
    | none =>
        match Expression.Rich.ofText (patternStyle isOctets) asked text with
        | .ok expression => do
            modify fun state => { state with
              expressions := (key, expression) :: state.expressions.take keptExpressions }
            pure expression
        | .error problem => fail "re.error" problem
  allocate (.pattern { expression, text, flags := asked, isOctets })

/-- The pattern that a value is or spells. -/
def patternOf (value : Value) (flags : Int) : Run (Nat × Pattern) := do
  let at_ (place : Nat) : Run (Nat × Pattern) := do
    match ← contentAt place with
    | .pattern pattern => return (place, pattern)
    | _ => failType "first argument must be string or compiled pattern"
  match ← coreOf value with
  | .text text => at_ (← makePattern false text flags)
  | .octets text => at_ (← makePattern true text flags)
  | .object place => at_ place
  | _ => failType "first argument must be string or compiled pattern"

/-- The text that a pattern is searched for in. -/
def subjectFor (pattern : Pattern) (value : Value) : Run Text := do
  match pattern.isOctets, ← coreOf value with
  | false, .text text => return text
  | true, .octets text => return text
  | true, .text _ => failType "cannot use a bytes pattern on a string-like object"
  | false, .octets _ => failType "cannot use a string pattern on a bytes-like object"
  | isOctets, core =>
      match core with
      | .object place =>
          match isOctets, ← contentAt place with
          | true, .buffer octets => return octets
          | _, _ =>
              failType ("expected string or bytes-like object, got '".toList ++
                (← typeName value) ++ ['\''])
      | _ =>
          failType ("expected string or bytes-like object, got '".toList ++
            (← typeName value) ++ ['\''])

/-! Searching. -/

/-- What was found as a value. -/
def makeFound (place : Nat) (pattern : Pattern) (subject : Text) (start : Nat)
    (occurrence : Expression.Occurrence) : Run Value := do
  let groups := (List.range (pattern.expression.groups + 1)).map fun number =>
    if number = 0 then some (start, start + occurrence.found.length)
    else (occurrence.noted.lookup number).map fun (first, last) => (start + first, start + last)
  make (.found {
    subject, isOctets := pattern.isOctets, groups := groups.toArray
    names := pattern.expression.names, pattern := place })

/-- How a pattern has to lie in a text. -/
inductive Lying where
  | anywhere
  | atFront
  | wholly

/-- Where a pattern is found behind the beginning of a text. -/
def findFrom (pattern : Pattern) (lying : Lying) (past text : Text) :
    Option Expression.Occurrence :=
  let expression := pattern.expression
  match lying with
  | .anywhere => expression.find? past text
  | .atFront => expression.take? past text
  | .wholly =>
      let places := expression.form.reach expression.takesLongest ⟨past, text, 0, []⟩
      (places.find? fun place => place.rest.isEmpty).map fun place =>
        ⟨[], text.take place.passed, place.rest, place.noted⟩

def searchFor (place : Nat) (pattern : Pattern) (lying : Lying) (subject : Text) (given : Given) :
    Run Value := do
  liftM (n := Run) (spend (subject.length / charactersPerTurn))
  let size : Int := subject.length
  let first := (max 0 (min size (← wholeOr evaluator 0 (given.at? 1 "pos")))).toNat
  let last := (max 0 (min size (← wholeOr evaluator size (given.at? 2 "endpos")))).toNat
  let subject := subject.take last
  match findFrom pattern lying (subject.take first).reverse (subject.drop first) with
  | some occurrence => makeFound place pattern subject (first + occurrence.before.length) occurrence
  | none => return .none

/-- All occurrences with where each begins, and what comes behind the last one. -/
def occurrencesOf (pattern : Pattern) (subject : Text) :
    List (Nat × Expression.Occurrence) × Text :=
  let (found, rest) := Expression.Rich.allIn pattern.expression subject
  let (_, placed) := found.foldl
    (fun (state : Nat × List (Nat × Expression.Occurrence)) occurrence =>
      let start := state.1 + occurrence.before.length
      (start + occurrence.found.length, (start, occurrence) :: state.2)) (0, [])
  (placed.reverse, rest)

/-- The text of a group of what was found. -/
def groupText? (found : Found) (number : Nat) : Option Text :=
  (found.groups.getD number none).map fun (first, last) =>
    (found.subject.drop first).take (last - first)

def groupValue (found : Found) (usual : Value) (number : Nat) : Value :=
  match groupText? found number with
  | some text => wrapped found.isOctets text
  | none => usual

/-- The number of a group that a value names. -/
def groupNumber (found : Found) (value : Value) : Run Nat := do
  let number? : Option Nat := match value with
    | .text name | .octets name => found.names.lookup name
    | value => value.whole?.bind fun number =>
        if 0 ≤ number && number.toNat < found.groups.size then some number.toNat else none
  match number? with
  | some number => return number
  | none => fail "IndexError" "no such group"

/-! Replacing. -/

/-- What a template puts in place of what was found. -/
def expandTemplate (found : Found) : (fuel : Nat) → Text → Run Text
  | 0, _ | _ + 1, [] => return []
  | fuel + 1, '\\' :: c :: rest => do
      let escapes : List (Char × Char) := [('n', '\n'), ('t', '\t'), ('r', '\r'), ('\\', '\\'),
        ('a', '\x07'), ('b', '\x08'), ('f', '\x0c'), ('v', '\x0b')]
      if c = 'g' && rest.head? = some '<' then
        let name := (rest.drop 1).takeWhile (· != '>')
        let key : Value := if !name.isEmpty && name.all Char.isDigit then
            .ofNat (digitsIn 10 name) else .text name
        let number ← groupNumber found key
        return (groupText? found number).getD [] ++
          (← expandTemplate found fuel (rest.drop (name.length + 2)))
      else if c.isDigit then
        let digits := ((c :: rest).take 2).takeWhile Char.isDigit
        if c = '0' then
          return '\x00' :: (← expandTemplate found fuel rest)
        else
          let number := digitsIn 10 digits
          if found.groups.size ≤ number then
            fail "re.error" ("invalid group reference ".toList ++ digits)
          return (groupText? found number).getD [] ++
            (← expandTemplate found fuel ((c :: rest).drop digits.length))
      else match escapes.lookup c with
        | some d => return d :: (← expandTemplate found fuel rest)
        | none =>
            if c.isAlpha then fail "re.error" ("bad escape \\".toList ++ [c])
            return '\\' :: c :: (← expandTemplate found fuel rest)
  | fuel + 1, c :: rest => return c :: (← expandTemplate found fuel rest)

def foundAt (value : Value) : Run Found := do
  match value with
  | .object place =>
      match ← contentAt place with
      | .found found => return found
      | _ => return ⟨[], false, #[], [], 0⟩
  | _ => return ⟨[], false, #[], [], 0⟩

/-- A text with something in place of what a pattern finds, and how often that was. -/
def substituted (place : Nat) (pattern : Pattern) (given : Given) : Run (Value × Nat) := do
  let instead := given.get 0 "repl" .none
  let subject ← subjectFor pattern (given.get 1 "string" .none)
  let count ← wholeOr evaluator 0 (given.at? 2 "count")
  liftM (n := Run) (spend (subject.length / charactersPerTurn))
  let (all, rest) := occurrencesOf pattern subject
  let chosen := if count = 0 then all else all.take count.toNat
  let rest := match chosen.getLast? with
    | none => subject
    | some (start, occurrence) =>
        if chosen.length = all.length then rest
        else subject.drop (start + occurrence.found.length)
  let parts ← chosen.mapM fun (start, occurrence) => do
    let found ← makeFound place pattern subject start occurrence
    let text ← match instead with
      | .text template | .octets template =>
          if template.elem '\\' then
            expandTemplate (← foundAt found) (template.length + 1) template
          else pure template
      | code => textIn pattern.isOctets (← evaluator.call code [found] [])
    return occurrence.before ++ text
  return (wrapped pattern.isOctets (parts.flatten ++ rest), chosen.length)

/-! Routines. -/

def callPattern (place : Nat) (pattern : Pattern) (name : Text) (given : Given) :
    Run (Option Value) := do
  let wrap (text : Text) : Value := wrapped pattern.isOctets text
  let subject : Run Text := do subjectFor pattern (given.get 0 "string" .none)
  match String.ofList name with
  | "search" => return some (← searchFor evaluator place pattern .anywhere (← subject) given)
  | "match" => return some (← searchFor evaluator place pattern .atFront (← subject) given)
  | "fullmatch" => return some (← searchFor evaluator place pattern .wholly (← subject) given)
  | "findall" =>
      let subject ← subject
      liftM (n := Run) (spend (subject.length / charactersPerTurn))
      let (all, _) := occurrencesOf pattern subject
      let groups := pattern.expression.groups
      let values := all.map fun (_, occurrence) =>
        if groups = 0 then wrap occurrence.found
        else if groups = 1 then wrap (occurrence.group 1)
        else .tuple ((List.range groups).map fun number => wrap (occurrence.group (number + 1)))
      return some (← makeList values)
  | "finditer" =>
      let subject ← subject
      liftM (n := Run) (spend (subject.length / charactersPerTurn))
      let (all, _) := occurrencesOf pattern subject
      let values ← all.mapM fun (start, occurrence) =>
        makeFound place pattern subject start occurrence
      return some (← make (.iterator (.items values)))
  | "split" =>
      let subject ← subject
      let count ← wholeOr evaluator 0 (given.at? 1 "maxsplit")
      let (all, rest) := occurrencesOf pattern subject
      let chosen := if count = 0 then all else all.take count.toNat
      let rest := match chosen.getLast? with
        | none => subject
        | some (start, occurrence) =>
            if chosen.length = all.length then rest
            else subject.drop (start + occurrence.found.length)
      let parts := chosen.flatMap fun (_, occurrence) =>
        wrap occurrence.before :: (List.range pattern.expression.groups).map fun number =>
          match occurrence.group? (number + 1) with
          | some text => wrap text
          | none => .none
      return some (← makeList (parts ++ [wrap rest]))
  | "sub" => return some (← substituted evaluator place pattern given).1
  | "subn" =>
      let (value, count) ← substituted evaluator place pattern given
      return some (.tuple [value, .ofNat count])
  | _ => return none

def callFound (found : Found) (name : Text) (given : Given) : Run (Option Value) := do
  let number : Run Nat := do groupNumber found (given.get 0 "group" (.whole 0))
  let bounds (number : Nat) : Int × Int := match found.groups.getD number none with
    | some (first, last) => (first, last)
    | none => (-1, -1)
  match String.ofList name with
  | "group" | "__getitem__" =>
      match given.values with
      | [] => return some (groupValue found .none 0)
      | [value] => return some (groupValue found .none (← groupNumber found value))
      | values =>
          let numbers ← values.mapM (groupNumber found)
          return some (.tuple (numbers.map (groupValue found .none)))
  | "groups" =>
      let usual := given.get 0 "default" .none
      return some (.tuple ((List.range (found.groups.size - 1)).map fun number =>
        groupValue found usual (number + 1)))
  | "groupdict" =>
      let usual := given.get 0 "default" .none
      return some (← make (.table (.ofEntries (found.names.map fun (name, number) =>
        ('s' :: name, (.text name, groupValue found usual number))))))
  | "start" => return some (.whole (bounds (← number)).1)
  | "end" => return some (.whole (bounds (← number)).2)
  | "span" =>
      let (first, last) := bounds (← number)
      return some (.tuple [.whole first, .whole last])
  | "expand" =>
      let template ← textIn found.isOctets (← given.first name)
      return some (wrapped found.isOctets (← expandTemplate found (template.length + 1) template))
  | _ => return none

/-- A text whose characters have no meaning in a pattern. -/
def escapedPattern (text : Text) : Text :=
  text.flatMap fun c =>
    if "()[]\x7b\x7d?*+-|^$\\.&~# \t\n\r\x0b\x0c".toList.elem c then ['\\', c] else [c]

end ShaderCost.Script.Indented
