import ShaderCost.Script.Expression.Reader
import ShaderCost.Text.Numeral

/-!
Commands that edit lines. Each applies to all lines, or to those that an address or a range of them
names. There is a space that holds the line at work, and another one that lines are kept in.
-/

namespace ShaderCost.Script.Utility.Editing

inductive Address where
  | line (number : Nat)
  | last
  /-- Lines in which an expression is found, or the one that was used last. -/
  | finding (expression : Option Expression)
  /-- A line and those that follow it in equal steps. -/
  | every (first step : Nat)

/-- Where a range ends. -/
inductive Ending where
  | address (address : Address)
  /-- As many lines further on. -/
  | further (count : Nat)
  /-- At the next line whose number is a multiple. -/
  | multiple (factor : Nat)

/-- How the letters of a replacement are written. -/
inductive Lettering where
  | plain
  | upper
  | lower
  deriving DecidableEq

def Lettering.apply : Lettering → Char → Char
  | plain, c => c
  | upper, c => c.toUpper
  | lower, c => c.toLower

/-- A part of what is put in the place of something found. -/
inductive Part where
  | text (text : Text)
  | group (number : Nat)
  /-- How letters are written from here on. -/
  | letters (lettering : Lettering)
  /-- How the next letter is written. -/
  | letter (lettering : Lettering)

structure Substitution where
  /-- What is looked for, or the expression that was used last. -/
  expression : Option Expression
  parts : List Part
  /-- Which of the occurrences is the first to be replaced. -/
  first : Nat
  all : Bool
  prints : Bool
  /-- The file that a changed line is written to. -/
  path : Option Text

/-- When a jump is made. -/
inductive Cause where
  | always
  /-- After a replacement since the line was read or a jump was made for this cause. -/
  | replaced
  | notReplaced

inductive Action where
  | nothing
  /-- Goes on at a place unless the line is chosen. -/
  | block (target : Nat)
  | jump (cause : Cause) (target : Nat)
  | substitute (substitution : Substitution)
  | exchange (before after : Text)
  | print (onlyFirst : Bool)
  | list (width : Option Nat)
  | number
  | name
  | delete
  /-- Deletes the first of the lines at work and begins again. -/
  | deleteFirst
  | quit (status : Nat) (prints : Bool)
  | next (adds : Bool)
  | append (text : Text)
  | insert (text : Text)
  | change (text : Text)
  | appendFile (path : Text)
  | appendLine (path : Text)
  | write (path : Text) (onlyFirst : Bool)
  | keep (adds : Bool)
  | recall (adds : Bool)
  | swap
  | clear

structure Command where
  first : Option Address
  second : Option Ending
  isNegated : Bool
  action : Action

/-- Commands with all jumps resolved, and what else a script says. -/
structure Procedure where
  commands : Array Command
  /-- Whether lines are printed only where a command says so. -/
  isSilent : Bool

namespace Procedure

/-- The files that lines are written to. -/
def paths (procedure : Procedure) : List Text :=
  (procedure.commands.toList.filterMap fun command => match command.action with
    | .write path _ => some path
    | .substitute substitution => substitution.path
    | _ => none).eraseDups

end Procedure

end ShaderCost.Script.Utility.Editing

/-!
Reading commands that edit lines. A script may come in pieces; what is wrong with it is told with
the place in its piece.
-/

namespace ShaderCost.Script.Utility.Editing

/-- A piece of a script. -/
structure Piece where
  text : Text
  /-- The file that the piece is from, if it is from one. -/
  path : Option Text
  /-- Which of the pieces that are no files this is. -/
  number : Nat

structure Source where
  piece : Piece
  rest : Text
  /-- How many characters of the piece were taken. -/
  taken : Nat
  line : Nat
  later : List Piece
  isExtended : Bool
  isFirst : Bool
  isSilent : Bool
  commands : Array Command
  /-- The blocks that are open, each with its place and its piece. -/
  blocks : List (Nat × Piece)
  labels : List (Text × Nat)
  /-- Jumps to labels, by their places. -/
  jumps : List (Nat × Text)

abbrev Reader := StateT Source (Except Text)

def Piece.fault (piece : Piece) (taken line : Nat) (problem : Text) : Text :=
  match piece.path with
  | some path => "file ".toList ++ path ++ " line ".toList ++ Text.ofNat line ++ ": ".toList ++
      problem
  | none =>
      "-e expression #".toList ++ Text.ofNat piece.number ++ ", char ".toList ++ Text.ofNat taken ++
        ": ".toList ++ problem

def fault {α : Type} (problem : Text) : Reader α := do
  let source ← get
  throw (source.piece.fault source.taken source.line problem)

def take? : Reader (Option Char) := do
  let source ← get
  match source.rest with
  | [] => return none
  | c :: rest =>
      set { source with
        rest, taken := source.taken + 1, line := if c = '\n' then source.line + 1 else source.line }
      return some c

def peek : Reader (Option Char) := do return (← get).rest.head?

def takeWhile (test : Char → Bool) : Reader Text := do
  let source ← get
  let text := source.rest.takeWhile test
  set { source with
    rest := source.rest.drop text.length, taken := source.taken + text.length
    line := source.line + text.count '\n' }
  return text

def isBlank (c : Char) : Bool := c == ' ' || c == '\t'

def skipBlanks : Reader Unit := do
  let _ ← takeWhile isBlank

/-- Takes a character if it is the expected one. -/
def takeIf (expected : Char) : Reader Bool := do
  if (← peek) = some expected then
    let _ ← take?
    return true
  else return false

/-- The number at the front; where there is none it is zero. -/
def takeNumber : Reader Nat := do return digitsIn 10 (← takeWhile Char.isDigit)

/-! Texts between delimiters. -/

/-- The rest of a set in brackets, of which a part came before: up to the bracket that closes it, or
as far as it goes. -/
def takeSet : (fuel : Nat) → (isFirst : Bool) → (before : Text) → Reader Text
  | 0, _, before => return before
  | fuel + 1, isFirst, before => do
      match (← get).rest with
      | [] | '\n' :: _ => return before
      | ']' :: _ =>
          let _ ← take?
          if isFirst then takeSet fuel false (']' :: before) else return ']' :: before
      | '^' :: _ =>
          let _ ← take?
          takeSet fuel (isFirst && before.head? = some '[') ('^' :: before)
      | '[' :: mark :: rest =>
          let inner := if mark = ':' || mark = '.' || mark = '=' then
              (Expression.upToMark? mark rest []).map Prod.fst
            else none
          match inner with
          | some name =>
              if '\n' ∈ name then
                let _ ← take?
                takeSet fuel false ('[' :: before)
              else
                modify fun source => { source with
                  rest := rest.drop (name.length + 2), taken := source.taken + name.length + 4 }
                takeSet fuel false ([']', mark] ++ name.reverse ++ [mark, '['] ++ before)
          | none =>
              let _ ← take?
              takeSet fuel false ('[' :: before)
      | '\\' :: 'n' :: _ =>
          let _ ← take?
          let _ ← take?
          takeSet fuel false ('\n' :: before)
      | c :: _ =>
          let _ ← take?
          takeSet fuel false (c :: before)

/-- A text up to a delimiter, which a backslash before it keeps from being one, and a set of
characters around it as well. -/
def takeUntil (delimiter : Char) (isExpression : Bool) (problem : Text) :
    (fuel : Nat) → (before : Text) → Reader Text
  | 0, _ => fault problem
  | fuel + 1, before => do
      match ← peek with
      | none | some '\n' => fault problem
      | some c =>
          let _ ← take?
          if c = delimiter then return before.reverse
          else if c = '\\' then
            match ← take? with
            | none => fault problem
            | some d =>
                let before :=
                  if d = 'n' && isExpression then '\n' :: before
                  else if d = '\n' || (d = delimiter && !(d = '&' && !isExpression)) then
                    d :: before
                  else d :: '\\' :: before
                takeUntil delimiter isExpression problem fuel before
          else if c = '[' && isExpression then
            let before ← takeSet (fuel + 1) true ('[' :: before)
            takeUntil delimiter isExpression problem fuel before
          else takeUntil delimiter isExpression problem fuel (c :: before)

/-- The character that digits at the front stand for, if there are any. -/
def numbered? (base most : Nat) (isDigit : Char → Bool) (text : Text) : Option (Char × Text) :=
  let digits := (text.take most).takeWhile isDigit
  if digits.isEmpty then none
  else some (Char.ofNat (digitsIn base digits % 256), text.drop digits.length)

/-- The letters behind backslashes that stand for control characters. -/
def controlLetters : List (Char × Char) := [
  ('a', '\x07'), ('f', '\x0c'), ('n', '\n'), ('r', '\r'), ('t', '\t'), ('v', '\x0b')]

/-- The character that an escape stands for, whose backslash was taken. -/
def escape? (text : Text) : Option (Char × Text) :=
  match text with
  | 'd' :: rest => numbered? 10 3 Char.isDigit rest
  | 'o' :: rest => numbered? 8 3 isOctalDigit rest
  | 'x' :: rest => numbered? 16 2 isHexDigit rest
  | 'c' :: c :: rest =>
      let rest := if c = '\\' && rest.head? = some '\\' then rest.tail else rest
      some (Char.ofNat (c.toUpper.toNat ^^^ 64), rest)
  | c :: rest => (controlLetters.lookup c).map fun control => (control, rest)
  | [] => none

/-- A text in which escapes are resolved. Characters that would have a meaning in place of the
escape keep a backslash; other backslashes stay. -/
def resolved (guarded : Text) : (fuel : Nat) → Text → Text
  | 0, text => text
  | _ + 1, [] => []
  | fuel + 1, '\\' :: rest =>
      match escape? rest with
      | some (c, behind) =>
          (if guarded.elem c then ['\\', c] else [c]) ++ resolved guarded fuel behind
      | none =>
          match rest with
          | [] => ['\\']
          | c :: behind => '\\' :: c :: resolved guarded fuel behind
  | fuel + 1, c :: rest => c :: resolved guarded fuel rest

def resolvedText (guarded text : Text) : Text := resolved guarded (text.length + 1) text

/-- A text without backslashes, each of which gives way to the character behind it. -/
def unquoted : Text → Text
  | '\\' :: 'n' :: rest => '\n' :: unquoted rest
  | '\\' :: c :: rest => c :: unquoted rest
  | c :: rest => c :: unquoted rest
  | [] => []

/-! Expressions and replacements. -/

/-- The expression for a text; none for the one that was used last. -/
def expressionOf (text : Text) (foldsCase seesLines : Bool) : Reader (Option Expression) := do
  if text.isEmpty then
    if foldsCase || seesLines then fault "cannot specify modifiers on empty regexp"
    return none
  let isExtended := (← get).isExtended
  let style : Expression.Style := { isExtended, foldsCase, seesLines, isStrict := true }
  match Expression.ofText style (resolvedText ['\\'] text) with
  | .ok expression => return some expression
  | .error problem => fault problem

/-- The parts of a replacement. -/
def partsOf : (fuel : Nat) → Text → List Part
  | 0, _ | _ + 1, [] => []
  | fuel + 1, '&' :: rest => .group 0 :: partsOf fuel rest
  | fuel + 1, '\\' :: c :: rest =>
      let part : Part :=
        if c.isDigit then .group (digitValue c)
        else if c = 'U' then .letters .upper
        else if c = 'L' then .letters .lower
        else if c = 'E' then .letters .plain
        else if c = 'u' then .letter .upper
        else if c = 'l' then .letter .lower
        else .text [if c = 'n' then '\n' else c]
      part :: partsOf fuel rest
  | fuel + 1, text@(c :: rest) =>
      let plain := text.takeWhile fun c => c != '&' && c != '\\'
      if plain.isEmpty then .text [c] :: partsOf fuel rest
      else .text plain :: partsOf fuel (text.drop plain.length)

def replacementOf (text : Text) : List Part :=
  let text := resolvedText ['\\', '&'] text
  partsOf (text.length + 1) text

/-- The greatest number of a group that a replacement names. -/
def greatestGroup (parts : List Part) : Nat :=
  parts.foldl (fun greatest part => match part with
    | .group number => max greatest number
    | _ => greatest) 0

/-! Addresses. -/

/-- Letters behind an expression: whether it disregards case, and whether it sees lines. -/
def takeMarks : (fuel : Nat) → (foldsCase seesLines : Bool) → Reader (Bool × Bool)
  | 0, foldsCase, seesLines => return (foldsCase, seesLines)
  | fuel + 1, foldsCase, seesLines => do
      skipBlanks
      if ← takeIf 'I' then takeMarks fuel true seesLines
      else if ← takeIf 'M' then takeMarks fuel foldsCase true
      else return (foldsCase, seesLines)

def takeExpression (delimiter : Char) : Reader Address := do
  let length := (← get).rest.length
  let text ← takeUntil delimiter true "unterminated address regex" (length + 1) []
  let (foldsCase, seesLines) ← takeMarks (length + 1) false false
  return .finding (← expressionOf text foldsCase seesLines)

def address? : Reader (Option Address) := do
  match ← peek with
  | some '$' =>
      let _ ← take?
      return some .last
  | some '/' =>
      let _ ← take?
      return some (← takeExpression '/')
  | some '\\' =>
      let _ ← take?
      match ← take? with
      | some delimiter => return some (← takeExpression delimiter)
      | none => fault "unterminated address regex"
  | some c =>
      if !c.isDigit then return none
      let first ← takeNumber
      skipBlanks
      if ← takeIf '~' then
        skipBlanks
        let step ← takeNumber
        return some (if step = 0 then .line first else .every first step)
      else return some (.line first)
  | none => return none

def ending? : Reader (Option Ending) := do
  let isFurther := (← peek) = some '+'
  if isFurther || (← peek) = some '~' then
    let _ ← take?
    skipBlanks
    let number ← takeNumber
    return some (if isFurther then .further number else .multiple number)
  else return (← address?).map .address

/-- The address or the range in front of a command. -/
def takeAddresses : Reader (Option Address × Option Ending) := do
  let next ← peek
  if next = some '+' || next = some '~' then
    let _ ← ending?
    fault "invalid usage of +N or ~N as first address"
  match ← address? with
  | none => return (none, none)
  | some first =>
      skipBlanks
      let second ←
        if ← takeIf ',' then
          skipBlanks
          match ← ending? with
          | some ending =>
              skipBlanks
              pure (some ending)
          | none =>
              let _ ← take?
              fault "unexpected \x60,'"
        else pure none
      let startsBefore := match first with
        | .line 0 => true
        | _ => false
      let next ← peek
      let mayStartBefore := match second with
        | some (.address (.finding _)) => true
        | some _ => false
        | none => next = some 'r'
      if startsBefore && !mayStartBefore then
        let _ ← take?
        fault "invalid usage of line address 0"
      return (some first, second)

/-! Commands. -/

/-- Goes on with the next piece of the script, if there is one. -/
def openNextPiece : Reader Bool := do
  let source ← get
  match source.later with
  | [] => return false
  | piece :: later =>
      set { source with piece, rest := piece.text, taken := 0, line := 1, later, isFirst := false }
      return true

/-- The lines of a text that a command takes. A backslash at the end of a line joins the next one,
which may begin the next piece. -/
def takeLines : (fuel : Nat) → (before : Text) → Reader Text
  | 0, before => return ('\n' :: before).reverse
  | fuel + 1, before => do
      match ← take? with
      | none | some '\n' => return ('\n' :: before).reverse
      | some '\\' =>
          let source ← get
          match escape? source.rest with
          | some (c, rest) =>
              set { source with rest, taken := source.taken + source.rest.length - rest.length }
              takeLines fuel (c :: before)
          | none =>
              match ← take? with
              | some c => takeLines fuel (c :: before)
              | none =>
                  if ← openNextPiece then takeLines fuel ('\n' :: before)
                  else return ('\n' :: before).reverse
      | some c => takeLines fuel (c :: before)

/-- The text behind a command that takes one. -/
def takeText : Reader Text := do
  let source ← get
  let fuel := (source.later.map fun piece => piece.text.length + 1).foldl Nat.add
    (source.rest.length + 1)
  skipBlanks
  if (← peek).isNone then fault "expected \\ after \x60a', \x60c' or \x60i'"
  if ← takeIf '\\' then
    match ← peek with
    | none => if ← openNextPiece then takeLines fuel [] else return []
    | some '\n' =>
        let _ ← take?
        takeLines fuel []
    | some c =>
        if isBlank c || c = '\\' then takeLines fuel []
        else
          let _ ← take?
          takeLines fuel [c]
  else takeLines fuel []

def isLabelChar (c : Char) : Bool := !isBlankOctet c && c != ';' && c != '\x7d'

def takeLabel : Reader Text := do
  skipBlanks
  takeWhile isLabelChar

def takePath : Reader Text := do
  skipBlanks
  let path ← takeWhile (· != '\n')
  if path.isEmpty then fault "missing filename in r/R/w/W commands"
  return path

/-- Checks that nothing stands behind a command. -/
def takeEnd : Reader Unit := do
  skipBlanks
  match ← peek with
  | none | some '\x7d' | some '#' => pure ()
  | some c =>
      let _ ← take?
      if c != '\n' && c != ';' then fault "extra characters after command"

/-- What the letters behind a substitution ask for. -/
structure Marks where
  foldsCase : Bool := false
  seesLines : Bool := false
  all : Bool := false
  prints : Bool := false
  first : Nat := 0
  path : Option Text := none

def takeSubstitutionMarks : (fuel : Nat) → Marks → Reader Marks
  | 0, marks => return marks
  | fuel + 1, marks => do
      match ← peek with
      | none | some '\x7d' | some '#' => return marks
      | some c =>
          if c.isDigit then
            let number ← takeNumber
            if marks.first != 0 then fault "multiple number options to \x60s' command"
            if number = 0 then fault "number option to \x60s' command may not be zero"
            return ← takeSubstitutionMarks fuel { marks with first := number }
          let _ ← take?
          if c = '\n' || c = ';' then return marks
          else if c = 'i' || c = 'I' then
            takeSubstitutionMarks fuel { marks with foldsCase := true }
          else if c = 'm' || c = 'M' then
            takeSubstitutionMarks fuel { marks with seesLines := true }
          else if c = 'p' then
            if marks.prints then fault "multiple \x60p' options to \x60s' command"
            takeSubstitutionMarks fuel { marks with prints := true }
          else if c = 'g' then
            if marks.all then fault "multiple \x60g' options to \x60s' command"
            takeSubstitutionMarks fuel { marks with all := true }
          else if c = 'w' then return { marks with path := some (← takePath) }
          else if isBlank c then takeSubstitutionMarks fuel marks
          else fault "unknown option to \x60s'"

def takeSubstitution : Reader Action := do
  let problem : Text := "unterminated \x60s' command"
  let length := (← get).rest.length
  match ← take? with
  | none => fault problem
  | some delimiter =>
      let text ← takeUntil delimiter true problem (length + 1) []
      let replacement ← takeUntil delimiter false problem (length + 1) []
      let parts := replacementOf replacement
      let marks ← takeSubstitutionMarks (length + 1) {}
      let expression ← expressionOf text marks.foldsCase marks.seesLines
      let named := greatestGroup parts
      if expression.any fun expression => expression.groups < named then
        fault ("invalid reference \\".toList ++ Text.ofNat named ++
          " on \x60s' command's RHS".toList)
      return .substitute {
        expression, parts, first := max marks.first 1, all := marks.all, prints := marks.prints
        path := marks.path }

def takeExchange : Reader Action := do
  let problem : Text := "unterminated \x60y' command"
  let length := (← get).rest.length
  match ← take? with
  | none => fault problem
  | some delimiter =>
      let before ← takeUntil delimiter false problem (length + 1) []
      let after ← takeUntil delimiter false problem (length + 1) []
      let before := unquoted (resolvedText ['\\'] before)
      let after := unquoted (resolvedText ['\\'] after)
      if before.length != after.length then
        fault "strings for \x60y' command are different lengths"
      takeEnd
      return .exchange before after

/-- Actions that are one letter. -/
def letterActions : List (Char × Action) := [
  ('=', .number), ('d', .delete), ('D', .deleteFirst), ('F', .name), ('g', .recall false),
  ('G', .recall true), ('h', .keep false), ('H', .keep true), ('n', .next false),
  ('N', .next true), ('p', .print false), ('P', .print true), ('z', .clear), ('x', .swap)]

/-- The action of a command after its letter. -/
def takeAction (c : Char) (isRange : Bool) : Reader Action := do
  match letterActions.lookup c with
  | some action =>
      takeEnd
      return action
  | none =>
      if c = 's' then takeSubstitution
      else if c = 'y' then takeExchange
      else if c = 'a' then return .append (← takeText)
      else if c = 'i' then return .insert (← takeText)
      else if c = 'c' then return .change (← takeText)
      else if c = 'q' || c = 'Q' || c = 'l' then
        if c != 'l' && isRange then fault "command only uses one address"
        skipBlanks
        let hasNumber := (← peek).any Char.isDigit
        let number ← takeNumber
        takeEnd
        if c = 'l' then return .list (if hasNumber then some number else none)
        else return .quit number (c = 'q')
      else if c = 'r' then return .appendFile (← takePath)
      else if c = 'R' then return .appendLine (← takePath)
      else if c = 'w' || c = 'W' then return .write (← takePath) (c = 'W')
      else fault ("unknown command: \x60" ++ c :: ['\''])

def addCommand (command : Command) : Reader Unit := modify fun source =>
  { source with commands := source.commands.push command }

/-- Fills in where a block ends. -/
def closeBlock (place : Nat) : Reader Unit := modify fun source =>
  { source with
    commands := source.commands.modify place fun command =>
      { command with action := .block source.commands.size }
    blocks := source.blocks.tail }

/-- Takes the next command of a piece. -/
def takeCommand : Reader Unit := do
  let (first, second) ← takeAddresses
  let isNegated ← takeIf '!'
  if isNegated then
    skipBlanks
    if ← takeIf '!' then fault "multiple \x60!'s"
  match ← take? with
  | none => fault "missing command"
  | some '#' =>
      if first.isSome then fault "comments don't accept any addresses"
      let source ← get
      let comment ← takeWhile (· != '\n')
      if comment.head? = some 'n' && source.isFirst && source.taken = 1 then
        modify fun source => { source with isSilent := true }
  | some ':' =>
      if first.isSome then fault ": doesn't want any addresses"
      let label ← takeLabel
      if label.isEmpty then fault "\":\" lacks a label"
      modify fun source =>
        { source with labels := (label, source.commands.size) :: source.labels }
  | some '\x7b' =>
      modify fun source =>
        { source with blocks := (source.commands.size, source.piece) :: source.blocks }
      addCommand ⟨first, second, isNegated, .block 0⟩
  | some '\x7d' =>
      match (← get).blocks with
      | [] => fault "unexpected \x60\x7d'"
      | (place, _) :: _ =>
          if first.isSome then fault "\x7d doesn't want any addresses"
          takeEnd
          closeBlock place
  | some 'v' =>
      let version ← takeLabel
      if (version.head?.any fun c => '4' < c) then fault "expected newer version of sed"
      takeEnd
  | some c =>
      if c = 'b' || c = 't' || c = 'T' then
        let label ← takeLabel
        takeEnd
        let cause : Cause :=
          if c = 'b' then .always else if c = 't' then .replaced else .notReplaced
        modify fun source => { source with jumps := (source.commands.size, label) :: source.jumps }
        addCommand ⟨first, second, isNegated, .jump cause 0⟩
      else addCommand ⟨first, second, isNegated, ← takeAction c second.isSome⟩

/-- Takes commands up to the end of the script. -/
def takeCommands : (fuel : Nat) → Reader Unit
  | 0 => fault "script too long"
  | fuel + 1 => do
      let _ ← takeWhile fun c => isBlankOctet c || c == ';'
      if (← peek).isNone then
        if ← openNextPiece then takeCommands fuel
      else
        takeCommand
        takeCommands fuel

/-- Resolves the jumps of a script. -/
def resolveJumps (source : Source) : Except Text (Array Command) :=
  source.jumps.foldlM (fun commands (place, label) => do
    let target ←
      if label.isEmpty then pure commands.size
      else match source.labels.lookup label with
        | some target => pure target
        | none => throw ("can't find label for jump to \x60".toList ++ label ++ ['\''])
    return commands.modify place fun command => { command with
      action := match command.action with
        | .jump cause _ => .jump cause target
        | action => action }) source.commands

/-- What is wrong with a script: its text, or a label that is nowhere. -/
inductive Fault where
  | text (problem : Text)
  | label (problem : Text)

def Procedure.ofPieces (isExtended : Bool) (pieces : List Piece) : Except Fault Procedure := do
  match pieces with
  | [] => return ⟨#[], false⟩
  | piece :: later =>
      let fuel := (pieces.map fun piece => piece.text.length + 2).foldl Nat.add 1
      let source : Source := {
        piece, rest := piece.text, taken := 0, line := 1, later, isExtended, isFirst := true
        isSilent := false, commands := #[], blocks := [], labels := [], jumps := [] }
      let (_, source) ← ((takeCommands fuel).run source).mapError Fault.text
      match source.blocks with
      | (_, piece) :: _ => throw (.text (piece.fault 0 0 "unmatched \x60\x7b'"))
      | [] => return ⟨← (resolveJumps source).mapError Fault.label, source.isSilent⟩

end ShaderCost.Script.Utility.Editing
