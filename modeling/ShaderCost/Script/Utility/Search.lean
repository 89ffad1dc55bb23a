import ShaderCost.Script.Expression.Reader
import ShaderCost.Script.Utility.Entries
import ShaderCost.Script.Utility.Values

/-!
Computing with the arguments of a call: every operator and operand is a word of its own, and the
status tells whether the value is neither empty nor zero.
-/

namespace ShaderCost.Script.Utility

namespace Computation

abbrev Reader := StateT (List Text) (Except Text)

/-- A whole number, without blanks or a plus sign. -/
def int? (text : Text) : Option Int :=
  match text with
  | '-' :: digits => (Text.nat? digits).map fun value => -(value : Int)
  | digits => (Text.nat? digits).map fun value => (value : Int)

def number (text : Text) : Except Text Int :=
  match int? text with
  | some value => .ok value
  | none => .error "non-integer argument"

def isNull (value : Text) : Bool := value.isEmpty || int? value = some 0

def ofBool (value : Bool) : Text := if value then ['1'] else ['0']

/-- What an expression finds at the beginning of a text: the text of its first group or, without
groups, how many characters it takes. -/
def matching (text pattern : Text) : Except Text Text := do
  let expression ← Expression.ofText { isExtended := false } pattern
  match expression.take? [] text with
  | some found =>
      if expression.groups != 0 then return found.group 1
      else return Text.ofNat found.found.length
  | none => return if expression.groups != 0 then [] else ['0']

/-- The value of two operands. -/
def combine (operator left right : Text) : Except Text Text := do
  let compare (ofTexts : Bool) (ofInts : Int → Int → Bool) : Text :=
    match int? left, int? right with
    | some left, some right => ofBool (ofInts left right)
    | _, _ => ofBool ofTexts
  if operator = "|" then
    return if !isNull left then left else if isNull right then ['0'] else right
  else if operator = "&" then return if isNull left || isNull right then ['0'] else left
  else if operator = "<" then
    return compare (left != right && Text.atMost left right) (fun a b => a < b)
  else if operator = "<=" then return compare (Text.atMost left right) (fun a b => a ≤ b)
  else if operator = "=" || operator = "==" then return compare (left = right) (· == ·)
  else if operator = "!=" then return compare (left != right) (· != ·)
  else if operator = ">=" then return compare (Text.atMost right left) (fun a b => b ≤ a)
  else if operator = ">" then
    return compare (left != right && Text.atMost right left) (fun a b => b < a)
  else if operator = ":" then matching left right
  else
    let left ← number left
    let right ← number right
    if operator = "+" then return Text.ofInt (left + right)
    else if operator = "-" then return Text.ofInt (left - right)
    else if operator = "*" then return Text.ofInt (left * right)
    else if right = 0 then throw ("division by zero" : Text)
    else if operator = "/" then return Text.ofInt (Int.tdiv left right)
    else return Text.ofInt (Int.tmod left right)

/-- The operators by how tightly they bind, the loosest first. -/
def levels : List (List Text) := [
  ["|"], ["&"], ["<", "<=", "=", "==", "!=", ">=", ">"], ["+", "-"], ["*", "/", "%"], [":"]]

/-- Takes a word that has to be there, behind another one. -/
def takeWord (behind : Text) : Reader Text := do
  match ← get with
  | word :: rest =>
      set rest
      return word
  | [] => throw ("syntax error: missing argument after ".toList ++ nameInQuotes behind)

mutual

/-- A value made by operators that bind at least as tightly as the first level. -/
def value (fuel : Nat) (levels : List (List Text)) (behind : Text) : Reader Text :=
  match fuel with
  | 0 => throw ("syntax error" : Text)
  | fuel + 1 => do
      match levels with
      | [] => operand fuel behind
      | operators :: tighter =>
          let first ← value fuel tighter behind
          continueValue fuel operators tighter first

def continueValue (fuel : Nat) (operators : List Text) (tighter : List (List Text))
    (left : Text) : Reader Text :=
  match fuel with
  | 0 => throw ("syntax error" : Text)
  | fuel + 1 => do
      match ← get with
      | operator :: rest =>
          if operators.elem operator then
            set rest
            let right ← value fuel tighter operator
            let result ← (combine operator left right : Except Text Text)
            continueValue fuel operators tighter result
          else return left
      | [] => return left

def operand (fuel : Nat) (behind : Text) : Reader Text :=
  match fuel with
  | 0 => throw ("syntax error" : Text)
  | fuel + 1 => do
      let word ← takeWord behind
      let isFunction := !(← get).isEmpty
      if word = "(" then
        let inner ← value fuel levels word
        match ← get with
        | [')'] :: rest =>
            set rest
            return inner
        | [] => throw ("syntax error: expecting ')' after ".toList ++ nameInQuotes inner)
        | other :: _ =>
            throw ("syntax error: expecting ')' instead of ".toList ++ nameInQuotes other)
      else if word = "+" && isFunction then takeWord word
      else if word = "length" && isFunction then
        return Text.ofNat (← operand fuel word).length
      else if word = "substr" && isFunction then
        let text ← operand fuel word
        let start := ((int? (← operand fuel word)).getD 0).toNat
        let size := ((int? (← operand fuel word)).getD 0).toNat
        return if start = 0 then [] else (text.drop (start - 1)).take size
      else if word = "index" && isFunction then
        let text ← operand fuel word
        let wanted ← operand fuel word
        return Text.ofNat (((text.findIdx? wanted.elem).map (· + 1)).getD 0)
      else if word = "match" && isFunction then
        let text ← operand fuel word
        (matching text (← operand fuel word) : Except Text Text)
      else return word

end

end Computation

/-- Computes a value and prints it. -/
def expr : Utility := fun name arguments => do
  match if arguments.head? = some "--".toList then arguments.tail else arguments with
  | [] => refuse name "missing operand" 2
  | words =>
      match (Computation.value (16 * words.length + 16) Computation.levels []).run words with
      | .error problem =>
          complain name problem
          return 2
      | .ok (_, extra :: _) =>
          complain name ("syntax error: unexpected argument ".toList ++ nameInQuotes extra)
          return 2
      | .ok (value, []) =>
          print (value ++ ['\n'])
          return if Computation.isNull value then 1 else 0

end ShaderCost.Script.Utility

/-!
Utilities that look for expressions in lines.
-/

namespace ShaderCost.Script.Utility

namespace Grep

/-- What lines are looked at for, and in which way. -/
structure Query where
  expressions : List Expression
  isNegated : Bool
  wholeLines : Bool
  wholeWords : Bool

namespace Query

/-- Whether what lies between two texts can be a word. -/
def isApart (before rest : Text) : Bool :=
  !(before.head?.any Expression.isWordChar) && !(rest.head?.any Expression.isWordChar)

/-- The longest text at the front that is looked for. `past` is what comes before, backwards. -/
def take? (query : Query) (past text : Text) : Option Form.Place :=
  Expression.longest? <| query.expressions.flatMap fun expression =>
    let places := expression.form.reach expression.takesLongest ⟨past, text, 0, []⟩
    if query.wholeLines then places.filter fun place => past.isEmpty && place.rest.isEmpty
    else if query.wholeWords then places.filter fun place => isApart past place.rest
    else match places, expression.takesLongest with
      | place :: _, false => [place]
      | places, _ => places

/-- The first place in a text that is looked for: how many characters come before it, and the
place. -/
def find? (query : Query) : (past text : Text) → (count : Nat) → Option (Nat × Form.Place)
  | past, [], count => (query.take? past []).map fun place => (count, place)
  | past, c :: rest, count =>
      match query.take? past (c :: rest) with
      | some place => some (count, place)
      | none => if query.wholeLines then none else find? query (c :: past) rest (count + 1)

/-- Whether a line is one of those that are looked for. -/
def accepts (query : Query) (line : Text) : Bool :=
  (query.find? [] line 0).isSome != query.isNegated

/-- What is found in a line, each with how many characters come before it. -/
def findAll (query : Query) : (fuel : Nat) → (past text : Text) → (offset : Nat) →
    List (Nat × Text)
  | 0, _, _, _ => []
  | fuel + 1, past, text, offset =>
      match query.find? past text 0 with
      | none => []
      | some (count, place) =>
          let found := (text.drop count).take place.passed
          if !found.isEmpty then
            (offset + count, found) ::
              findAll query fuel place.before place.rest (offset + count + place.passed)
          else match place.rest with
            | [] => []
            | c :: rest => findAll query fuel (c :: place.before) rest (offset + count + 1)

end Query

/-- A line with its number and where it begins in its text. -/
structure Line where
  text : Text
  number : Nat
  offset : Nat

def linesOf (separator : Char) (text : Text) : List Line :=
  go text [] 0 1 0 []
where
  go : (rest line : Text) → (length number offset : Nat) → List Line → List Line
    | [], line, _, number, offset, found =>
        (if line.isEmpty then found else ⟨line.reverse, number, offset⟩ :: found).reverse
    | c :: rest, line, length, number, offset, found =>
        if c = separator then
          go rest [] 0 (number + 1) (offset + length + 1) (⟨line.reverse, number, offset⟩ :: found)
        else go rest (c :: line) (length + 1) number offset found

/-- How many lines around chosen ones are shown. -/
structure Margins where
  before : Nat
  after : Nat

/-- The chosen lines and those near to them, each with whether it was chosen. `left` lines are
still wanted behind a chosen one, and no more than `limit` are chosen. -/
def Margins.select (margins : Margins) (accepts : Text → Bool) :
    List Line → (limit : Option Nat) → (waiting : List Line) → (left : Nat) → List (Line × Bool)
  | [], _, _, _ => []
  | line :: rest, limit, waiting, left =>
      if limit = some 0 then
        if left = 0 then []
        else (line, false) :: select margins accepts rest limit [] (left - 1)
      else if accepts line.text then
        (waiting.reverse.map fun line => (line, false)) ++
          (line, true) :: select margins accepts rest (limit.map (· - 1)) [] margins.after
      else if left != 0 then (line, false) :: select margins accepts rest limit [] (left - 1)
      else select margins accepts rest limit ((line :: waiting).take margins.before) 0

/-- How what is found is shown. -/
structure Display where
  query : Query
  margins : Margins
  limit : Option Nat
  /-- The end of lines. -/
  separator : Char
  /-- What stands behind the name of a file. -/
  nameMark : Option Char

/-- The letters whose numbers are margins, in the order of the call. -/
def marginsOf (call : Call) : Margins :=
  let find (letter : Char) : Option Nat :=
    (call.options.reverse.find? fun (given, _) => given = letter).bind fun (_, value) =>
      Text.nat? value
  let both := (find 'C').getD 0
  ⟨(find 'B').getD both, (find 'A').getD both⟩

/-- Whether a text is taken for lines. -/
def isBinary (call : Call) (text : Text) : Bool :=
  !call.has 'a' && !call.has 'z' && '\x00' ∈ text

/-- Shows what is found in a text, and tells whether anything is. `wasShown` tells whether
something was shown before, from which this is set apart. -/
def search (name : Text) (call : Call) (display : Display) (path : Text) (isNamed : Bool)
    (wasShown : Bool) (text : Text) : Step (Bool × Bool) := do
  spend (text.length / charactersPerTurn)
  let nameText (mark : Char) : Text :=
    if isNamed then path ++ [display.nameMark.getD mark] else []
  let lines := linesOf display.separator text
  let isBinary := isBinary call text
  let skips := isBinary && call.has 'I'
  let selected := if skips then []
    else display.margins.select display.query.accepts lines display.limit [] 0
  let count := selected.countP Prod.snd
  let isFound := count != 0
  if call.has 'q' then return (isFound, wasShown)
  if call.has 'l' || call.has 'L' then
    if (call.has 'l' && isFound) || (call.has 'L' && !isFound) then
      print (path ++ [display.nameMark.getD '\n'])
    return (isFound, wasShown)
  if call.has 'c' then
    print (nameText ':' ++ Text.ofNat count ++ ['\n'])
    return (isFound, wasShown)
  if isBinary && isFound then
    complain name (path ++ ": binary file matches".toList)
    return (isFound, wasShown)
  let tabs := call.has 'T'
  let aligned (number : Nat) : Text :=
    if tabs then padLeft 2 (Text.ofNat number) else Text.ofNat number
  let front (line : Line) (offset : Nat) (mark : Char) : Text :=
    let parts := nameText mark ++
      (if call.has 'n' then aligned line.number ++ [mark] else []) ++
      (if call.has 'b' then aligned offset ++ [mark] else [])
    if tabs && !parts.isEmpty then parts ++ ['\t'] else parts
  let hasMargins := display.margins.before + display.margins.after != 0
  let mut shown := wasShown
  let mut next := 0
  let mut pieces : List Text := []
  for (line, isChosen) in selected do
    if call.has 'o' then
      if isChosen && !call.has 'v' then
        for (place, found) in display.query.findAll (line.text.length + 1) [] line.text 0 do
          pieces := (front line (line.offset + place) ':' ++ found ++ [display.separator]) :: pieces
    else
      if hasMargins && shown && line.number != next then pieces := "--\n" :: pieces
      shown := true
      next := line.number + 1
      let mark := if isChosen then ':' else '-'
      pieces := (front line line.offset mark ++ line.text ++ [display.separator]) :: pieces
  if !pieces.isEmpty then print pieces.reverse.flatten
  return (isFound, shown)

/-- The words of options on what is looked for. -/
def queryWords : List (Text × Char) := [
  ("extended-regexp", 'E'), ("fixed-strings", 'F'), ("basic-regexp", 'G'), ("perl-regexp", 'P'),
  ("ignore-case", 'i'), ("invert-match", 'v'), ("word-regexp", 'w'), ("line-regexp", 'x'),
  ("regexp", 'e'), ("file", 'f'), ("max-count", 'm'), ("text", 'a'), ("null-data", 'z'),
  ("recursive", 'r'), ("dereference-recursive", 'R'), ("directories", 'd'), ("binary", 'U'),
  ("include", '\x01'), ("exclude", '\x02'), ("exclude-dir", '\x03')]

/-- The words of options on what is shown. -/
def displayWords : List (Text × Char) := [
  ("count", 'c'), ("line-number", 'n'), ("quiet", 'q'), ("silent", 'q'),
  ("files-with-matches", 'l'), ("files-without-match", 'L'), ("only-matching", 'o'),
  ("no-filename", 'h'), ("with-filename", 'H'), ("no-messages", 's'), ("null", 'Z'),
  ("byte-offset", 'b'), ("initial-tab", 'T'), ("after-context", 'A'), ("before-context", 'B'),
  ("context", 'C'), ("color", '\x04'), ("colour", '\x04'), ("line-buffered", 'u')]

def options : Options := {
  flags := "EFGPivcnqslLowxhHrRazZbTIUyu\x04".toList
  valued := "efmABCdD\x01\x02\x03\x04".toList
  words := queryWords ++ displayWords
  refusal := 2 }

def usage (name : Text) : Step Nat := do
  report "Usage: grep [OPTION]... PATTERNS [FILE]..."
  report ("Try '" ++ name ++ " --help' for more information.")
  return 2

def styleOf (isExtended foldsCase : Bool) : Expression.Style := {
  isExtended, foldsCase, sparesBraces := isExtended, sparesParentheses := isExtended }

/-- Whether a text is a class of characters without the brackets around it. -/
def lacksBrackets (pattern : Text) : Bool :=
  Text.after? "[:" pattern |>.any fun behind => Text.endsWith ":]" behind && ']' ∉ behind.dropLast

/-- The expressions for patterns. -/
def expressionsOf (name : Text) (call : Call) (patterns : List Text) :
    Except Text (List Expression) :=
  let kind := (call.options.reverse.find? fun (letter, _) => "EFGP".toList.elem letter).map Prod.fst
  let isExtended := kind = some 'E' || kind = some 'P' || (kind.isNone && name = "egrep")
  let isPlain := kind = some 'F' || (kind.isNone && name = "fgrep")
  let foldsCase := call.has 'i' || call.has 'y'
  patterns.mapM fun pattern =>
    if isPlain then .ok (Expression.ofPlainText foldsCase pattern)
    else if lacksBrackets pattern then
      .error "character class syntax is [[:space:]], not [:space:]"
    else Expression.ofText (styleOf isExtended foldsCase) pattern

/-- The files below a directory in the order of their names. -/
def filesBelow (keepsDirectory : Text → Bool) (above : Text) : Entries → List Text
  | [] => []
  | (name, .directory entries) :: rest =>
      let path := above ++ spreadText name
      (if keepsDirectory (spreadText name) then
        filesBelow keepsDirectory (path ++ ['/']) entries else []) ++
        filesBelow keepsDirectory above rest
  | (name, .file _ _) :: rest =>
      (above ++ spreadText name) :: filesBelow keepsDirectory above rest
  | (_, .link _) :: rest | (_, .null) :: rest | (_, .stream _) :: rest | (_, .program _) :: rest =>
      filesBelow keepsDirectory above rest

/-- Whether a name passes the globs of a call. -/
def globAccepts (call : Call) (letter : Char) (name : Text) : Bool :=
  call.options.any fun (given, glob) => given = letter && (Pattern.bare glob).accepts name

/-- The files that a path stands for where directories are searched. -/
def filesAt (call : Call) (tree : FileTree) (path : Text) (above : Text) : List Text :=
  match tree.find (shownText path) with
  | .ok (.directory entries) =>
      (filesBelow (fun name => !globAccepts call '\x03' name) above entries).mergeSort Text.atMost
  | _ => [path]

/-- Whether a file is left out because of its name. -/
def isLeftOut (call : Call) (path : Text) : Bool :=
  let name := lastName [] path
  (call.has '\x01' && !globAccepts call '\x01' name) || globAccepts call '\x02' name

/-- The patterns of a call and the files in which it looks for them; `none` where a file of
patterns cannot be read. -/
def patternsOf (name : Text) (call : Call) : Step (Option (List Text × List Text)) := do
  let mut patterns : List Text := []
  for (letter, value) in call.options do
    if letter = 'e' then patterns := patterns ++ value.splitOn '\n'
    else if letter = 'f' then
      match ← content value with
      | .ok text => patterns := patterns ++ bareLines text
      | .error error =>
          complain name (value ++ ": ".toList ++ wording error)
          return none
  if call.has 'e' || call.has 'f' then return some (patterns, call.operands)
  else return some (((call.operands.headD []).splitOn '\n'), call.operands.drop 1)

/-- A number that a call must give behind a letter. -/
def badMargin? (call : Call) : Option Text :=
  (call.options.find? fun (letter, value) =>
    "ABC".toList.elem letter && (Text.nat? value).isNone).map Prod.snd

end Grep

/-- Numbers among letters are margins. -/
def withMargins (arguments : List Text) : List Text :=
  arguments.map fun argument =>
    match argument with
    | '-' :: digits =>
        if !digits.isEmpty && digits.all Char.isDigit then "-C".toList ++ digits else argument
    | _ => argument

/-- Shows the lines in which an expression is found. -/
def grep : Utility := fun name arguments => do
  let refuse (problem : Text) : Step Nat := do
    complain name problem
    Grep.usage name
  match Grep.options.read false (arguments.length + 1) (withMargins arguments) with
  | .error problem => refuse problem
  | .ok call =>
      if call.operands.isEmpty && !call.has 'e' && !call.has 'f' then return ← Grep.usage name
      if let some text := Grep.badMargin? call then
        complain name (text ++ ": invalid context length argument".toList)
        return 2
      let limit := call.value? 'm'
      if limit.any fun limit => (Computation.int? limit).isNone then
        complain name "invalid max count"
        return 2
      let some (patterns, paths) ← Grep.patternsOf name call | return 2
      let acceptsAll := patterns = [[]] && !call.has 'x' && !call.has 'w'
      if !call.has 'L' && ((call.has 'v' && acceptsAll) || limit = some ['0']) then return 1
      match Grep.expressionsOf name call patterns with
      | .error problem =>
          complain name problem
          return 2
      | .ok expressions =>
          let query : Grep.Query := ⟨expressions, call.has 'v', call.has 'x', call.has 'w'⟩
          let display : Grep.Display := {
            query
            margins := if call.has 'o' then ⟨0, 0⟩ else Grep.marginsOf call
            limit := (limit.bind Computation.int?).bind fun limit =>
              if limit < 0 then none else some limit.toNat
            separator := if call.has 'z' then '\x00' else '\n'
            nameMark := if call.has 'Z' then some '\x00' else none }
          let isDeep := call.has 'r' || call.has 'R' || call.value? 'd' = some "recurse".toList
          let tree := (← get).tree
          let files : List Text :=
            if !isDeep then if paths.isEmpty then ["-".toList] else paths
            else if paths.isEmpty then Grep.filesAt call tree "." []
            else paths.flatMap fun path =>
              Grep.filesAt call tree path (if path.getLast? = some '/' then path else path ++ ['/'])
          let files := files.filter fun path => !Grep.isLeftOut call path
          let isNamed := (1 < paths.length || call.has 'H' || isDeep) && !call.has 'h'
          let mut isFound := false
          let mut failed := false
          let mut wasShown := false
          for path in files do
            match ← content path with
            | .ok text =>
                let shown : Text := if path = "-" then "(standard input)" else path
                let (found, isShown) ← Grep.search name call display shown isNamed wasShown text
                wasShown := isShown
                if found then isFound := true
                if found && call.has 'q' then return 0
            | .error .isDirectory =>
                if call.value? 'd' != some "skip".toList then
                  complain name (path ++ ": Is a directory".toList)
                  failed := true
            | .error error =>
                failed := true
                if !call.has 's' then complain name (path ++ ": ".toList ++ wording error)
          if failed then return 2
          return if isFound then 0 else 1

end ShaderCost.Script.Utility
