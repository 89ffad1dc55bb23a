import ShaderCost.Script.Sigil.Syntax

/-!
What a program in the making consists of, and the small steps of reading it: blanks, comments,
texts between marks, words and operators.
-/

namespace ShaderCost.Script.Sigil

structure Source where
  rest : Text
  line : Nat
  /-- Lines of attached texts that come behind the line at hand. -/
  owed : Nat
  /-- What names stand for, by blocks, the innermost one first. -/
  scopes : List (List (Text × Name))
  /-- Names that the statement at hand declares for those behind it. -/
  pending : List (Text × Name)
  declared : Array (Shape × Text)
  routines : Array Routine
  named : List (Text × Nat)
  /-- Names of routines without arguments. -/
  fixed : List Text
  /-- Names of routines of the library. -/
  imported : List Text
  first : List Nat
  last : List Nat
  package : Text
  isStrict : Bool
  /-- Whether some part of the program is less strict than the rest. -/
  isLoose : Bool
  /-- How many routines are around. -/
  depth : Nat
  /-- What is wrong with names, the last one first. -/
  problems : List Text
  attached : Option Text
  path : Text
  /-- Whether the text ends with the end of a line. -/
  endsLine : Bool
  /-- Where the tokens before began, the last one first. -/
  marks : List Text

/-- Why a program cannot be read: in so many words, or what stands near the place. -/
inductive Fault where
  | worded (problem : Text) (status : Nat)
  | near (text : Text) (line : Nat)
  /-- The end comes too early, perhaps with brackets that are open. -/
  | ended (line : Nat) (hasOpen : Bool)

namespace Source

def ofText (path text : Text) : Source where
  rest := text
  line := 1
  owed := 0
  scopes := [[]]
  pending := []
  declared := #[]
  routines := #[]
  named := []
  fixed := []
  imported := []
  first := []
  last := []
  package := "main"
  isStrict := false
  isLoose := false
  depth := 0
  problems := []
  attached := none
  path
  endsLine := text.getLast? = some '\n'
  marks := []

/-- Where a message says that something happened. -/
def place (path : Text) (line : Nat) : Text :=
  " at ".toList ++ path ++ " line ".toList ++ Text.ofNat line

/-- What is said at the end of a program that cannot be read. -/
def ending (path : Text) : Text :=
  "Execution of ".toList ++ path ++ " aborted due to compilation errors.\n".toList

def Fault.message (path : Text) : Fault → Text
  | .worded problem _ => problem
  | .near text line =>
      "syntax error".toList ++ place path line ++ ", near \"".toList ++ text ++ "\"\n".toList ++
        ending path
  | .ended line hasOpen =>
      let missing : Text :=
        if hasOpen then
          "Missing right curly or square bracket".toList ++ place path line ++
            ", at end of line\n".toList
        else []
      missing ++ "syntax error".toList ++ place path line ++ ", at EOF\n".toList ++ ending path

end Source

abbrev Reader := StateT Source (Except Fault)

namespace Reader

def isWordChar (c : Char) : Bool := isNameChar c

/-- The length of the token at the front of a text. -/
def tokenLength (text : Text) : Nat :=
  match text with
  | [] => 0
  | c :: _ => if isNameChar c then (text.takeWhile isNameChar).length else 1

/-- Gives up where something else should stand. -/
def fail {α : Type} : Reader α := do
  let { rest, line, marks, endsLine, scopes, .. } ← get
  match rest with
  | [] => throw (.ended (if endsLine then line - 1 else line) (1 < scopes.length))
  | _ =>
      let start := match marks with
        | _ :: before :: _ => before
        | [before] => before
        | [] => rest
      let length := start.length - rest.length + tokenLength rest
      throw (.near (start.take length) line)

def exhausted {α : Type} : Reader α := do
  throw (.worded ("program nests too deeply\n" : Text) 255)

def setRest (rest : Text) : Reader Unit := modify fun source => { source with rest }

/-- Goes behind as many characters, none of which ends a line. -/
def drop (count : Nat) : Reader Unit := modify fun source =>
  { source with rest := source.rest.drop count }

/-- Goes behind as many characters. -/
def pass (count : Nat) : Reader Unit := modify fun source =>
  let taken := source.rest.take count
  let lines := (taken.filter (· == '\n')).length
  { source with
    rest := source.rest.drop count
    line := source.line + lines + if lines = 0 then 0 else source.owed
    owed := if lines = 0 then source.owed else 0 }

/-- Goes behind a passage that only explains, from a line with a mark on. -/
def skipPassage : (fuel : Nat) → Reader Unit
  | 0 => pure ()
  | fuel + 1 => do
      let rest := (← get).rest
      if rest.isEmpty then return
      let line := rest.takeWhile (· != '\n')
      pass (line.length + 1)
      if "=cut".toList.isPrefixOf line then return
      skipPassage fuel

/-- Goes behind blanks and comments. -/
def skip : (fuel : Nat) → (isFront : Bool) → Reader Unit
  | 0, _ => pure ()
  | fuel + 1, isFront => do
      match (← get).rest with
      | '\n' :: _ =>
          pass 1
          skip fuel true
      | '#' :: rest =>
          drop (1 + (rest.takeWhile (· != '\n')).length)
          skip fuel false
      | '=' :: c :: _ =>
          if isFront && c.isAlpha then
            skipPassage fuel
            skip fuel true
          else pure ()
      | c :: _ =>
          if isBlankOctet c then
            drop 1
            skip fuel false
          else pure ()
      | [] => pure ()

/-- Goes to the next token. -/
def next : Reader Unit := do
  let source ← get
  skip (source.rest.length + 1) (source.marks.isEmpty && source.line = 1)
  modify fun source =>
    let isNew := match source.marks with
      | mark :: _ => mark.length != source.rest.length
      | [] => true
    if isNew then { source with marks := source.rest :: source.marks.take 1 } else source

def peek : Reader (Option Char) := do return (← get).rest.head?

/-- Goes behind a mark, if it comes next. -/
def takeIf (mark : Text) : Reader Bool := do
  next
  match Text.after? mark (← get).rest with
  | some rest =>
      setRest rest
      return true
  | none => return false

def expect (mark : Text) : Reader Unit := do
  if !(← takeIf mark) then
    let { rest, line, endsLine, .. } ← get
    if rest.isEmpty && (mark = ['\x7d'] || mark = [']']) then
      throw (.ended (if endsLine then line - 1 else line) true)
    else fail

/-- The word at the front of a text, which may have parts. -/
def wordAt : (fuel : Nat) → Text → Text
  | 0, _ => []
  | fuel + 1, text =>
      let part := text.takeWhile isNameChar
      match text.drop part.length with
      | ':' :: ':' :: c :: rest =>
          if isNameStart c then part ++ "::".toList ++ wordAt fuel (c :: rest)
          else part ++ "::".toList
      | ':' :: ':' :: _ => part ++ "::".toList
      | _ => part

def frontWord (text : Text) : Text :=
  if text.head?.any isNameStart then wordAt (text.length + 1) text else []

/-- Goes behind a word, if it comes next. -/
def takeWordIf (word : Text) : Reader Bool := do
  next
  let { rest, .. } ← get
  if frontWord rest = word then
    drop word.length
    return true
  else return false

/-- A text behind blanks. -/
def behindBlanks (text : Text) : Text := text.dropWhile isBlankOctet

/-- Whether a text goes on with the mark between a key and its value. -/
def isKeyed (text : Text) : Bool := ['=', '>'].isPrefixOf (behindBlanks text)

/-- The bracket that closes one. -/
def closing (c : Char) : Char :=
  match c with
  | '(' => ')'
  | '[' => ']'
  | '\x7b' => '\x7d'
  | '<' => '>'
  | c => c

/-- The text up to the mark that closes it, its last character first. -/
def enclosedText (opening closing : Char) : Text → (depth : Nat) → (before : Text) →
    Option (Text × Text)
  | [], _, _ => none
  | '\\' :: c :: rest, depth, before =>
      if opening = '\\' then some (before.reverse, c :: rest)
      else enclosedText opening closing rest depth (c :: '\\' :: before)
  | c :: rest, depth, before =>
      if c = closing then
        match depth with
        | 0 => some (before.reverse, rest)
        | depth + 1 => enclosedText opening closing rest depth (c :: before)
      else
        let depth := if c = opening then depth + 1 else depth
        enclosedText opening closing rest depth (c :: before)

/-- Takes the text up to the mark that closes one that was taken. Backslashes stay. -/
def takeEnclosed (opening : Char) : Reader Text := do
  let source ← get
  match enclosedText opening (closing opening) source.rest 0 [] with
  | some (text, _) =>
      pass (text.length + 1)
      return text
  | none =>
      let mark := closing opening
      let shown : Text := if mark = '"' then ['\'', '"', '\''] else ['"', mark, '"']
      throw (.worded ("Can't find string terminator ".toList ++ shown ++
        " anywhere before EOF".toList ++ Source.place source.path source.line ++ ".\n".toList) 255)

/-- A text between plain quotes, in which a backslash stands before the mark or itself. -/
def unquoted (mark : Char) : Text → Text
  | '\\' :: c :: rest =>
      if c = '\\' || c = mark || c = closing mark then c :: unquoted mark rest
      else '\\' :: unquoted mark (c :: rest)
  | c :: rest => c :: unquoted mark rest
  | [] => []

/-- Reads a text of its own in place of what is left. -/
def within {α : Type} (text : Text) (action : Reader α) : Reader α := do
  let outer ← get
  set { outer with rest := text, owed := 0, marks := [], endsLine := false }
  let result ← action
  modify fun source => { source with
    rest := outer.rest, line := outer.line, owed := outer.owed, marks := outer.marks
    endsLine := outer.endsLine }
  return result

/-! Attached texts. -/

/-- The lines of an attached text up to its delimiter, and what follows, and how many lines were
passed. -/
def attachedLines (delimiter : Text) (indents : Bool) : (fuel : Nat) → Text → (lines : List Text) →
    Option (List Text × Text)
  | 0, _, _ => none
  | fuel + 1, text, lines =>
      if text.isEmpty then none
      else
        let line := text.takeWhile (· != '\n')
        let rest := text.drop (line.length + 1)
        let shown := if indents then line.dropWhile isBlankOctet else line
        if shown = delimiter then some (lines.reverse, rest)
        else attachedLines delimiter indents fuel rest (line :: lines)

/-- Takes the attached text with a delimiter from behind the line at hand. -/
def takeAttached (delimiter : Text) (indents : Bool) : Reader Text := do
  let source ← get
  let front := source.rest.takeWhile (· != '\n')
  let behind := source.rest.drop (front.length + 1)
  match attachedLines delimiter indents (behind.length + 1) behind [] with
  | some (lines, rest) =>
      let indent := lines.foldl (fun least line =>
        let width := (line.takeWhile isBlankOctet).length
        if line.isEmpty then least else min least width) 1000
      let lines := if indents then lines.map (·.drop indent) else lines
      set { source with
        rest := front ++ '\n' :: rest, owed := source.owed + lines.length + 1 }
      return lines.flatMap (· ++ ['\n'])
  | none =>
      throw (.worded ("Can't find string terminator \"".toList ++ delimiter ++
        "\" anywhere before EOF".toList ++ Source.place source.path source.line ++ ".\n".toList)
        255)

/-! Names. -/

/-- Names that all packages share. -/
def commonNames : List Text :=
  ["ENV", "ARGV", "INC", "STDIN", "STDOUT", "STDERR", "ARGVOUT", "_", "a", "b", "0"]

def isCommon (name : Text) : Bool :=
  commonNames.elem name || !(name.head?.any fun c => c.isAlpha || c = '_')

/-- What a name stands for. -/
def resolve (shape : Shape) (name : Text) : Reader Name := do
  let source ← get
  let key := shape.sigil :: name
  match source.scopes.findSome? fun scope => scope.lookup key with
  | some found => return found
  | none =>
      if Text.contains "::" name then
        return .shared (if ['m', 'a', 'i', 'n', ':', ':'].isPrefixOf name || name.head? != some ':'
          then name else "main".toList ++ name)
      else if isCommon name then return .shared ("main::".toList ++ name)
      else
        if source.isStrict then
          let problem : Text := "Global symbol \"".toList ++ key ++
            "\" requires explicit package name (did you forget to declare \"my ".toList ++ key ++
            "\"?)".toList ++ Source.place source.path source.line ++ ".\n".toList
          set { source with problems := problem :: source.problems }
        return .shared (fullName source.package name)

/-- The term for a scalar with a name. -/
def scalarNamed (name : Text) : Reader Term := do
  match Text.nat? name, name with
  | some 0, _ => return .name .scalar (.shared "main::0")
  | some number, _ => return .captured number
  | none, ['&'] => return .captured 0
  | none, ['\x60'] => return .around false
  | none, ['\''] => return .around true
  | none, name => return .name .scalar (← resolve .scalar name)

/-- Declares a name for the statements that follow. -/
def declare (reach : Reach) (shape : Shape) (name : Text) : Reader Term := do
  let source ← get
  let number := source.declared.size
  set { source with
    declared := source.declared.push (shape, name)
    pending := (shape.sigil :: name, .own number) :: source.pending }
  return .declare reach shape number

/-- Declares a name of the package for the statements that follow. -/
def declareShared (shape : Shape) (name : Text) : Reader Term := do
  let source ← get
  let full := Name.shared (fullName source.package name)
  set { source with pending := (shape.sigil :: name, full) :: source.pending }
  return .name shape full

/-- Makes the names known that the statement at hand declared. -/
def settle : Reader Unit := modify fun source =>
  match source.scopes with
  | scope :: outer =>
      { source with scopes := (source.pending ++ scope) :: outer, pending := [] }
  | [] => { source with scopes := [source.pending], pending := [] }

/-- Reads in a scope of its own. -/
def inScope {α : Type} (action : Reader α) : Reader α := do
  let outer ← get
  set { outer with scopes := [] :: outer.scopes, pending := [] }
  let result ← action
  modify fun source => { source with
    scopes := outer.scopes, pending := outer.pending, package := outer.package
    isStrict := outer.isStrict }
  return result

/-! Numbers. -/

/-- A numeral and what follows it. -/
def numeralAt (text : Text) : Value × Text :=
  let digitsOf (isDigit : Char → Bool) (text : Text) : Text × Text :=
    let shown := text.takeWhile fun c => isDigit c || c = '_'
    (shown.filter (· != '_'), text.drop shown.length)
  let based (base : Nat) (isDigit : Char → Bool) (text : Text) : Value × Text :=
    let (digits, rest) := digitsOf isDigit text
    ((Numeric.ofInt (digitsIn base digits)).toValue, rest)
  match text with
  | '0' :: 'x' :: rest | '0' :: 'X' :: rest => based 16 isHexDigit rest
  | '0' :: 'b' :: rest | '0' :: 'B' :: rest => based 2 (fun c => c = '0' || c = '1') rest
  | '0' :: c :: rest =>
      if c.isDigit || c = '_' then based 8 isOctalDigit (c :: rest)
      else if c = 'o' then based 8 isOctalDigit rest
      else real digitsOf text
  | _ => real digitsOf text
where
  real (digitsOf : (Char → Bool) → Text → Text × Text) (text : Text) : Value × Text :=
    let (whole, rest) := digitsOf Char.isDigit text
    let (places?, rest) : Option Text × Text := match rest with
      | '.' :: '.' :: _ => (none, rest)
      | '.' :: behind =>
          let (places, rest) := digitsOf Char.isDigit behind
          (some places, rest)
      | _ => (none, rest)
    let (exponent, rest) : Text × Text := match rest with
      | c :: behind =>
          if c = 'e' || c = 'E' then
            let sign : Text := (behind.take 1).filter fun c => c = '-' || c = '+'
            let digits := (behind.drop sign.length).takeWhile Char.isDigit
            if digits.isEmpty then ([], rest)
            else ('e' :: sign ++ digits, behind.drop (sign.length + digits.length))
          else ([], rest)
      | [] => ([], rest)
    match places?, exponent with
    | none, [] => ((Numeric.ofInt (digitsIn 10 whole)).toValue, rest)
    | places, exponent =>
        let shown := whole ++ '.' :: places.getD [] ++ exponent
        match Floating.read? shown with
        | some reading => (.real (decode reading.value), rest)
        | none => (.whole 0, rest)

/-! Operators. -/

/-- What stands between two terms. -/
inductive Joint where
  | compute (operation : Operation)
  | join (junction : Junction)
  | exclusive
  | range
  | choose
  | assign
  | update (operation : Operation)
  | settle (junction : Junction)
  | bind (wanted : Bool)
  | comma

/-- Joints that are marks of three characters. -/
def longMarks : List (Text × Joint × Nat) := [
  ("**=", .update .power, 5), ("||=", .settle .either, 5), ("&&=", .settle .both, 5),
  ("//=", .settle .defined, 5), ("<<=", .update .shiftUp, 5), (">>=", .update .shiftDown, 5),
  ("...", .range, 7), ("<=>", .compute .orderNumbers, 12)]

/-- Joints that are marks of two characters. -/
def middleMarks : List (Text × Joint × Nat) := [
  ("**", .compute .power, 20), ("=~", .bind true, 18), ("!~", .bind false, 18),
  ("==", .compute (.numbers .same), 12), ("!=", .compute (.numbers .different), 12),
  ("=>", .comma, 4),
  ("<=", .compute (.numbers .atMost), 13), (">=", .compute (.numbers .atLeast), 13),
  ("&&", .join .both, 9), ("||", .join .either, 8), ("//", .join .defined, 8),
  ("..", .range, 7), ("+=", .update .add, 5), ("-=", .update .subtract, 5),
  ("*=", .update .multiply, 5), ("/=", .update .divide, 5), (".=", .update .join, 5),
  ("%=", .update .remainder, 5), ("&=", .update .bothBits, 5), ("|=", .update .eitherBits, 5),
  ("^=", .update .differingBits, 5), ("<<", .compute .shiftUp, 15),
  (">>", .compute .shiftDown, 15)]

/-- Joints that are single marks. -/
def shortMarks : List (Text × Joint × Nat) := [
  ("+", .compute .add, 16), ("-", .compute .subtract, 16),
  (".", .compute .join, 16), ("*", .compute .multiply, 17), ("/", .compute .divide, 17),
  ("%", .compute .remainder, 17), ("<", .compute (.numbers .less), 13),
  (">", .compute (.numbers .greater), 13), ("&", .compute .bothBits, 11),
  ("|", .compute .eitherBits, 10), ("^", .compute .differingBits, 10), ("?", .choose, 6),
  ("=", .assign, 5), (",", .comma, 4)]

def marks : List (Text × Joint × Nat) := longMarks ++ middleMarks ++ shortMarks

/-- Joints that are words. -/
def words : List (Text × Joint × Nat) := [
  ("lt", .compute (.texts .less), 13), ("gt", .compute (.texts .greater), 13),
  ("le", .compute (.texts .atMost), 13), ("ge", .compute (.texts .atLeast), 13),
  ("eq", .compute (.texts .same), 12), ("ne", .compute (.texts .different), 12),
  ("cmp", .compute .orderTexts, 12), ("and", .join .both, 2), ("or", .join .either, 1),
  ("xor", .exclusive, 1)]

/-- The joint at the front of a text, with its level and its length. -/
def jointAt (text : Text) : Option (Joint × Nat × Nat) :=
  match text with
  | 'x' :: '=' :: c :: _ =>
      if c = '=' || c = '~' then some (.compute .times, 17, 1) else some (.update .times, 5, 2)
  | 'x' :: c :: _ =>
      if c.isDigit || !isNameChar c then some (.compute .times, 17, 1) else none
  | c :: _ =>
      if c.isAlpha then
        let word := text.takeWhile isNameChar
        (words.find? fun (name, _, _) => name = word).map fun (name, joint, level) =>
          (joint, level, name.length)
      else
        (marks.find? fun (mark, _, _) => mark.isPrefixOf text).map fun (mark, joint, level) =>
          (joint, level, mark.length)
  | [] => none

/-- Words behind which a statement goes on with a condition or ends. -/
def isEnding (text : Text) : Bool :=
  let words : List Text :=
    ["if", "unless", "while", "until", "for", "foreach", "or", "and", "xor"]
  match text with
  | [] => true
  | c :: _ =>
      c = ')' || c = ']' || c = '\x7d' || c = ';' || c = ':' || words.elem (frontWord text)

/-! Mappings of characters. -/

/-- The characters that a text with ranges and escapes stands for. -/
def mappedCharacters : (fuel : Nat) → Text → Text
  | 0, _ | _ + 1, [] => []
  | fuel + 1, text =>
      let takeOne : Text → Char × Text
        | '\\' :: c :: rest =>
            if c = 'x' then
              let digits := (rest.take 2).takeWhile isHexDigit
              (Char.ofNat (digitsIn 16 digits), rest.drop digits.length)
            else if isOctalDigit c then
              let digits := ((c :: rest).take 3).takeWhile isOctalDigit
              (Char.ofNat (digitsIn 8 digits), (c :: rest).drop digits.length)
            else ((Format.escapeLetters.lookup c).getD c, rest)
        | c :: rest => (c, rest)
        | [] => ('\x00', [])
      let (first, rest) := takeOne text
      match rest with
      | '-' :: behind =>
          if behind.isEmpty then [first, '-']
          else
            let (last, rest) := takeOne behind
            let count := last.toNat + 1 - first.toNat
            ((List.range count).map fun place => Char.ofNat (first.toNat + place)) ++
              mappedCharacters fuel rest
      | _ => first :: mappedCharacters fuel rest

def mappingOf (search replacement flags : Text) : Mapping where
  search := mappedCharacters (search.length + 1) search
  replacement := mappedCharacters (replacement.length + 1) replacement
  isComplement := flags.elem 'c'
  deletes := flags.elem 'd'
  squeezes := flags.elem 's'
  gives := flags.elem 'r'

/-- What letters behind an expression ask for. -/
def askedBy (letters : Text) : Asked where
  flags := letters.foldl (fun flags c => (flags.set? true c).getD flags) {}
  everywhere := letters.elem 'g'
  keepsPlace := letters.elem 'c'
  gives := letters.elem 'r'
  evaluations := (letters.filter (· == 'e')).length

end Reader

end ShaderCost.Script.Sigil
