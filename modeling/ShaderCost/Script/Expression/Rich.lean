import ShaderCost.Script.Expression.Reader
import ShaderCost.Text.Numeral

/-!
Regular expressions in the notation of programming languages: with lazy repetitions, groups that
have names or are not counted, conditions on what lies nearby, and flags. Of several occurrences at
a place the one that the order of choices prefers is found.
-/

namespace ShaderCost.Script.Expression.Rich

/-- What signs mean beyond the notation itself. -/
structure Style where
  isWord : Char → Bool := isWordChar
  isDigit : Char → Bool := Char.isDigit
  isBlank : Char → Bool := blanks.elem
  /-- The character that others stand for where case is disregarded. -/
  fold : Char → Char := Char.toLower
  /-- Whether a line starts behind a line feed that ends the text. -/
  startsAtEnd : Bool := false
  /-- Whether a text ends only where nothing is left, for the sign that is a great letter. -/
  endsStrictly : Bool := false
  /-- Whether a letter behind a backslash has to have a meaning. -/
  refusesLetters : Bool := false

structure Flags where
  foldsCase : Bool := false
  /-- Whether lines inside the text have ends of their own. -/
  seesLines : Bool := false
  /-- Whether a point stands for a line feed too. -/
  pointsAtAll : Bool := false
  /-- Whether blanks and comments are passed over. -/
  isSpaced : Bool := false

namespace Flags

def set? (flags : Flags) (isOn : Bool) (letter : Char) : Option Flags :=
  match letter with
  | 'i' => some { flags with foldsCase := isOn }
  | 'm' => some { flags with seesLines := isOn }
  | 's' => some { flags with pointsAtAll := isOn }
  | 'x' => some { flags with isSpaced := isOn }
  | 'a' | 'd' | 'l' | 'u' | 'n' | 'p' | 'L' => some flags
  | _ => none

end Flags

structure Source where
  rest : Text
  /-- How many groups were opened. -/
  groups : Nat
  names : List (Text × Nat)
  flags : Flags

abbrev Reader := StateT Source (Except Text)

def setRest (rest : Text) : Reader Unit := modify fun source => { source with rest }

def takeIf (text : Text) : Reader Bool := do
  match Text.after? text (← get).rest with
  | some rest =>
      setRest rest
      return true
  | none => return false

/-- The text up to a mark, behind which reading goes on. -/
def takeUpTo (mark : Char) : Reader Text := do
  match Text.splitAt? mark (← get).rest with
  | some (text, rest) =>
      setRest rest
      return text
  | none => throw ("missing ".toList ++ mark :: ", unterminated name".toList)

/-- A text behind the blanks and comments at its front. -/
def behindBlanks : (fuel : Nat) → Text → Text
  | 0, text => text
  | fuel + 1, c :: rest =>
      if isBlankOctet c then behindBlanks fuel rest
      else if c = '#' then behindBlanks fuel (rest.dropWhile (· != '\n'))
      else c :: rest
  | _ + 1, [] => []

def skipBlanks : Reader Unit := modify fun source =>
  if source.flags.isSpaced then
    { source with rest := behindBlanks (source.rest.length + 1) source.rest }
  else source

def single (style : Style) (flags : Flags) (c : Char) : Form :=
  .char fun d => c == d || (flags.foldsCase && style.fold c == style.fold d)

def same (style : Style) (flags : Flags) (c d : Char) : Bool :=
  c == d || (flags.foldsCase && style.fold c == style.fold d)

/-! Borders. -/

def isBehindWord (style : Style) (before : Text) : Bool := before.head?.any style.isWord

def wordBorder (style : Style) (before rest : Text) : Bool :=
  isBehindWord style before != isBehindWord style rest

/-- Whether nothing is left but a line feed that ends the text. -/
def lastEnd (_ rest : Text) : Bool := rest.isEmpty || rest = ['\n']

def lineFront (style : Style) (before rest : Text) : Bool :=
  before.isEmpty || (before.head? = some '\n' && (style.startsAtEnd || !rest.isEmpty))

/-! Characters behind a backslash. -/

/-- The class of characters that a letter stands for. -/
def letterClass? (style : Style) (c : Char) : Option (Char → Bool) :=
  let horizontal : List Char := [' ', '\t']
  let vertical : List Char := ['\n', '\x0b', '\x0c', '\r']
  match c with
  | 'd' => some style.isDigit
  | 'D' => some fun c => !style.isDigit c
  | 'w' => some style.isWord
  | 'W' => some fun c => !style.isWord c
  | 's' => some style.isBlank
  | 'S' => some fun c => !style.isBlank c
  | 'h' => if style.refusesLetters then none else some horizontal.elem
  | 'H' => if style.refusesLetters then none else some fun c => !horizontal.elem c
  | 'v' => if style.refusesLetters then none else some vertical.elem
  | 'V' => if style.refusesLetters then none else some fun c => !vertical.elem c
  | 'N' => if style.refusesLetters then none else some (· != '\n')
  | _ => none

def letters : List (Char × Char) := [
  ('n', '\n'), ('r', '\r'), ('t', '\t'), ('f', '\x0c'), ('a', '\x07')]

/-- The character that is written behind a backslash, and what follows it. -/
def written (style : Style) (c : Char) (rest : Text) : Except Text (Char × Text) :=
  match letters.lookup c, c with
  | some d, _ => .ok (d, rest)
  | none, 'e' => if style.refusesLetters then .error "bad escape \\e" else .ok ('\x1b', rest)
  | none, 'v' => .ok ('\x0b', rest)
  | none, 'x' =>
      match rest with
      | '\x7b' :: behind =>
          let digits := behind.takeWhile isHexDigit
          .ok (Char.ofNat (digitsIn 16 digits), behind.drop (digits.length + 1))
      | _ =>
          let digits := (rest.take 2).takeWhile isHexDigit
          .ok (Char.ofNat (digitsIn 16 digits), rest.drop digits.length)
  | none, 'u' =>
      if style.refusesLetters then
        let digits := (rest.take 4).takeWhile isHexDigit
        .ok (Char.ofNat (digitsIn 16 digits), rest.drop digits.length)
      else .ok ('u', rest)
  | none, 'c' =>
      match rest with
      | d :: behind => if style.refusesLetters then .error "bad escape \\c"
          else .ok (Char.ofNat ((d.toUpper.toNat + 64) % 128), behind)
      | [] => .ok ('c', [])
  | none, _ =>
      if isOctalDigit c then
        let digits := ((c :: rest).take 3).takeWhile isOctalDigit
        .ok (Char.ofNat (digitsIn 8 digits), (c :: rest).drop digits.length)
      else if style.refusesLetters && c.isAlpha then .error ("bad escape \\".toList ++ [c])
      else .ok (c, rest)

/-! Sets. -/

def unterminatedSet : Text := "unterminated character set"

/-- The member at the front of a set, and what follows it. -/
def member (style : Style) (text : Text) : Except Text (Member × Text) := do
  match text with
  | '\\' :: c :: rest =>
      match letterClass? style c, c with
      | some test, _ => return (.named test, rest)
      | none, 'b' => return (.single '\x08', rest)
      | none, c =>
          let (d, rest) ← written style c rest
          return (.single d, rest)
  | '[' :: ':' :: rest =>
      match upToMark? ':' rest [] with
      | some ('^' :: name, behind) =>
          match characterClasses.lookup name with
          | some test => return (.named fun c => !test c, behind)
          | none => return (.single '[', ':' :: rest)
      | some (name, behind) =>
          match characterClasses.lookup name with
          | some test => return (.named test, behind)
          | none => return (.single '[', ':' :: rest)
      | none => return (.single '[', ':' :: rest)
  | c :: rest => return (.single c, rest)
  | [] => throw unterminatedSet

/-- The members of a set up to its closing bracket, and what follows it. -/
def members (style : Style) : (fuel : Nat) → (isFirst : Bool) → Text → (test : Char → Bool) →
    Except Text ((Char → Bool) × Text)
  | 0, _, _, _ => .error unterminatedSet
  | fuel + 1, isFirst, text, test => do
      match text with
      | ']' :: rest => if !isFirst then return (test, rest)
      | _ => pure ()
      match ← member style text with
      | (.named named, rest) => members style fuel false rest fun d => test d || named d
      | (.single first, '-' :: rest) =>
          if rest.head? = some ']' then
            members style fuel false ('-' :: rest) fun d => test d || d == first
          else match ← member style rest with
            | (.single last, rest) =>
                if last < first then throw ("bad character range ".toList ++ [first, '-', last])
                members style fuel false rest fun d => test d || (first ≤ d && d ≤ last)
            | (.named named, rest) =>
                members style fuel false rest fun d => test d || d == first || d == '-' || named d
      | (.single first, rest) => members style fuel false rest fun d => test d || d == first

def takeSet (style : Style) : Reader Form := do
  let isNegated ← takeIf ['^']
  let { rest := text, flags, .. } ← get
  let (test, rest) ← members style (text.length + 1) true text fun _ => false
  setRest rest
  let test (c : Char) : Bool :=
    test c || (flags.foldsCase && (test c.toLower || test c.toUpper || test (style.fold c)))
  return .char fun c => test c != isNegated

/-! Repetitions. -/

/-- The bounds that braces enclose, with what follows them. -/
def bounds? (text : Text) : Option ((Nat × Option Nat) × Text) :=
  let first := text.takeWhile Char.isDigit
  match text.drop first.length with
  | '\x7d' :: rest =>
      if first.isEmpty then none else some ((digitsIn 10 first, some (digitsIn 10 first)), rest)
  | ',' :: behind =>
      let second := behind.takeWhile Char.isDigit
      match behind.drop second.length with
      | '\x7d' :: rest =>
          if first.isEmpty && second.isEmpty then none
          else some ((digitsIn 10 first,
            if second.isEmpty then none else some (digitsIn 10 second)), rest)
      | _ => none
  | _ => none

/-- The bounds at the front, if there are some. -/
def takeBounds? : Reader (Option (Nat × Option Nat)) := do
  skipBlanks
  match (← get).rest with
  | '*' :: rest =>
      setRest rest
      return some (0, none)
  | '+' :: rest =>
      setRest rest
      return some (1, none)
  | '?' :: rest =>
      setRest rest
      return some (0, some 1)
  | '\x7b' :: behind =>
      match bounds? behind with
      | some (bounds, rest) =>
          setRest rest
          return some bounds
      | none => return none
  | _ => return none

/-- A part with the repetition behind it. -/
def repetition (part : Form) : Reader Form := do
  match ← takeBounds? with
  | none => return part
  | some (least, most) =>
      if most.any (· < least) then
        throw ("min repeat greater than max repeat" : Text)
      if ← takeIf ['?'] then return .repeated least most true part
      else if ← takeIf ['+'] then return .settled (.repeated least most false part)
      else return .repeated least most false part

/-! Parts. -/

/-- The group that a name or a number stands for. -/
def groupNamed (name : Text) : Reader Nat := do
  match Text.nat? name, name with
  | some number, _ => return number
  | none, '-' :: digits => return (← get).groups + 1 - digitsIn 10 digits
  | none, name =>
      match (← get).names.lookup name with
      | some number => return number
      | none => throw ("unknown group name ".toList ++ '\'' :: name ++ ['\''])

/-- The part that a backslash begins. -/
def escape (style : Style) : Reader Form := do
  let { rest, flags, groups, .. } ← get
  match rest with
  | [] => throw ("bad escape (end of pattern)" : Text)
  | c :: behind =>
      setRest behind
      match letterClass? style c with
      | some test => return .char test
      | none =>
        let noted (name : Text) : Reader Form := do
          return .noted (same style flags) (← groupNamed name)
        match c with
        | 'b' => return .border (wordBorder style)
        | 'B' => return .border fun before rest => !wordBorder style before rest
        | 'A' => return .border textStart
        | 'z' => return .border textEnd
        | 'Z' => return .border (if style.endsStrictly then textEnd else lastEnd)
        | 'G' => return .border fun _ _ => true
        | 'R' =>
            return .settled (.choice [Form.ofText (· == ·) ['\r', '\n'],
              .char fun c => '\n' ≤ c && c ≤ '\r'])
        | 'g' =>
            if ← takeIf ['\x7b'] then noted (← takeUpTo '\x7d')
            else
              let digits := behind.takeWhile fun c => c.isDigit || c = '-'
              setRest (behind.drop digits.length)
              noted digits
        | 'k' =>
            if ← takeIf ['\x7b'] then noted (← takeUpTo '\x7d')
            else if ← takeIf ['<'] then noted (← takeUpTo '>')
            else if ← takeIf ['\''] then noted (← takeUpTo '\'')
            else return single style flags 'k'
        | c =>
            let digits := rest.takeWhile Char.isDigit
            let number := digitsIn 10 digits
            if c.isDigit && c != '0' && (number < 10 || number ≤ groups) then
              if groups < number then
                throw ("invalid group reference ".toList ++ digits)
              setRest (rest.drop digits.length)
              return .noted (same style flags) number
            let (d, rest) ← written style c behind
            setRest rest
            return single style flags d

/-- Flags in front of a colon or a closing parenthesis. -/
def readFlags : (isOn : Bool) → Text → Flags → Except Text (Flags × Text)
  | _, '^' :: rest, _ => readFlags true rest {}
  | _, '-' :: rest, flags => readFlags false rest flags
  | isOn, c :: rest, flags =>
      if c = ':' || c = ')' then .ok (flags, c :: rest)
      else match flags.set? isOn c with
        | some flags => readFlags isOn rest flags
        | none => .error "unknown extension ?".toList
  | _, [], _ => .error "missing ), unterminated subpattern"

/-- What a parenthesis opens. -/
inductive Opening where
  | group (name : Option Text)
  | plain
  | nearby (isAhead wanted : Bool)
  | settled
  | comment
  /-- Flags for what follows. -/
  | change
  | noted (name : Text)

/-- Reads what stands behind an opening parenthesis. -/
def takeOpening : Reader Opening := do
  if !(← takeIf ['?']) then return .group none
  if ← takeIf [':'] then return .plain
  if ← takeIf ['='] then return .nearby true true
  if ← takeIf ['!'] then return .nearby true false
  if ← takeIf ['<', '='] then return .nearby false true
  if ← takeIf ['<', '!'] then return .nearby false false
  if ← takeIf ['>'] then return .settled
  if ← takeIf ['#'] then
    let _ ← takeUpTo ')'
    return .comment
  if ← takeIf ['<'] then return .group (some (← takeUpTo '>'))
  if ← takeIf ['P', '<'] then return .group (some (← takeUpTo '>'))
  if ← takeIf ['\''] then return .group (some (← takeUpTo '\''))
  if ← takeIf ['P', '='] then return .noted (← takeUpTo ')')
  let { rest, flags, .. } ← get
  let (flags, rest) ← readFlags true rest flags
  modify fun source => { source with rest := rest.drop 1, flags }
  return if rest.head? = some ')' then .change else .plain

def nestedTooDeeply : Text := "expression nests too deeply"

mutual

/-- Alternatives up to the end or the parenthesis that closes them. -/
def alternatives (style : Style) (fuel : Nat) (before : List Form) : Reader Form :=
  match fuel with
  | 0 => throw nestedTooDeeply
  | fuel + 1 => do
      let part ← parts style fuel []
      if ← takeIf ['|'] then alternatives style fuel (part :: before)
      else match before with
        | [] => return part
        | _ => return .choice (part :: before).reverse

/-- What an opening parenthesis begins, unless it is nothing. -/
def enclosed (style : Style) (fuel : Nat) : Reader (Option Form) :=
  match fuel with
  | 0 => throw nestedTooDeeply
  | fuel + 1 => do
      let outer := (← get).flags
      let opening ← takeOpening
      let inner (wrap : Form → Form) : Reader (Option Form) := do
        let part ← alternatives style fuel []
        if !(← takeIf [')']) then throw ("missing ), unterminated subpattern" : Text)
        modify fun source => { source with flags := outer }
        return some (wrap part)
      match opening with
      | .comment | .change => return none
      | .noted name => return some (.noted (same style outer) (← groupNamed name))
      | .plain => inner id
      | .settled => inner .settled
      | .nearby isAhead wanted => inner (.nearby isAhead wanted)
      | .group name =>
          let number := (← get).groups + 1
          modify fun source => { source with
            groups := number
            names := match name with
              | some name => source.names ++ [(name, number)]
              | none => source.names }
          inner (.group number)

/-- Parts that follow one another. -/
def parts (style : Style) (fuel : Nat) (before : List Form) : Reader Form :=
  match fuel with
  | 0 => throw nestedTooDeeply
  | fuel + 1 => do
      skipBlanks
      let { rest, flags, .. } ← get
      let border (rest : Text) (test : Text → Text → Bool) : Reader Form := do
        setRest rest
        parts style fuel (.border test :: before)
      match rest with
      | [] | '|' :: _ | ')' :: _ => return .sequence before.reverse
      | '(' :: rest =>
          setRest rest
          match ← enclosed style fuel with
          | some part => parts style fuel ((← repetition part) :: before)
          | none => parts style fuel before
      | '^' :: rest => border rest (if flags.seesLines then lineFront style else textStart)
      | '$' :: rest => border rest (if flags.seesLines then lineEnd else lastEnd)
      | c :: rest =>
          if c = '*' || c = '+' || c = '?' then
            throw (if before.isEmpty then "nothing to repeat" else "multiple repeat" : Text)
          setRest rest
          let part ←
            if c = '\\' then escape style
            else if c = '[' then takeSet style
            else if c = '.' then pure (.char fun d => flags.pointsAtAll || d != '\n')
            else pure (single style flags c)
          parts style fuel ((← repetition part) :: before)

end

/-- Reads an expression. -/
def ofText (style : Style) (flags : Flags) (text : Text) : Except Text Expression := do
  let (form, source) ← (alternatives style (4 * text.length + 8) []).run ⟨text, 0, [], flags⟩
  if source.rest.isEmpty then return ⟨form, false, source.groups, source.names⟩
  else throw ("unbalanced parenthesis" : Text)

/-! Series of occurrences. -/

/-- What an expression takes at the front of a text that is not nothing. -/
def takeFilled? (expression : Expression) (past text : Text) : Option Occurrence :=
  let places := expression.form.reach expression.takesLongest ⟨past, text, 0, []⟩
  (places.find? fun place => place.passed != 0).map fun place =>
    ⟨[], text.take place.passed, place.rest, place.noted⟩

/-- The next occurrence in a text. It may be one of nothing at the front only where that is not
refused. -/
def next? (expression : Expression) (refusesNothing : Bool) (past text : Text) :
    Option Occurrence :=
  if refusesNothing then
    match takeFilled? expression past text, text with
    | some occurrence, _ => some occurrence
    | none, [] => none
    | none, c :: rest =>
        (expression.find? (c :: past) rest).map fun occurrence =>
          { occurrence with before := c :: occurrence.before }
  else expression.find? past text

/-- The occurrences one after the other, and what comes behind the last one. -/
def series (expression : Expression) : (fuel : Nat) → (refusesNothing : Bool) →
    (past text : Text) → List Occurrence × Text
  | 0, _, _, text => ([], text)
  | fuel + 1, refusesNothing, past, text =>
      match next? expression refusesNothing past text with
      | none => ([], text)
      | some occurrence =>
          let past := occurrence.found.reverse ++ occurrence.before.reverse ++ past
          let (later, last) :=
            series expression fuel occurrence.found.isEmpty past occurrence.behind
          (occurrence :: later, last)

/-- All occurrences in a text, and what comes behind the last one. -/
def allIn (expression : Expression) (text : Text) : List Occurrence × Text :=
  series expression (2 * text.length + 2) false [] text

end ShaderCost.Script.Expression.Rich
