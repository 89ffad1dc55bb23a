import ShaderCost.Script.Basic
import ShaderCost.Script.Pattern

/-!
Forms of texts, as regular expressions describe them, and the places in a text that a form leads to.
The places come in order of preference. Of two ways to the same place only the preferred one is
kept, so there are never more places than characters.
-/

namespace ShaderCost.Script

inductive Form where
  /-- A character that passes a test. -/
  | char (test : Char → Bool)
  /-- Nothing, between a text before (backwards) and a text behind that pass a test. -/
  | border (test : (before rest : Text) → Bool)
  | sequence (parts : List Form)
  | choice (options : List Form)
  /-- A part that is noted under a number. -/
  | group (number : Nat) (part : Form)
  /-- The text that was noted under a number, or one that a test takes for the same. -/
  | noted (same : Char → Char → Bool) (number : Nat)
  /-- As many repetitions of a part as can be or, where `isLazy`, as few. -/
  | repeated (least : Nat) (most : Option Nat) (isLazy : Bool) (part : Form)
  /-- Nothing, where a part begins or, with `isAhead` off, ends; or where it does not. -/
  | nearby (isAhead wanted : Bool) (part : Form)
  /-- A part that is taken in the preferred way or not at all. -/
  | settled (part : Form)

namespace Form

/-- A place in a text. -/
structure Place where
  /-- The text before, backwards. -/
  before : Text
  rest : Text
  /-- How many characters were passed. -/
  passed : Nat
  /-- The numbers of groups with where they begin and end. -/
  noted : List (Nat × Nat × Nat)

namespace Place

def step (place : Place) (c : Char) (rest : Text) : Place :=
  { place with before := c :: place.before, rest, passed := place.passed + 1 }

/-- As many characters further on. -/
def advance (place : Place) (count : Nat) : Place :=
  { place with
    before := (place.rest.take count).reverse ++ place.before
    rest := place.rest.drop count
    passed := place.passed + count }

/-- Leaves out places that one before them stands for. -/
def distinct : List Place → List Place
  | [] => []
  | [place] => [place]
  | places =>
      (places.foldl (fun (found, seen) place =>
        if seen.elem place.passed then (found, seen) else (place :: found, place.passed :: seen))
        (([], []) : List Place × List Nat)).1.reverse

/-- The places along characters that pass a test, the last one first. -/
def along (test : Char → Bool) : (limit : Nat) → (rest : Text) → Place → List Place →
    List Place
  | 0, _, place, found => place :: found
  | _ + 1, [], place, found => place :: found
  | limit + 1, c :: rest, place, found =>
      if test c then along test limit rest (place.step c rest) (place :: found)
      else place :: found

/-- The text that was noted under a number. -/
def notedText? (place : Place) (number : Nat) : Option Text :=
  (place.noted.lookup number).map fun (start, finish) =>
    ((place.before.drop (place.passed - finish)).take (finish - start)).reverse

end Place

/-- The places that a step leads to which is done a number of times. -/
def exactly (step : Place → List Place) : (count : Nat) → List Place → List Place
  | 0, places => places
  | count + 1, places => exactly step count (Place.distinct (places.flatMap step))

/-- The places that a step leads to which is done again and again, from a place on that was not
seen before. Nothing follows a step that leads nowhere else; such a step is done at all only where
`mayStay`, which is so for the steps behind the first where `mayStayLater`. -/
def explore (step : Place → List Place) (isLazy mayStayLater : Bool) :
    (depth : Nat) → (mayStay : Bool) → (left : Option Nat) → (seen : List (Nat × Option Nat)) →
    Place → List Place × List (Nat × Option Nat)
  | 0, _, _, seen, place => ([place], seen)
  | depth + 1, mayStay, left, seen, place =>
      if left = some 0 then ([place], seen)
      else
        let left := left.map (· - 1)
        let (found, seen) := (step place).foldl (fun (found, seen) next =>
          if next.passed = place.passed then (if mayStay then [next] :: found else found, seen)
          else if seen.elem (next.passed, left) then (found, seen)
          else
            let (further, seen) := explore step isLazy mayStayLater depth mayStayLater left
              ((next.passed, left) :: seen) next
            (further :: found, seen)) (([], seen) : List (List Place) × List (Nat × Option Nat))
        let further := found.reverse.flatten
        (if isLazy then place :: further else further ++ [place], seen)

/-- What is left of a text that begins like another one. -/
def behind? (same : Char → Char → Bool) : Text → Text → Option Text
  | [], rest => some rest
  | _ :: _, [] => none
  | c :: wanted, d :: rest => if same c d then behind? same wanted rest else none

mutual

/-- The places that a form leads to from a place. Where `takesLongest`, a longer choice is
preferred to a shorter one, and else an earlier one to a later one. -/
def reach (takesLongest : Bool) (form : Form) (place : Place) : List Place :=
  match form with
  | .char test =>
      match place.rest with
      | c :: rest => if test c then [place.step c rest] else []
      | [] => []
  | .border test => if test place.before place.rest then [place] else []
  | .sequence parts => reachAll takesLongest parts place
  | .choice options =>
      let places := reachAny takesLongest options place
      if takesLongest then places.mergeSort fun left right => right.passed ≤ left.passed
      else places
  | .group number part => (reach takesLongest part place).map fun found =>
      { found with noted := (number, place.passed, found.passed) :: found.noted }
  | .noted same number =>
      match place.notedText? number with
      | some text =>
          match behind? same text place.rest with
          | some _ => [place.advance text.length]
          | none => []
      | none => []
  | .repeated least most isLazy part =>
      let room := place.rest.length
      match part with
      | .char test =>
          let limit := min room (most.getD room)
          let places := Place.along test limit place.rest place []
          let places := places.take (places.length - least)
          if isLazy then places.reverse else places
      | part =>
          let step := reach takesLongest part
          let starts := exactly step least [place]
          Place.distinct (starts.flatMap fun start =>
            (explore step isLazy (!takesLongest) (room + 1) (!takesLongest || least = 0)
              (most.map (· - least)) [] start).1)
  | .nearby true wanted part =>
      match reach takesLongest part place with
      | [] => if wanted then [] else [place]
      | found :: _ => if wanted then [{ place with noted := found.noted }] else []
  | .nearby false wanted part =>
      let holds := (List.range (place.before.length + 1)).any fun count =>
        let text := (place.before.take count).reverse
        (reach takesLongest part ⟨place.before.drop count, text, 0, []⟩).any fun found =>
          found.passed = count
      if holds = wanted then [place] else []
  | .settled part => (reach takesLongest part place).take 1

def reachAll (takesLongest : Bool) (parts : List Form) (place : Place) : List Place :=
  match parts with
  | [] => [place]
  | part :: parts =>
      Place.distinct ((reach takesLongest part place).flatMap (reachAll takesLongest parts))

def reachAny (takesLongest : Bool) (options : List Form) (place : Place) : List Place :=
  match options with
  | [] => []
  | option :: options =>
      Place.distinct (reach takesLongest option place ++ reachAny takesLongest options place)

end

/-- A text as it stands. -/
def ofText (same : Char → Char → Bool) (text : Text) : Form :=
  .sequence (text.map fun c => .char (same c))

end Form

end ShaderCost.Script

/-!
Regular expressions, and where they are found in texts.
-/

namespace ShaderCost.Script

structure Expression where
  form : Form
  /-- Whether the longest of all texts at a place is found there, or the one that the order of
  choices prefers. -/
  takesLongest : Bool
  /-- How many groups there are. -/
  groups : Nat
  /-- Names of groups. -/
  names : List (Text × Nat)

namespace Expression

def isWordChar (c : Char) : Bool := c.isAlphanum || c == '_'

/-- Where an expression is found. -/
structure Occurrence where
  /-- What was passed over. -/
  before : Text
  found : Text
  behind : Text
  /-- Where groups begin and end, counted from the beginning of what was found. -/
  noted : List (Nat × Nat × Nat)

namespace Occurrence

/-- The text of a group. Group zero is all that was found. -/
def group? (occurrence : Occurrence) (number : Nat) : Option Text :=
  if number = 0 then some occurrence.found
  else (occurrence.noted.lookup number).map fun (start, finish) =>
    ((occurrence.found ++ occurrence.behind).drop start).take (finish - start)

def group (occurrence : Occurrence) (number : Nat) : Text := (occurrence.group? number).getD []

end Occurrence

/-- The longest of places, and the first of those. -/
def longest? (places : List Form.Place) : Option Form.Place :=
  places.foldl (fun best place =>
    match best with
    | some found => if found.passed < place.passed then some place else best
    | none => some place) none

/-- What an expression takes at the front of a text. `past` is what comes before the text,
backwards. -/
def take? (expression : Expression) (past text : Text) : Option Occurrence :=
  let places := expression.form.reach expression.takesLongest ⟨past, text, 0, []⟩
  let place? := if expression.takesLongest then longest? places else places.head?
  place?.map fun place => ⟨[], text.take place.passed, place.rest, place.noted⟩

/-- The first occurrence in a text. `past` is what comes before the text, backwards. -/
def find? (expression : Expression) (past text : Text) : Option Occurrence :=
  go text past 0
where
  go : (text past : Text) → (count : Nat) → Option Occurrence
    | [], past, count => found past [] count
    | c :: rest, past, count =>
        match found past (c :: rest) count with
        | some occurrence => some occurrence
        | none => go rest (c :: past) (count + 1)
  found (past text : Text) (count : Nat) : Option Occurrence :=
    (expression.take? past text).map fun occurrence =>
      { occurrence with before := (past.take count).reverse }

def occursIn (expression : Expression) (text : Text) : Bool := (expression.find? [] text).isSome

/-- Whether an expression stands for the whole of a text. -/
def accepts (expression : Expression) (text : Text) : Bool :=
  (expression.form.reach expression.takesLongest ⟨[], text, 0, []⟩).any fun place =>
    place.rest.isEmpty

/-- The occurrences in a text one after the other, and what comes behind the last one. One that
takes nothing does not follow another one at once. -/
def occurrences (expression : Expression) : (fuel : Nat) → (isBehind : Bool) →
    (past text : Text) → List Occurrence × Text
  | 0, _, _, text => ([], text)
  | fuel + 1, isBehind, past, text =>
      match expression.find? past text with
      | none => ([], text)
      | some occurrence =>
          let isVoid := occurrence.found.isEmpty
          if isVoid && isBehind && occurrence.before.isEmpty then
            match text with
            | [] => ([], [])
            | c :: rest =>
                match expression.occurrences fuel false (c :: past) rest with
                | (next :: later, last) => ({ next with before := c :: next.before } :: later, last)
                | ([], last) => ([], c :: last)
          else
            let past := occurrence.found.reverse ++ occurrence.before.reverse ++ past
            match isVoid, occurrence.behind with
            | true, [] => ([occurrence], [])
            | _, behind =>
                let (later, last) := expression.occurrences fuel true past behind
                (occurrence :: later, last)

def occurrencesIn (expression : Expression) (text : Text) : List Occurrence × Text :=
  expression.occurrences (2 * text.length + 2) false [] text

/-- A text in whose place nothing but itself stands. -/
def ofPlainText (foldsCase : Bool) (text : Text) : Expression :=
  let same (c d : Char) : Bool := c == d || (foldsCase && c.toLower == d.toLower)
  ⟨Form.ofText same text, true, 0, []⟩

end Expression

end ShaderCost.Script

/-!
Regular expressions in the two notations that utilities know. In the basic one groups, bounds and
alternatives are written with backslashes, in the extended one without.
-/

namespace ShaderCost.Script.Expression

/-- How an expression is written, and what it disregards. -/
structure Style where
  isExtended : Bool
  foldsCase : Bool := false
  /-- Whether lines inside a text have ends of their own. -/
  seesLines : Bool := false
  /-- Whether a repetition of nothing is an error. -/
  isStrict : Bool := false
  /-- Whether a brace that begins no bounds stands for itself. -/
  sparesBraces : Bool := false
  /-- Whether braces hold bounds at all. -/
  hasBounds : Bool := true
  /-- Whether a parenthesis that closes nothing stands for itself. -/
  sparesParentheses : Bool := false
  /-- Whether a backslash, in sets too, writes one octet and nothing else, and a bound of at least
  two without another one stands for exactly that many. -/
  writesOctets : Bool := false
  /-- Whether an alternative of nothing is an error. -/
  refusesNothing : Bool := false

structure Source where
  rest : Text
  /-- How many groups were opened. -/
  groups : Nat
  /-- The groups that were closed. -/
  closed : List Nat

abbrev Reader := StateT Source (Except Text)

/-- A test for a character, which may disregard case. -/
def testFor (foldsCase : Bool) (wanted : Char → Bool) : Char → Bool := fun c =>
  wanted c || (foldsCase && (wanted c.toLower || wanted c.toUpper))

def sameFor (foldsCase : Bool) (c d : Char) : Bool :=
  c == d || (foldsCase && c.toLower == d.toLower)

def blanks : Text := [' ', '\t', '\n', '\x0b', '\x0c', '\r']

/-! Borders. -/

def textStart (before _ : Text) : Bool := before.isEmpty

def textEnd (_ rest : Text) : Bool := rest.isEmpty

def lineStart (before _ : Text) : Bool := before.head?.all (· == '\n')

def lineEnd (_ rest : Text) : Bool := rest.head?.all (· == '\n')

def isBehindWord (before : Text) : Bool := before.head?.any isWordChar

def wordBorder (before rest : Text) : Bool := isBehindWord before != isBehindWord rest

def wordStart (before rest : Text) : Bool := !isBehindWord before && isBehindWord rest

def wordEnd (before rest : Text) : Bool := isBehindWord before && !isBehindWord rest

def noWordBorder (before rest : Text) : Bool := !wordBorder before rest

/-! Sets. -/

def unmatchedBracket : Text := "Unmatched [, [^, [:, [., or [="

/-- A member of a set: a class, or a character that may begin or end a range. -/
inductive Member where
  | named (test : Char → Bool)
  | single (c : Char)

/-- The text up to a mark and a closing bracket, and what follows it. -/
def upToMark? (mark : Char) : Text → (before : Text) → Option (Text × Text)
  | [], _ => none
  | [_], _ => none
  | c :: d :: rest, before =>
      if c = mark && d = ']' then some (before.reverse, rest)
      else upToMark? mark (d :: rest) (c :: before)

/-- What letters behind a backslash write. -/
def writtenLetters : List (Char × Char) := [
  ('a', '\x07'), ('b', '\x08'), ('f', '\x0c'), ('n', '\n'), ('r', '\r'), ('t', '\t'), ('v', '\x0b')]

/-- The octet that is written behind a backslash, and what follows it. -/
def writtenOctet (c : Char) (rest : Text) : Char × Text :=
  if isOctalDigit c then
    let digits := ((c :: rest).take 3).takeWhile isOctalDigit
    (Char.ofNat (digitsIn 8 digits % 256), (c :: rest).drop digits.length)
  else if c = 'x' && rest.head?.any isHexDigit then
    let digits := (rest.take 2).takeWhile isHexDigit
    (Char.ofNat (digitsIn 16 digits), rest.drop digits.length)
  else ((writtenLetters.lookup c).getD c, rest)

/-- The member at the front of a set, and what follows it. -/
def member (style : Style) (text : Text) : Except Text (Member × Text) :=
  match text with
  | '\\' :: c :: rest =>
      if style.writesOctets then
        let (octet, rest) := writtenOctet c rest
        .ok (.single octet, rest)
      else .ok (.single '\\', c :: rest)
  | '[' :: mark :: rest =>
      if mark = ':' || mark = '.' || mark = '=' then
        match upToMark? mark rest [] with
        | none => .error unmatchedBracket
        | some (name, behind) =>
            if mark = ':' then
              match characterClasses.lookup name with
              | some test => .ok (.named test, behind)
              | none => .error "Invalid character class name"
            else match name with
              | [c] => .ok (.single c, behind)
              | _ => .error "Invalid collation character"
      else .ok (.single '[', mark :: rest)
  | c :: rest => .ok (.single c, rest)
  | [] => .error unmatchedBracket

/-- The members of a set in brackets up to the closing one, and what follows it. -/
def members (style : Style) : (fuel : Nat) → (isFirst : Bool) → Text → (test : Char → Bool) →
    Except Text ((Char → Bool) × Text)
  | 0, _, _, _ => .error unmatchedBracket
  | fuel + 1, isFirst, text, test => do
      match text with
      | ']' :: rest => if !isFirst then return (test, rest)
      | '-' :: next :: _ => if !isFirst && next != ']' then throw ("Invalid range end" : Text)
      | _ => pure ()
      match ← member style text with
      | (.named named, rest) => members style fuel false rest fun d => test d || named d
      | (.single first, '-' :: rest) =>
          if rest.head? = some ']' then
            members style fuel false ('-' :: rest) fun d => test d || d == first
          else match ← member style rest with
            | (.single last, rest) =>
                if last < first then throw ("Invalid range end" : Text)
                members style fuel false rest fun d => test d || (first ≤ d && d ≤ last)
            | (.named _, _) => throw ("Invalid range end" : Text)
      | (.single first, rest) => members style fuel false rest fun d => test d || d == first

def takeSet (style : Style) : Reader Form := do
  let (isNegated, text) : Bool × Text := match (← get).rest with
    | '^' :: rest => (true, rest)
    | rest => (false, rest)
  if text.isEmpty && style.isStrict then throw ("Invalid regular expression" : Text)
  let (test, rest) ← members style (text.length + 1) true text fun _ => false
  modify fun source => { source with rest }
  let test := testFor style.foldsCase test
  if isNegated then return .char fun c => !test c && !(style.seesLines && c == '\n')
  else return .char test

/-! Parts. -/

/-- Takes a text off the front, if it is there. -/
def takeIf (text : Text) : Reader Bool := do
  match Text.after? text (← get).rest with
  | some rest =>
      modify fun source => { source with rest }
      return true
  | none => return false

/-- A mark as the notation writes it: with a backslash in front in the basic one. -/
def Style.marked (style : Style) (mark : Char) : Text :=
  if style.isExtended then [mark] else ['\\', mark]

def startsWith (text : Text) : Reader Bool := do
  return (Text.after? text (← get).rest).isSome

/-- A number of repetitions: nothing, digits, or something else. -/
inductive Bound where
  | missing
  | number (value : Nat)
  | invalid

/-- The bound up to a comma or the mark that closes the bounds, and what follows it. -/
def bound (closing : Text) : Text → (before : Text) → Bound × Text
  | [], _ => (.invalid, [])
  | c :: rest, before =>
      if c = ',' || closing.isPrefixOf (c :: rest) then
        let digits := before.reverse
        (if digits.isEmpty then .missing
          else if digits.all Char.isDigit then .number (digitsIn 10 digits) else .invalid,
            c :: rest)
      else bound closing rest (c :: before)

/-- The greatest number of repetitions that can be asked for. -/
def mostRepetitions : Nat := 32767

/-- The bounds of a repetition, behind the brace that opens them. Without a result they stand for
themselves. -/
def bounds? (style : Style) (text : Text) : Except Text (Option ((Nat × Option Nat) × Text)) := do
  let closing := style.marked '\x7d'
  let invalid (rest : Text) : Except Text (Option ((Nat × Option Nat) × Text)) :=
    if style.sparesBraces then .ok none
    else if rest.isEmpty then .error "Unmatched \\\x7b"
    else .error "Invalid content of \\\x7b\\\x7d"
  let problem : Text := "Invalid content of \\\x7b\\\x7d"
  match bound closing text [] with
  | (.invalid, rest) => invalid rest
  | (first, rest) =>
      let hasComma := rest.head? = some ','
      let least ← match first with
        | .number value => pure value
        | _ => if hasComma then pure 0 else throw problem
      let (second, rest) := if hasComma then bound closing (rest.drop 1) [] else (first, rest)
      match second, Text.after? closing rest with
      | .invalid, _ => invalid rest
      | _, none => throw problem
      | .missing, some rest =>
          if mostRepetitions < least then throw ("Regular expression too big" : Text)
          let isExact := style.writesOctets && 2 ≤ least
          return some ((least, if isExact then some least else none), rest)
      | .number most, some rest =>
          if most < least then throw problem
          if mostRepetitions < most then throw ("Regular expression too big" : Text)
          return some ((least, some most), rest)

/-- The bounds that a mark at the front stands for. -/
def takeBounds? (style : Style) : Reader (Option (Nat × Option Nat)) := do
  if ← takeIf ['*'] then return some (0, none)
  else if ← takeIf (style.marked '+') then return some (1, none)
  else if ← takeIf (style.marked '?') then return some (0, some 1)
  else
    let before ← get
    if style.hasBounds && (← takeIf (style.marked '\x7b')) then
      match ← bounds? style (← get).rest with
      | some (bounds, rest) =>
          modify fun source => { source with rest }
          return some bounds
      | none =>
          set before
          return none
    else return none

/-- The repetitions behind a part. -/
def repetitions (style : Style) : (fuel : Nat) → Form → Reader Form
  | 0, part => return part
  | fuel + 1, part => do
      match ← takeBounds? style with
      | some (least, most) => repetitions style fuel (.repeated least most false part)
      | none => return part

/-- A border that a letter behind a backslash stands for. -/
def letterBorder? (style : Style) (c : Char) : Option Form :=
  if style.writesOctets then none
  else if c = 'b' then some (.border wordBorder)
  else if c = 'B' then some (.border noWordBorder)
  else if c = '<' then some (.border wordStart)
  else if c = '>' then some (.border wordEnd)
  else if c = '\x60' then some (.border textStart)
  else if c = '\'' then some (.border textEnd)
  else none

/-- The part that a character behind a backslash stands for. -/
def escape (style : Style) (c : Char) : Reader Form := do
  if style.writesOctets then
    let (octet, rest) := writtenOctet c (← get).rest
    modify fun source => { source with rest }
    return .char (sameFor style.foldsCase octet)
  if c = 'w' then return .char isWordChar
  else if c = 'W' then return .char fun c => !isWordChar c
  else if c = 's' then return .char blanks.elem
  else if c = 'S' then return .char fun c => !blanks.elem c
  else if c.isDigit && c != '0' then
    if !(← get).closed.elem (digitValue c) then throw ("Invalid back reference" : Text)
    return .noted (sameFor style.foldsCase) (digitValue c)
  else return .char (sameFor style.foldsCase c)

/-- Whether the rest ends an alternative. -/
def endsPart (style : Style) (depth : Nat) : Reader Bool := do
  if (← get).rest.isEmpty then return true
  if ← startsWith (style.marked '|') then return true
  if ← startsWith (style.marked ')') then return depth != 0 || !style.sparesParentheses
  return false

mutual

/-- Alternatives up to the end or the parenthesis that closes them. -/
def alternatives (style : Style) (fuel depth : Nat) (before : List Form) : Reader Form :=
  match fuel with
  | 0 => throw ("Regular expression too big" : Text)
  | fuel + 1 => do
      let part ← parts style fuel depth true []
      let isVoid := match part with
        | .sequence [] => true
        | _ => false
      let hasNext ← takeIf (style.marked '|')
      if style.refusesNothing && isVoid && (hasNext || !before.isEmpty) then
        throw ("Invalid preceding regular expression" : Text)
      if hasNext then alternatives style fuel depth (part :: before)
      else match before with
        | [] => return part
        | _ => return .choice (part :: before).reverse

/-- Parts that follow one another. Where `isFirst`, there is nothing to repeat before the first
one. -/
def parts (style : Style) (fuel depth : Nat) (isFirst : Bool) (before : List Form) :
    Reader Form :=
  match fuel with
  | 0 => throw ("Regular expression too big" : Text)
  | fuel + 1 => do
      if ← endsPart style depth then return .sequence before.reverse
      if isFirst && style.isStrict then
        let marks : List Text :=
          if !style.isExtended then [['\\', '\x7b']]
          else ['*'] :: ['+'] :: ['?'] :: if style.sparesBraces then [] else [['\x7b']]
        let rest := (← get).rest
        if marks.any fun mark => mark.isPrefixOf rest then
          throw ("Invalid preceding regular expression" : Text)
      if isFirst && style.isExtended then
        if let some _ ← takeBounds? style then return ← parts style fuel depth true before
      let isStart ← if isFirst || style.isExtended then takeIf ['^'] else pure false
      if isStart then
        let test := if style.seesLines then lineStart else textStart
        parts style fuel depth true (.border test :: before)
      else if ← takeIf (style.marked '(') then
        let number := (← get).groups + 1
        modify fun source => { source with groups := number }
        let part ← alternatives style fuel (depth + 1) []
        if !(← takeIf (style.marked ')')) then throw ("Unmatched ( or \\(" : Text)
        modify fun source => { source with closed := number :: source.closed }
        let part ← repetitions style fuel (.group number part)
        parts style fuel depth false (part :: before)
      else match (← get).rest with
        | [] => return .sequence before.reverse
        | c :: rest =>
            modify fun source => { source with rest }
            if c = '$' && (style.isExtended || (← endsPart style depth)) then
              let test := if style.seesLines then lineEnd else textEnd
              parts style fuel depth true (.border test :: before)
            else if c = '\\' then
              match rest with
              | [] => throw ("Trailing backslash" : Text)
              | escaped :: behind => do
                  modify fun source => { source with rest := behind }
                  match letterBorder? style escaped with
                  | some border => parts style fuel depth true (border :: before)
                  | none =>
                      let part ← repetitions style fuel (← escape style escaped)
                      parts style fuel depth false (part :: before)
            else
              let part ←
                if c = '[' then takeSet style
                else if c = '.' then pure (.char fun c => !(style.seesLines && c == '\n'))
                else pure (.char (sameFor style.foldsCase c))
              let part ← repetitions style fuel part
              parts style fuel depth false (part :: before)

end

/-- Reads an expression. -/
def ofText (style : Style) (text : Text) : Except Text Expression := do
  let (form, source) ←
    (alternatives style (4 * text.length + 8) 0 []).run ⟨text, 0, []⟩
  if source.rest.isEmpty then return ⟨form, true, source.groups, []⟩
  else throw ("Unmatched ) or \\)" : Text)

end ShaderCost.Script.Expression
