import ShaderCost.Script.Expression.Reader
import ShaderCost.Script.Utility.Basic
import ShaderCost.Script.Utility.Paths

/-!
Utilities on the columns and the order of lines: parts of lines, lines of a limited width, lines
beside one another, lines with numbers, tabulators as blanks and back, a list in an order that pairs
ask for, and lines in any order.
-/

namespace ShaderCost.Script.Utility

/-- The lines of a text without the character that ends them. -/
def linesBy (ending : Char) (text : Text) : List Text :=
  let parts := text.splitOn ending
  if parts.getLast? = some [] then parts.dropLast else parts

/-! Parts of lines. -/

namespace Parts

/-- Places from a first one on, up to a last one if there is one. -/
structure Range where
  first : Nat
  last : Option Nat

namespace Range

def has (range : Range) (place : Nat) : Bool := range.first ≤ place && range.last.all (place ≤ ·)

/-- The range that a text names. The nouns are those that messages have for fields and for other
places. -/
def ofText? (isFields : Bool) (text : Text) : Except Text Range := do
  let number (text : Text) : Except Text (Option Nat) := do
    if text.isEmpty then return none
    if !text.all Char.isDigit then
      throw ((if isFields then "invalid field value ".toList
        else "invalid byte/character position ".toList) ++
          nameInQuotes (text.dropWhile Char.isDigit))
    if greatestSize ≤ digitsIn 10 text then
      throw ((if isFields then "field number ".toList else "byte/character offset ".toList) ++
        nameInQuotes text ++ " is too large".toList)
    return some (digitsIn 10 text)
  let fromOne : Text :=
    (if isFields then "fields" else "byte/character positions").toList ++
      " are numbered from 1".toList
  match text.splitOn '-' with
  | [place] =>
      match ← number place with
      | some 0 | none => throw fromOne
      | some place => return ⟨place, some place⟩
  | [first, last] =>
      let first ← number first
      if first = some 0 then throw fromOne
      match first, ← number last with
      | none, none => throw ("invalid range with no endpoint: -" : Text)
      | some first, none => return ⟨first, none⟩
      | first, some last =>
          if last < first.getD 1 then throw ("invalid decreasing range" : Text)
          return ⟨first.getD 1, some last⟩
  | _ => throw (if isFields then ("invalid field range" : Text)
      else "invalid byte or character range")

/-- Ranges in order, those that overlap as one. -/
def merged : (fuel : Nat) → List Range → List Range
  | 0, ranges => ranges
  | fuel + 1, one :: other :: rest =>
      if one.last.all (other.first ≤ ·) then
        let last : Option Nat := match one.last, other.last with
          | some one, some other => some (max one other)
          | _, _ => none
        merged fuel (⟨one.first, last⟩ :: rest)
      else one :: merged fuel (other :: rest)
  | _ + 1, ranges => ranges

/-- The places between ranges. -/
def between (start : Nat) : List Range → List Range
  | [] => [⟨start, none⟩]
  | range :: rest =>
      let before : List Range :=
        if start < range.first then [⟨start, some (range.first - 1)⟩] else []
      match range.last with
      | some last => before ++ between (last + 1) rest
      | none => before

end Range

/-- Ranges with commas or blanks between them. -/
def rangesOf? (isFields isComplement : Bool) (text : Text) : Except Text (List Range) := do
  let ranges ← (text.splitOnP fun c => c = ',' || c = ' ' || c = '\t').mapM
    (Range.ofText? isFields)
  let sorted := ranges.mergeSort fun one other => one.first ≤ other.first
  let merged := Range.merged sorted.length sorted
  return if isComplement then Range.between 1 merged else merged

/-- The characters of a line that are chosen, with a text between those of different ranges. -/
def ofCharacters (between : Text) (ranges : List Range) (line : Text) : Text :=
  go line 1 ranges true
where
  go : Text → (place : Nat) → List Range → (isFirst : Bool) → Text
    | [], _, _, _ | _, _, [], _ => []
    | c :: rest, place, range :: ranges, isFirst =>
        let ranges' := if range.last = some place then ranges else range :: ranges
        if range.has place then
          let front := if place = range.first && !isFirst then between else []
          front ++ c :: go rest (place + 1) ranges' false
        else go rest (place + 1) ranges' isFirst

/-- The fields of a line that are chosen. -/
def ofFields (separator : Char) (between : Text) (ranges : List Range) (line : Text) : Text :=
  let fields := (line.splitOn separator).zipIdx
  List.intercalate between ((fields.filter fun (_, place) =>
    ranges.any fun range => range.has (place + 1)).map Prod.fst)

def options : Options := ⟨"nsz\x01", "bcfd\x02", [
  ("bytes", 'b'), ("characters", 'c'), ("fields", 'f'), ("delimiter", 'd'),
  ("only-delimited", 's'), ("output-delimiter", '\x02'), ("complement", '\x01'),
  ("zero-terminated", 'z')], 1⟩

/-- What is wrong with a call, if anything is. -/
def problem? (call : Call) : Option Text :=
  let lists := call.options.filter fun option => "bcf".toList.elem option.1
  if (call.value? 'd').any fun text => 1 < text.length then
    some "the delimiter must be a single character"
  else match lists with
    | [] => some "you must specify a list of bytes, characters, or fields"
    | _ :: _ :: _ => some "only one list may be specified"
    | [(kind, _)] =>
        if kind != 'f' && call.has 'd' then
          some "an input delimiter may be specified only when operating on fields"
        else if kind != 'f' && call.has 's' then
          some "suppressing non-delimited lines makes sense\n\tonly when operating on fields"
        else none

end Parts

/-- Shows parts of lines. -/
def cut : Utility := withCall Parts.options fun name call => do
  match Parts.problem? call with
  | some problem => refuse name problem 1
  | none =>
      let (kind, list) := (call.options.find? fun option =>
        "bcf".toList.elem option.1).getD ('f', [])
      match Parts.rangesOf? (kind = 'f') (call.has '\x01') list with
      | .error problem => refuse name problem 1
      | .ok ranges =>
          let separator := match call.value? 'd' with
            | some text => text.headD '\x00'
            | none => '\t'
          let ending := if call.has 'z' then '\x00' else '\n'
          let between? := (call.value? '\x02').map fun text =>
            if text.isEmpty then ['\x00'] else text
          let part (line : Text) : Option Text :=
            if kind != 'f' then
              some (Parts.ofCharacters (between?.getD []) ranges line)
            else if separator ∉ line then if call.has 's' then none else some line
            else some (Parts.ofFields separator (between?.getD [separator]) ranges line)
          forContents name call.operands fun _ text =>
            if separator = ending && kind = 'f' then
              let whole := if text.getLast? = some ending then text.dropLast else text
              match part whole with
              | some shown => if text.isEmpty then pure () else print (shown ++ [ending])
              | none => pure ()
            else
              print (((linesBy ending text).filterMap part).flatMap fun line => line ++ [ending])

/-! Lines of a limited width. -/

namespace Folding

/-- The column behind a character. -/
def columnBehind (countsOctets : Bool) (column : Nat) (c : Char) : Nat :=
  if countsOctets then column + 1
  else if c = '\x08' then column - 1
  else if c = '\r' then 0
  else if c = '\t' then column + 8 - column % 8
  else column + 1

/-- The column behind a text that starts a line. -/
def widthOf (countsOctets : Bool) (text : Text) : Nat :=
  text.foldl (columnBehind countsOctets) 0

/-- Breaks lines. What stands in the current line is reversed. -/
def lines (countsOctets breaksAtBlanks : Bool) (width : Nat) :
    (fuel : Nat) → (column : Nat) → (reversed : Text) → (found : List Text) → Text → List Text
  | 0, _, reversed, found, _ | _, _, reversed, found, [] =>
      (reversed.reverse :: found).reverse
  | fuel + 1, column, reversed, found, c :: rest =>
      if c = '\n' then
        lines countsOctets breaksAtBlanks width fuel 0 []
          (('\n' :: reversed).reverse :: found) rest
      else
        let next := columnBehind countsOctets column c
        if next ≤ width || reversed.isEmpty then
          lines countsOctets breaksAtBlanks width fuel next (c :: reversed) found rest
        else
          let behind :=
            if breaksAtBlanks then reversed.takeWhile fun c => c != ' ' && c != '\t'
            else []
          let (front, kept) : Text × Text :=
            if behind.length < reversed.length then (reversed.drop behind.length, behind)
            else (reversed, [])
          lines countsOctets breaksAtBlanks width fuel (widthOf countsOctets kept.reverse) kept
            (('\n' :: front).reverse :: found) (c :: rest)

end Folding

/-- The options that stand for digits: what follows one at once goes on with the number. -/
def digitLetters : Text := "0123456789"

/-- Breaks lines so that they fit a width. -/
def fold : Utility :=
  withCall ⟨"bs".toList ++ digitLetters, 'w' :: digitLetters,
    [("width", 'w'), ("bytes", 'b'), ("spaces", 's')], 1⟩ fun name call => do
  let widths := call.options.filterMap fun (letter, value) =>
    if letter = 'w' then some value
    else if letter.isDigit then some (letter :: value)
    else none
  let limits := widths.map fun given => (given, boundedNumber? 1 greatestSize given)
  for (given, limit) in limits do
    if let .error flaw := limit then
      complain name (sizeProblem "invalid number of columns" given flaw)
      return 1
  let width := match limits.getLast? with
    | some (_, .ok width) => width.toNat
    | _ => 80
  forContents name call.operands fun _ text =>
    print (Folding.lines (call.has 'b') (call.has 's') width (3 * text.length + 1)
      0 [] [] text).flatten

/-! Lines beside one another. -/

namespace Pasting

/-- What the separators in a list stand for; a separator may be nothing. -/
def separatorsOf? : Text → Except Text (List Text)
  | [] => .ok []
  | ['\\'] => .error []
  | '\\' :: c :: rest => do
      let made : Text :=
        if c = '0' then []
        else [((controlLetters.find? fun entry => entry.2 = c && c != 'a').map
          Prod.fst).getD c]
      return made :: (← separatorsOf? rest)
  | c :: rest => do return [c] :: (← separatorsOf? rest)

/-- Texts with separators between them, which start again when they are used up. -/
def joined (all : List Text) : (next : List Text) → List Text → Text
  | _, [] => []
  | _, [text] => text
  | [], text :: rest => match all with
      | first :: others => text ++ first ++ joined all others rest
      | [] => text ++ joined all [] rest
  | first :: next, text :: rest => text ++ first ++ joined all next rest

/-- A source of lines: the input, or lines of its own. -/
inductive Source where
  | input
  | lines (lines : List Text)

/-- Takes a line of each source. -/
def row : (input : List Text) → List Source → List (Option Text) × List Text × List Source
  | input, [] => ([], input, [])
  | input, .input :: rest =>
      let (others, left, sources) := row input.tail rest
      (input.head? :: others, left, .input :: sources)
  | input, .lines lines :: rest =>
      let (others, left, sources) := row input rest
      (lines.head? :: others, left, .lines lines.tail :: sources)

/-- Rows of the lines of sources, until none has any left. -/
def rows : (fuel : Nat) → (input : List Text) → List Source → List (List Text)
  | 0, _, _ => []
  | fuel + 1, input, sources =>
      let (parts, input, sources) := row input sources
      if parts.all Option.isNone then []
      else parts.map (·.getD []) :: rows fuel input sources

end Pasting

/-- Puts lines beside one another, or the lines of a file behind one another. -/
def paste : Utility := withCall ⟨"sz", "d", [("delimiters", 'd'), ("serial", 's'),
    ("zero-terminated", 'z')], 1⟩ fun name call => do
  let given := (call.value? 'd').getD "\t"
  let ending := if call.has 'z' then '\x00' else '\n'
  let paths := if call.operands.isEmpty then ["-".toList] else call.operands
  match Pasting.separatorsOf? given with
  | .error _ =>
      complain name ("delimiter list ends with an unescaped backslash: ".toList ++ given)
      return 1
  | .ok separators =>
      let separators := if separators.isEmpty then [[]] else separators
      let mut status := 0
      if call.has 's' then
        for path in paths do
          match ← contentOrComplain name path with
          | some text => print (Pasting.joined separators separators (linesBy ending text) ++
              [ending])
          | none => status := 1
        return status
      else
        let mut sources : List Pasting.Source := []
        let mut longest := 0
        for path in paths do
          if path = ['-'] then sources := .input :: sources
          else match ← content path with
            | .ok text =>
                let lines := linesBy ending text
                longest := max longest lines.length
                sources := .lines lines :: sources
            | .error error =>
                complain name (plainWord path ++ ": ".toList ++ wording error)
                status := 1
                if error = .isDirectory then sources := .lines [] :: sources
                else return 1
        let input ← if paths.any (· = ['-']) then linesBy ending <$> readInput false else pure []
        let rows := Pasting.rows (longest + input.length + 1) input sources.reverse
        print (rows.flatMap fun row => Pasting.joined separators separators row ++ [ending])
        return status

/-! Lines with numbers. -/

namespace Numbering

/-- Which lines have a number. -/
inductive Choice where
  | all
  | filled
  | none
  | matching (expression : Expression)

/-- The choice that a text names; otherwise what is wrong, unless the text is none at all. -/
def Choice.ofText? (text : Text) : Except (Option Text) Choice :=
  match text with
  | ['a'] => .ok .all
  | ['t'] => .ok .filled
  | ['n'] => .ok .none
  | 'p' :: pattern =>
      match Expression.ofText { isExtended := false } pattern with
      | .ok expression => .ok (.matching expression)
      | .error problem => .error (some (if problem = Expression.unmatchedBracket then
          "Invalid regular expression" else problem))
  | _ => .error Option.none

/-- A part of a page. -/
inductive Section where
  | header
  | body
  | footer

structure Setup where
  header : Choice := .none
  body : Choice := .filled
  footer : Choice := .none
  /-- What stands, repeated, alone on a line where a part of a page begins. -/
  mark : Text := ['\\', ':']
  start : Int := 1
  step : Int := 1
  width : Nat := 6
  separator : Text := ['\t']
  /-- How many empty lines count as one. -/
  blanks : Nat := 1
  goesOn : Bool := false
  /-- On which side of its field a number stands, and whether zeros fill the field. -/
  form : Text := "rn"

def options : Options := ⟨"p", "hbfvilsnwd", [
  ("header-numbering", 'h'), ("body-numbering", 'b'), ("footer-numbering", 'f'),
  ("starting-line-number", 'v'), ("line-increment", 'i'), ("no-renumber", 'p'),
  ("join-blank-lines", 'l'), ("number-separator", 's'), ("number-width", 'w'),
  ("number-format", 'n'), ("section-delimiter", 'd')], 1⟩

/-- What is wrong with an option, and whether it is a matter of how the utility is called. -/
abbrev Problem := Text × Bool

def Setup.add (setup : Setup) (letter : Char) (value : Text) : Except Problem Setup := do
  let choice (what : String) : Except Problem Choice :=
    (Choice.ofText? value).mapError fun problem => match problem with
      | some problem => (problem, false)
      | Option.none => ("invalid ".toList ++ what.toList ++ " numbering style: ".toList ++
          nameInQuotes value, true)
  let number (what : String) (least : Int) (most : Int) : Except Problem Int :=
    (boundedNumber? least most value).mapError fun flaw =>
      (sizeProblem ("invalid ".toList ++ what.toList) value flaw, false)
  let most : Int := 9223372036854775807
  match letter with
  | 'h' => return { setup with header := ← choice "header" }
  | 'b' => return { setup with body := ← choice "body" }
  | 'f' => return { setup with footer := ← choice "footer" }
  | 'v' => return { setup with start := ← number "starting line number" (-most - 1) most }
  | 'i' => return { setup with step := ← number "line number increment" (-most - 1) most }
  | 'l' =>
      return { setup with blanks := (← number "line number of blank lines" 1 most).toNat }
  | 'w' =>
      return { setup with width := (← number "line number field width" 1 2147483647).toNat }
  | 's' => return { setup with separator := value }
  | 'p' => return { setup with goesOn := true }
  | 'n' =>
      if value = "ln" || value = "rn" || value = "rz" then return { setup with form := value }
      else throw ("invalid line numbering format: ".toList ++ nameInQuotes value, true)
  | 'd' =>
      match value with
      | [c] => return { setup with mark := [c, ':'] }
      | _ => return { setup with mark := value }
  | _ => return setup

/-- A number in its field, with the separator behind it. -/
def Setup.shown (setup : Setup) (number : Int) : Text :=
  let digits := Text.ofInt number
  let missing := setup.width - digits.length
  let field :=
    if setup.form = "ln" then digits ++ List.replicate missing ' '
    else if setup.form = "rz" then
      if number < 0 then '-' :: List.replicate missing '0' ++ digits.drop 1
      else List.replicate missing '0' ++ digits
    else List.replicate missing ' ' ++ digits
  field ++ setup.separator

/-- The part of a page that a line opens. -/
def Setup.opened? (setup : Setup) (line : Text) : Option Section :=
  let mark := setup.mark
  if mark.isEmpty then none
  else if line = mark ++ mark ++ mark then some .header
  else if line = mark ++ mark then some .body
  else if line = mark then some .footer
  else none

/-- How far a numbering came. -/
structure Progress where
  part : Section := .body
  /-- The number of the next line; none is left behind the greatest. -/
  next : Option Int
  /-- How many empty lines were passed over since the last number. -/
  blanks : Nat := 0

/-- A line with its number, if it has one. Nothing comes out where the numbers are used up. -/
def Setup.line? (setup : Setup) (progress : Progress) (line : Text) : Option (Text × Progress) :=
  match setup.opened? line with
  | some part =>
      let next := if setup.goesOn then progress.next else some setup.start
      some ([], { progress with part, next })
  | none =>
      let plain : Option (Text × Progress) :=
        some (List.replicate (setup.width + setup.separator.length) ' ' ++ line, progress)
      let numbered (progress : Progress) : Option (Text × Progress) :=
        progress.next.map fun number =>
          let next := number + setup.step
          let isLarge := 9223372036854775807 < next || next < -9223372036854775808
          (setup.shown number ++ line,
            { progress with next := if isLarge then none else some next })
      let choice := match progress.part with
        | .header => setup.header
        | .body => setup.body
        | .footer => setup.footer
      match choice with
      | .none => plain
      | .filled => if line.isEmpty then plain else numbered progress
      | .matching expression => if expression.occursIn line then numbered progress else plain
      | .all =>
          if 1 < setup.blanks && line.isEmpty && progress.blanks + 1 < setup.blanks then
            some (List.replicate (setup.width + setup.separator.length) ' ',
              { progress with blanks := progress.blanks + 1 })
          else numbered { progress with blanks := 0 }

/-- Lines with their numbers, and whether the numbers were used up. -/
def Setup.lines (setup : Setup) : Progress → List Text → (found : List Text) →
    List Text × Option Progress
  | progress, [], found => (found.reverse, some progress)
  | progress, line :: rest, found =>
      match setup.line? progress line with
      | some (shown, progress) => setup.lines progress rest (shown :: found)
      | none => (found.reverse, none)

end Numbering

/-- Numbers lines. -/
def nl : Utility := withCall Numbering.options fun name call => do
  match call.options.foldlM (fun (setup : Numbering.Setup) option =>
      setup.add option.1 option.2) {} with
  | .error (problem, isCall) =>
      if isCall then refuse name problem 1
      else
        complain name problem
        return 1
  | .ok setup =>
      let mut status := 0
      let mut progress : Numbering.Progress := { next := some setup.start }
      for path in if call.operands.isEmpty then ["-".toList] else call.operands do
        match ← contentOrComplain name path with
        | some text =>
            let (lines, after) := setup.lines progress (bareLines text) []
            print (joinLines lines)
            match after with
            | some after => progress := after
            | none =>
                complain name "line number overflow"
                return 1
        | none => status := 1
      return status

end ShaderCost.Script.Utility

namespace ShaderCost.Script.Utility

/-! Tabulators. -/

/-- Where tabulators lead: to columns that are named, and then to every multiple of a width. -/
structure Stops where
  columns : List Nat
  width : Option Nat

namespace Stops

/-- The next column behind one, if a tabulator leads anywhere. -/
def next? (stops : Stops) (column : Nat) : Option Nat :=
  match stops.columns.find? fun stop => decide (column < stop) with
  | some stop => some stop
  | none => stops.width.map fun width => (column / width + 1) * width

def ofText (text : Text) : Except Text Stops :=
  let parts := (text.splitOnP fun c => c = ',' || c = ' ').filter fun part => !part.isEmpty
  match parts.mapM Text.nat? with
  | none => .error ("tab size contains invalid character(s): ".toList ++
      nameInQuotes (text.dropWhile fun c => c.isDigit || c = ',' || c = ' '))
  | some [] => .ok ⟨[], some 8⟩
  | some [0] => .error "tab size cannot be 0"
  | some [width] => .ok ⟨[], some width⟩
  | some columns =>
      if (columns.zip columns.tail).any fun (one, other) => other ≤ one then
        .error "tab sizes must be ascending"
      else .ok ⟨columns, none⟩

end Stops

/-- A line in which blanks stand for tabulators. With `onlyFront`, those behind other characters
stay. -/
def expandLine (stops : Stops) (onlyFront : Bool) : (column : Nat) → Text → Text
  | _, [] => []
  | column, c :: rest =>
      if c = '\t' then
        let next := (stops.next? column).getD (column + 1)
        List.replicate (next - column) ' ' ++ expandLine stops onlyFront next rest
      else if c = '\x08' then c :: expandLine stops onlyFront (column - 1) rest
      else if onlyFront && c != ' ' then c :: rest
      else c :: expandLine stops onlyFront (column + 1) rest

/-- Tabulators and blanks that lead from one column to another one. -/
def tabsTo (stops : Stops) (target : Nat) : (fuel : Nat) → (column : Nat) → Text
  | 0, _ => []
  | fuel + 1, column =>
      match stops.next? column with
      | some next =>
          if next ≤ target then '\t' :: tabsTo stops target fuel next
          else List.replicate (target - column) ' '
      | none => List.replicate (target - column) ' '

/-- A line in which tabulators stand for blanks where they can. -/
def unexpandLine (stops : Stops) (isEverywhere : Bool) : (fuel : Nat) → (column : Nat) → Text →
    Text
  | 0, _, line => line
  | _ + 1, _, [] => []
  | fuel + 1, column, c :: rest =>
      if c = ' ' || c = '\t' then
        let blanks := (c :: rest).takeWhile fun c => c = ' ' || c = '\t'
        let behind := (c :: rest).drop blanks.length
        let target := blanks.foldl (fun column c =>
          if c = '\t' then (stops.next? column).getD (column + 1) else column + 1) column
        let shown := if blanks = [' '] && column != 0 then [' ']
          else if blanks = [' '] then [' '] else tabsTo stops target (blanks.length + 1) column
        shown ++ (if isEverywhere then unexpandLine stops isEverywhere fuel target behind
          else behind)
      else if isEverywhere then c :: unexpandLine stops isEverywhere fuel (column + 1) rest
      else c :: rest

/-- Arguments in which a number stands for a width. -/
def withWidths (arguments : List Text) : List Text :=
  arguments.map fun argument => match argument with
    | '-' :: digit :: rest =>
        if digit.isDigit then "-t".toList ++ digit :: rest else argument
    | _ => argument

def expand : Utility := fun name arguments =>
  withCall ⟨"i", "t", [("initial", 'i'), ("tabs", 't')], 1⟩ (fun name call => do
    match Stops.ofText ((call.value? 't').getD ['8']) with
    | .error problem =>
        complain name problem
        return 1
    | .ok stops =>
        forContents name call.operands fun _ text =>
          print ((endedLines text).flatMap (expandLine stops (call.has 'i') 0)))
    name (withWidths arguments)

def unexpand : Utility := fun name arguments =>
  withCall ⟨"af", "t", [("all", 'a'), ("first-only", 'f'), ("tabs", 't')], 1⟩ (fun name call => do
    match Stops.ofText ((call.value? 't').getD ['8']) with
    | .error problem =>
        complain name problem
        return 1
    | .ok stops =>
        let isEverywhere := (call.has 'a' || call.has 't') && !call.has 'f'
        forContents name call.operands fun _ text =>
          print ((endedLines text).flatMap fun line =>
            unexpandLine stops isEverywhere (line.length + 1) 0 line))
    name (withWidths arguments)

/-! Orders. -/

namespace Ranking

/-- Names with how many others come before each, and the ones that come behind. -/
structure State where
  names : List Text
  pairs : List (Text × Text)

/-- Takes names that nothing comes before, until there are no more of them. -/
def take (pairs : List (Text × Text)) : (fuel : Nat) → (ready left : List Text) →
    (before : List Text) → List Text × List Text
  | 0, _, left, before => (before.reverse, left)
  | _ + 1, [], left, before => (before.reverse, left)
  | fuel + 1, name :: ready, left, before =>
      let done := name :: before
      let isFree (other : Text) : Bool :=
        pairs.all fun (first, second) => second != other || first = second || done.elem first
      let behind := (pairs.filterMap fun (first, second) =>
        if first = name && left.elem second && isFree second then some second else none).reverse
      let behind := behind.eraseDups
      take pairs fuel (ready ++ behind) (left.filter fun other => !behind.elem other) done

end Ranking

/-- Puts names in an order that pairs of them ask for. -/
def tsort : Utility := withCall ⟨[], [], [], 1⟩ fun name call => do
  match ← contentOrComplain name (call.operands.headD "-".toList) with
  | none => return 1
  | some text =>
      let words := (text.splitOnP isBlankOctet).filter fun word => !word.isEmpty
      let shown : Text := if call.operands.isEmpty then "-" else call.operands.headD []
      if words.length % 2 = 1 then
        complain name (shown ++ ": input contains an odd number of tokens".toList)
        return 1
      let pairs := pairsOf words
      let names := (words.eraseDups).mergeSort Text.atMost
      let isFirst (word : Text) : Bool :=
        pairs.all fun (first, second) => second != word || first = second
      let ready := names.filter isFirst
      let left := names.filter fun word => !isFirst word
      let (order, left) := Ranking.take pairs (names.length + 1) ready left []
      print (joinLines order)
      if left.isEmpty then return 0
      else
        complain name (shown ++ ": input contains a loop:".toList)
        for word in left do complain name word
        print (joinLines left)
        return 1
where
  pairsOf : List Text → List (Text × Text)
    | first :: second :: rest => (first, second) :: pairsOf rest
    | _ => []

/-- Shows lines in some order, which is the one that they come in. -/
def shuf : Utility := withCall ⟨"erz", "ion", [("echo", 'e'), ("input-range", 'i'),
    ("head-count", 'n'), ("output", 'o'), ("repeat", 'r'), ("zero-terminated", 'z')], 1⟩
    fun name call => do
  let lines? ← match call.value? 'i' with
    | some range =>
        match (range.splitOn '-').map Text.nat? with
        | [some first, some last] =>
            pure (some ((List.range (last + 1 - first)).map fun step => Text.ofNat (first + step)))
        | _ =>
            complain name ("invalid input range: ".toList ++ nameInQuotes range)
            pure none
    | none =>
        if call.has 'e' then pure (some call.operands)
        else
          let text? ← contentOrComplain name (call.operands.headD "-".toList)
          pure (text?.map bareLines)
  match lines? with
  | none => return 1
  | some lines =>
      let count := ((call.value? 'n').bind Text.nat?).getD lines.length
      print (joinLines (lines.take count))
      return 0

end ShaderCost.Script.Utility
