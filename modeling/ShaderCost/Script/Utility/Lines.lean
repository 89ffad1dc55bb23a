import ShaderCost.Script.Utility.Basic

/-!
Utilities on the lines of texts: showing them, parts of them, their number and their order.
-/

namespace ShaderCost.Script.Utility

/-- A character as it is shown where characters without a picture are made visible. -/
def visible (showsTabs : Bool) (c : Char) : Text :=
  let code := c.toNat
  let low (code : Nat) : Text :=
    if code < 32 then ['^', Char.ofNat (code + 64)]
    else if code = 127 then ['^', '?']
    else [Char.ofNat code]
  if c = '\t' then if showsTabs then ['^', 'I'] else [c]
  else if c = '\n' then [c]
  else if code < 128 then low code
  else ['M', '-'] ++ low (code - 128)

/-- Lines with what the options of `cat` add to them. -/
def decorate (call : Call) : List Text → (number : Nat) → (wasEmpty : Bool) → List Text
  | [], _, _ => []
  | line :: rest, number, wasEmpty =>
      let isEmpty := line = "\n"
      if isEmpty && wasEmpty && call.has 's' then decorate call rest number true
      else
        let counts := if call.has 'b' then !isEmpty else call.has 'n'
        let front : Text := if counts then padLeft 6 (Text.ofNat number) ++ ['\t'] else []
        let all := call.has 'A'
        let isVisible := all || call.has 'v' || call.has 'e' || call.has 't'
        let showsTabs := all || call.has 'T' || call.has 't'
        let shown := line.flatMap fun c =>
          if isVisible then visible showsTabs c
          else if c = '\t' && showsTabs then ['^', 'I']
          else [c]
        let marksEnd := all || call.has 'E' || call.has 'e'
        let shown :=
          if marksEnd && shown.getLast? = some '\n' then shown.dropLast ++ ['$', '\n'] else shown
        (front ++ shown) :: decorate call rest (if counts then number + 1 else number) isEmpty

/-- Shows files one after the other. -/
def cat : Utility := withCall ⟨"nbsEAvTetu", [], [("number", 'n')], 1⟩ fun name call => do
  let isPlain := call.options.all fun option => option.1 = 'u'
  if isPlain then forContents name call.operands fun _ text => print text
  else
    let mut all : List Text := []
    let mut status := 0
    for path in if call.operands.isEmpty then ["-".toList] else call.operands do
      match ← contentOrComplain name path with
      | some text => all := all ++ endedLines text
      | none => status := 1
    print (decorate call all 1 false).flatten
    return status

/-- Which part of a text is wanted. -/
structure Excerpt where
  countsLines : Bool
  /-- A sign in front of the size. -/
  sign : Option Char
  size : Nat

/-- The factors that letters after a size stand for. -/
def factors : List (Text × Nat) := [
  ([], 1), ("b", 512), ("k", 1024), ("K", 1024), ("kB", 1000), ("KB", 1000), ("M", 1048576),
  ("MB", 1000000)]

/-- A size with an optional sign. -/
def size? (text : Text) : Option (Option Char × Nat) :=
  let (sign, text) : Option Char × Text := match text with
    | '-' :: rest => (some '-', rest)
    | '+' :: rest => (some '+', rest)
    | _ => (none, text)
  let digits := text.takeWhile Char.isDigit
  match factors.lookup (text.drop digits.length) with
  | some factor => if digits.isEmpty then none else some (sign, digitsIn 10 digits * factor)
  | none => none

/-- Arguments in which a size stands for itself. -/
def withSizes (arguments : List Text) : List Text :=
  match arguments with
  | ('-' :: digit :: rest) :: others =>
      if digit.isDigit then
        let digits := (digit :: rest).takeWhile Char.isDigit
        "-n".toList :: digits :: others
      else arguments
  | _ => arguments

/-- The part that a call asks for. -/
def excerptOf (name : Text) (call : Call) : Step (Option Excerpt) := do
  match call.options.find? fun option => option.1 = 'n' || option.1 = 'c' with
  | none => return some ⟨true, none, 10⟩
  | some (letter, text) =>
      let what : Text := if letter = 'n' then "lines" else "bytes"
      match size? text with
      | some (sign, size) => return some ⟨letter = 'n', sign, size⟩
      | none =>
          let shown := match text with
            | '-' :: digits => digits
            | _ => text
          complain name ("invalid number of " ++ what ++ ": " ++ nameInQuotes shown)
          return none

def excerptOptions : Options :=
  ⟨"qvzf", "nc", [("lines", 'n'), ("bytes", 'c'), ("quiet", 'q'), ("verbose", 'v')], 1⟩

/-- Shows the chosen part of each file, under its name if there are several. -/
def showExcerpts (name : Text) (call : Call) (choose : Text → Text) : Step Nat := do
  let paths := if call.operands.isEmpty then ["-".toList] else call.operands
  let isNamed := call.has 'v' || (1 < paths.length && !call.has 'q')
  let mut status := 0
  let mut isFirst := true
  for path in paths do
    match ← content path with
    | .ok text =>
        if isNamed then
          let title : Text := if path = "-" then "standard input" else path
          print ((if isFirst then [] else ['\n']) ++ "==> ".toList ++ title ++ " <==\n".toList)
        isFirst := false
        print (choose text)
    | .error error =>
        let problem : Text := match error with
          | .isDirectory => "error reading " ++ nameInQuotes path
          | _ => "cannot open " ++ nameInQuotes path ++ " for reading"
        complain name (problem ++ ": " ++ wording error)
        status := 1
  return status

/-- Takes lines or octets off the front of the input, as far as they are needed. What was on its
way behind them is lost if it came through a pipe. -/
def takeFront (isLines : Bool) : (count : Nat) → (before : List Text) → Step Text
  | 0, before => return before.reverse.flatten
  | count + 1, before => do
      spend 1
      let line ← readInput true
      if line.isEmpty then return before.reverse.flatten
      else if isLines then takeFront isLines count (line :: before)
      else if count + 1 ≤ line.length then
        return (line.take (count + 1) :: before).reverse.flatten
      else takeFront isLines (count + 1 - line.length) (line :: before)
  termination_by count => count
  decreasing_by
    · exact Nat.lt_succ_self count
    · cases line with
      | nil => contradiction
      | cons c rest =>
          simp only [List.length_cons]
          omega

/-- Forgets what is left in the pipe that the input comes through. -/
def drainPipe : Step Unit := modify fun shell =>
  match shell.channel? standardInput with
  | some (.pipe number) =>
      match shell.machine.pipes.lookup number with
      | some pipe =>
          { shell with machine := shell.machine.setPipe number { pipe with content := [] } }
      | none => shell
  | _ => shell

/-- The beginning of files. -/
def head : Utility := fun name arguments =>
  withCall excerptOptions (fun name call => do
    match ← excerptOf name call with
    | none => return 1
    | some excerpt =>
        let fromEnd := excerpt.sign = some '-'
        if call.operands.all (· = "-".toList) && call.operands.length ≤ 1 && !fromEnd
            && !call.has 'v' then
          let text ← takeFront excerpt.countsLines excerpt.size []
          drainPipe
          print text
          return 0
        else if call.operands = ["/dev/zero".toList] && !excerpt.countsLines && !fromEnd then
          print (List.replicate excerpt.size '\x00')
          return 0
        else
          showExcerpts name call fun text =>
            if excerpt.countsLines then
              let lines := endedLines text
              (lines.take (if fromEnd then lines.length - excerpt.size else excerpt.size)).flatten
            else text.take (if fromEnd then text.length - excerpt.size else excerpt.size))
    name (withSizes arguments)

/-- The end of files; a plus sign gives the place where it begins. -/
def tail : Utility := fun name arguments =>
  withCall excerptOptions (fun name call => do
    match ← excerptOf name call with
    | none => return 1
    | some excerpt =>
        let fromFront := excerpt.sign = some '+'
        let dropped (length : Nat) : Nat :=
          if fromFront then excerpt.size - 1 else length - excerpt.size
        showExcerpts name call fun text =>
          if excerpt.countsLines then
            let lines := endedLines text
            (lines.drop (dropped lines.length)).flatten
          else text.drop (dropped text.length))
    name (withSizes arguments)

/-- How many words a text has. -/
def countWords (text : Text) : Nat :=
  (text.foldl (fun (count, inside) c =>
    if isBlankOctet c then (count, false)
    else if inside then (count, true) else (count + 1, true)) (0, false)).1

/-- Counts lines, words and octets. -/
def wc : Utility := withCall
    ⟨"lwcmL", [], [("lines", 'l'), ("words", 'w'), ("bytes", 'c'), ("chars", 'm')], 1⟩
    fun name call => do
  let paths := if call.operands.isEmpty then ["-".toList] else call.operands
  let chosen := if call.options.isEmpty then "lwc".toList
    else "lwmcL".toList.filter fun letter => call.has letter
  let count (text : Text) (letter : Char) : Nat :=
    if letter = 'l' then text.count '\n'
    else if letter = 'w' then countWords text
    else if letter = 'L' then
      (bareLines text).foldl (fun longest line => max longest line.length) 0
    else text.length
  let mut rows : List (Option Text × List Nat) := []
  let mut isRegular := true
  let mut total := 0
  let mut status := 0
  for path in paths do
    let isInput := path = "-".toList
    if isInput then
      match (← get).channel? standardInput with
      | some (.file _) => pure ()
      | _ => isRegular := false
    match ← contentOrComplain name path with
    | some text =>
        total := total + text.length
        rows := (if call.operands.isEmpty then none else some path, chosen.map (count text)) :: rows
    | none => status := 1
  let width :=
    if paths.length = 1 && chosen.length = 1 then 1
    else if isRegular then (Text.ofNat total).length
    else 7
  let sums := rows.foldl (fun sums row => List.zipWith Nat.add sums row.2)
    (chosen.map fun _ => 0)
  let totals := if 1 < paths.length then [(some "total".toList, sums)] else []
  for (title, counts) in rows.reverse ++ totals do
    let numbers := counts.map fun number => padLeft width (Text.ofNat number)
    let behind := match title with
      | some title => ' ' :: title
      | none => []
    print (List.intercalate [' '] numbers ++ behind ++ ['\n'])
  return status

/-- A number at the front of a line, after blanks, with its places. -/
def leadingNumber (line : Text) : Int × Text :=
  let text := line.dropWhile isBlankOctet
  let (isNegative, digits) : Bool × Text := match text with
    | '-' :: rest => (true, rest)
    | _ => (false, text)
  let whole := digits.takeWhile Char.isDigit
  let places := match digits.drop whole.length with
    | '.' :: rest => rest.takeWhile Char.isDigit
    | _ => []
  let scaled : Int := digitsIn 10 (whole ++ (places ++ List.replicate 9 '0').take 9)
  (if isNegative then -scaled else scaled, places)

/-- The fields of a line from one number to another, as far as a key of `sort` names them. -/
def sortKey (separator : Option Char) (key line : Text) : Text :=
  let first := key.takeWhile Char.isDigit
  let rest := (key.drop first.length).dropWhile fun c => c != ','
  let last := (rest.drop 1).takeWhile Char.isDigit
  let start := digitsIn 10 first - 1
  let parts : List Text := match separator with
    | some c => (line.splitOn c)
    | none => blankParts line [] []
  let chosen := parts.drop start
  let chosen := if last.isEmpty then chosen else chosen.take (digitsIn 10 last - start)
  match separator with
  | some c => List.intercalate [c] chosen
  | none => chosen.flatten
where
  /-- Fields with the blanks before each. -/
  blankParts : Text → (current : Text) → (before : List Text) → List Text
    | [], current, before => (current.reverse :: before).reverse
    | c :: rest, current, before =>
        if (c = ' ' || c = '\t') && current.any fun d => d != ' ' && d != '\t' then
          blankParts rest [c] (current.reverse :: before)
        else blankParts rest (c :: current) before

/-- Sorts lines. -/
def sort : Utility := withCall
    ⟨"nrufbsdgVzc", "kto", [("numeric-sort", 'n'), ("reverse", 'r'), ("unique", 'u')], 2⟩
    fun name call => do
  let mut lines : List Text := []
  let mut status := 0
  for path in if call.operands.isEmpty then ["-".toList] else call.operands do
    match ← content path with
    | .ok text => lines := lines ++ bareLines text
    | .error error =>
        complain name ("cannot read: " ++ path ++ ": " ++ wording error)
        status := 2
  if status != 0 then return status
  let key := call.value? 'k'
  let has (letter : Char) : Bool := call.has letter || key.any fun key => key.elem letter
  let fold (text : Text) : Text := if has 'f' then text.map Char.toUpper else text
  let keyed (line : Text) : Text := match key with
    | some key =>
        let part := sortKey ((call.value? 't').bind List.head?) key line
        fold (if has 'b' then part.dropWhile isBlankOctet else part)
    | none => fold (if has 'b' then line.dropWhile isBlankOctet else line)
  let isNumeric := has 'n' || has 'g'
  let same (left right : Text) : Bool :=
    if isNumeric then (leadingNumber (keyed left)).1 = (leadingNumber (keyed right)).1
    else keyed left = keyed right
  let before (left right : Text) : Bool :=
    if isNumeric then decide ((leadingNumber (keyed left)).1 < (leadingNumber (keyed right)).1)
    else keyed left != keyed right && Text.atMost (keyed left) (keyed right)
  let atMost (left right : Text) : Bool :=
    if same left right then
      call.has 'u' || call.has 's' ||
        (if call.has 'r' then Text.atMost right left else Text.atMost left right)
    else if has 'r' then before right left else before left right
  let sorted := lines.mergeSort atMost
  let shown := if call.has 'u' then distinct same sorted else sorted
  match call.value? 'o' with
  | some path =>
      match ← openChannel .writing path with
      | .ok channel => withChannels (do
          setChannel standardOutput (some channel)
          print (joinLines shown))
      | .error error =>
          complain name ("open failed: " ++ path ++ ": " ++ wording error)
          return 2
  | none => print (joinLines shown)
  return 0
where
  /-- Leaves out lines that are the same as the one before. -/
  distinct (same : Text → Text → Bool) : List Text → List Text
    | first :: second :: rest =>
        if same first second then distinct same (first :: rest)
        else first :: distinct same (second :: rest)
    | lines => lines
  termination_by lines => lines.length

/-- Runs of equal lines, each with its first line and its length. -/
def runs (same : Text → Text → Bool) : List Text → List (Text × Nat)
  | [] => []
  | line :: rest =>
      match runs same rest with
      | (next, count) :: more =>
          if same line next then (line, count + 1) :: more else (line, 1) :: (next, count) :: more
      | [] => [(line, 1)]

/-- Leaves out lines that are repeated. -/
def uniq : Utility := withCall ⟨"cdui", "fsw", [("count", 'c')], 1⟩ fun name call => do
  forContents name (call.operands.take 1) fun _ text => do
    let same (left right : Text) : Bool :=
      if call.has 'i' then left.map Char.toLower = right.map Char.toLower else left = right
    let found := (runs same (bareLines text)).filter fun (_, count) =>
      (!call.has 'd' || 1 < count) && (!call.has 'u' || count = 1)
    print (joinLines (found.map fun (line, count) =>
      if call.has 'c' then padLeft 7 (Text.ofNat count) ++ ' ' :: line else line))

/-- The lines in reverse order. -/
def tac : Utility := withCall ⟨[], [], [], 1⟩ fun name call =>
  forContents name call.operands fun _ text => print (endedLines text).reverse.flatten

/-- The characters of each line in reverse order. -/
def rev : Utility := withCall ⟨[], [], [], 1⟩ fun name call =>
  forContents name call.operands fun _ text =>
    print ((endedLines text).flatMap fun line =>
      if line.getLast? = some '\n' then line.dropLast.reverse ++ ['\n'] else line.reverse)

/-- Copies the input to the output and to files. -/
def tee : Utility := withCall ⟨"ai", [], [("append", 'a')], 1⟩ fun name call => do
  let text ← readInput false
  print text
  let mut status := 0
  for path in call.operands do
    match ← openChannel (if call.has 'a' then .appending else .replacing) path with
    | .ok channel => withChannels (do
        setChannel standardOutput (some channel)
        print text)
    | .error error =>
        complain name (path ++ ": " ++ wording error)
        status := 1
  return status

/-- Prints a line without end. -/
def yes : Utility := fun _ arguments => do
  let line : Text :=
    (if arguments.isEmpty then ['y'] else List.intercalate [' '] arguments) ++ ['\n']
  let block := (List.replicate (4096 / line.length + 1) line).flatten
  Step.repeatUntil (do
    spend 1
    if ← write standardOutput block then return false
    return true) 1000000
  return 1

end ShaderCost.Script.Utility
