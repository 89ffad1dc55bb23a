import ShaderCost.Script.Utility.Entries
import ShaderCost.Script.Utility.Lines

/-!
The utility that tells how two files differ, line by line. Common lines are found so that there are
as many of them as can be.
-/

namespace ShaderCost.Script.Utility

namespace Comparison

/-- What became of a line. -/
inductive Step where
  | keep
  | drop
  | add
  deriving DecidableEq

/-- A line with what became of it. Of a kept line both forms are known. -/
structure Change where
  step : Step
  old : Text
  new : Text

/-- The lengths of the longest common parts of one line's rest with every rest of the others, from
those of the rest behind it. -/
def row (same : Text → Text → Bool) (line : Text) : List Text → List Nat → List Nat
  | other :: others, here :: behind =>
      let rest := row same line others behind
      let best := if same line other then (behind.headD 0) + 1 else max here (rest.headD 0)
      best :: rest
  | _, _ => [0]

/-- The lengths of the longest common parts for all rests. -/
def table (same : Text → Text → Bool) (news : List Text) : List Text → List (List Nat)
  | [] => [List.replicate (news.length + 1) 0]
  | line :: rest =>
      let behind := table same news rest
      row same line news (behind.headD []) :: behind

/-- The changes that keep the longest common part. -/
def changes (same : Text → Text → Bool) : (olds news : List Text) → List (List Nat) →
    List Change
  | [], news, _ => news.map fun line => ⟨.add, [], line⟩
  | olds, [], _ => olds.map fun line => ⟨.drop, line, []⟩
  | old :: olds, new :: news, here :: behind =>
      if same old new then
        ⟨.keep, old, new⟩ :: changes same olds news (behind.map List.tail)
      else
        let dropped := (behind.headD []).headD 0
        let added := (here.drop 1).headD 0
        if added ≤ dropped then
          ⟨.drop, old, []⟩ :: changes same olds (new :: news) behind
        else ⟨.add, [], new⟩ :: changes same (old :: olds) news ((here :: behind).map List.tail)
  | olds, news, [] =>
      (olds.map fun line => ⟨.drop, line, []⟩) ++ news.map fun line => ⟨.add, [], line⟩
  termination_by olds news _ => olds.length + news.length

/-- The lines that two lists have in common at the front. -/
def commonFront (same : Text → Text → Bool) : List Text → List Text → Nat
  | old :: olds, new :: news => if same old new then commonFront same olds news + 1 else 0
  | _, _ => 0

/-- Moves a run of added or of dropped lines on, past lines that are the same as its first ones. -/
def slide (same : Text → Text → Bool) : (fuel : Nat) → List Change → List Change
  | 0, changes => changes
  | _ + 1, [] => []
  | fuel + 1, change :: rest =>
      if change.step = .keep then change :: slide same fuel rest
      else
        let run := (change :: rest).takeWhile fun other => other.step != .keep
        let behind := (change :: rest).drop run.length
        match behind with
        | kept :: behind =>
            let isPure := run.all fun other => other.step = change.step
            let line := if change.step = .add then change.new else change.old
            let other := if change.step = .add then kept.new else kept.old
            if isPure && same line other then
              let moved : Change := if change.step = .add then ⟨.keep, kept.old, line⟩
                else ⟨.keep, line, kept.new⟩
              let last : Change := if change.step = .add then ⟨.add, [], kept.new⟩
                else ⟨.drop, kept.old, []⟩
              moved :: slide same fuel (run.tail ++ last :: behind)
            else run ++ kept :: slide same fuel behind
        | [] => run

/-- How lines become others. -/
def between (same : Text → Text → Bool) (olds news : List Text) : List Change :=
  let front := commonFront same olds news
  let kept := (olds.take front).zipWith (fun old new => ⟨.keep, old, new⟩) (news.take front)
  let olds := olds.drop front
  let news := news.drop front
  let back := commonFront same olds.reverse news.reverse
  let ending := (olds.drop (olds.length - back)).zipWith (fun old new => ⟨.keep, old, new⟩)
    (news.drop (news.length - back))
  let olds := olds.take (olds.length - back)
  let news := news.take (news.length - back)
  let all := kept ++ changes same olds news (table same news olds) ++ ending
  slide same (2 * all.length + 1) all

/-! Hunks. -/

/-- Changes that belong together, with how many lines of each file come before them. -/
structure Hunk where
  oldStart : Nat
  newStart : Nat
  changes : List Change

namespace Hunk

def olds (hunk : Hunk) : List Text :=
  hunk.changes.filterMap fun change => if change.step = .add then none else some change.old

def news (hunk : Hunk) : List Text :=
  hunk.changes.filterMap fun change => if change.step = .drop then none else some change.new

end Hunk

/-- Parts changes where more than `context` lines are kept on both sides. -/
def hunks (context : Nat) : (fuel oldStart newStart : Nat) → List Change → List Hunk
  | 0, _, _, _ => []
  | fuel + 1, oldStart, newStart, changes =>
      let kept := changes.takeWhile fun change => change.step = .keep
      let rest := changes.drop kept.length
      if rest.isEmpty then []
      else
        let skipped := kept.length - context
        let inside := take (2 * context) rest.length rest
        let behind := rest.drop inside.length
        let trailing := (behind.takeWhile fun change => change.step = .keep).take context
        let hunk : Hunk := ⟨oldStart + skipped, newStart + skipped,
          kept.drop skipped ++ inside ++ trailing⟩
        let consumed := kept ++ inside
        let whole : Hunk := ⟨0, 0, consumed⟩
        hunk :: hunks context fuel (oldStart + whole.olds.length) (newStart + whole.news.length)
          behind
where
  /-- Changes up to the last one before a long stretch of kept lines. -/
  take (most : Nat) : (fuel : Nat) → List Change → List Change
    | 0, _ => []
    | fuel + 1, changes =>
        let changed := changes.takeWhile fun change => change.step != .keep
        let rest := changes.drop changed.length
        let kept := rest.takeWhile fun change => change.step = .keep
        let behind := rest.drop kept.length
        if behind.isEmpty || most < kept.length then changed
        else changed ++ kept ++ take most fuel behind

/-- A line that is shown behind a mark. -/
def marked (mark line : Text) : Text :=
  if line.getLast? = some '\n' then mark ++ line
  else mark ++ line ++ "\n\\ No newline at end of file\n".toList

/-- The numbers of the first and the last line. -/
def range (start count : Nat) : Text :=
  if count = 0 then Text.ofNat start
  else if count = 1 then Text.ofNat (start + 1)
  else Text.ofNat (start + 1) ++ ',' :: Text.ofNat (start + count)

/-- A hunk in the plain form. -/
def plainText (hunk : Hunk) : Text :=
  let letter := if hunk.olds.isEmpty then 'a' else if hunk.news.isEmpty then 'd' else 'c'
  range hunk.oldStart hunk.olds.length ++ letter :: range hunk.newStart hunk.news.length ++
    '\n' :: hunk.olds.flatMap (marked "< ") ++
    (if letter = 'c' then "---\n".toList else []) ++ hunk.news.flatMap (marked "> ")

/-- The first line and the count of lines. -/
def span (start count : Nat) : Text :=
  let first := if count = 0 then start else start + 1
  if count = 1 then Text.ofNat first else Text.ofNat first ++ ',' :: Text.ofNat count

/-- Dropped lines before added ones, as far as no kept line stands between. -/
def ordered : (fuel : Nat) → List Change → List Change
  | 0, changes => changes
  | fuel + 1, changes =>
      let kept := changes.takeWhile fun change => change.step = .keep
      let rest := changes.drop kept.length
      let run := rest.takeWhile fun change => change.step != .keep
      if rest.isEmpty then kept
      else kept ++ run.filter (fun change => change.step = .drop) ++
        run.filter (fun change => change.step = .add) ++ ordered fuel (rest.drop run.length)

/-- A hunk in the form in which old and new lines stand together. -/
def unifiedText (hunk : Hunk) : Text :=
  "@@ -".toList ++ span hunk.oldStart hunk.olds.length ++ " +".toList ++
    span hunk.newStart hunk.news.length ++ " @@\n".toList ++
    (ordered (hunk.changes.length + 1) hunk.changes).flatMap fun change =>
      match change.step with
      | .keep => marked [' '] change.old
      | .drop => marked ['-'] change.old
      | .add => marked ['+'] change.new

/-- A hunk in the form in which old lines stand before new ones. -/
def contextText (hunk : Hunk) : Text :=
  let changes := ordered (hunk.changes.length + 1) hunk.changes
  let runs := marks (changes.length + 1) changes
  let hasOlds := changes.any fun change => change.step = .drop
  let hasNews := changes.any fun change => change.step = .add
  let side (isOld : Bool) : Text := runs.flatMap fun (mark, change) =>
    match change.step, isOld with
    | .keep, true => marked "  " change.old
    | .keep, false => marked "  " change.new
    | .drop, true => marked [mark, ' '] change.old
    | .add, false => marked [mark, ' '] change.new
    | _, _ => []
  let place (start count : Nat) : Text :=
    if count ≤ 1 then Text.ofNat (start + count)
    else Text.ofNat (start + 1) ++ ',' :: Text.ofNat (start + count)
  "***************\n*** ".toList ++ place hunk.oldStart hunk.olds.length ++ " ****\n".toList ++
    (if hasOlds then side true else []) ++ "--- ".toList ++
    place hunk.newStart hunk.news.length ++ " ----\n".toList ++
    (if hasNews then side false else [])
where
  /-- Marks each change: those in runs of one kind with its sign, others as replaced. -/
  marks : (fuel : Nat) → List Change → List (Char × Change)
    | 0, _ => []
    | fuel + 1, changes =>
        let kept := changes.takeWhile fun change => change.step = .keep
        let rest := changes.drop kept.length
        let run := rest.takeWhile fun change => change.step != .keep
        let mark :=
          if run.all fun change => change.step = .drop then '-'
          else if run.all fun change => change.step = .add then '+'
          else '!'
        if changes.isEmpty then []
        else kept.map (fun change => (' ', change)) ++ run.map (fun change => (mark, change)) ++
          marks fuel (rest.drop run.length)

/-! Files. -/

/-- A text as far as a call looks at it. -/
def essence (call : Call) (line : Text) : Text :=
  let line := if call.has 'i' then line.map Char.toLower else line
  let line := if call.has '\x03' && Text.endsWith "\r\n" line then
    line.take (line.length - 2) ++ ['\n'] else line
  if call.has 'w' then line.filter fun c => !isBlankOctet c
  else if call.has 'b' then
    let words := (line.splitOnP isBlankOctet)
    let front := if line.head?.any isBlankOctet then [[]] else []
    List.intercalate [' '] (front ++ words.filter fun word => !word.isEmpty)
  else line

/-- The form in which differences are shown. -/
inductive Form where
  | plain
  | unified (context : Nat)
  | context (context : Nat)
  | brief

def formOf (call : Call) : Form :=
  let lines (letter : Char) : Nat := ((call.value? letter).bind Text.nat?).getD 3
  if call.has 'q' then .brief
  else if call.has 'u' || call.has 'U' then .unified (lines 'U')
  else if call.has 'c' || call.has 'C' then .context (lines 'C')
  else .plain

/-- A line over the differences of a file. -/
def header (call : Call) (mark path : Text) (place : Nat) (time : Text) : Text :=
  let labels := (call.options.filter fun option => option.1 = '\x01').map Prod.snd
  match labels[place]? with
  | some label => mark ++ ' ' :: label ++ ['\n']
  | none => mark ++ ' ' :: path ++ '\t' :: time ++ ['\n']

/-- Whether blank lines are all that a hunk is about. -/
def isBlank (hunk : Hunk) : Bool :=
  (hunk.olds ++ hunk.news).all fun line => line.all fun c => c = '\n'

/-- Shows how two texts differ. The status is one if they do. -/
def present (call : Call) (title : Text) (oldPath newPath old new : Text) :
    Script.Step Nat := do
  spend ((old.length + new.length) / charactersPerTurn)
  let isSame : Bool := old = new
  if isSame then
    if call.has 's' then
      print ("Files ".toList ++ oldPath ++ " and ".toList ++ newPath ++ " are identical\n".toList)
    return 0
  if ('\x00' ∈ old || '\x00' ∈ new) && !call.has 'a' then
    let what : Text := if call.has 'q' then "Files " else "Binary files "
    print (what ++ oldPath ++ " and ".toList ++ newPath ++ " differ\n".toList)
    return 1
  let same (left right : Text) : Bool := essence call left = essence call right
  let all := between same (endedLines old) (endedLines new)
  let found := hunks 0 (all.length + 1) 0 0 all
  let found := if call.has 'B' then found.filter fun hunk => !isBlank hunk else found
  if found.isEmpty then
    if call.has 's' then
      print ("Files ".toList ++ oldPath ++ " and ".toList ++ newPath ++ " are identical\n".toList)
    return 0
  let time : Text := "2026-01-01 00:00:00.000000000 +0000"
  match formOf call with
  | .brief => print ("Files ".toList ++ oldPath ++ " and ".toList ++ newPath ++ " differ\n".toList)
  | .plain => print (title ++ found.flatMap plainText)
  | .unified context =>
      print (title ++ header call "---" oldPath 0 time ++ header call "+++" newPath 1 time ++
        (hunks context (all.length + 1) 0 0 all).flatMap unifiedText)
  | .context context =>
      print (title ++ header call "***" oldPath 0 time ++ header call "---" newPath 1 time ++
        (hunks context (all.length + 1) 0 0 all).flatMap contextText)
  return 1

/-- What is compared: a text, or a directory with its entries. -/
inductive Operand where
  | missing (error : FileError)
  | text (content : Text)
  | directory (entries : Entries)

def operandAt (path : Text) : Script.Step Operand := do
  if path = "-" then return .text (← readInput false)
  match (← get).tree.find (shownText path) with
  | .ok (.directory entries) => return .directory entries
  | .ok _ => match ← content path with
    | .ok text => return .text text
    | .error error => return .missing error
  | .error error => return .missing error

def below (directory name : Text) : Text :=
  if Text.endsWith "/" directory then directory ++ name else directory ++ '/' :: name

/-- The options as they stand before the paths of files that are compared in directories. -/
def shownCall (name : Text) (arguments : List Text) : Text :=
  Format.joinWords (name :: arguments.filter fun argument => argument.head? = some '-')

/-- Compares what is at two paths. -/
def compare (name command : Text) (call : Call) : (fuel : Nat) → (isInside : Bool) →
    (oldPath newPath : Text) → Script.Step Nat
  | 0, _, _, _ => return 2
  | fuel + 1, isInside, oldPath, newPath => do
      let title : Text := if isInside then
        command ++ ' ' :: oldPath ++ ' ' :: newPath ++ ['\n'] else []
      let fails (path : Text) (error : FileError) : Script.Step Unit :=
        complain name (path ++ ": ".toList ++ wording error)
      match ← operandAt oldPath, ← operandAt newPath with
      | .text old, .text new => present call title oldPath newPath old new
      | .missing oldError, .missing newError =>
          fails oldPath oldError
          fails newPath newError
          return 2
      | .missing error, new =>
          match new with
          | .text new =>
              if call.has 'N' then return ← present call title oldPath newPath [] new
          | _ => pure ()
          fails oldPath error
          return 2
      | old, .missing error =>
          match old with
          | .text old =>
              if call.has 'N' then return ← present call title oldPath newPath old []
          | _ => pure ()
          fails newPath error
          return 2
      | .directory olds, .directory news =>
          if isInside && !call.has 'r' then
            print ("Common subdirectories: ".toList ++ oldPath ++ " and ".toList ++ newPath ++
              ['\n'])
            return 0
          let names := (olds ++ news).map fun entry => spreadText entry.1
          let names := (names.mergeSort Text.atMost).eraseDups
          let mut status := 0
          for entry in names do
            let isOld := (List.lookup (shownText entry) olds).isSome
            let isNew := (List.lookup (shownText entry) news).isSome
            if (isOld && isNew) || call.has 'N' then
              let result ← compare name command call fuel true (below oldPath entry)
                (below newPath entry)
              status := max status result
            else
              print ("Only in ".toList ++ (if isOld then oldPath else newPath) ++ ": ".toList ++
                entry ++ ['\n'])
              status := max status 1
          return status
      | .directory _, .text _ =>
          if isInside then
            print ("File ".toList ++ oldPath ++ " is a directory while file ".toList ++ newPath ++
              " is a regular file\n".toList)
            return 1
          else compare name command call fuel isInside (below oldPath (lastName [] newPath)) newPath
      | .text _, .directory _ =>
          if isInside then
            print ("File ".toList ++ oldPath ++ " is a regular file while file ".toList ++
              newPath ++ " is a directory\n".toList)
            return 1
          else compare name command call fuel isInside oldPath (below newPath (lastName [] oldPath))

end Comparison

def diffOptions : Options :=
  ⟨"uqsiwbBrNcaydtpEZ\x03", "UC\x01\x02I", [("unified", 'U'), ("brief", 'q'),
    ("report-identical-files", 's'), ("ignore-case", 'i'), ("ignore-all-space", 'w'),
    ("ignore-space-change", 'b'), ("ignore-blank-lines", 'B'), ("recursive", 'r'),
    ("new-file", 'N'), ("text", 'a'), ("label", '\x01'), ("context", 'C'), ("color", '\x02'),
    ("minimal", 'd'), ("strip-trailing-cr", '\x03'), ("normal", 'E')], 2⟩

/-- Tells how two files differ. -/
def diff : Utility := fun name arguments => do
  let refuse (problem : Text) : Step Nat := do
    complain name problem
    complain name ("Try '".toList ++ name ++ " --help' for more information.".toList)
    return 2
  let arguments := arguments.map fun (argument : Text) =>
    if argument = "--unified" then "-u".toList
    else if argument = "--context" then "-c".toList
    else if argument = "--color" then "-a".toList else argument
  match diffOptions.read false (arguments.length + 1) arguments with
  | .error problem => refuse problem
  | .ok call =>
      match call.operands with
      | [] => refuse ("missing operand after ".toList ++
          nameInQuotes (arguments.getLast?.getD name))
      | [path] => refuse ("missing operand after ".toList ++ nameInQuotes path)
      | [old, new] =>
          Comparison.compare name (Comparison.shownCall name arguments) call 64 false old new
      | _ :: _ :: extra :: _ => refuse ("extra operand ".toList ++ nameInQuotes extra)

end ShaderCost.Script.Utility
