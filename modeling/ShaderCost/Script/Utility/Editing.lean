import ShaderCost.Script.Utility.Editing.Reader
import ShaderCost.Script.Utility.Entries
import ShaderCost.Script.Utility.Lines

/-!
The course of editing: lines are read one after the other, and for each the commands are carried
out in order, unless one of them jumps or begins the next line.
-/

namespace ShaderCost.Script.Utility.Editing

/-- A text at work. -/
structure Space where
  text : Text
  /-- Whether the line that it came from has an end. -/
  isEnded : Bool

structure Line where
  space : Space
  /-- The file that the line is from. -/
  path : Text
  /-- Whether the line is the first of its file. -/
  startsFile : Bool

/-- What is printed behind a line. -/
inductive Appended where
  | text (text : Text)
  | file (path : Text)

/-- How far a range has come. -/
inductive Range where
  | inactive
  /-- With the line that ends it, where that is known. -/
  | active (last : Option Nat)
  | over

structure Setup where
  isSilent : Bool
  /-- Whether lines are counted anew for each file. -/
  isSeparate : Bool
  /-- Whether files are edited in place, and what is added to the names of copies. -/
  inPlace : Option Text
  /-- What ends a line. -/
  separator : Char
  /-- The width of a listed line. -/
  width : Nat

/-- Where lines come from at present. -/
inductive Supply where
  | nothing
  | input
  | content (rest : Text)

structure Editor where
  space : Space
  held : Space
  number : Nat
  isReplaced : Bool
  supply : Supply
  path : Text
  startsFile : Bool
  /-- The line that comes next, once it was looked for. -/
  ahead : Option (Option Line)
  paths : List Text
  appended : List Appended
  ranges : Array Range
  /-- The expression that was used last. -/
  expression : Option Expression
  status : Nat
  /-- The streams whose last line has no end. -/
  unended : List Nat
  /-- The streams that files are written through. -/
  streams : List (Text × Nat)
  /-- What is left of files that are read line by line. -/
  readers : List (Text × Text)
  /-- The output of the file that is edited in place, the last piece first. -/
  edited : List Text

abbrev Edit := StateT Editor Step

/-! Output. -/

/-- Writes to a stream, or to the file that is edited in place. -/
def put (setup : Setup) (stream : Nat) (text : Text) : Edit Unit := do
  if stream = standardOutput && setup.inPlace.isSome then
    modify fun editor => { editor with edited := text :: editor.edited }
  else
    let _ ← write stream text

/-- Ends the last line of a stream. -/
def endLine (setup : Setup) (stream : Nat) : Edit Unit := do
  if (← get).unended.elem stream then
    put setup stream [setup.separator]
    modify fun editor => { editor with unended := editor.unended.erase stream }

def putText (setup : Setup) (stream : Nat) (text : Text) : Edit Unit := do
  endLine setup stream
  put setup stream text

/-- Writes a line, which has no end if the line that it came from has none. -/
def putLine (setup : Setup) (stream : Nat) (text : Text) (isEnded : Bool) : Edit Unit := do
  endLine setup stream
  put setup stream (if isEnded then text ++ [setup.separator] else text)
  if !isEnded then
    modify fun editor => { editor with unended := stream :: editor.unended }

def emit (setup : Setup) (text : Text) : Edit Unit := do
  putLine setup standardOutput text (← get).space.isEnded

def streamOf (path : Text) : Edit Nat := do
  if path = "/dev/stdout" then return standardOutput
  else if path = "/dev/stderr" then return standardError
  else return ((← get).streams.lookup path).getD standardOutput

/-- Prints what was to be printed behind the line. -/
def flush (setup : Setup) : Edit Unit := do
  let appended := (← get).appended
  modify fun editor => { editor with appended := [] }
  for item in appended do
    match item with
    | .text text => putText setup standardOutput text
    | .file path =>
        endLine setup standardOutput
        match ← content (if path = "/dev/stdin" then ['-'] else path) with
        | .ok text => put setup standardOutput text
        | .error _ => pure ()

/-! Input. -/

/-- Takes a line off the front of a text. -/
def splitLine (separator : Char) (text : Text) : Space × Text :=
  let line := text.takeWhile (· != separator)
  match text.drop line.length with
  | [] => (⟨line, false⟩, [])
  | _ :: rest => (⟨line, true⟩, rest)

/-- Takes a line of the input up to a separator, which may be in another place than line feeds. -/
def takeInput (separator : Char) : Step (Option Space) := do
  if separator = '\n' then
    let line ← readInput true
    if line.isEmpty then return none
    return some (splitLine separator line).1
  else
    let text ← readInput false
    if text.isEmpty then return none
    return some ⟨text, true⟩

/-- The next line of the file that is being read. -/
def nextOfFile (setup : Setup) : Edit (Option Line) := do
  let editor ← get
  match editor.supply with
  | .nothing => return none
  | .input =>
      match ← takeInput setup.separator with
      | none =>
          modify fun editor => { editor with supply := .nothing }
          return none
      | some space =>
          if setup.separator = '\n' then
            modify fun editor => { editor with startsFile := false }
            return some ⟨space, editor.path, editor.startsFile⟩
          else
            let (space, rest) := splitLine setup.separator space.text
            modify fun editor => { editor with supply := .content rest, startsFile := false }
            return some ⟨space, editor.path, editor.startsFile⟩
  | .content [] =>
      modify fun editor => { editor with supply := .nothing }
      return none
  | .content rest =>
      let (space, rest) := splitLine setup.separator rest
      modify fun editor => { editor with supply := .content rest, startsFile := false }
      return some ⟨space, editor.path, editor.startsFile⟩

/-- Puts what was edited in the place of the file that it was read from. -/
def storeEdited (setup : Setup) : Edit Unit := do
  match setup.inPlace with
  | none => pure ()
  | some ending =>
      let editor ← get
      if !editor.path.isEmpty && editor.path != ['-'] then
        let path := editor.path
        let text := editor.edited.reverse.flatten
        let shell ← getThe Shell
        match shell.tree.find (shownText path) with
        | .ok (.file before executable) =>
            if !ending.isEmpty then
              let name := lastName [] path
              let copyName := if '*' ∈ ending then
                  ending.flatMap fun c => if c = '*' then name else [c]
                else name ++ ending
              let copy := if '/' ∈ copyName then copyName
                else path.take (path.length - name.length) ++ copyName
              let _ ← change fun tree => tree.writeOctets (shownText copy) before
            let _ ← change fun tree => do
              return tree.insert (← tree.locate (shownText path)) (.file (gather text) executable)
        | _ => pure ()
      modify fun editor => { editor with
        edited := [], path := [], unended := editor.unended.erase standardOutput }

/-- Opens the next file. The result tells whether there was one. -/
def openNext (name : Text) (setup : Setup) : Edit Bool := do
  match (← get).paths with
  | [] => return false
  | path :: paths =>
      storeEdited setup
      modify fun editor => { editor with paths, path, startsFile := true }
      let isInput := path = ['-'] && setup.inPlace.isNone
      if isInput then
        modify fun editor => { editor with supply := .input }
        return true
      let failed (problem : Text) : Edit Unit := do
        complain name problem
        modify fun editor => { editor with supply := .nothing, path := [], status := 2 }
      let found ← content path
      match found, setup.inPlace with
      | .ok text, _ =>
          spend (text.length / charactersPerTurn)
          modify fun editor => { editor with supply := .content text }
      | .error .isDirectory, some _ =>
          failed ("couldn't edit ".toList ++ path ++ ": not a regular file".toList)
          modify fun editor => { editor with status := 4 }
      | .error .isDirectory, none =>
          failed ("read error on ".toList ++ path ++ ": Is a directory".toList)
      | .error error, _ =>
          failed ("can't read ".toList ++ path ++ ": ".toList ++ wording error)
      return true

/-- The next line of all files that are left. -/
def nextOfAll (name : Text) (setup : Setup) : (limit : Nat) → Edit (Option Line)
  | 0 => return none
  | limit + 1 => do
      match ← nextOfFile setup with
      | some line => return some line
      | none => if ← openNext name setup then nextOfAll name setup limit else return none

/-- Looks for the next line; where files are separate, only in the present one. -/
def look (name : Text) (setup : Setup) : Edit (Option Line) := do
  match (← get).ahead with
  | some ahead => return ahead
  | none =>
      let ahead ←
        if setup.isSeparate then nextOfFile setup
        else nextOfAll name setup ((← get).paths.length + 1)
      modify fun editor => { editor with ahead := some ahead }
      return ahead

def isLast (name : Text) (setup : Setup) : Edit Bool := do return (← look name setup).isNone

/-- Ranges that begin before the first line are under way from the start. -/
def firstRanges (commands : Array Command) : Array Range :=
  commands.map fun command => match command.first, command.second with
    | some (.line 0), some _ => .active none
    | _, _ => .inactive

/-- Reads the next line, which takes the place of the one at work or is added to it. -/
def readLine (name : Text) (setup : Setup) (commands : Array Command) (adds : Bool) :
    Edit Bool := do
  flush setup
  let found ← match ← look name setup with
    | some line => pure (some line)
    | none => do
        modify fun editor => { editor with ahead := none }
        nextOfAll name setup ((← get).paths.length + 1)
  match found with
  | none =>
      modify fun editor => { editor with ahead := some none }
      return false
  | some line =>
      if setup.isSeparate && line.startsFile then
        endLine setup standardOutput
        modify fun editor => { editor with
          number := 0, held := ⟨[], true⟩, readers := [], ranges := firstRanges commands }
      modify fun editor =>
        let text := if adds then editor.space.text ++ setup.separator :: line.space.text
          else line.space.text
        { editor with
          ahead := none, isReplaced := false, number := editor.number + 1
          space := ⟨text, line.space.isEnded⟩ }
      return true

/-! Choosing lines. -/

/-- The expression that is meant, which is the last one used from now on. -/
def expressionFor (name : Text) (expression : Option Expression) : Edit Expression := do
  let editor ← get
  match expression.or editor.expression with
  | some expression =>
      set { editor with expression := some expression }
      return expression
  | none =>
      complain name "-e expression #1, char 0: no previous regular expression"
      setStatus 1
      throw .exited

def isAt (name : Text) (setup : Setup) (address : Address) : Edit Bool := do
  match address with
  | .line number => return (← get).number = number
  | .last => isLast name setup
  | .finding expression =>
      let expression ← expressionFor name expression
      return expression.occursIn (← get).space.text
  | .every first step =>
      let number := (← get).number
      return first ≤ number && (number - first) % step = 0

/-- Whether a range begins with the line. A line that was passed over inside a range stands for
the first one. -/
def begins (name : Text) (setup : Setup) (first : Address) (second : Ending) : Edit Bool := do
  match first, second with
  | .line first, .address (.line last) =>
      let number := (← get).number
      return number = first || (first < number && number ≤ last)
  | .line first, _ => return first ≤ (← get).number
  | first, _ => isAt name setup first

/-- Whether the line is one of those that a command is for. Ranges begin and end with it. -/
def isChosen (name : Text) (setup : Setup) (place : Nat) (command : Command) : Edit Bool := do
  let setRange (range : Range) : Edit Unit := modify fun editor =>
    { editor with ranges := editor.ranges.set! place range }
  match command.first, command.second with
  | none, _ => return true
  | some first, none => isAt name setup first
  | some first, some second =>
      let isNumbered := match first with
        | .line _ => true
        | _ => false
      let number := (← get).number
      match (← get).ranges.getD place .inactive, second with
      | .active (some last), second =>
          if last ≤ number then setRange (if isNumbered then .over else .inactive)
          match second with
          | .address _ => return number ≤ last
          | _ => return true
      | .active none, .address address =>
          if ← isAt name setup address then
            setRange (if isNumbered then .over else .inactive)
          return true
      | .active none, _ => return true
      | .over, _ => return false
      | .inactive, _ =>
          if !(← begins name setup first second) then return false
          let last : Option Nat := match second with
            | .address (.line last) => some last
            | .further count => some (number + count)
            | .multiple factor =>
                if factor = 0 then some number else some ((number / factor + 1) * factor)
            | .address _ => none
          if last.any (· ≤ number) then
            if isNumbered then setRange .over
          else setRange (.active last)
          return true

/-! Carrying out commands. -/

/-- Texts with letters written as replacements ask for. -/
def relettered (lettering : Lettering) (next : Option Lettering) : List (Text ⊕ Part) → Text
  | [] => []
  | .inl [] :: rest => relettered lettering next rest
  | .inl (c :: text) :: rest =>
      (next.getD lettering).apply c :: text.map lettering.apply ++ relettered lettering none rest
  | .inr (.letters lettering) :: rest => relettered lettering next rest
  | .inr (.letter next) :: rest => relettered lettering (some next) rest
  | .inr _ :: rest => relettered lettering next rest

/-- What is put in the place of an occurrence. -/
def filled (parts : List Part) (occurrence : Expression.Occurrence) : Text :=
  relettered .plain none (parts.map fun part => match part with
    | .text text => .inl text
    | .group number => .inl (occurrence.group number)
    | part => .inr part)

/-- A text with replacements from one of the occurrences on, and whether there are any. -/
def substituted (expression : Expression) (substitution : Substitution) (text : Text) :
    Text × Bool :=
  let (occurrences, behind) := expression.occurrencesIn text
  let replaces (number : Nat) : Bool :=
    number = substitution.first || (substitution.all && substitution.first < number)
  let shown := (occurrences.zipIdx 1).map fun (occurrence, number) =>
    occurrence.before ++
      if replaces number then filled substitution.parts occurrence else occurrence.found
  (shown.flatten ++ behind, substitution.first ≤ occurrences.length)

/-- A character as a list shows it. -/
def listed (c : Char) : Text :=
  if c = '\\' then "\\\\"
  else match [('\x07', 'a'), ('\x08', 'b'), ('\x0c', 'f'), ('\n', 'n'), ('\r', 'r'), ('\t', 't'),
      ('\x0b', 'v')].lookup c with
    | some letter => ['\\', letter]
    | none =>
        if 32 ≤ c.toNat && c.toNat < 127 then [c]
        else
          let digits := Nat.toDigits 8 c.toNat
          '\\' :: List.replicate (3 - digits.length) '0' ++ digits

/-- A text in which every character can be seen, in lines of a width unless that is zero. -/
def listing (width : Nat) (text : Text) : Text :=
  let (shown, _) := text.foldl (fun (shown, length) c =>
    let piece := listed c
    if 0 < width && width < length + piece.length + 1 then
      (piece :: "\\\n".toList :: shown, piece.length)
    else (piece :: shown, length + piece.length)) (([], 0) : List Text × Nat)
  shown.reverse.flatten ++ ['$']

/-- What follows a command. -/
inductive Course where
  | goOn
  | jump (place : Nat)
  /-- The line is done; it may be printed. -/
  | done (prints : Bool)
  /-- The commands begin again without another line. -/
  | again
  | quit (status : Nat) (prints : Bool)

def firstLine (separator : Char) (text : Text) : Text := text.takeWhile (· != separator)

/-- Writes the first of the lines at work. -/
def putFirstLine (setup : Setup) (stream : Nat) (space : Space) : Edit Unit :=
  let first := firstLine setup.separator space.text
  putLine setup stream first (space.isEnded || first.length < space.text.length)

/-- A text that a command brings with it, with the end that lines have. -/
def broughtText (setup : Setup) (text : Text) : Text :=
  if text.isEmpty then [] else text.dropLast ++ [setup.separator]

/-- Carries out a command for a line that it is for. -/
def apply (name : Text) (setup : Setup) (commands : Array Command) (place : Nat)
    (command : Command) : Edit Course := do
  let editor ← get
  let text := editor.space.text
  let setText (text : Text) : Edit Unit := modify fun editor =>
    { editor with space := { editor.space with text } }
  match command.action with
  | .nothing | .block _ => return .goOn
  | .jump .always target => return .jump target
  | .jump .replaced target =>
      if !editor.isReplaced then return .goOn
      set { editor with isReplaced := false }
      return .jump target
  | .jump .notReplaced target =>
      if !editor.isReplaced then return .jump target
      set { editor with isReplaced := false }
      return .goOn
  | .substitute substitution =>
      let expression ← expressionFor name substitution.expression
      spend (text.length / charactersPerTurn)
      let (changed, isFound) := substituted expression substitution text
      if isFound then
        setText changed
        modify fun editor => { editor with isReplaced := true }
        if substitution.prints then emit setup changed
        match substitution.path with
        | some path => putLine setup (← streamOf path) changed editor.space.isEnded
        | none => pure ()
      return .goOn
  | .exchange before after =>
      setText (text.map fun c => ((before.idxOf? c).bind fun place => after[place]?).getD c)
      return .goOn
  | .print false =>
      emit setup text
      return .goOn
  | .print true =>
      putFirstLine setup standardOutput editor.space
      return .goOn
  | .list width =>
      putText setup standardOutput (listing (width.getD setup.width) text ++ [setup.separator])
      return .goOn
  | .number =>
      putText setup standardOutput (Text.ofNat editor.number ++ [setup.separator])
      return .goOn
  | .name =>
      putText setup standardOutput (editor.path ++ [setup.separator])
      return .goOn
  | .delete => return .done false
  | .deleteFirst =>
      let first := firstLine setup.separator text
      if first.length = text.length then return .done false
      setText (text.drop (first.length + 1))
      return .again
  | .quit status prints => return .quit status prints
  | .next adds =>
      if ← isLast name setup then return .done true
      if !adds && !setup.isSilent then emit setup text
      if ← readLine name setup commands adds then return .goOn else return .done true
  | .append text =>
      set { editor with appended := editor.appended ++ [Appended.text text] }
      return .goOn
  | .insert text =>
      putText setup standardOutput (broughtText setup text)
      return .goOn
  | .change text =>
      let isInside := match editor.ranges.getD place .inactive with
        | .active _ => !command.isNegated
        | _ => false
      if !isInside then putText setup standardOutput (broughtText setup text)
      return .done false
  | .appendFile path =>
      set { editor with appended := editor.appended ++ [Appended.file path] }
      return .goOn
  | .appendLine path =>
      let rest ← match editor.readers.lookup path with
        | some rest => pure rest
        | none =>
            match ← content (if path = "/dev/stdin" then ['-'] else path) with
            | .ok text => pure text
            | .error _ => pure []
      let (line, behind) := splitLine setup.separator rest
      let readers := (path, behind) :: editor.readers.filter fun entry => entry.1 != path
      let item := if rest.isEmpty then [] else [Appended.text (line.text ++ [setup.separator])]
      modify fun editor => { editor with appended := editor.appended ++ item, readers }
      return .goOn
  | .write path onlyFirst =>
      let stream ← streamOf path
      if onlyFirst then putFirstLine setup stream editor.space
      else putLine setup stream text editor.space.isEnded
      return .goOn
  | .keep adds =>
      set { editor with held :=
        if adds then ⟨editor.held.text ++ setup.separator :: text, editor.space.isEnded⟩
        else editor.space }
      return .goOn
  | .recall adds =>
      set { editor with space :=
        if adds then ⟨text ++ setup.separator :: editor.held.text, editor.held.isEnded⟩
        else editor.held }
      return .goOn
  | .swap =>
      set { editor with space := editor.held, held := editor.space }
      return .goOn
  | .clear =>
      setText []
      return .goOn

/-- Carries out commands from a place on, until the line is done. -/
def runFrom (name : Text) (setup : Setup) (commands : Array Command) :
    (fuel place : Nat) → Edit Course
  | 0, _ => throw .late
  | fuel + 1, place => do
      match commands[place]? with
      | none => return .done true
      | some command =>
          spend 1
          let chosen ← isChosen name setup place command
          if chosen = command.isNegated then
            match command.action with
            | .block target => runFrom name setup commands fuel target
            | _ => runFrom name setup commands fuel (place + 1)
          else
            match ← apply name setup commands place command with
            | .goOn => runFrom name setup commands fuel (place + 1)
            | .jump target => runFrom name setup commands fuel target
            | course => return course

/-- Carries out commands for all lines that follow. The result is the status. -/
def runAll (name : Text) (setup : Setup) (commands : Array Command) :
    (fuel : Nat) → (isAgain : Bool) → Edit Nat
  | 0, _ => throw .late
  | fuel + 1, isAgain => do
      if !isAgain then
        if !(← readLine name setup commands false) then return 0
      else flush setup
      match ← runFrom name setup commands (fuel + 1) 0 with
      | .done prints =>
          if prints && !setup.isSilent then emit setup (← get).space.text
          runAll name setup commands fuel false
      | .again => runAll name setup commands fuel true
      | .quit status prints =>
          if prints && !setup.isSilent then emit setup (← get).space.text
          flush setup
          if prints then endLine setup standardOutput
          return status
      | _ => return 0

/-- Gives a line back that was only looked for, where the input is a file. -/
def giveBack : Edit Unit := do
  let editor ← get
  match editor.ahead, editor.supply with
  | some (some line), .input =>
      let length := line.space.text.length + if line.space.isEnded then 1 else 0
      modifyThe Shell fun shell =>
        match shell.channel? standardInput with
        | some (.file number) =>
            match shell.machine.files.lookup number with
            | some file =>
                let file := { file with position := file.position - length }
                { shell with machine := shell.machine.setFile number file }
            | none => shell
        | _ => shell
  | _, _ => pure ()

/-- Edits files, and gives the status. -/
def edit (name : Text) (setup : Setup) (commands : Array Command) (paths : List Text)
    (streams : List (Text × Nat)) : Step Nat := do
  let editor : Editor := {
    space := ⟨[], true⟩, held := ⟨[], true⟩, number := 0, isReplaced := false, supply := .nothing
    path := [], startsFile := false, ahead := none, paths, appended := []
    ranges := firstRanges commands, expression := none, status := 0, unended := [], streams
    readers := [], edited := [] }
  let effort := (← get).machine.effort
  let (status, editor) ← (do
    for command in commands do
      match command.first, command.action with
      | some (.line 0), .appendFile path =>
          modify fun editor => { editor with appended := editor.appended ++ [Appended.file path] }
      | _, _ => pure ()
    let status ← runAll name setup commands effort false
    storeEdited setup
    giveBack
    return status : Edit Nat).run editor
  return if status = 0 then editor.status else status

end ShaderCost.Script.Utility.Editing

/-!
The utility that edits lines by a script of its own kind.
-/

namespace ShaderCost.Script.Utility

namespace Editing

def options : Options := {
  flags := "nErsuzib\x01\x02\x03".toList
  valued := "efli".toList
  words := [("quiet", 'n'), ("silent", 'n'), ("regexp-extended", 'E'), ("expression", 'e'),
    ("file", 'f'), ("in-place", 'i'), ("separate", 's'), ("unbuffered", 'u'), ("null-data", 'z'),
    ("zero-terminated", 'z'), ("line-length", 'l'), ("binary", 'b'), ("posix", '\x01'),
    ("sandbox", '\x02'), ("follow-symlinks", '\x03')]
  refusal := 1 }

/-- The pieces of the script of a call; a file that cannot be read is told instead. -/
def piecesOf : List (Char × Text) → (number : Nat) → Step (Except Text (List Piece))
  | [], _ => return .ok []
  | (letter, value) :: rest, number => do
      if letter = 'e' then
        match ← piecesOf rest (number + 1) with
        | .ok pieces => return .ok (⟨value, none, number⟩ :: pieces)
        | .error problem => return .error problem
      else if letter = 'f' then
        match ← content value with
        | .error error =>
            return .error ("couldn't open file ".toList ++ value ++ ": ".toList ++ wording error)
        | .ok text =>
            match ← piecesOf rest number with
            | .ok pieces => return .ok (⟨text, some value, number⟩ :: pieces)
            | .error problem => return .error problem
      else piecesOf rest number

/-- The number of the first stream that a script opens. -/
def firstStream : Nat := 100

/-- Opens the files that lines are written to. -/
def openAll (name : Text) : List Text → (number : Nat) → Step (Option (List (Text × Nat)))
  | [], _ => return some []
  | path :: paths, number => do
      if path = "/dev/stdout" || path = "/dev/stderr" then openAll name paths number
      else match ← openChannel .replacing path with
        | .ok channel =>
            setChannel number (some channel)
            return (← openAll name paths (number + 1)).map fun streams => (path, number) :: streams
        | .error error =>
            complain name ("couldn't open file ".toList ++ path ++ ": ".toList ++ wording error)
            return none

/-- Arguments in which a cluster of letters that ends in one for editing in place stands apart. -/
def usage (name : Text) : Step Nat := do
  report ("Usage: ".toList ++ name ++
    " [OPTION]... \x7bscript-only-if-no-other-script\x7d [input-file]...".toList)
  return 1

end Editing

/-- Edits lines by a script. -/
def sed : Utility := fun name arguments => do
  match Editing.options.read false (arguments.length + 1) arguments with
  | .error problem =>
      complain name problem
      Editing.usage name
  | .ok call =>
      let hasScript := call.has 'e' || call.has 'f'
      if !hasScript && call.operands.isEmpty then return ← Editing.usage name
      let (options, paths) := if hasScript then (call.options, call.operands)
        else ([('e', call.operands.headD [])], call.operands.tail)
      match ← Editing.piecesOf options 1 with
      | .error problem =>
          complain name problem
          return 4
      | .ok pieces =>
          match Editing.Procedure.ofPieces (call.has 'E' || call.has 'r') pieces with
          | .error (.text problem) =>
              complain name problem
              return 1
          | .error (.label problem) =>
              complain name problem
              return 4
          | .ok script =>
              let some streams ← Editing.openAll name script.paths Editing.firstStream
                | return 4
              let inPlace := call.value? 'i'
              let setup : Editing.Setup := {
                isSilent := call.has 'n' || script.isSilent
                isSeparate := call.has 's' || inPlace.isSome
                inPlace
                separator := if call.has 'z' then '\x00' else '\n'
                width := ((call.value? 'l').bind Numeral.count?).getD 70 }
              let paths := if paths.isEmpty then ["-".toList] else paths
              let status ← Editing.edit name setup script.commands paths streams
              drainPipe
              return status

end ShaderCost.Script.Utility
