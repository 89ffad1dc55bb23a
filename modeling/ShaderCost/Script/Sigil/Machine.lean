import ShaderCost.Script.Builtin
import ShaderCost.Script.Roster
import ShaderCost.Script.Sigil.Syntax
import ShaderCost.Script.Process
import ShaderCost.Script.Utility.Clock

/-!
The state of a program under way. Everything that a name or a reference leads to is a cell at a
place; lists and tables hold the places of their elements, so that several names may lead to one
element.
-/

namespace ShaderCost.Script.Sigil

/-- Where a handle leads. -/
inductive Way where
  | closed
  | stream (stream : Stream)
  /-- The text of the scalar at a place. -/
  | memory (place : Nat) (position : Nat)
  /-- A command that gets what was written when it is closed, with the pieces of that, the last one
  first. -/
  | command (words : List Text) (held : List Text)
  /-- The names in a directory that are left. -/
  | entries (names : List Text)

structure Handle where
  /-- How messages call it. -/
  name : Text
  way : Way
  mayRead : Bool
  mayWrite : Bool
  /-- How many lines were read. -/
  lines : Nat
  /-- The status of the command that it leads from. -/
  status : Option Nat

instance : Inhabited Handle := ⟨⟨[], .closed, false, false, 0, none⟩⟩

inductive Content where
  | scalar (value : Value)
  | list (places : Array Nat)
  | table (entries : Roster Nat)
  /-- A routine of the program with the places that its names lead to. -/
  | routine (number : Nat) (own : Array Nat)
  /-- A routine of the library. -/
  | library (name : Text)
  | handle (handle : Handle)
  | pattern (expression : Expression) (text : Text)

structure Cell where
  content : Content
  /-- The class that the cell was made a member of. -/
  package : Option Text := none

instance : Inhabited Cell := ⟨⟨.scalar .undefined, none⟩⟩

/-- What a routine is called for. -/
inductive Want where
  | nothing
  | one
  | all
  deriving DecidableEq

/-- A call that is under way. -/
structure Frame where
  name : Text
  package : Text
  line : Nat
  want : Want

/-- The last match that succeeded. -/
structure Found where
  before : Text
  found : Text
  behind : Text
  /-- The texts of groups, with where they begin and end in the subject. -/
  groups : Array (Option (Text × Nat × Nat))
  names : List (Text × Nat)

structure State where
  program : Program
  path : Text
  cells : Array Cell
  /-- The places of names, with their marks. -/
  names : Roster Nat
  own : Array Nat
  /-- Whether a declaration was met. -/
  met : Array Bool
  /-- What places held before something local was put there, the last one first. -/
  saved : List (Nat × Cell)
  found : Option Found
  /-- Where searches in the scalars at places go on, and whether nothing was found there. -/
  positions : List (Nat × Nat × Bool)
  expressions : List (Text × Expression)
  line : Nat
  frames : List Frame
  lastRead : Option Nat
  selected : Nat
  /-- When the alarm comes. -/
  alarm : Option Nat
  /-- The tables whose entries are gone through, with the keys that are left. -/
  walks : List (Nat × List Text)
  seed : UInt64
  /-- How many texts were carried out as programs. -/
  evaluations : Nat
  /-- The ranges that hold. -/
  ranges : List Nat
  /-- Names that patterns for paths stood for and that are left. -/
  paths : List (Text × List Text)
  /-- The file that was tested last. -/
  tested : Text
  /-- Whether the files that are read one after the other were begun. -/
  hasArguments : Bool
  /-- Whether those files get what is printed, and what is put behind the names of copies. -/
  rewrites : Option Text

/-- Why the course of a program is left. -/
inductive Leave where
  | last (label : Text)
  | next (label : Text)
  | redo (label : Text)
  | returned (values : List Value)
  | died (value : Value)
  | ended (status : Nat)

abbrev Run := ExceptT Leave (StateT State Step)

/-- What a program is carried out with. -/
structure Host where
  name : Text
  /-- Carries out another program in the place of this one, or tells why that cannot be. -/
  start : (program : Text) → (arguments : List Text) → Step FileError

/-! Places that are known from the start. -/

def placeOfError : Nat := 0
def placeOfTopic : Nat := 1
def placeOfFault : Nat := 2
def placeOfComma : Nat := 3
def placeOfEnding : Nat := 4
def placeOfMark : Nat := 5
def placeOfJoint : Nat := 6
def placeOfHaste : Nat := 7
def placeOfStatus : Nat := 8
def placeOfGiven : Nat := 9
def placeOfArguments : Nat := 10
def placeOfEnvironment : Nat := 11
def placeOfInput : Nat := 12
def placeOfOutput : Nat := 13
def placeOfProblems : Nat := 14
def placeOfSubscript : Nat := 15

/-- The names of those places. -/
def knownNames : List Text := [
  "$main::!", "$main::_", "$main::@", "$main::,", "$main::\\", "$main::/", "$main::\"",
  "$main::|", "$main::?", "@main::_", "@main::ARGV", "%main::ENV", "*main::STDIN",
  "*main::STDOUT", "*main::STDERR", "$main::;"]

/-! Messages. -/

/-- What messages say of a number of an error. -/
def errorWords : List (Nat × Text) := [
  (1, "Operation not permitted"), (2, "No such file or directory"), (3, "No such process"),
  (4, "Interrupted system call"), (5, "Input/output error"), (9, "Bad file descriptor"),
  (10, "No child processes"), (11, "Resource temporarily unavailable"),
  (12, "Cannot allocate memory"), (13, "Permission denied"), (17, "File exists"),
  (20, "Not a directory"), (21, "Is a directory"), (22, "Invalid argument"),
  (25, "Inappropriate ioctl for device"), (28, "No space left on device"), (29, "Illegal seek"),
  (32, "Broken pipe"), (36, "File name too long"), (39, "Directory not empty"),
  (40, "Too many levels of symbolic links")]

def errorText (number : Int) : Text :=
  if number = 0 then []
  else (errorWords.lookup number.toNat).getD ("Unknown error ".toList ++ Text.ofInt number)

/-- Cells. -/
def cellAt (place : Nat) : Run Cell := do return (← get).cells.getD place default

def setCell (place : Nat) (cell : Cell) : Run Unit := modify fun state =>
  { state with cells := state.cells.setIfInBounds place cell }

def allocate (content : Content) : Run Nat := modifyGet fun state =>
  (state.cells.size, { state with cells := state.cells.push ⟨content, none⟩ })

def contentOf (shape : Shape) : Content :=
  match shape with
  | .scalar => .scalar .undefined
  | .list => .list #[]
  | .table => .table .empty

def setContent (place : Nat) (content : Content) : Run Unit := modify fun state =>
  { state with cells := state.cells.modify place fun cell => { cell with content } }

/-- Works on what a cell holds. -/
def onContent {α : Type} (place : Nat) (work : Content → α × Content) : Run α :=
  modifyGet fun state =>
    let cell := state.cells.getD place default
    let state := { state with cells := state.cells.setIfInBounds place default }
    let (result, content) := work cell.content
    (result, { state with cells := state.cells.setIfInBounds place { cell with content } })

def scalarAt (place : Nat) : Run Value := do
  match (← cellAt place).content with
  | .scalar value => return value
  | _ => return .undefined

/-- Where errors are noted, a number has its text with it. -/
def setScalar (place : Nat) (value : Value) : Run Unit :=
  let value := if place = placeOfError then
      let number := value.toInt
      .dual number (errorText number)
    else value
  setContent place (.scalar value)

def listAt (place : Nat) : Run (Array Nat) := do
  match (← cellAt place).content with
  | .list places => return places
  | _ => return #[]

def tableAt (place : Nat) : Run (Roster Nat) := do
  match (← cellAt place).content with
  | .table entries => return entries
  | _ => return .empty

/-- A new cell for a value. -/
def fresh (value : Value) : Run Nat := allocate (.scalar value)

def freshAll (values : List Value) : Run (Array Nat) := do
  let mut places := #[]
  for value in values do places := places.push (← fresh value)
  return places

/-- The place of a name that the program shares, which is made if need be. -/
def sharedPlace (shape : Shape) (name : Text) : Run Nat := do
  let key := shape.sigil :: name
  match (← get).names.get? key with
  | some place => return place
  | none =>
      let place ← allocate (contentOf shape)
      modify fun state => { state with names := state.names.insert key place }
      return place

def placeOf (shape : Shape) : Name → Run Nat
  | .own number => do return (← get).own.getD number 0
  | .shared name => sharedPlace shape name

/-! Texts. -/

/-- The text of a reference. -/
def titleOf (cells : Array Cell) (kind : Kind) (place : Nat) : Text :=
  let cell := cells.getD place default
  match kind, cell.content, cell.package with
  | .pattern, .pattern _ text, none => text
  | kind, content, package =>
      let word : Text := match kind, content with
        | .scalar, .scalar (.reference _ _) => "REF"
        | .scalar, _ => "SCALAR"
        | .list, _ => "ARRAY"
        | .table, _ => "HASH"
        | .routine, _ => "CODE"
        | .handle, _ => "GLOB"
        | .pattern, _ => "SCALAR"
      let address := Nat.toDigits 16 (93824992231424 + 24 * place)
      (package.elim [] (· ++ ['='])) ++ word ++ "(0x".toList ++ address ++ [')']

def textOf (value : Value) : Run Text := do return value.toText (titleOf (← get).cells)

/-- Where in the program and its input something happens. -/
def whereabouts : Run Text := do
  let state ← get
  let reading : Text := match state.lastRead with
    | none => []
    | some place =>
        match (state.cells.getD place default).content with
        | .handle handle =>
            if handle.lines = 0 then []
            else
              ", <".toList ++ handle.name ++ "> line ".toList ++ Text.ofNat handle.lines
        | _ => []
  let place : Text :=
    if state.line = 0 then []
    else " at ".toList ++ state.path ++ " line ".toList ++ Text.ofNat state.line
  return place ++ reading ++ ".\n".toList

/-- Gives up with a message that names the place. -/
def die {α : Type} (problem : Text) : Run α := do
  throw (.died (.text (problem ++ (← whereabouts))))

/-- Notes the number of an error. -/
def noteError (number : Int) : Run Unit := setScalar placeOfError (.whole number)

def noteFileError (error : FileError) : Run Unit :=
  noteError ((error.system?.map fun entry => (entry.2 : Int)).getD 22)

/-! Handles. -/

def handleAt? (place : Nat) : Run (Option Handle) := do
  match (← cellAt place).content with
  | .handle handle => return some handle
  | _ => return none

def setHandle (place : Nat) (handle : Handle) : Run Unit := setContent place (.handle handle)

/-- The place of a handle that goes by a name, which is made if need be. -/
def handleNamed (name : Text) : Run Nat := do
  let isStandard := (["STDIN", "STDOUT", "STDERR", "ARGV", "DATA"] : List Text).elem name
  let key := '*' :: if isStandard then "main::".toList ++ name else fullName "main" name
  match (← get).names.get? key with
  | some place => return place
  | none =>
      let title : Text := if name = "ARGV" then [] else name
      let place ← allocate (.handle { (default : Handle) with name := title })
      modify fun state => { state with names := state.names.insert key place }
      return place

/-- Writes what a handle holds back. -/
def flushHandle (place : Nat) : Run Unit := do
  match ← handleAt? place with
  | some handle =>
      match handle.way with
      | .stream stream =>
          let (_, stream) ← stream.flush
          setHandle place { handle with way := .stream stream }
      | _ => pure ()
  | none => pure ()

/-- Lets a handle hold back at most as much. -/
def holdAtMost (place most : Nat) : Run Unit := do
  flushHandle place
  match ← handleAt? place with
  | some handle =>
      match handle.way with
      | .stream stream => setHandle place { handle with way := .stream { stream with most } }
      | _ => pure ()
  | none => pure ()

/-- Writes all that is held back. -/
def flushAll : Run Unit := do
  let cells := (← get).cells
  for place in List.range cells.size do
    match (cells.getD place default).content with
    | .handle handle =>
        match handle.way with
        | .stream stream => if !stream.held.isEmpty then flushHandle place
        | _ => pure ()
    | _ => pure ()

/-- Puts a text out by a handle. The result tells whether that could be done. -/
def putOut (place : Nat) (text : Text) : Run Bool := do
  match ← handleAt? place with
  | none => return false
  | some handle =>
      if !handle.mayWrite then return false
      match handle.way with
      | .stream stream =>
          let (isDone, stream) ← stream.put text
          setHandle place { handle with way := .stream stream }
          return isDone
      | .memory target _ =>
          let before ← textOf (← scalarAt target)
          setScalar target (.text (before ++ text))
          return true
      | .command words held =>
          setHandle place { handle with way := .command words (text :: held) }
          return true
      | _ => return false

/-- The text up to a mark, and what follows. A void mark stands for void lines. -/
def splitLine (mark : Option Text) (text : Text) : Text × Text :=
  match mark with
  | none => (text, [])
  | some [] =>
      let text := text.dropWhile (· == '\n')
      match Stream.splitBehind? ['\n', '\n'] text [] with
      | some (line, rest) => (line, rest.dropWhile (· == '\n'))
      | none => (text, [])
  | some mark => (Stream.splitBehind? mark text []).getD (text, [])

/-- Takes a line by a handle. -/
def takeLine (place : Nat) : Run (Option Text) := do
  match ← handleAt? place with
  | none => return none
  | some handle =>
      if !handle.mayRead then return none
      let mark ← match ← scalarAt placeOfMark with
        | .undefined => pure none
        | value => some <$> textOf value
      modify fun state => { state with lastRead := some place }
      match handle.way with
      | .stream stream =>
          let stream ← stream.fill
          if stream.ahead.isEmpty then
            setHandle place { handle with way := .stream stream }
            return none
          let (line, ahead) := splitLine mark stream.ahead
          setHandle place { handle with
            way := .stream { stream with ahead }, lines := handle.lines + 1 }
          return some line
      | .memory target position =>
          let text := (← textOf (← scalarAt target)).drop position
          if text.isEmpty then return none
          let (line, _) := splitLine mark text
          setHandle place { handle with
            way := .memory target (position + line.length), lines := handle.lines + 1 }
          return some line
      | .entries (name :: names) =>
          setHandle place { handle with way := .entries names }
          return some name
      | _ => return none

/-- Takes all lines that are left. -/
def takeLines (place : Nat) : (limit : Nat) → (before : List Text) → Run (List Text)
  | 0, before => return before.reverse
  | limit + 1, before => do
      match ← takeLine place with
      | some line => takeLines place limit (line :: before)
      | none => return before.reverse

/-- Takes at most as many characters by a handle. -/
def takeCharacters (place count : Nat) : Run Text := do
  match ← handleAt? place with
  | some handle =>
      match handle.way with
      | .stream stream =>
          let (text, stream) ← stream.take count
          setHandle place { handle with way := .stream stream }
          return text
      | .memory target position =>
          let text := ((← textOf (← scalarAt target)).drop position).take count
          setHandle place { handle with way := .memory target (position + text.length) }
          return text
      | _ => return []
  | none => return []

/-- Whether nothing is left to read by a handle. -/
def isAtEnd (place : Nat) : Run Bool := do
  match ← handleAt? place with
  | some handle =>
      match handle.way with
      | .stream stream =>
          let stream ← stream.fill
          setHandle place { handle with way := .stream stream }
          return stream.ahead.isEmpty
      | .memory target position =>
          return (← textOf (← scalarAt target)).length ≤ position
      | .entries names => return names.isEmpty
      | _ => return true
  | none => return true

/-! Other programs. -/

/-- Gives the variables of the system the values that the program has for them. -/
def shareEnvironment : Run Unit := do
  let entries ← tableAt placeOfEnvironment
  let mut bindings : List (Text × Binding) := []
  for (name, place) in entries.entries do
    bindings := (name, .plain (← textOf (← scalarAt place)) true) :: bindings
  let given := bindings.reverse
  modifyThe Shell fun shell => { shell with bindings := given }

/-- Characters that make a command one for a shell. -/
def needsShell (command : Text) : Bool :=
  command.any fun c => "$&*(){}[]'\";\\|?<>~\x60\n".toList.elem c

/-- The words of a command: those given, or those of a text. -/
def wordsOf : List Text → List Text
  | [command] =>
      if needsShell command then ["/bin/sh", "-c", command]
      else (command.splitOnP isBlankOctet).filter fun word => !word.isEmpty
  | words => words

/-- Carries out a command with an input of its own, if there is one, and takes what it prints, if
that is wanted. The result is the status as the system gives it, or none if there is no such
command. -/
def carryOutCommand (host : Host) (words : List Text) (input : Option Text) (takesOutput : Bool) :
    Run (Option Nat × Text) := do
  flushAll
  match words with
  | [] => return (none, [])
  | program :: arguments =>
      let before ← getThe Shell
      shareEnvironment
      match SearchPath.find (← getThe Shell).tree ((← getThe Shell).value "PATH") program with
      | .error error =>
          set before
          noteFileError error
          return (none, [])
      | .ok _ =>
          let (finished, texts) ← liftM (n := Run) <|
            carryOut (if takesOutput then [standardOutput] else []) do
              match input with
              | some text => setChannel standardInput (some (← textChannel text))
              | none => pure ()
              let _ ← host.start program arguments
              setStatus 255
              throw .exited
          modifyThe Shell fun shell => { shell with bindings := before.bindings }
          let status := match finished.signal with
            | some signal => signal
            | none => finished.status * 256
          return (some status, texts.flatten)

/-- Ends what goes by a handle. The result tells whether that was something and went well. -/
def closeHandle (host : Host) (place : Nat) : Run Bool := do
  match ← handleAt? place with
  | none => return false
  | some handle =>
      setHandle place { handle with way := .closed, lines := 0, status := none }
      match handle.way with
      | .closed =>
          noteError 9
          return false
      | .stream stream =>
          let isDone ← stream.close
          match handle.status with
          | some status =>
              setScalar placeOfStatus (.whole status)
              return status = 0
          | none => return isDone
      | .command words held =>
          let (status, _) ← carryOutCommand host words (some held.reverse.flatten) false
          setScalar placeOfStatus (.whole ((status.map Int.ofNat).getD (-1)))
          return status = some 0
      | _ => return true

end ShaderCost.Script.Sigil
