import ShaderCost.Files.Tree
import ShaderCost.Script.Basic
import ShaderCost.Text.Numeral

/-!
Signals, by their numbers and names.
-/

namespace ShaderCost.Script.Signal

/-- The signals from number one on, with their names and what is said of a process that one
ended. -/
def table : List (Text × Text) := [
  ("HUP", "Hangup"), ("INT", ""), ("QUIT", "Quit"), ("ILL", "Illegal instruction"),
  ("TRAP", "Trace/breakpoint trap"), ("ABRT", "Aborted"), ("BUS", "Bus error"),
  ("FPE", "Floating point exception"), ("KILL", "Killed"), ("USR1", "User defined signal 1"),
  ("SEGV", "Segmentation fault"), ("USR2", "User defined signal 2"), ("PIPE", ""),
  ("ALRM", "Alarm clock"), ("TERM", "Terminated"), ("16", "Stack fault"),
  ("CHLD", "Child exited"), ("CONT", "Continued"), ("STOP", "Stopped (signal)"),
  ("TSTP", "Stopped"), ("TTIN", "Stopped (tty input)"), ("TTOU", "Stopped (tty output)"),
  ("URG", "Urgent I/O condition"), ("XCPU", "CPU time limit exceeded"),
  ("XFSZ", "File size limit exceeded"), ("VTALRM", "Virtual timer expired"),
  ("PROF", "Profiling timer expired"), ("WINCH", "Window changed"), ("IO", "I/O possible"),
  ("PWR", "Power failure"), ("SYS", "Bad system call")]

/-- How many numbers there are for signals, zero among them. -/
def count : Nat := 65

/-- The name of the pseudo-signal that stands for the end of a script. -/
def exitName : Text := "EXIT"

def name (signal : Nat) : Text :=
  if signal = 0 then exitName
  else match table[signal - 1]? with
    | some (name, _) => name
    | none => Text.ofNat signal

/-- The signal that is named or numbered. -/
def ofText? (text : Text) : Option Nat :=
  match Text.nat? text with
  | some number => if number < count then some number else none
  | none =>
      let upper := text.map Char.toUpper
      if upper = exitName then some 0
      else (table.findIdx? fun entry => entry.1 = upper).map (· + 1)

/-- What a signal does to a process that does not handle it. -/
inductive Effect where
  | nothing
  | stops
  | ends
  deriving DecidableEq

def idle : List Nat := [0, 17, 18, 23, 28]

def stopping : List Nat := [19, 20, 21, 22]

def effect (signal : Nat) : Effect :=
  if idle.contains signal then .nothing
  else if stopping.contains signal then .stops
  else .ends

/-- What is said of a process that a signal ended, unless nothing is. -/
def description? (signal : Nat) : Option Text :=
  match table[signal - 1]? with
  | some (_, description) => if description.isEmpty then none else some description
  | none => some ("Real-time signal " ++ Text.ofNat (signal - 34))

/-- The status of a process that a signal ended. -/
def status (signal : Nat) : Nat := 128 + signal

end ShaderCost.Script.Signal

/-!
What processes share: the files, open files with their positions, pipes, and what was printed on
the streams that the first process was started with. Processes are carried out one after the
other, each with a clock of its own in milliseconds; what they print carries the time, so that it
can be put in order in the end.
-/

namespace ShaderCost.Script

/-- Where a stream of a process leads. -/
inductive Channel where
  /-- To a stream that the first process was started with. -/
  | outer (number : Nat)
  /-- To a place that is always empty and forgets what is written. -/
  | null
  | file (number : Nat)
  | pipe (number : Nat)
  deriving DecidableEq

structure OpenFile where
  location : Location
  position : Nat
  appends : Bool
  mayRead : Bool
  mayWrite : Bool

structure Pipe where
  /-- What can be read, with the time it was written at. -/
  content : List (Nat × Text)
  /-- What was written since, the last piece first. -/
  written : List (Nat × Text)
  size : Nat
  /-- How much is taken from a writer before it is ended, as one is that nobody reads from. -/
  limit : Option Nat
  /-- Whether the limit was met. -/
  isCut : Bool
  /-- Whether a reader came to the end. -/
  isExhausted : Bool
  /-- When the last writer left. -/
  closed : Nat

namespace Pipe

def withLimit (limit : Option Nat) : Pipe := ⟨[], [], 0, limit, false, false, 0⟩

/-- A pipe whose writers are done. -/
def readied (pipe : Pipe) : Pipe :=
  { pipe with content := pipe.content ++ pipe.written.reverse, written := [] }

end Pipe

/-- A piece of output of the first process or one of its descendants. -/
structure Chunk where
  /-- The background process that it is from, or zero. -/
  job : Nat
  time : Nat
  stream : Nat
  text : Text

/-- A process that holds a stream up to some time. -/
structure Hold where
  job : Nat
  stream : Nat
  time : Nat

/-- How a process ended. -/
structure Finished where
  process : Nat
  time : Nat
  status : Nat
  /-- The signal that ended it, if one did. -/
  signal : Option Nat

structure Machine where
  tree : FileTree
  /-- What was printed, the last chunk first. -/
  printed : List Chunk
  holds : List Hold
  files : List (Nat × OpenFile)
  pipes : List (Nat × Pipe)
  /-- Background processes that were started. -/
  finished : List Finished
  /-- Signals to processes that wait for the one that sent them, the last one first. -/
  signals : List (Nat × Nat)
  /-- The number that the next process, file or pipe gets. -/
  next : Nat
  /-- How much work may still be done. -/
  effort : Nat
  /-- When the time of the first process is up. -/
  deadline : Nat

namespace Machine

/-- The second, counted from the beginning of 1970, in which the first process starts. -/
def firstSecond : Nat := 1767225600

/-- A list with an entry put in the place of the one with its key. -/
def put {α : Type} (entries : List (Nat × α)) (key : Nat) (value : α) : List (Nat × α) :=
  (key, value) :: entries.filter fun entry => entry.1 != key

def setFile (machine : Machine) (number : Nat) (file : OpenFile) : Machine :=
  { machine with files := put machine.files number file }

def setPipe (machine : Machine) (number : Nat) (pipe : Pipe) : Machine :=
  { machine with pipes := put machine.pipes number pipe }

/-- The content of a location, which is empty where no file is. -/
def contentAt (machine : Machine) (location : Location) : Octets :=
  match machine.tree.node? location with
  | some (.file content _) => content
  | _ => ⟨#[]⟩

/-- Writes to an open file, which moves its position. A file that was taken away stays so. -/
def writeFile (machine : Machine) (number : Nat) (file : OpenFile) (text : Text) : Machine :=
  match machine.tree.node? file.location with
  | some (.file content executable) =>
      let written := gather text
      let start := if file.appends then content.size else file.position
      let before :=
        if start ≤ content.size then content.extract 0 start
        else content ++ gather (List.replicate (start - content.size) '\x00')
      let after := content.extract (start + written.size) content.size
      let tree := machine.tree.insert file.location (.file (before ++ written ++ after) executable)
      { machine with tree }.setFile number { file with position := start + written.size }
  | _ => machine

/-- How many octets lie between a place and the end of the line there, with the line feed, added to
a count. -/
def lineLength (content : Octets) : (fuel : Nat) → (place count : Nat) → Nat
  | 0, _, count => count
  | fuel + 1, place, count =>
      match content[place]? with
      | none => count
      | some octet =>
          if octet = 10 then count + 1 else lineLength content fuel (place + 1) (count + 1)

/-- Takes what is left to read from an open file, or the line at its position with the line feed
that ends it. -/
def readFile (machine : Machine) (number : Nat) (file : OpenFile) (isLine : Bool) :
    Text × Machine :=
  let content := machine.contentAt file.location
  let left := content.size - file.position
  let length := if isLine then lineLength content left file.position 0 else left
  let taken := content.extract file.position (file.position + length)
  (spread taken, machine.setFile number { file with position := file.position + length })

/-- Takes what a pipe holds or, where only a line is wanted, all up to a line feed; with the time
at which the last piece of it was written. -/
def takeContent (isLine : Bool) (now : Nat) : List (Nat × Text) → (before : List Text) →
    Text × Nat × List (Nat × Text) × Bool
  | [], before => (before.reverse.flatten, now, [], true)
  | (time, text) :: rest, before =>
      if isLine && '\n' ∈ text then
        let line := text.takeWhile (· != '\n')
        let behind := text.drop (line.length + 1)
        let left := if behind.isEmpty then rest else (time, behind) :: rest
        (((line ++ ['\n']) :: before).reverse.flatten, max now time, left, false)
      else takeContent isLine (max now time) rest (text :: before)

end Machine

end ShaderCost.Script
