import ShaderCost.Environment
import ShaderCost.Script.Command
import ShaderCost.Script.Roster
import ShaderCost.Script.Machine
import ShaderCost.Script.Basic
import ShaderCost.Text.Numeral

/-!
The state of a process that carries out a script, and the steps that everything it does is made
of.
-/

namespace ShaderCost.Script

/-- What the name of a variable stands for. -/
structure Binding where
  /-- The value, which a name may lack that is marked all the same. -/
  value : Option Text
  isExported : Bool
  isReadonly : Bool
  /-- The elements, where the name stands for a list. -/
  list : Option Listing := none
  /-- Letters of further traits: `i` for numbers, `l` and `u` for small and large letters, `n` for
  another name of a variable. -/
  traits : List Char := []

namespace Binding

/-- A variable with a value. -/
def plain (value : Text) (isExported : Bool) : Binding where
  value := some value
  isExported
  isReadonly := false

/-- A name without a value. -/
def bare : Binding where
  value := none
  isExported := false
  isReadonly := false

/-- The value or, of a list, the element with the number zero. -/
def shown (binding : Binding) : Option Text :=
  match binding.list with
  | none => binding.value
  | some (.numbered elements) => elements.lookup 0
  | some (.keyed elements) => elements.lookup ['0']

end Binding

structure Function where
  body : Command
  line : Nat
  /-- The file that defines it. -/
  origin : Text

/-- A function or a file that is under way. -/
structure Frame where
  name : Text
  origin : Text
  /-- The line that it was called from. -/
  line : Nat
  deriving DecidableEq

structure Shell where
  machine : Machine
  /-- The number of the process. -/
  process : Nat
  /-- The number of the process that carries out the script as a whole. -/
  own : Nat
  /-- The background process that this one belongs to, or zero. -/
  job : Nat
  /-- Whether this is the process whose time is limited. -/
  isFirst : Bool
  /-- The clock of the process. -/
  now : Nat
  channels : List (Nat × Channel)
  directory : Location
  /-- The names that the process went along to its directory, some of which may be links. -/
  trail : Location
  mask : Nat
  dialect : Dialect
  /-- What the script is called. -/
  name : Text
  /-- The file that is read. -/
  origin : Text
  /-- Whether the script was an argument. -/
  isGivenText : Bool
  parameters : List Text
  bindings : List (Text × Binding)
  functions : List (Text × Function)
  aliases : List (Text × Text)
  /-- The attached texts of the commands that were read. -/
  texts : Array Word
  /-- The line up to which the script was read. -/
  reading : Nat
  /-- Names of programs that were found on the search path, the last one first. -/
  located : List Text
  /-- The letters of the options that are on. -/
  options : List Char
  /-- Further settings that are on, by their names. -/
  settings : List Text
  /-- What is to be done when signals come or, for signal zero, at the end. -/
  traps : List (Nat × Text)
  /-- Signals that came and were not handled yet. -/
  pending : List Nat
  status : Nat
  /-- The line that is carried out. -/
  line : Nat
  /-- The command that messages name. -/
  command : Option Text
  /-- How many loops are under way. -/
  loops : Nat
  /-- How many functions are under way inside one another. -/
  calls : Nat
  /-- The functions and files that are under way, the innermost first. -/
  frames : List Frame
  /-- The statuses of the commands of the last pipeline. -/
  pipeStatuses : List Nat
  /-- The last word of the command before. -/
  lastWord : Text
  /-- The directories that were left to be returned to, the last one first. -/
  leftDirectories : List Text
  /-- How many processes are around this one that take its output as text. -/
  captures : Nat
  /-- Commands that read what is written to a pipe, the last one first. -/
  deferred : List (Nat × Command)
  /-- What variables were before a function or an assignment in front of a command hid them. -/
  hidden : List (Text × Option Binding)
  /-- The place of the argument in which options are looked for next, counted from one. -/
  optionIndex : Nat
  /-- Where inside the argument before the next letter is looked for. -/
  optionOffset : Option Nat
  /-- Background processes, the last one first. -/
  jobs : List Nat
  /-- The last background process that was started. -/
  lastJob : Option Nat
  /-- The status of the last command whose output was taken, if any was. -/
  outputStatus : Option Nat
  /-- The status that the process ends with, where the script said so. -/
  ending : Option Nat

/-- Why the course of a script is left. -/
inductive Halt where
  /-- The process ends with the status it has. -/
  | exited
  /-- An error ends the script unless a command catches it. -/
  | failed
  /-- The line that is carried out ends. -/
  | abandoned
  /-- A function or a file that was read in ends. -/
  | returned
  /-- The loop that many levels further out ends. -/
  | brokeOff (levels : Nat)
  /-- The next round of the loop that many levels further out begins. -/
  | continued (levels : Nat)
  /-- A signal ends the process. -/
  | killed (signal : Nat)
  /-- The time is up. -/
  | late
  deriving DecidableEq

/-- A step of a process. -/
abbrev Step := ExceptT Halt (StateM Shell)

namespace Step

/-- Does something again and again until it says that it is done, or the limit is reached. -/
def repeatUntil (action : Step Bool) : (limit : Nat) → Step Unit
  | 0 => throw .late
  | limit + 1 => do
      if ← action then pure () else repeatUntil action limit

/-- Goes on after an action, with the halt that ended it if one did. -/
def attempt (action : Step Unit) : Step (Option Halt) := fun shell =>
  match action shell with
  | (.ok (), after) => (.ok none, after)
  | (.error halt, after) => (.ok (some halt), after)

def resume : Option Halt → Step Unit
  | none => pure ()
  | some halt => throw halt

/-- Carries out an action and then restores a part of the state, however the action ends. -/
def restoring (action : Step Unit) (restore : (before after : Shell) → Shell) : Step Unit := do
  let before ← get
  let halt ← attempt action
  modify (restore before)
  resume halt

end Step

def standardInput : Nat := 0

def standardOutput : Nat := 1

def standardError : Nat := 2

/-- The number of the first process. -/
def firstProcess : Nat := 1000

namespace Shell

def tree (shell : Shell) : FileTree := shell.machine.tree.seenFrom shell.directory

def setTree (shell : Shell) (tree : FileTree) : Shell :=
  { shell with machine := { shell.machine with
    tree := tree.seenFrom shell.machine.tree.workingDirectory } }

def hasOption (shell : Shell) (letter : Char) : Bool := shell.options.contains letter

def channel? (shell : Shell) (stream : Nat) : Option Channel := shell.channels.lookup stream

def setChannel (shell : Shell) (stream : Nat) (channel : Option Channel) : Shell :=
  let others := shell.channels.filter fun entry => entry.1 != stream
  { shell with channels := match channel with
    | some channel => (stream, channel) :: others
    | none => others }

def binding? (shell : Shell) (name : Text) : Option Binding := shell.bindings.lookup name

def setBinding (shell : Shell) (name : Text) (binding : Option Binding) : Shell :=
  let others := shell.bindings.filter fun entry => entry.1 != name
  { shell with bindings := match binding with
    | some binding => (name, binding) :: others
    | none => others }

/-- The variables that other programs see. -/
def environment (shell : Shell) : Environment :=
  ⟨shell.bindings.filterMap fun (name, binding) =>
    if binding.isExported then binding.value.map fun value => (name, value) else none⟩

/-- Blanks, unless the script set other characters that part fields. -/
def separators (shell : Shell) : Text :=
  ((shell.bindings.lookup "IFS".toList).bind Binding.value).getD " \t\n"

/-- What stands between parameters that are joined. -/
def joint (shell : Shell) : Text :=
  match (shell.bindings.lookup "IFS".toList).bind Binding.value with
  | some value => value.take 1
  | none => [' ']

/-- The letters of options in the order that they are shown in. -/
def optionLetters : List (Char × Text) := [
  ('e', "errexit"), ('f', "noglob"), ('I', "ignoreeof"), ('i', "interactive"), ('m', "monitor"),
  ('n', "noexec"), ('s', "stdin"), ('x', "xtrace"), ('v', "verbose"), ('V', "vi"),
  ('E', "emacs"), ('C', "noclobber"), ('a', "allexport"), ('b', "notify"), ('u', "nounset"),
  ('p', "privileged"), ('\x01', "nolog"), ('\x02', "debug")]

def isExtended (shell : Shell) : Bool := shell.dialect = .extended

/-- The options that are on. In the extended language some are on from the start. -/
def shownOptions (shell : Shell) : Text :=
  match shell.dialect with
  | .plain => (optionLetters.reverse.map Prod.fst).filter fun letter =>
      shell.hasOption letter && letter.isAlpha
  | .extended =>
      let given := "abefhkmnptuvxBCEHPT".toList.filter fun letter =>
        shell.hasOption letter || letter = 'h' || letter = 'B'
      given ++ if shell.isGivenText then ['c'] else if shell.hasOption 's' then ['s'] else []

/-- The name of the variable that another name stands for. -/
def resolve (shell : Shell) (name : Text) : Text := go 8 name
where
  go : (limit : Nat) → Text → Text
    | 0, name => name
    | limit + 1, name =>
        match shell.bindings.lookup name with
        | some binding =>
            match binding.traits.elem 'n', binding.value with
            | true, some target => if isName target then go limit target else name
            | _, _ => name
        | none => name

/-- A number that nobody foresees. -/
def chance (shell : Shell) : Nat :=
  let mixed := (shell.machine.effort * 1103515245 + shell.now * 12345 + 69069 * shell.process) %
    4294967296
  mixed / 8 % 32768

/-- What the extended language tells under a name. -/
def named? (shell : Shell) (name : Text) : Option Text :=
  match String.ofList name with
  | "LINENO" => some (Text.ofNat shell.line)
  | "SECONDS" => some (Text.ofNat (shell.now / 1000))
  | "RANDOM" => some (Text.ofNat shell.chance)
  | "SRANDOM" => some (Text.ofNat (shell.chance * 131071 + shell.chance))
  | "BASHPID" => some (Text.ofNat shell.process)
  | "EPOCHSECONDS" => some (Text.ofNat (Machine.firstSecond + shell.now / 1000))
  | "EPOCHREALTIME" =>
      let millis := shell.now % 1000
      some (Text.ofNat (Machine.firstSecond + shell.now / 1000) ++ '.' ::
        (List.replicate (3 - (Text.ofNat millis).length) '0' ++ Text.ofNat millis) ++ "000".toList)
  | "BASH_SUBSHELL" => some (if shell.process = shell.own then ['0'] else ['1'])
  | "_" => some shell.lastWord
  | "PIPESTATUS" => some (Text.ofNat (shell.pipeStatuses.headD 0))
  | "FUNCNAME" => (shell.frames.head?).map Frame.name
  | "BASH_SOURCE" => some ((shell.frames.head?).elim shell.origin Frame.origin)
  | "BASH_LINENO" => (shell.frames.head?).map fun frame => Text.ofNat frame.line
  | "DIRSTACK" => none
  | _ => none

/-- The list that the extended language has under a name, or that a variable holds. -/
def list? (shell : Shell) (name : Text) : Option Listing :=
  let origins := shell.frames.map Frame.origin ++
    if shell.isGivenText then [] else [shell.origin]
  match String.ofList name with
  | "PIPESTATUS" => some (.ofTexts (shell.pipeStatuses.map Text.ofNat))
  | "FUNCNAME" =>
      if shell.frames.isEmpty then none
      else some (.ofTexts (shell.frames.map Frame.name ++
        if shell.isGivenText then [] else ["main".toList]))
  | "BASH_SOURCE" => some (.ofTexts origins)
  | "BASH_LINENO" =>
      some (.ofTexts (shell.frames.map (fun frame => Text.ofNat frame.line) ++
        if shell.isGivenText then [] else [['0']]))
  | _ => (shell.bindings.lookup (shell.resolve name)).bind Binding.list

/-- The value of a parameter, if it is set. -/
def value? (shell : Shell) (name : Text) : Option Text :=
  match name with
  | ['#'] => some (Text.ofNat shell.parameters.length)
  | ['?'] => some (Text.ofNat shell.status)
  | ['$'] => some (Text.ofNat shell.own)
  | ['!'] => shell.lastJob.map Text.ofNat
  | ['-'] => some shell.shownOptions
  | ['@'] | ['*'] =>
      if shell.parameters.isEmpty then none
      else some (List.intercalate shell.joint shell.parameters)
  | ['0'] => some shell.name
  | c :: _ =>
      if c.isDigit then
        let place := Text.digitsValue name
        if place = 0 then some shell.name else shell.parameters[place - 1]?
      else match if shell.isExtended then shell.named? name else none with
        | some value => some value
        | none => (shell.bindings.lookup (shell.resolve name)).bind Binding.shown
  | [] => none

def value (shell : Shell) (name : Text) : Text := (shell.value? name).getD []

end Shell

def setStatus (status : Nat) : Step Unit := modify fun shell => { shell with status }

def succeeded : Step Bool := do return (← get).status = 0

/-- How many characters are as much work as a command. -/
def charactersPerTurn : Nat := 4

/-- A time that no process that matters comes to. -/
def never (machine : Machine) : Nat := machine.deadline + 1000000

/-- Does some work. A process that does too much of it never ends. -/
def spend (work : Nat) : Step Unit := fun shell =>
  let effort := shell.machine.effort
  if work < effort then
    (.ok (), { shell with machine := { shell.machine with effort := effort - work } })
  else
    (.error .late, { shell with
      machine := { shell.machine with effort := 0 }, now := max shell.now (never shell.machine) })

/-- Ends the first process when its time is up. -/
def checkTime : Step Unit := do
  let shell ← get
  if shell.isFirst && shell.machine.deadline ≤ shell.now then throw .late

/-- How long other processes are watched once the time is up. -/
def watchedMillis : Nat := 60000

/-- Lets time go by. -/
def elapse (millis : Nat) : Step Unit := do
  let shell ← get
  let now := shell.now + millis
  set { shell with now }
  if shell.machine.deadline + watchedMillis < now then throw .late
  checkTime

/-- Goes on no earlier than at a time. -/
def awaitTime (time : Nat) : Step Unit := do
  modify fun shell => { shell with now := max shell.now time }
  checkTime

/-- Writes to a stream, unless it leads nowhere. -/
def write (stream : Nat) (text : Text) : Step Bool := do
  let shell ← get
  let machine := shell.machine
  match shell.channel? stream with
  | none => return false
  | some .null => return true
  | some (.outer number) =>
      if number = standardInput then return false
      spend (text.length / charactersPerTurn)
      modify fun shell =>
        let chunk := ⟨shell.job, shell.now, number, text⟩
        { shell with machine := { shell.machine with
          printed := chunk :: shell.machine.printed } }
      return true
  | some (.file number) =>
      match machine.files.lookup number with
      | some file =>
          if !file.mayWrite then return false
          spend (text.length / charactersPerTurn)
          modify fun shell =>
            { shell with machine := shell.machine.writeFile number file text }
          return true
      | none => return false
  | some (.pipe number) =>
      match machine.pipes.lookup number with
      | some pipe =>
          spend (text.length / charactersPerTurn)
          let size := pipe.size + text.length
          let isCut := pipe.limit.any fun limit => decide (limit < size)
          let pipe := { pipe with
            written := (shell.now, text) :: pipe.written, size, isCut := pipe.isCut || isCut }
          modify fun shell => { shell with machine := shell.machine.setPipe number pipe }
          if isCut then throw (.killed 13)
          return true
      | none => return false

def print (text : Text) : Step Unit := do
  let _ ← write standardOutput text

/-- Prints a line of a complaint. -/
def report (problem : Text) : Step Unit := do
  let _ ← write standardError (problem ++ ['\n'])

/-- A message of the script itself, which names the line and the command under way. -/
def complain (problem : Text) : Step Unit := do
  let shell ← get
  let command := match shell.command with
    | some command => command ++ ": "
    | none => []
  let place : Text := match shell.dialect with
    | .plain => shell.name ++ ": " ++ Text.ofNat shell.line ++ ": "
    | .extended =>
        let origin := (shell.frames.head?).elim shell.name Frame.origin
        (if origin.isEmpty then shell.name else origin) ++ ": line " ++ Text.ofNat shell.line ++
          ": "
  report (place ++ command ++ problem)

/-- The status of what could not be carried out. -/
def Dialect.failure : Dialect → Nat
  | .plain => 2
  | .extended => 1

/-- Complains of an error, which ends the script unless a command catches it. In the extended
language it ends the line. -/
def fail {α : Type} (problem : Text) : Step α := do
  complain problem
  setStatus (← get).dialect.failure
  throw .failed

/-- Complains of an error in the words of the language. -/
def failIn {α : Type} (plain extended : Text) : Step α := do
  fail (if (← get).isExtended then extended else plain)

/-- Complains of a parameter that has to have a value. In the extended language the script ends. -/
def failDemand {α : Type} (problem : Text) : Step α := do
  if (← get).isExtended then
    complain problem
    let isAtFront := (← get).process = (← get).own
    let status := if (← get).isGivenText && isAtFront then 127 else 1
    modify fun shell => { shell with status, ending := some status }
    throw .exited
  else fail problem

/-- Takes all that is left of the standard input, or a line with the line feed that ends it. -/
def readInput (isLine : Bool) : Step Text := do
  let shell ← get
  let machine := shell.machine
  match shell.channel? standardInput with
  | some (.file number) =>
      match machine.files.lookup number with
      | some file =>
          if !file.mayRead then return []
          let (text, machine) := machine.readFile number file isLine
          spend (text.length / charactersPerTurn)
          modify fun shell => { shell with machine :=
            { machine with effort := shell.machine.effort } }
          return text
      | none => return []
  | some (.pipe number) =>
      match machine.pipes.lookup number with
      | some pipe =>
          let (text, time, content, isExhausted) :=
            Machine.takeContent isLine shell.now pipe.content []
          let pipe := { pipe with content, isExhausted := pipe.isExhausted || isExhausted }
          modify fun shell => { shell with machine := shell.machine.setPipe number pipe }
          spend (text.length / charactersPerTurn)
          awaitTime (if isExhausted then max time pipe.closed else time)
          return text
      | none => return []
  | _ => return []

/-- Takes the front of what pieces hold, as far as `cut` says once enough of them came; with the
time at which the last of them was written. -/
def takePieces (cut : Text → Option Nat) (now : Nat) : List (Nat × Text) → (before : Text) →
    Text × Nat × List (Nat × Text) × Bool
  | [], before => (before, now, [], true)
  | (time, text) :: rest, before =>
      let text := before ++ text
      match cut text with
      | some length =>
          let behind := text.drop length
          let left := if behind.isEmpty then rest else (time, behind) :: rest
          (text.take length, max now time, left, false)
      | none => takePieces cut (max now time) rest text

/-- Takes the front of what is left to read from a stream, as far as `cut` says, or all of it. -/
def readPart (stream : Nat) (cut : Text → Option Nat) : Step Text := do
  let shell ← get
  let machine := shell.machine
  match shell.channel? stream with
  | some (.file number) =>
      match machine.files.lookup number with
      | some file =>
          if !file.mayRead then return []
          let content := machine.contentAt file.location
          let text := spread (content.extract file.position content.size)
          let taken := match cut text with
            | some length => text.take length
            | none => text
          spend (taken.length / charactersPerTurn)
          let file := { file with position := file.position + taken.length }
          modify fun shell => { shell with machine := shell.machine.setFile number file }
          return taken
      | none => return []
  | some (.pipe number) =>
      match machine.pipes.lookup number with
      | some pipe =>
          let (text, time, content, isExhausted) := takePieces cut shell.now pipe.content []
          let pipe := { pipe with content, isExhausted := pipe.isExhausted || isExhausted }
          modify fun shell => { shell with machine := shell.machine.setPipe number pipe }
          spend (text.length / charactersPerTurn)
          awaitTime (if isExhausted then max time pipe.closed else time)
          return text
      | none => return []
  | _ => return []

/-- Notes until when a process holds the streams that it has. -/
def release : Step Unit := modify fun shell =>
  let time := if shell.isFirst then min shell.now shell.machine.deadline else shell.now
  let note (machine : Machine) (channel : Channel) : Machine :=
    match channel with
    | .outer number => { machine with holds := ⟨shell.job, number, time⟩ :: machine.holds }
    | .pipe number =>
        match machine.pipes.lookup number with
        | some pipe => machine.setPipe number { pipe with closed := max pipe.closed time }
        | none => machine
    | .null | .file _ => machine
  { shell with machine := (shell.channels.map Prod.snd).foldl note shell.machine }

/-- How long a process takes to start. -/
def startMillis : Nat := 1

/-- Carries out an action in a process of its own, which starts a little later, and goes on at once.
What the process sets does not stay; what it did to files and streams does. The second value tells
whether the process never ends. -/
def fork (isJob : Bool) (action : Step Unit) : Step (Finished × Bool) := do
  let parent ← get
  let number := parent.machine.next
  set { parent with
    machine := { parent.machine with next := number + 1 }
    process := number, isFirst := false, now := parent.now + startMillis, jobs := [], pending := []
    ending := none
    job := if isJob then number else parent.job
    traps := parent.traps.filter fun (_, action) => action.isEmpty }
  let halt ← Step.attempt action
  release
  let child ← get
  let signal := match halt with
    | some (.killed signal) => some signal
    | _ => none
  set { parent with machine := child.machine }
  return (⟨number, child.now, child.status % 256, signal⟩, halt = some .late)

/-- What a signal does to a process that comes from elsewhere or from itself. -/
def arrive (signal : Nat) : Step Unit := do
  match (← get).traps.lookup signal with
  | some action =>
      if action.isEmpty then pure ()
      else modify fun shell => { shell with pending := shell.pending ++ [signal] }
  | none =>
      match Signal.effect signal with
      | .nothing => pure ()
      | .stops => throw .late
      | .ends => throw (.killed signal)

/-- Takes the signals that others sent while the process was waiting. -/
def receive : Step Unit := do
  let shell ← get
  let (own, others) := shell.machine.signals.partition fun sent => sent.1 = shell.process
  if !own.isEmpty then
    modify fun shell => { shell with machine := { shell.machine with signals := others } }
    for (_, signal) in own.reverse do arrive signal

/-- Notes how a process ended that was waited for. -/
def await (finished : Finished) : Step Unit := do
  awaitTime finished.time
  match finished.signal with
  | some signal =>
      setStatus (Signal.status signal)
      match Signal.description? signal with
      | some description => report description
      | none => pure ()
  | none => setStatus finished.status

/-- Carries out an action in a process of its own and waits for it. -/
def inProcess (action : Step Unit) : Step Unit := do
  let (finished, isEndless) ← fork false action
  if isEndless then
    modify fun shell => { shell with now := max shell.now finished.time }
    throw .late
  await finished
  receive

/-- Gives a variable a value. -/
def assign (name value : Text) : Step Unit := do
  spend (value.length / charactersPerTurn)
  let shell ← get
  let name := shell.resolve name
  let before := (shell.binding? name).getD .bare
  if before.isReadonly then failIn (name ++ ": is read only") (name ++ ": readonly variable")
  let isExported := shell.hasOption 'a' || before.isExported
  let value :=
    if before.traits.elem 'l' then value.map Char.toLower
    else if before.traits.elem 'u' then value.map Char.toUpper
    else value
  let binding : Binding := match before.list with
    | some (.numbered elements) =>
        { before with isExported, list := some ((Listing.numbered elements).setNumbered 0 value) }
    | some (.keyed elements) =>
        { before with isExported, list := some ((Listing.keyed elements).setKeyed ['0'] value) }
    | none => { before with value := some value, isExported }
  let shell := shell.setBinding name (some binding)
  let shell := if name = "PATH" then { shell with located := [] } else shell
  if name = "OPTIND" then
    match Numeral.count? value, shell.dialect with
    | some index, _ => set { shell with optionIndex := index, optionOffset := none }
    | none, .plain => fail ("Illegal number: " ++ value)
    | none, .extended => set { shell with optionIndex := 1, optionOffset := none }
  else set shell

/-- Gives a list to a variable. -/
def assignList (name : Text) (list : Listing) : Step Unit := do
  spend (list.size + 1)
  let shell ← get
  let name := shell.resolve name
  let before := (shell.binding? name).getD .bare
  if before.isReadonly then fail (name ++ ": readonly variable")
  set (shell.setBinding name (some { before with value := none, list := some list }))

/-- Keeps what a variable is, to be restored later, unless that is kept already. -/
def hide (name : Text) : Step Unit := modify fun shell =>
  if shell.hidden.any fun entry => entry.1 = name then shell
  else { shell with hidden := (name, shell.binding? name) :: shell.hidden }

/-- Carries out an action after which hidden variables are what they were. -/
def withHidden (action : Step Unit) : Step Unit :=
  Step.restoring (do
    modify fun shell => { shell with hidden := [] }
    action)
    fun before after =>
      let restored := after.hidden.foldl (fun shell (name, binding) =>
        shell.setBinding name binding) after
      { restored with hidden := before.hidden }

end ShaderCost.Script
