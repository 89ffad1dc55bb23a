import ShaderCost.Script.Reader.Commands
import ShaderCost.Script.Redirection
import ShaderCost.Script.Shell

/-!
The course that a script takes: its text is carried out one complete command after the other, and
in between come the actions for signals and, last of all, the one for the end of the script. What
carries out a command is a parameter here.
-/

namespace ShaderCost.Script

/-- What carries out a command. A failure of a tested command does not end the script. -/
abbrev Evaluator := (isTested : Bool) → Command → Step Unit

namespace Course

/-- Shows the lines of a script that were read since, where that is wanted. -/
def showLines (lines : List Text) (shown read : Nat) : Step Unit := do
  if (← get).hasOption 'v' then
    for line in (lines.take read).drop shown do
      let _ ← write standardError line

/-- The lines of a text, each with the line feed that ends it. -/
def endedLines : Text → (current : Text) → List Text
  | [], current => if current.isEmpty then [] else [current.reverse]
  | c :: rest, current =>
      if c = '\n' then ('\n' :: current).reverse :: endedLines rest []
      else endedLines rest (c :: current)

/-- Where a text comes from. -/
structure Provenance where
  /-- What messages call it, if they call it anything. -/
  title : Text
  /-- The number of its first line. -/
  line : Nat

/-- A text that is read from its first line on. -/
def Provenance.file : Provenance := ⟨[], 1⟩

/-- The title of a text that a command brings with it. -/
def Provenance.titled (title : String) (line : Nat) : Provenance := ⟨title.toList, line⟩

/-- Complains of a fault in the extended language, which ends the text with status 2. Where a token
is at fault its line is shown. -/
def complainOfFault (provenance : Provenance) (text : Text) (fault : Fault) : Step Unit := do
  let shell ← get
  modify fun shell => { shell with line := fault.line }
  let origin := (shell.frames.head?).elim shell.name Frame.origin
  let title : Text := if provenance.title.isEmpty then [] else provenance.title ++ ": ".toList
  let complain (problem : Text) : Step Unit :=
    report ((if origin.isEmpty then shell.name else origin) ++
    ": ".toList ++ title ++ "line ".toList ++ Text.ofNat fault.line ++ ": ".toList ++ problem)
  let messages := fault.problem.splitOn '\n'
  for message in messages do complain message
  let isOfToken (message : Text) : Bool := (Text.after? "syntax error near" message).isSome
  if (messages.getLast?).any isOfToken then
    let line := ((text.splitOn '\n')[fault.line - provenance.line]?).getD []
    complain ('\x60' :: line ++ ['\''])
  setStatus 2

/-- Carries out what is left of a source, up to `limit` commands. The result tells whether there
was any command. Lines are shown as they are read. In the extended language an error that nothing
catches ends only the command, unless the process is one that a command started. -/
def ofSource (run : Evaluator) (isTested : Bool) (provenance : Provenance) (text : Text)
    (lines : List Text) :
    (limit : Nat) → Source → (shown : Nat) → (hasCommands : Bool) → Step Bool
  | 0, _, _, hasCommands => return hasCommands
  | limit + 1, source, shown, hasCommands => do
      let { aliases, texts, settings, dialect, process, own, .. } ← get
      let source := { source with
        aliases := if dialect = .plain || settings.elem "expand_aliases".toList then aliases else []
        texts, hasGroups := settings.elem "extglob".toList }
      match (Reader.command? (Reader.depthFor source.rest)).run source with
      | .error fault =>
          if dialect = .extended then
            complainOfFault provenance text fault
            return true
          modify fun shell => { shell with line := fault.line }
          fail ("Syntax error: " ++ fault.problem)
      | .ok (command, source) =>
          let read := if source.rest.isEmpty then lines.length else source.line - 1
          if !lines.isEmpty then showLines lines shown read
          modify fun shell => { shell with texts := source.texts, reading := source.line }
          for (line, warning) in source.warnings do
            modify fun shell => { shell with line }
            complain warning
          let source := { source with warnings := [] }
          match command with
          | none => return hasCommands
          | some (.sequence []) =>
              ofSource run isTested provenance text lines limit source read hasCommands
          | some command =>
              match ← Step.attempt (run isTested command), dialect with
              | none, _ => pure ()
              | some .failed, .extended | some .abandoned, .extended =>
                  if process != own then throw .exited
              | some halt, _ => throw halt
              ofSource run isTested provenance text lines limit source read true

/-- Carries out a text, of which the given lines may be shown, and tells whether it has commands. -/
def ofLines (run : Evaluator) (isTested : Bool) (provenance : Provenance) (lines : List Text)
    (text : Text) : Step Bool := do
  let { aliases, texts, reading, dialect, .. } ← get
  let isCut : Bool := match dialect, text.getLast? with
    | .plain, _ | _, none | _, some '\n' | _, some '\\' => false
    | .extended, _ => true
  let text := if isCut then text ++ ['\n'] else text
  let source := Source.ofText dialect text provenance.line aliases texts
  let hasCommands ← ofSource run isTested provenance text lines (text.length + 1) source 0 false
  modify fun shell => { shell with reading }
  return hasCommands

/-- Carries out a text that a command brings with it and tells whether it has commands. In the
extended language its lines go on from those that were read. -/
def ofText (run : Evaluator) (isTested : Bool) (title : String) (text : Text) : Step Bool := do
  let { reading, dialect, .. } ← get
  let line := match dialect with
    | .plain => 1
    | .extended => max 1 (reading - 1)
  ofLines run isTested (.titled title line) [] text

/-- Carries out a text, whose lines may be shown while it is read. -/
def ofFile (run : Evaluator) (text : Text) : Step Bool :=
  ofLines run false .file (endedLines text []) text

/-- Does what is to be done for signals that came. The status stays what it was. -/
def answerSignals (run : Evaluator) : Step Unit := do
  receive
  let shell ← get
  if !shell.pending.isEmpty then
    modify fun shell => { shell with pending := [] }
    for signal in shell.pending do
      match shell.traps.lookup signal with
      | some action =>
          let _ ← ofLines run false (.titled "trap" 1) [] action
          setStatus shell.status
      | none => pure ()

/-- Does what is to be done at the end of a script, whose status stays unless that sets another
one. -/
def finish (run : Evaluator) : Step Unit := do
  let shell ← get
  let status := shell.ending.getD shell.status
  setStatus status
  match (shell.traps.lookup 0).filter fun action => !action.isEmpty with
  | none => pure ()
  | some action =>
      modify fun shell => { shell with
        traps := shell.traps.filter fun entry => entry.1 != 0
        ending := some status, loops := 0 }
      match ← Step.attempt (do
          let _ ← ofLines run false (.titled "exit trap" 1) [] action) with
      | some .failed => pure ()
      | some (.killed signal) => throw (.killed signal)
      | some .late => throw .late
      | _ => setStatus (((← get).ending).getD status)

/-- Carries out an action as all that a process does. -/
def whole (run : Evaluator) (action : Step Unit) : Step Unit := do
  match ← Step.attempt action with
  | some (.killed signal) => throw (.killed signal)
  | some .late => throw .late
  | _ =>
      finish run
      throw .exited

end Course

end ShaderCost.Script

/-!
Commands in processes of their own: subshells, commands whose output is taken, background
processes and pipelines.
-/

namespace ShaderCost.Script.Process

/-- Opens a pipe and gives its number. -/
def openPipe (limit : Option Nat) : Step Nat := do
  let number := (← get).machine.next
  modify fun shell =>
    let machine := { shell.machine with next := number + 1 }
    { shell with machine := machine.setPipe number (Pipe.withLimit limit) }
  return number

/-- What was written to a pipe, which may be read now. -/
def readyPipe (number : Nat) : Step (Option Pipe) := do
  match (← get).machine.pipes.lookup number with
  | some pipe =>
      let pipe := pipe.readied
      modify fun shell => { shell with machine := shell.machine.setPipe number pipe }
      return some pipe
  | none => return none

/-- Forgets a pipe that nobody needs any more. -/
def dropPipe (number : Nat) : Step Unit := modify fun shell =>
  { shell with machine := { shell.machine with
    pipes := shell.machine.pipes.filter fun entry => entry.1 != number } }

/-- Waits for a process that never ends. -/
def waitForever (finished : Finished) : Step Unit := do
  modify fun shell => { shell with now := max shell.now finished.time }
  throw .late

/-- A command in a process that this one waits for. -/
def subshell (run : Evaluator) (isTested : Bool) (line : Nat) (command : Command)
    (lead : Step Bool) : Step Unit := do
  modify fun shell => { shell with line }
  inProcess <| Course.whole run do
    if ← lead then run isTested command

/-- The path of a stream that is free for use in place of a file. -/
def openPath (number : Nat) : Step Text := do
  let shell ← get
  let taken := shell.channels.map Prod.fst
  let stream := ((List.range 40).map fun place => 63 - place).find? fun stream =>
    !taken.elem stream
  let stream := stream.getD 63
  let digits := Text.ofNat stream
  let location : Location := ["dev", "fd", digits]
  modify fun shell =>
    let shell := shell.setChannel stream (some (.pipe number))
    { shell with machine := { shell.machine with
      tree := shell.machine.tree.insert location (.stream stream) } }
  return "/dev/fd/".toList ++ digits

/-- Leads a stream to commands, which get what is written to it, or from commands, and gives its
path. Commands that read are carried out later. -/
def stream (run : Evaluator) (isInput : Bool) (commands : Command) : Step Text := do
  let number ← openPipe none
  if isInput then
    let before ← get
    let (finished, isEndless) ← fork false do
      setChannel standardOutput (some (.pipe number))
      Course.whole run (run false commands)
    if isEndless then waitForever finished
    let _ ← readyPipe number
    modify fun shell => { shell with lastJob := some finished.process, status := before.status }
  else
    modify fun shell => { shell with deferred := (number, commands) :: shell.deferred }
  openPath number

/-- Carries out the commands that read what was written to streams. -/
def answerStreams (run : Evaluator) : Step Unit := do
  let deferred := (← get).deferred
  modify fun shell => { shell with deferred := [] }
  for (number, commands) in deferred.reverse do
    let _ ← readyPipe number
    let status := (← get).status
    let (finished, isEndless) ← fork false do
      setChannel standardInput (some (.pipe number))
      Course.whole run (run false commands)
    if isEndless then waitForever finished
    setStatus status

/-- Takes what a command prints, without the line feeds at its end. The status of the command
stands beside that of the process. -/
def captureOutput (run : Evaluator) (command : Command) : Step Text := do
  let before ← get
  let number ← openPipe none
  let (finished, isEndless) ← fork false do
    setChannel standardOutput (some (.pipe number))
    if before.isExtended then
      match command with
      | .sequence [.simple _ [] [] [.file 0 .reading path]] =>
          if ← redirect (fun _ => pure []) [.file 0 .reading path] then
            print (← readInput false)
            setStatus 0
          throw .exited
      | _ => pure ()
    modify fun shell =>
      if shell.isExtended then { shell with
        options := shell.options.filter (· != 'e'), captures := shell.captures + 1 }
      else shell
    Course.whole run (run false command)
  if isEndless then waitForever finished
  let text ← match ← readyPipe number with
    | some pipe =>
        dropPipe number
        awaitTime pipe.closed
        pure (pipe.content.flatMap Prod.snd)
    | none => pure []
  await finished
  receive
  modify fun shell => { shell with
    outputStatus := some shell.status, status := before.status }
  return ((text.filter (· != '\x00')).reverse.dropWhile (· == '\n')).reverse

/-- What stands in the place of commands: what they print, or the path of a stream that leads to or
from them. -/
def capture (run : Evaluator) (command : Command) : Step Text :=
  match command with
  | .streamed isInput commands => stream run isInput commands
  | command => captureOutput run command

/-- Starts a command in a process that is not waited for. It has at most half of what work may
still be done. -/
def background (run : Evaluator) (command : Command) : Step Unit := do
  let before ← get
  let effort := before.machine.effort
  modify fun shell => { shell with machine := { shell.machine with effort := effort / 2 } }
  let (finished, _) ← fork true do
    setChannel standardInput (some .null)
    Course.whole run (run false command)
  modify fun shell =>
    let machine := shell.machine
    { shell with
      machine := { machine with
        finished := finished :: machine.finished
        effort := machine.effort + (effort - effort / 2) }
      jobs := finished.process :: shell.jobs
      lastJob := some finished.process
      status := 0 }

/-! Pipelines. Their commands are carried out one after the other, each with a clock that starts
at the same time. -/

/-- How much a writer of a pipe gets rid of, in the first attempt, before it has to wait for the
reader. -/
def roomOfPipe : Nat := 131072

/-- Ends of the processes of a pipeline, the last one first, and whether one of them never
ends. -/
def elements (run : Evaluator) (isTested : Bool) (limit : Option Nat) (input : Option Nat) :
    List Command → (before : List Finished) → (pipes : List Nat) → (isEndless : Bool) →
    Step (List Finished × List Nat × Bool)
  | [], before, pipes, isEndless => return (before, pipes, isEndless)
  | command :: rest, before, pipes, isEndless => do
      let output ← if rest.isEmpty then pure none else some <$> openPipe limit
      let (finished, never) ← fork false do
        match input with
        | some number => setChannel standardInput (some (.pipe number))
        | none => pure ()
        match output with
        | some number => setChannel standardOutput (some (.pipe number))
        | none => pure ()
        Course.whole run (run isTested command)
      match output with
      | some number =>
          let _ ← readyPipe number
          elements run isTested limit output rest (finished :: before) (number :: pipes)
            (isEndless || never)
      | none => return (finished :: before, pipes, isEndless || never)

/-- Whether a writer was ended although its reader took all that there was. -/
def wasStarved (machine : Machine) (number : Nat) : Bool :=
  match machine.pipes.lookup number with
  | some pipe => pipe.isCut && pipe.isExhausted
  | none => false

/-- Carries out commands each of which reads what the one before it writes. A writer is ended
once it wrote more than fits and its reader is gone; so where the reader turns out to want more,
all is done again with as much room as it takes. -/
def pipeline (run : Evaluator) (isTested : Bool) (commands : List Command) : Step Unit := do
  let before ← get
  let (finished, pipes, isEndless) ←
    elements run isTested (some roomOfPipe) none commands [] [] false
  let after ← get
  let (finished, pipes, isEndless) ←
    if pipes.any (wasStarved after.machine) then do
      set { before with machine := { before.machine with effort := after.machine.effort } }
      elements run isTested none none commands [] [] false
    else pure (finished, pipes, isEndless)
  for number in pipes do dropPipe number
  let latest := finished.foldl (fun time finished => max time finished.time) before.now
  match finished with
  | [] => pure ()
  | last :: _ =>
      if isEndless then waitForever { last with time := latest }
      awaitTime latest
      await last
      receive
      let statuses := finished.map fun finished => match finished.signal with
        | some signal => Signal.status signal
        | none => finished.status
      modify fun shell =>
        let failed := statuses.find? (· != 0)
        { shell with
          pipeStatuses := statuses.reverse
          status := if shell.settings.elem "pipefail".toList then failed.getD 0
            else shell.status }

end ShaderCost.Script.Process

/-!
Streams with what was read ahead from them and what is held back for them, and other programs that
a program carries out with streams of its own.
-/

namespace ShaderCost.Script

structure Stream where
  /-- The number under which the process knows the stream. -/
  number : Nat
  ahead : Text
  /-- Whether nothing is left to read beside what was read ahead. -/
  isDrained : Bool
  /-- What is held back, the last piece first, and its length. -/
  held : List Text
  heldLength : Nat
  /-- How much is held back at most. -/
  most : Nat

namespace Stream

/-- How much is usually held back. -/
def usualMost : Nat := 8192

def ofNumber (number most : Nat) : Stream := ⟨number, [], false, [], 0, most⟩

/-- Reads ahead all that there is. -/
def fill (stream : Stream) : Step Stream := do
  if stream.isDrained then return stream
  let text ← readPart stream.number fun _ => none
  return { stream with ahead := stream.ahead ++ text, isDrained := true }

/-- Takes all that is left. -/
def takeAll (stream : Stream) : Step (Text × Stream) := do
  let stream ← stream.fill
  return (stream.ahead, { stream with ahead := [] })

/-- Takes at most as many characters. -/
def take (stream : Stream) (count : Nat) : Step (Text × Stream) := do
  let stream ← stream.fill
  return (stream.ahead.take count, { stream with ahead := stream.ahead.drop count })

/-- The front of a text with the first occurrence of a mark, and what follows, unless the mark does
not occur. -/
def splitBehind? (mark : Text) : Text → (before : Text) → Option (Text × Text)
  | [], _ => none
  | c :: rest, before =>
      match Text.after? mark (c :: rest) with
      | some behind => some (before.reverse ++ mark, behind)
      | none => splitBehind? mark rest (c :: before)

/-- Takes a line with the mark that ends it. -/
def takeLine (stream : Stream) (mark : Text) : Step (Text × Stream) := do
  let stream ← stream.fill
  match splitBehind? mark stream.ahead [] with
  | some (line, ahead) => return (line, { stream with ahead })
  | none => return (stream.ahead, { stream with ahead := [] })

/-- Writes what is held back. The first value tells whether that could be done. -/
def flush (stream : Stream) : Step (Bool × Stream) := do
  if stream.held.isEmpty then return (true, stream)
  let isDone ← write stream.number stream.held.reverse.flatten
  return (isDone, { stream with held := [], heldLength := 0 })

/-- Puts a text out. What is held back is written in pieces of one size. -/
def put (stream : Stream) (text : Text) : Step (Bool × Stream) := do
  let length := stream.heldLength + text.length
  let stream := { stream with held := text :: stream.held, heldLength := length }
  if stream.most = 0 then stream.flush
  else if length < stream.most then
    spend (text.length / charactersPerTurn)
    return (true, stream)
  else
    let whole := stream.held.reverse.flatten
    let rest := length % stream.most
    let isDone ← write stream.number (whole.take (length - rest))
    let held := if rest = 0 then [] else [whole.drop (length - rest)]
    return (isDone, { stream with held, heldLength := rest })

/-- Opens a file under a number. -/
def open? (number : Nat) (opening : Opening) (path : Text) : Step (Except FileError Stream) := do
  match ← openChannel opening path with
  | .error error => return .error error
  | .ok channel =>
      setChannel number (some channel)
      return .ok (ofNumber number usualMost)

/-- The first number from one on that stands for no stream. -/
def freeNumber (first : Nat) : Step Nat := do
  let taken := (← get).channels.map Prod.fst
  let candidates := (List.range (taken.length + 1)).map (first + ·)
  return (candidates.find? fun number => !taken.elem number).getD first

/-- Puts out what is held back and forgets the stream. -/
def close (stream : Stream) : Step Bool := do
  let (isDone, stream) ← stream.flush
  setChannel stream.number none
  return isDone

/-- Goes to a place in a file, counted from its beginning. -/
def goTo (stream : Stream) (position : Nat) : Step Stream := do
  let (_, stream) ← stream.flush
  modify fun shell => match shell.channel? stream.number with
    | some (.file number) =>
        match shell.machine.files.lookup number with
        | some file => { shell with machine := shell.machine.setFile number { file with position } }
        | none => shell
    | _ => shell
  return { stream with ahead := [], isDrained := false }

/-- Where in a file the next character is read or written, and how long the file is. -/
def position (stream : Stream) : Step (Nat × Nat) := do
  let shell ← get
  match shell.channel? stream.number with
  | some (.file number) =>
      match shell.machine.files.lookup number with
      | some file =>
          let size := (shell.machine.contentAt file.location).size
          let start := if file.appends then size else file.position
          return (start + stream.heldLength - stream.ahead.length, size)
      | none => return (0, 0)
  | _ => return (0, 0)

end Stream

/-- Carries out an action in a process of its own, waits for it, and takes what it writes to some
of its streams. -/
def carryOut (captured : List Nat) (action : Step Unit) : Step (Finished × List Text) := do
  let status := (← get).status
  let pipes ← captured.mapM fun _ => Process.openPipe none
  let (finished, isEndless) ← fork false do
    for (stream, number) in captured.zip pipes do setChannel stream (some (.pipe number))
    action
  if isEndless then Process.waitForever finished
  let texts ← pipes.mapM fun number => do
    match ← Process.readyPipe number with
    | some pipe =>
        Process.dropPipe number
        awaitTime pipe.closed
        return pipe.content.flatMap Prod.snd
    | none => return []
  awaitTime finished.time
  receive
  setStatus status
  return (finished, texts)

end ShaderCost.Script
