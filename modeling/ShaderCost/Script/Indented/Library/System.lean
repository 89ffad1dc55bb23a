import ShaderCost.Script.Indented.Library.Features
import ShaderCost.Script.Basic
import ShaderCost.Script.Utility.Attended
import ShaderCost.Script.Utility.Paths

/-!
Routines on the system: files and directories, processes and signals, and the time.
-/

namespace ShaderCost.Script.Indented

variable (evaluator : Evaluator)

/-! Files. -/

/-- The path that a value is. -/
def pathFrom (value : Value) : Run Text := do
  match value with
  | .object _ =>
      match ← callOwn? evaluator value "__fspath__" [] with
      | some (.text path) => return path
      | _ =>
          match ← coreOf value with
          | .text path => return path
          | _ =>
              failType ("expected str, bytes or os.PathLike object, not ".toList ++
                (← typeName value))
  | .text path => return path
  | .octets path => return shownText path
  | value =>
      failType ("expected str, bytes or os.PathLike object, not ".toList ++ (← typeName value))

def pathAt (given : Given) (place : Nat) (name : Text) (usual : Text) : Run Text := do
  match given.some? place name with
  | some value => pathFrom evaluator value
  | none => return usual

/-- Changes the files by a step that may fail. -/
def changeFiles (path : Text) (action : FileTree → Except FileError FileTree) : Run Unit := do
  let error : Option FileError ← liftM (n := Run) (Utility.change action)
  match error with
  | none => pure ()
  | some error => failFile error path

/-- What the system tells of a file. -/
def statusOf (path : Text) (followsLinks : Bool) : Run Value := do
  let shell ← getThe Shell
  let found := if followsLinks then shell.tree.find path else shell.tree.findEntry path
  match found with
  | .error error => failFile error path
  | .ok node =>
      let facts := Utility.Particulars.ofNode node
      let now : Value := .real (realOf (Clock.now shell).seconds)
      let mode := Utility.Status.kindBits facts.kind + facts.mode
      return .tuple [.ofNat mode, .ofNat 131072, .ofNat 64, .ofNat facts.names,
        .ofNat Utility.Status.ownerNumber, .ofNat Utility.Status.ownerNumber, .ofNat facts.size,
        now, now, now]

/-- Goes to another directory. -/
def enterDirectory (path : Text) : Run Unit := do
  let shell ← getThe Shell
  match shell.tree.locate path, shell.tree.find path with
  | .ok location, .ok (.directory _) =>
      modifyThe Shell fun shell => { shell with directory := location, trail := location }
  | .ok _, .ok _ => failSystem 20 (some (.text path))
  | .error error, _ | _, .error error => failFile error path

def isUsable (tree : FileTree) (path : Text) (mode : Nat) : Bool :=
  match tree.find path with
  | .error _ => false
  | .ok node =>
      let facts := Utility.Particulars.ofNode node
      let mayWrite := match node with
        | .program _ => false
        | _ => true
      (mode / 2 % 2 = 0 || mayWrite) && (mode % 2 = 0 || facts.mode % 2 = 1)

def ofFiles (name : Text) (given : Given) : Run (Option Value) := do
  let path : Run Text := pathAt evaluator given 0 "path" "."
  let tree := (← getThe Shell).tree
  let done : Run (Option Value) := return some .none
  match String.ofList name with
  | "getcwd" => return some (.text (Builtin.pathOf (← getThe Shell).directory))
  | "chdir" =>
      enterDirectory (← path)
      done
  | "listdir" =>
      let path ← path
      match tree.find path with
      | .ok (.directory entries) =>
          return some (← makeList (Value.ofTexts (entries.map Prod.fst)))
      | .ok _ => failSystem 20 (some (.text path))
      | .error error => failFile error path
  | "mkdir" =>
      let path ← path
      changeFiles path fun tree => tree.makeDirectory path
      done
  | "remove" | "unlink" =>
      let path ← path
      changeFiles path fun tree => do
        match ← tree.findEntry path with
        | .directory _ => throw .isDirectory
        | _ => return tree.remove (← tree.followEntry path).location
      done
  | "rmdir" =>
      let path ← path
      match tree.find path with
      | .ok (.directory (_ :: _)) => failSystem 39 (some (.text path))
      | _ =>
          changeFiles path fun tree => do
            match ← tree.findEntry path with
            | .directory _ => return tree.remove (← tree.followEntry path).location
            | _ => throw .notDirectory
          done
  | "rename" | "replace" =>
      let source ← path
      let target ← pathAt evaluator given 1 "dst" []
      changeFiles source fun tree => do
        let node ← tree.findEntry source
        let origin ← tree.followEntry source
        let goal ← tree.followEntry target
        return (tree.remove origin.location).insert goal.location node
      done
  | "symlink" =>
      let source ← path
      let target ← pathAt evaluator given 1 "dst" []
      if tree.exists? target then failSystem 17 (some (.text source))
      changeFiles target fun tree => do
        return tree.insert (← tree.followEntry target).location (.link source)
      done
  | "link" =>
      let source ← path
      let target ← pathAt evaluator given 1 "dst" []
      changeFiles source fun tree => do
        return tree.insert (← tree.followEntry target).location (← tree.findEntry source)
      done
  | "readlink" =>
      let path ← path
      match tree.findEntry path with
      | .ok (.link target) => return some (.text target)
      | .ok _ => failSystem 22 (some (.text path))
      | .error error => failFile error path
  | "chmod" =>
      let path ← path
      let mode ← wholeOr evaluator 0 (given.at? 1 "mode")
      changeFiles path fun tree => do
        let trail ← tree.follow path
        match ← tree.find path with
        | .file content _ =>
            return tree.insert trail.location (.file content (mode.toNat / 64 % 2 = 1))
        | _ => return tree
      done
  | "utime" =>
      let path ← path
      match tree.find path with
      | .ok _ => done
      | .error error => failFile error path
  | "_stat" => return some (← statusOf (← path) true)
  | "_lstat" => return some (← statusOf (← path) false)
  | "access" =>
      let mode ← wholeOr evaluator 0 (given.at? 1 "mode")
      return some (.bool (isUsable tree (← path) mode.toNat))
  | _ => return none

/-! Processes. -/

/-- Gives the variables of the system the values that a table has for them. -/
def shareEnvironment (table : Value) : Run Unit := do
  match ← coreOf table with
  | .object place =>
      match ← readableAt place with
      | .table entries =>
          let bindings := entries.values.filterMap fun (name, value) =>
            match name, value with
            | .text name, .text value =>
                some (plainOctets name, Binding.plain (plainOctets value) true)
            | _, _ => none
          modifyThe Shell fun shell => { shell with bindings }
      | _ => pure ()
  | _ => pure ()

/-- Where an output of a process goes. -/
inductive Outlet where
  | inherited
  | captured
  | null
  | joined
  | stream (number : Nat)

/-- How a process is carried out. -/
structure Launch where
  words : List Text
  input : Option Text
  takesNoInput : Bool
  output : Outlet
  problems : Outlet
  directory : Option Text
  environment : Option Value

/-- Carries out an action in a process of its own, for a limited time if there is a limit. The
result is how it ended and what it wrote to some of its streams, and whether its time was up. -/
def carryOutWithin (captured : List Nat) (millis : Option Nat) (action : Step Unit) :
    Step (Finished × List Text × Bool) := do
  match millis with
  | none =>
      let (finished, texts) ← carryOut captured action
      return (finished, texts, false)
  | some millis =>
      let before ← get
      let effort := before.machine.effort
      let share := min (effort / 2) (millis * Utility.Limited.effortPerMilli)
      modify fun shell => { shell with machine := { shell.machine with effort := share } }
      let pipes ← captured.mapM fun _ => Process.openPipe none
      let (finished, isEndless) ← fork false do
        for (stream, number) in captured.zip pipes do setChannel stream (some (.pipe number))
        action
      modify fun shell => { shell with machine := { shell.machine with
        effort := shell.machine.effort + (effort - share) } }
      let limit := before.now + startMillis + millis
      let isLate := isEndless || limit < finished.time
      let texts ← pipes.mapM fun number => do
        match ← Process.readyPipe number with
        | some pipe =>
            Process.dropPipe number
            return (pipe.content.filter fun (time, _) => decide (time ≤ limit)).flatMap Prod.snd
        | none => return []
      if isLate then
        modify (Utility.Limited.takeBack limit before)
        awaitTime limit
      else awaitTime finished.time
      receive
      return (finished, texts, isLate)

/-- Carries out an action in a process of its own that is not waited for, with at most half of the
work that may still be done. The result is the number of the process with those of the pipes that
get what it writes to some of its streams. -/
def startApart (captured : List Nat) (action : Step Unit) : Step (Nat × List Nat) := do
  let effort := (← get).machine.effort
  modify fun shell => { shell with machine := { shell.machine with effort := effort / 2 } }
  let pipes ← captured.mapM fun _ => Process.openPipe none
  let (finished, isEndless) ← fork true do
    for (stream, number) in captured.zip pipes do setChannel stream (some (.pipe number))
    action
  for number in pipes do
    let _ ← Process.readyPipe number
  modify fun shell =>
    let machine := shell.machine
    let time := if isEndless then max finished.time (machine.deadline + watchedMillis + 1)
      else finished.time
    { shell with
      machine := { machine with
        finished := { finished with time } :: machine.finished
        effort := machine.effort + (effort - effort / 2) }
      jobs := finished.process :: shell.jobs }
  return (finished.process, pipes)

def Outlet.isCaptured : Outlet → Bool
  | .captured => true
  | _ => false

/-- Carries out another program in a way that gets the streams to take and the action. -/
def withProgram {α : Type} (launch : Launch) (work : List Nat → Step Unit → Step α) : Run α := do
  match launch.words with
  | [] => failValue "empty command"
  | program :: arguments =>
      let before ← getThe Shell
      match launch.directory with
      | some path => enterDirectory path
      | none => pure ()
      match launch.environment with
      | some table => shareEnvironment table
      | none => pure ()
      let shell ← getThe Shell
      let restore : Run Unit := modifyThe Shell fun shell => { shell with
        bindings := before.bindings, directory := before.directory, trail := before.trail }
      let missing? : Option FileError :=
        match SearchPath.find shell.tree (shell.value "PATH") program with
        | .error error => some error
        | .ok path =>
            match shell.tree.find (shownText path) with
            | .error error => some error
            | .ok (.directory _) => some .denied
            | .ok _ => if SearchPath.isExecutable shell.tree path then none else some .denied
      match missing? with
      | some error =>
          restore
          failFile error (shownText program)
      | none =>
          let captured : List Nat :=
            (if launch.output.isCaptured then [standardOutput] else []) ++
              if launch.problems.isCaptured then [standardError] else []
          let settle (stream : Nat) (outlet : Outlet) : Step Unit := do
            match outlet with
            | .inherited | .captured => pure ()
            | .null => setChannel stream (some .null)
            | .joined => setChannel stream ((← get).channel? standardOutput)
            | .stream number => setChannel stream ((← get).channel? number)
          let result ← liftM (n := Run) <| work captured do
            match launch.input with
            | some text => setChannel standardInput (some (← textChannel text))
            | none =>
                if launch.takesNoInput then setChannel standardInput (some .null)
            settle standardOutput launch.output
            settle standardError launch.problems
            let _ ← evaluator.host.start program arguments
            setStatus 126
            throw .exited
          restore
          return result

/-- What belongs to the two outputs of those that were taken. -/
def Launch.sorted {α : Type} (launch : Launch) (usual : α) (taken : List α) : α × α :=
  match launch.output, launch.problems, taken with
  | .captured, .captured, [output, problems] => (output, problems)
  | .captured, _, [output] => (output, usual)
  | _, .captured, [problems] => (usual, problems)
  | _, _, _ => (usual, usual)

/-- The status of a process, or the signal that ended it below zero. -/
def statusOfFinished (finished : Finished) : Int :=
  match finished.signal with
  | some signal => -(signal : Int)
  | none => finished.status

/-- What says where an output goes. -/
def outletOf (value : Value) : Run Outlet := do
  match value with
  | .none => return .inherited
  | value =>
      match value.whole? with
      | some (-1) => return .captured
      | some (-2) => return .joined
      | some (-3) => return .null
      | some number => return .stream number.toNat
      | none =>
          match value with
          | .object place =>
              match ← fileNumber place with
              | .whole number => return .stream number.toNat
              | _ => return .inherited
          | _ => return .inherited

/-- How a program is to be carried out, as a call says: words, input, outlets, directory and
variables. -/
def launchFrom (given : Given) : Run Launch := do
  let words ← (← valuesOf evaluator (given.get 0 "words" .none)).mapM fun value => do
    return plainOctets (← pathFrom evaluator value)
  let (input, takesNoInput) ← match given.get 1 "input" .none with
    | .none => pure (none, false)
    | .octets octets => pure (some octets, false)
    | .text text => pure (some (plainOctets text), false)
    | _ => pure (none, true)
  let directory ← match given.some? 4 "cwd" with
    | some value => some <$> pathFrom evaluator value
    | none => pure none
  return {
    words, input, takesNoInput
    output := ← outletOf (given.get 2 "stdout" .none)
    problems := ← outletOf (given.get 3 "stderr" .none)
    directory, environment := given.some? 5 "env" }

/-- Thousandths of a second, where a number of seconds is given. -/
def limitFrom (given : Given) (place : Nat) : Option Nat :=
  match given.some? place "timeout" with
  | some (.real seconds) => some (seconds * 1000).toUInt64.toNat
  | some value => value.whole?.map fun seconds => seconds.toNat * 1000
  | none => none

def finishedProcess (number : Int) : Run Finished := do
  match (← getThe Shell).machine.finished.find? fun finished => finished.process = number with
  | some finished => return finished
  | none => failSystem 10 none

/-- Routines on other programs. -/
def ofPrograms (name : Text) (given : Given) : Run (Option Value) := do
  let number (place : Nat) : Run Int := wholeOr evaluator 0 given.values[place]?
  match String.ofList name with
  | "_launch" =>
      let launch ← launchFrom evaluator given
      let (finished, texts, isLate) ←
        withProgram evaluator launch fun captured action =>
          carryOutWithin captured (limitFrom given 6) action
      let (output, problems) := launch.sorted [] texts
      return some (.tuple [.whole (statusOfFinished finished), .octets output, .octets problems,
        .bool isLate])
  | "_spawn" =>
      let launch ← launchFrom evaluator given
      let (process, pipes) ← withProgram evaluator launch startApart
      let (output, problems) := launch.sorted .none (pipes.map Value.ofNat)
      return some (.tuple [.ofNat process, output, problems])
  | "_ended" =>
      let finished ← finishedProcess (← number 0)
      if finished.time ≤ (← getThe Shell).now then
        return some (.whole (statusOfFinished finished))
      else
        liftM (n := Run) (elapse 1)
        return some .none
  | "_join" =>
      let finished ← finishedProcess (← number 0)
      let limit := (limitFrom given 1).map ((← getThe Shell).now + ·)
      if limit.all (finished.time ≤ ·) then
        liftM (n := Run) (awaitTime finished.time)
        return some (.bool true)
      else
        liftM (n := Run) (awaitTime (limit.getD 0))
        return some (.bool false)
  | "_taken" =>
      match given.values with
      | [.whole pipe, .whole process] =>
          let finished ← finishedProcess process
          let time := min finished.time (← getThe Shell).now
          match (← getThe Shell).machine.pipes.lookup pipe.toNat with
          | some pipe =>
              let kept := pipe.content.filter fun (written, _) => decide (written ≤ time)
              return some (.octets (kept.flatMap Prod.snd))
          | none => return some (.octets [])
      | _ => return some (.octets [])
  | _ => return none

/-- The handler for a signal. -/
def handlerFor (signal : Nat) : Run Value := do
  return ((← get).handlers.lookup signal).getD (.whole 0)

/-- What a signal does to the program. -/
def receiveSignal (signal : Nat) : Run Unit := do
  match ← coreOf (← handlerFor signal) with
  | .whole 1 => pure ()
  | .whole _ | .none =>
      if signal = 2 then raiseWith "KeyboardInterrupt" []
      else
        let _ ← liftM (n := Run) (Builtin.send signal (← getThe Shell).process)
  | code =>
      let _ ← evaluator.call code [.ofNat signal, .none] []

/-- Waits, unless an alarm comes first. -/
def pause (millis : Nat) : Run Unit := do
  let now := (← getThe Shell).now
  match (← get).alarm with
  | some time =>
      if time ≤ now + millis then
        modify fun state => { state with alarm := none }
        liftM (n := Run) (elapse (time - now))
        receiveSignal evaluator 14
        liftM (n := Run) (elapse (now + millis - time))
      else liftM (n := Run) (elapse millis)
  | none => liftM (n := Run) (elapse millis)

/-- How many thousandths of a second a value is. -/
def millisOf (value : Value) : Run Nat := do
  match value with
  | .real seconds =>
      if seconds < 0 then failValue "sleep length must be non-negative"
      return (seconds * 1000).ceil.toUInt64.toNat
  | value =>
      match value.whole? with
      | some seconds =>
          if seconds < 0 then failValue "sleep length must be non-negative"
          return seconds.toNat * 1000
      | none =>
          failType ('\'' :: (← typeName value) ++
            "' object cannot be interpreted as an integer".toList)

/-- The variables of the system. -/
def ofVariables (name : Text) (given : Given) : Run (Option Value) := do
  let text (place : Nat) : Run Text := do
    return plainOctets (← textIn false (given.get place [] .none))
  match String.ofList name with
  | "_variables" =>
      let bindings := (← getThe Shell).environment.bindings
      return some (← make (.table (.ofEntries (bindings.map fun (name, value) =>
        ('s' :: shownText name, (.text (shownText name), .text (shownText value)))))))
  | "putenv" =>
      let name ← text 0
      let binding := Binding.plain (← text 1) true
      modifyThe Shell fun shell => shell.setBinding name (some binding)
      return some .none
  | "unsetenv" =>
      let name ← text 0
      modifyThe Shell fun shell => shell.setBinding name none
      return some .none
  | _ => return none

def ofProcesses (name : Text) (given : Given) : Run (Option Value) := do
  let number (place : Nat) (title : Text) : Run Int := wholeOr evaluator 0 (given.at? place title)
  match ← ofPrograms evaluator name given with
  | some value => return some value
  | none => pure ()
  match String.ofList name with
  | "getpid" => return some (.ofNat (← getThe Shell).process)
  | "getppid" => return some (.ofNat (firstProcess - 1))
  | "getuid" | "geteuid" | "getgid" | "getegid" =>
      return some (.ofNat Utility.Status.ownerNumber)
  | "_exit" => throw (.ended ((← number 0 "status") % 256).toNat)
  | "abort" =>
      let _ ← liftM (n := Run) (Builtin.send 6 (← getThe Shell).process)
      return some .none
  | "kill" =>
      let process ← number 0 "pid"
      let signal := (← number 1 "signal").toNat
      let shell ← getThe Shell
      if process.natAbs = shell.process || process = 0 then
        if signal = 0 then return some .none
        else if signal = 9 then
          let _ ← liftM (n := Run) (Builtin.send signal shell.process)
          return some .none
        else
          receiveSignal evaluator signal
          return some .none
      else
        let isDone ← if signal = 0 then pure true
          else liftM (n := Run) (Builtin.send signal process.natAbs)
        if isDone then return some .none else failSystem 3 none
  | "execv" | "execvp" | "execve" | "execvpe" =>
      let program ← pathAt evaluator given 0 "path" []
      let words ← (← valuesOf evaluator (given.get 1 "args" .none)).mapM fun value => do
        return plainOctets (← pathFrom evaluator value)
      let before ← getThe Shell
      shareEnvironment (given.get 2 "env" .none)
      let error : FileError ←
        liftM (n := Run) (evaluator.host.start (plainOctets program) (words.drop 1))
      modifyThe Shell fun shell => { shell with bindings := before.bindings }
      failFile error program
  | "umask" => return some (.whole 18)
  | "strerror" => return some (.text (systemWordsFor (← number 0 "code")))
  | "cpu_count" => return some (.whole 4)
  | "urandom" =>
      let count := (← number 0 "size").toNat
      let seed := (← get).seed
      modify fun state => { state with seed := seed * 6364136223846793005 + 1442695040888963407 }
      return some (.octets ((List.range count).map fun place =>
        Char.ofNat ((seed.toNat / (place + 1) * 2654435761 / 65536) % 256)))
  | "isatty" => return some (.bool false)
  | "write" =>
      let octets ← textIn true (given.get 1 "data" .none)
      let stream := (← number 0 "fd").toNat
      let isDone : Bool ← liftM (n := Run) (Script.write stream octets)
      if isDone then return some (.ofNat octets.length) else failSystem 9 none
  | "read" =>
      let count := (← number 1 "n").toNat
      let text : Text ←
        liftM (n := Run) (readPart (← number 0 "fd").toNat fun text => some (min count text.length))
      return some (.octets text)
  | "close" =>
      liftM (n := Run) (setChannel (← number 0 "fd").toNat none)
      return some .none
  | "dup2" =>
      let channel := (← getThe Shell).channel? (← number 0 "fd").toNat
      let target ← number 1 "fd2"
      liftM (n := Run) (setChannel target.toNat channel)
      return some (.whole target)
  | "dup" =>
      let channel := (← getThe Shell).channel? (← number 0 "fd").toNat
      let target ← liftM (n := Run) (Stream.freeNumber 3)
      liftM (n := Run) (setChannel target channel)
      return some (.ofNat target)
  | "signal" =>
      let signal := (← number 0 "signalnum").toNat
      let before ← handlerFor signal
      modify fun state => { state with
        handlers := (signal, given.get 1 "handler" .none) ::
          state.handlers.filter fun entry => entry.1 != signal }
      return some before
  | "getsignal" => return some (← handlerFor (← number 0 "signalnum").toNat)
  | "raise_signal" =>
      let signal := (← number 0 "signalnum").toNat
      if signal = 9 then
        let _ ← liftM (n := Run) (Builtin.send signal (← getThe Shell).process)
        return some .none
      else
        receiveSignal evaluator signal
        return some .none
  | "alarm" =>
      let seconds := (← number 0 "seconds").toNat
      let now := (← getThe Shell).now
      let before := (← get).alarm
      modify fun state => { state with
        alarm := if seconds = 0 then none else some (now + seconds * 1000) }
      return some (.ofNat ((before.map fun time => (time - now + 999) / 1000).getD 0))
  | "strsignal" =>
      let signal := (← number 0 "signalnum").toNat
      return some (match Signal.table[signal - 1]? with
        | some (_, words) => .text (if signal = 2 then "Interrupt" else words)
        | none => .none)
  | _ => return none

/-! Time. -/

/-- The parts of a moment as the library tells them. -/
def momentParts (date : Calendar.Date) (time : List Int) : Value :=
  .tuple ((([date.year, date.month, date.day] ++ time ++
    [((date.weekday : Int) + 6) % 7, date.dayOfYear, 0] : List Int)).map .whole)

/-- The moment that a number of seconds or a tuple of parts stands for. -/
def momentFrom (value : Value) : Run Calendar.Moment := do
  let shell ← getThe Shell
  match ← coreOf value with
  | .none => return Clock.now shell
  | .real seconds => return { seconds := floored seconds }
  | .tuple parts =>
      let numbers := parts.map fun part => part.whole?.getD 0
      let part (place : Nat) : Int := numbers.getD place 0
      let days := Calendar.Date.days ⟨part 0, (part 1).toNat, (part 2).toNat⟩
      return { seconds := days * 86400 + part 3 * 3600 + part 4 * 60 + part 5 }
  | core => return { seconds := core.whole?.getD 0 }

/-- How often the time may be asked for before asking takes time. -/
def quickAnswers : Nat := 16

def timeQuestions : List Text := [
  "time", "time_ns", "monotonic", "perf_counter", "process_time", "thread_time", "monotonic_ns",
  "perf_counter_ns"]

/-- Lets time go by for a program that asks for it again and again. -/
def noteQuestion (name : Text) : Run Unit := do
  if timeQuestions.elem name then
    let asked := (← get).asked
    modify fun state => { state with asked := asked + 1 }
    if quickAnswers ≤ asked then liftM (n := Run) (elapse 1)

def ofTime (name : Text) (given : Given) : Run (Option Value) := do
  noteQuestion name
  let shell ← getThe Shell
  let now := Clock.now shell
  let elapsed : Float := Float.ofNat shell.now / 1000.0
  match String.ofList name with
  | "time" =>
      return some (.real (realOf now.seconds + Float.ofNat now.nanos / 1000000000.0))
  | "time_ns" => return some (.whole (now.seconds * 1000000000 + now.nanos))
  | "monotonic" | "perf_counter" => return some (.real (1000.0 + elapsed))
  | "process_time" | "thread_time" => return some (.real (0.02 + elapsed / 100.0))
  | "monotonic_ns" | "perf_counter_ns" =>
      return some (.ofNat (1000000000000 + shell.now * 1000000))
  | "sleep" =>
      pause evaluator (← millisOf (← given.first name))
      return some .none
  | "gmtime" | "localtime" =>
      let moment ← momentFrom (given.get 0 "secs" .none)
      let days := moment.seconds.fdiv 86400
      let rest := moment.seconds.fmod 86400
      return some (momentParts (.ofDays days) [rest / 3600, rest / 60 % 60, rest % 60])
  | "mktime" =>
      let moment ← momentFrom (given.get 0 "t" .none)
      return some (.real (realOf moment.seconds))
  | "strftime" =>
      let format ← textIn false (← given.first name)
      let moment ← momentFrom (given.get 1 "t" .none)
      return some (.text ((Clock.faceOf shell moment).text format))
  | "ctime" | "asctime" =>
      let moment ← momentFrom (given.get 0 "secs" .none)
      return some (.text ((Clock.faceOf shell moment).text "%a %b %e %H:%M:%S %Y"))
  | _ => return none

/-! Which there are. -/

def fileFeatures : List Text := [
  "getcwd", "chdir", "listdir", "mkdir", "remove", "unlink", "rmdir", "rename", "replace",
  "symlink", "link", "readlink", "chmod", "utime", "_stat", "_lstat", "access"]

def programFeatures : List Text := ["_launch", "_spawn", "_ended", "_join", "_taken"]

def processFeatures : List Text :=
  let others : List Text := [
    "getpid", "getppid", "getuid", "geteuid", "getgid", "getegid", "_exit", "abort", "kill",
    "execv", "execvp", "execve", "execvpe", "umask", "strerror", "cpu_count", "urandom", "isatty",
    "write", "read", "close", "dup2", "dup", "fdopen", "_open", "_variables", "putenv", "unsetenv"]
  programFeatures ++ others

def signalFeatures : List Text := [
  "signal", "getsignal", "raise_signal", "alarm", "strsignal"]

def timeFeatures : List Text := [
  "time", "time_ns", "monotonic", "perf_counter", "process_time", "thread_time", "monotonic_ns",
  "perf_counter_ns", "sleep", "gmtime", "localtime", "mktime", "strftime", "ctime", "asctime"]

end ShaderCost.Script.Indented
