import ShaderCost.Compiler.Output
import ShaderCost.Script.Evaluation

/-!
Processes that stand in for the offline compiler: scripts in the file tree and the programs that
every system has. A process has a limited time; when it is up, the process is ended, and of the
streams that others still hold a while later nothing is seen.
-/

namespace ShaderCost.Compiler

/-- Why a process cannot be started. -/
inductive StartError where
  | program (cause : Script.StartError)
  | zeroInText
  deriving DecidableEq

def StartError.message : StartError → Text
  | program (.file cause) => cause.message
  | program .noProgram => "Exec format error (os error 8)"
  | zeroInText => "nul byte found in provided data"

/-- Where programs are looked for. -/
def searchPath (environment : Environment) : Text :=
  match environment.get? "PATH" with
  | some directories => Script.spreadText directories
  | none => Script.SearchPath.standard

/-- What it comes down to when an executable is started: a path, or a name that is looked for
where programs are. -/
def launch (tree : FileTree) (directories executable : Text) (arguments : List Text) :
    Except StartError Script.Launch := do
  if '\x00' ∈ executable || arguments.any fun argument => '\x00' ∈ argument then throw .zeroInText
  let launch := Script.Launch.search tree directories (Script.spreadText executable)
    (arguments.map Script.spreadText) fun _ => .error .noProgram
  launch.mapError StartError.program

/-- How much work stands for a millisecond. -/
def effortPerMilli : Nat := 500

/-- How much work a process may do at most, whatever time it has. -/
def greatestEffort : Nat := 3000000

/-- The process that a configuration asks for, before it does anything. -/
def newProcess (tree : FileTree) (environment : Environment) (timeoutMillis : Nat) :
    Script.Shell :=
  let given := environment.bindings.map fun (name, value) =>
    (Script.spreadText name, Script.spreadText value)
  let entries := match environment.get? "PATH" with
    | some _ => given
    | none => given ++ [("PATH".toList, Script.SearchPath.standard)]
  { machine := {
      tree, printed := [], holds := [], files := [], pipes := [], finished := [], signals := []
      next := Script.firstProcess + 1
      effort := min greatestEffort (timeoutMillis * effortPerMilli + effortPerMilli)
      deadline := timeoutMillis }
    process := Script.firstProcess, own := Script.firstProcess, job := 0, isFirst := true, now := 0
    channels := [(Script.standardInput, .null),
      (Script.standardOutput, .outer Script.standardOutput),
      (Script.standardError, .outer Script.standardError)]
    directory := tree.workingDirectory, trail := tree.workingDirectory, mask := 18
    dialect := .plain, name := [], origin := [], isGivenText := false, parameters := []
    bindings := entries.map fun (name, value) => (name, .plain value true)
    functions := [], aliases := [], texts := #[], reading := 1, located := [], options := []
    settings := [], frames := [], pipeStatuses := [], lastWord := [], leftDirectories := [],
      captures := 0, deferred := []
    traps := [], pending := [], status := 0, line := 0, command := none, loops := 0, calls := 0
    hidden := [], optionIndex := 1, optionOffset := none, jobs := [], lastJob := none
    outputStatus := none, ending := none }

/-- How long streams are read from once the time of a process is up. -/
def graceMillis : Nat := 2000

/-- When the last process that holds a stream lets go of it. -/
def freedAt (machine : Script.Machine) (stream : Nat) : Nat :=
  (machine.holds.filter fun hold => hold.stream = stream).foldl
    (fun time hold => max time hold.time) 0

/-- What was printed on a stream, in the order of time. -/
def printedOn (machine : Script.Machine) (stream : Nat) : Text :=
  let chunks := machine.printed.reverse.filter fun chunk => chunk.stream = stream
  let sorted := chunks.mergeSort fun left right => left.time ≤ right.time
  Script.shownText (sorted.flatMap Script.Chunk.text)

/-- What a process that has ended, or had to be ended, looks like from outside. One stream is read
after the other, each up to its end, but not for long once the time is up. -/
def Output.ofProcess (halt : Option Script.Halt) (process : Script.Shell) : Output :=
  let machine := process.machine
  let printed := printedOn machine
  match halt with
  | some .late =>
      let readUntil := machine.deadline + graceMillis
      let freed := freedAt machine Script.standardOutput
      let readOn := min freed readUntil + graceMillis
      let kept (stream limit : Nat) : Text :=
        if freedAt machine stream ≤ limit then printed stream else []
      ⟨kept Script.standardOutput readUntil, kept Script.standardError readOn, .timedOut⟩
  | halt =>
      let status : Status := match halt with
        | some (.killed _) => .failed none
        | _ => if process.status % 256 = 0 then .success else .failed (some (process.status % 256))
      ⟨printed Script.standardOutput, printed Script.standardError, status⟩

/-- Starts the compiler with arguments and waits for it. Without any time it does nothing. -/
def start (environment : Environment) (config : Config) (arguments : List Text) :
    StateM FileTree (Except Failure Output) := fun tree =>
  match launch tree (searchPath environment) config.executable arguments with
  | .error error => (.error (.notStarted config.executable error.message), tree)
  | .ok launch =>
      if config.timeoutMillis = 0 then (.ok ⟨[], [], .timedOut⟩, tree)
      else
        let depth := Script.Program.depthFor launch.arguments
        let action : Script.Step (Option Script.Halt) := do
          let halt ← Script.Step.attempt
            (Script.Program.become Script.Evaluation.evaluator depth launch)
          Script.release
          return halt
        match action (newProcess tree environment config.timeoutMillis) with
        | (.ok halt, process) =>
            (.ok (Output.ofProcess halt process),
              process.machine.tree.seenFrom tree.workingDirectory)
        | (.error halt, process) => (.ok (Output.ofProcess (some halt) process), tree)

/-- Asks the compiler for its version. -/
def version (environment : Environment) (config : Config) :
    StateM FileTree (Except Failure Output) :=
  start environment config Config.versionArguments

/-- The compiler that a configuration calls. -/
def run (environment : Environment) (config : Config) : Run := fun path =>
  start environment config (config.arguments path)

end ShaderCost.Compiler
