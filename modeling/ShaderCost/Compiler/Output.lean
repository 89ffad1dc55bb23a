import ShaderCost.Files.Tree
import ShaderCost.Text.Basic
import ShaderCost.Text.Character
import ShaderCost.Text.Numeral

/-!
How the offline compiler is called, and what one run of it leaves behind: the text of both streams
and how it ended.
-/

namespace ShaderCost.Compiler

structure Config where
  executable : Text
  timeoutMillis : Nat
  /-- The model to compile for; the compiler picks its own default without one. -/
  gpuModel : Option Text
  verbose : Bool
  deriving DecidableEq

namespace Config

/-- The arguments for analysing a stage file. An empty model counts as none. -/
def arguments (config : Config) (path : Text) : List Text :=
  let model := match config.gpuModel with
    | none => []
    | some name => if name.isEmpty then [] else ["-c".toList, name]
  [path] ++ model ++ if config.verbose then ["-d".toList] else []

/-- The arguments for asking the version. -/
def versionArguments : List Text := ["--version"]

end Config

end ShaderCost.Compiler

namespace ShaderCost.Compiler

inductive Status where
  | success
  /-- The run failed; a run ended by a signal has no exit code. -/
  | failed (code : Option Int)
  | timedOut
  deriving DecidableEq

def Status.text : Status → Text
  | success => "success"
  | failed (some code) => "exit code " ++ Text.ofInt code
  | failed none => "terminated by signal"
  | timedOut => "timed out"

structure Output where
  standardOutput : Text
  standardError : Text
  status : Status
  deriving DecidableEq

namespace Output

def isSuccess (output : Output) : Bool := output.status = .success

/-- The text that figures are taken from: standard output of a clean run, else both streams, each
without the blanks at its end, standard error first. -/
def reportText (output : Output) : Text :=
  if output.isSuccess then output.standardOutput
  else
    Text.joinLines ([Text.trimEnd output.standardError, Text.trimEnd output.standardOutput].filter
      fun part => !part.isEmpty)

end Output

/-- Why there is no output at all. -/
inductive Failure where
  | notStarted (executable cause : Text)
  | interrupted (cause : Text)
  deriving DecidableEq

def Failure.message : Failure → Text
  | notStarted executable cause =>
      "failed to start offline compiler `" ++ executable ++ "`: " ++ cause
  | interrupted cause => "offline compiler I/O failed: " ++ cause

/-- An offline compiler as seen from outside: from the path of a stage file to an output or the
reason why there is none. It may read and change files. -/
abbrev Run := Text → StateM FileTree (Except Failure Output)

namespace Run

/-- A compiler that looks at the path alone. -/
def ofPath (answer : Text → Except Failure Output) : Run := fun path tree => (answer path, tree)

end Run

end ShaderCost.Compiler
