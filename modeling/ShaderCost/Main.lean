import ShaderCost.CommandLine.Execution
import ShaderCost.Script.Root
import Std.Time.DateTime.Timestamp

/-!
The program: it puts the files that a command may read into a tree, carries the command out there,
and writes back the files that are new or changed.
-/

namespace ShaderCost

/-- The variables that the program looks at. -/
def readEnvironment : IO Environment := do
  let names := ["HOME".toList, "XDG_DATA_HOME".toList, "XDG_CONFIG_HOME".toList] ++
    Settings.variableNames
  let found ← names.filterMapM fun name => do
    let value ← IO.getEnv (String.ofList name)
    return value.map fun value => (name, value.toList)
  return ⟨found⟩

/-- A tree with nothing in the directory that the program was started in. -/
def startingTree : IO FileTree := do
  let directory ← IO.getEnv "PWD"
  return Script.Root.freshTree (Path.names (directory.getD "/").toList)

/-- Puts the file at a path into a tree, if there is one. -/
def loadFile (tree : FileTree) (path : Text) : IO FileTree := do
  try
    let content ← IO.FS.readBinFile (String.ofList path)
    return (tree.plant path content).allowExecution path
  catch _ => return tree

/-- Puts the files that words ask for into a tree. -/
def loadFiles (environment : Environment) (words : List Text) (tree : FileTree) :
    IO FileTree := do
  match CommandLine.Invocation.ofWords words with
  | .error _ => return tree
  | .ok invocation =>
      let path := invocation.settingsFile environment
      let tree ← (Settings.candidates path).foldlM loadFile tree
      match Settings.load tree environment path with
      | .error _ => return tree
      | .ok settings =>
          (settings.compilerPath :: invocation.command.inputs).foldlM loadFile tree

def writeFile (path : Text) (content : Octets) : IO Unit := do
  match Path.parent? path with
  | some directory => IO.FS.createDirAll (String.ofList directory)
  | none => pure ()
  IO.FS.writeBinFile (String.ofList path) content

def currentMoment : IO Calendar.Moment := do
  let nanos := (← Std.Time.Timestamp.now).toNanosecondsSinceUnixEpoch.val
  return { seconds := nanos / 1000000000, nanos := (nanos % 1000000000).toNat }

/-- Carries out the command that words ask for, and gives the exit code. -/
def runProgram (words : List Text) : IO UInt32 := do
  let environment ← readEnvironment
  let before ← loadFiles environment words (← startingTree)
  let (ending, after) := CommandLine.execute ⟨environment, ← currentMoment⟩ words before
  for (path, content) in after.fromRoot.filesSince before.fromRoot do
    writeFile ('/' :: path) content
  IO.print (String.ofList ending.output)
  IO.eprint (String.ofList ending.errorOutput)
  return UInt32.ofNat ending.exitCode

end ShaderCost

/-- Carries out one command. -/
def main (arguments : List String) : IO UInt32 := do
  ShaderCost.runProgram (arguments.map String.toList)
