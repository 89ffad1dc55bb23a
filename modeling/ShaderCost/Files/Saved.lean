import ShaderCost.Calendar.Moment
import ShaderCost.Files.Tree
import ShaderCost.Stage
import ShaderCost.Files.Path
import ShaderCost.Text.Quoted

/-!
The files that the program leaves behind: the two stage sources of a variant, and reports under
the name of their shader and the second they were made in.
-/

namespace ShaderCost

inductive SaveError where
  | stageDirectory (directory : Text) (cause : FileError)
  | stageFile (path : Text) (cause : FileError)
  | reportDirectory (directory : Text) (cause : FileError)
  | reportFile (path : Text) (cause : FileError)
  deriving DecidableEq

/-- What went wrong and why, outermost first. -/
def SaveError.chain : SaveError → List Text
  | stageDirectory directory cause =>
      ["failed to create stage dir " ++ Text.quoted directory, cause.message]
  | stageFile path cause => ["failed to write " ++ Text.quoted path, cause.message]
  | reportDirectory directory cause =>
      ["failed to create report dir " ++ Text.quoted directory, cause.message]
  | reportFile path cause => ["failed to write report " ++ Text.quoted path, cause.message]

/-- The path of a stage file in a directory. -/
def stagePath (directory stem : Text) (stage : Stage) : Text :=
  Path.join directory (safeStem stem ++ "." ++ stage.fileExtension)

structure StagePaths where
  vertex : Text
  fragment : Text
  deriving DecidableEq

/-- Writes both stage sources into a directory, creating it where it is missing. -/
def saveStagePair (directory stem vertexSource fragmentSource : Text) :
    Filing SaveError StagePaths := do
  Filing.makeDirectories (SaveError.stageDirectory directory) directory
  let vertex := stagePath directory stem .vertex
  let fragment := stagePath directory stem .fragment
  Filing.writeText (SaveError.stageFile vertex) vertex vertexSource
  Filing.writeText (SaveError.stageFile fragment) fragment fragmentSource
  return ⟨vertex, fragment⟩

def reportName (shader : Text) (moment : Calendar.Moment) : Text :=
  safeStem shader ++ "_" ++ moment.fileStamp ++ ".md"

/-- Writes a report into a directory, creating it where it is missing, and gives its path. -/
def saveReport (directory shader contents : Text) (moment : Calendar.Moment) :
    Filing SaveError Text := do
  Filing.makeDirectories (SaveError.reportDirectory directory) directory
  let path := Path.join directory (reportName shader moment)
  Filing.writeText (SaveError.reportFile path) path contents
  return path

end ShaderCost
