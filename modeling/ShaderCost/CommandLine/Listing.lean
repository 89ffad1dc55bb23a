import ShaderCost.CommandLine.Invocation
import ShaderCost.Compiler.Output
import ShaderCost.Files.Saved
import ShaderCost.Report.Data
import ShaderCost.Report.Document
import ShaderCost.Settings.Basic

/-!
How results are shown in each format.
-/

namespace ShaderCost.CommandLine

/-- Lines, each with the line feed that ends it. -/
def shownLines (lines : List Text) : Text := lines.flatMap fun line => line ++ ['\n']

def shownJson (value : JsonValue) : Text := value.pretty 0 ++ ['\n']

def code (text : Text) : Text := "`" ++ text ++ "`"

/-- A Markdown table as lines. -/
def table (columns : List Text) (rows : List (List Text)) : List Text :=
  Markdown.tableHeader columns ++ rows.map Markdown.tableRow

def showAnalyses (format : Format) (header : Report.Header) (analyses : List VariantAnalysis) :
    Text :=
  match format with
  | .json => shownJson (Report.data header analyses)
  | .markdown => Report.document header analyses
  | .text => Report.summary header analyses

/-- A variant whose stage sources were written to files. -/
structure Extracted where
  label : Text
  paths : StagePaths
  deriving DecidableEq

def Extracted.toJson (extracted : Extracted) : JsonValue :=
  .object [
    ("label", .string extracted.label),
    ("vertex", .string extracted.paths.vertex),
    ("fragment", .string extracted.paths.fragment)]

def showExtracted (format : Format) (variants : List Extracted) : Text :=
  match format with
  | .json => shownJson (.list (variants.map Extracted.toJson))
  | .markdown =>
      shownLines (table ["Variant", "Vertex", "Fragment"] (variants.map fun variant =>
        [variant.label, code variant.paths.vertex, code variant.paths.fragment]))
  | .text =>
      if variants.isEmpty then shownLines ["No variants extracted."]
      else shownLines (variants.flatMap fun variant =>
        ["• " ++ variant.label, "  " ++ variant.paths.vertex, "  " ++ variant.paths.fragment])

def modelJson (model : Gpu.Model) : JsonValue :=
  .object [("name", .string model.name), ("architecture", .string model.architecture.name)]

/-- How wide the column of model names is. -/
def modelWidth : Nat := 12

def showModels (format : Format) (models : List Gpu.Model) : Text :=
  match format with
  | .json => shownJson (.list (models.map modelJson))
  | .markdown =>
      shownLines (table ["GPU", "Architecture"] (models.map fun model =>
        [model.name, model.architecture.name]))
  | .text =>
      shownLines (models.map fun model =>
        model.name ++ List.replicate (modelWidth - model.name.length) ' ' ++ " " ++
          model.architecture.name)

/-- What asking the compiler for its version shows of it. -/
structure Check where
  executable : Text
  available : Bool
  version : Option Text
  /-- What is wrong. -/
  detail : Option Text
  deriving DecidableEq

namespace Check

/-- The lines of a text without the blanks around them, empty ones left out. -/
def trimmedLines (text : Text) : List Text :=
  ((text.splitOn '\n').map Text.trim).filter fun line => !line.isEmpty

def ofRun (executable : Text) : Except Compiler.Failure Compiler.Output → Check
  | .ok output =>
      if output.isSuccess then
        ⟨executable, true, (trimmedLines output.standardOutput).head?, none⟩
      else
        ⟨executable, false, none,
          some (output.status.text ++ ": " ++ Text.trim output.reportText)⟩
  | .error failure => ⟨executable, false, none, some failure.message⟩

def toJson (check : Check) : JsonValue :=
  .object [
    ("executable", .string check.executable),
    ("available", .bool check.available),
    ("version", .textOrNull check.version),
    ("detail", .textOrNull check.detail)]

end Check

def truth (value : Bool) : Text := if value then "true" else "false"

def showCheck (format : Format) (check : Check) : Text :=
  match format with
  | .json => shownJson check.toJson
  | .markdown =>
      let detail : List (List Text) := match check.detail with
        | some detail => [["Detail", List.intercalate [' '] (Check.trimmedLines detail)]]
        | none => []
      let rows : List (List Text) := [
        ["Executable", code check.executable],
        ["Available", truth check.available],
        ["Version", check.version.getD "n/a"]]
      shownLines (table ["Property", "Value"] (rows ++ detail))
  | .text =>
      if check.available then
        shownLines [check.executable ++ " is available (" ++
          check.version.getD "unknown version" ++ ")"]
      else
        let detail : List Text := match check.detail with
          | some detail => ["  " ++ detail]
          | none => []
        shownLines ((check.executable ++ " is not usable") :: detail)

/-- The value of a setting as readers see it. -/
def settingText (settings : Settings) (key : Settings.Key) : Text :=
  match settings.value key with
  | .string text => text
  | .null => "(unset)"
  | other => other.pretty 0

def showSettings (format : Format) (path : Text) (settings : Settings) : Text :=
  let rows := Settings.Key.all.map fun key => (key.name, settingText settings key)
  match format with
  | .json => shownJson settings.toJson
  | .markdown =>
      shownLines (["Settings file: " ++ code path, []] ++
        table ["Setting", "Value"] (rows.map fun (name, value) => [name, value]))
  | .text =>
      shownLines (("Settings file: " ++ path) :: rows.map fun (name, value) =>
        "  " ++ name ++ ": " ++ value)

end ShaderCost.CommandLine
