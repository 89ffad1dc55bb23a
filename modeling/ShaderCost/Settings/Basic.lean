import ShaderCost.Compiler.Output
import ShaderCost.Files.Tree
import ShaderCost.Json.Value
import ShaderCost.Text.Numeral
import ShaderCost.Environment
import ShaderCost.Text.Character
import ShaderCost.Text.Quoted

/-!
The settings of an analysis run. Each of them has a key by which users change it; a change gives
the value as text, and one that cannot be read leaves all settings as they were.
-/

namespace ShaderCost

structure Settings where
  compilerPath : Text
  gpuModel : Option Text
  verbose : Bool
  outputDirectory : Text
  timeoutSeconds : Nat
  includeAllVariants : Bool
  deriving DecidableEq

/-- A value that does not have the type of its key. A table has no place of origin. -/
structure Mistyped where
  key : Text
  found : Text
  expected : Text
  origin : Option Text
  deriving DecidableEq

inductive SettingsError where
  | unknownKey (key : Text)
  | invalidValue (key value : Text)
  | file (path : Text) (cause : FileError)
  /-- The text of the file at the origin is not JSON. -/
  | malformed (origin problem : Text)
  /-- The file at the origin holds something else than an object. -/
  | notObject (origin found : Text)
  | mistyped (problem : Mistyped)
  deriving DecidableEq

def Mistyped.message (problem : Mistyped) : Text :=
  "invalid type: " ++ problem.found ++ ", expected " ++ problem.expected ++ " for key `" ++
    problem.key ++ "`" ++ match problem.origin with
      | some origin => " in " ++ origin
      | none => []

namespace SettingsError

/-- What the loader says of a file. -/
def loaderText (origin problem : Text) : Text := problem ++ " in " ++ origin

/-- What the loader says of a file that holds something else than an object. -/
def notObjectText (origin found : Text) : Text :=
  loaderText origin (loaderText origin ("invalid type: " ++ found ++ ", expected a map"))

def message : SettingsError → Text
  | unknownKey key => "unknown setting `" ++ key ++ "`"
  | invalidValue key value => "invalid value `" ++ value ++ "` for setting `" ++ key ++ "`"
  | file path cause =>
      "failed to access settings file " ++ Text.quoted path ++ ": " ++ cause.message
  | malformed origin problem => "failed to load settings: " ++ loaderText origin problem
  | notObject origin found => "failed to load settings: " ++ notObjectText origin found
  | mistyped problem => "failed to load settings: " ++ problem.message

/-- What went wrong and why, outermost first. -/
def chain : SettingsError → List Text
  | file path cause => [message (file path cause), cause.message]
  | malformed origin problem =>
      [message (malformed origin problem), loaderText origin problem]
  | notObject origin found => [message (notObject origin found), notObjectText origin found]
  | mistyped problem => [message (mistyped problem), problem.message]
  | error => [error.message]

end SettingsError

namespace Settings

inductive Key where
  | compilerPath
  | gpuModel
  | verbose
  | outputDirectory
  | timeoutSeconds
  | includeAllVariants
  deriving DecidableEq

namespace Key

/-- The order in which settings are shown and saved. -/
def all : List Key :=
  [compilerPath, gpuModel, verbose, outputDirectory, timeoutSeconds, includeAllVariants]

def name : Key → Text
  | compilerPath => "compiler_path"
  | gpuModel => "gpu_model"
  | verbose => "verbose"
  | outputDirectory => "output_dir"
  | timeoutSeconds => "timeout_secs"
  | includeAllVariants => "include_all_variants"

def ofName? (text : Text) : Option Key := all.find? fun key => key.name = text

end Key

def defaultTimeout : Nat := 30

/-- Where reports go unless the settings say otherwise. -/
def defaultOutputDirectory (environment : Environment) : Text :=
  match environment.dataDirectory? with
  | some directory => Path.join directory "reports"
  | none => "shader-reports"

def default (environment : Environment) : Settings :=
  ⟨"malioc", none, false, defaultOutputDirectory environment, defaultTimeout, false⟩

/-- Yes or no in one of four words each, in any case. -/
def readBool? (word : Text) : Option Bool :=
  if word = "1" || word = "true" || word = "yes" || word = "on" then some true
  else if word = "0" || word = "false" || word = "no" || word = "off" then some false
  else none

/-- Counts of seconds fit 64 bits. -/
def timeoutLimit : Nat := twoTo 64

/-- Changes one setting, when the text can be read as its value. An empty model name unsets the
model; a timeout of zero is no value. -/
def update? (settings : Settings) (value : Text) : Key → Option Settings
  | .compilerPath => some { settings with compilerPath := value }
  | .gpuModel =>
      let name := Text.trim value
      some { settings with gpuModel := if name.isEmpty then none else some name }
  | .verbose =>
      (readBool? (Text.toLower (Text.trim value))).map fun verbose =>
        { settings with verbose := verbose }
  | .outputDirectory => some { settings with outputDirectory := value }
  | .timeoutSeconds =>
      ((Text.signedNatBelow? timeoutLimit (Text.trim value)).filter (0 < ·)).map fun seconds =>
        { settings with timeoutSeconds := seconds }
  | .includeAllVariants =>
      (readBool? (Text.toLower (Text.trim value))).map fun includeAll =>
        { settings with includeAllVariants := includeAll }

def set (settings : Settings) (key value : Text) : Except SettingsError Settings :=
  match Key.ofName? key with
  | none => .error (.unknownKey key)
  | some known =>
      match settings.update? value known with
      | none => .error (.invalidValue key value)
      | some changed => .ok changed

/-- How the compiler is called under these settings; it gets at least one second. -/
def compilerConfig (settings : Settings) : Compiler.Config :=
  { executable := settings.compilerPath
    timeoutMillis := 1000 * max settings.timeoutSeconds 1
    gpuModel := settings.gpuModel
    verbose := settings.verbose }

/-- The value of one setting as data. -/
def value (settings : Settings) : Key → JsonValue
  | .compilerPath => .string settings.compilerPath
  | .gpuModel => match settings.gpuModel with
      | some name => .string name
      | none => .null
  | .verbose => .bool settings.verbose
  | .outputDirectory => .string settings.outputDirectory
  | .timeoutSeconds => .integer settings.timeoutSeconds
  | .includeAllVariants => .bool settings.includeAllVariants

def toJson (settings : Settings) : JsonValue :=
  .object (Key.all.map fun key => (key.name, settings.value key))

end Settings

end ShaderCost
