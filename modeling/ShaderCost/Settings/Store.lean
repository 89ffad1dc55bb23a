import ShaderCost.Json.Flaw
import ShaderCost.Settings.Layer

/-!
Settings on file. The file is a JSON object; environment variables whose names start with
`SHADER_PERF_` go over it. Saving writes every setting.
-/

namespace ShaderCost.Settings

/-- The places of a settings file: the path itself, and `.json` after its last name, if it has
one. -/
def candidates (path : Text) : List Text :=
  path :: (Path.withExtension? "json" path).toList

/-- The first of the places that holds a file. -/
def fileFor? (tree : FileTree) (path : Text) : Option Text :=
  (candidates path).find? tree.isFile

/-- A path as it is shown as the place of origin: relative, without empty names and single
dots. -/
def originOf (path : Text) : Text :=
  let shown := List.intercalate ['/'] ((Path.names path).filter fun name => name != ".")
  if Path.isAbsolute path then '/' :: shown else shown

/-- The last of the members that have the same key. -/
def lastOfEach : List (Text × JsonValue) → List (Text × JsonValue)
  | [] => []
  | entry :: rest =>
      if (rest.lookup entry.1).isSome then lastOfEach rest else entry :: lastOfEach rest

/-- The layer of a settings file. A file that is missing or no text gives an empty one. -/
def fileLayer (tree : FileTree) (path : Text) : Except SettingsError Layer :=
  match fileFor? tree path with
  | none => .ok ⟨[], []⟩
  | some file =>
      match tree.readText file with
      | .error _ => .ok ⟨[], []⟩
      | .ok text =>
          match JsonValue.ofText? text with
          | some (.object members) =>
              .ok ⟨originOf file, (lastOfEach members).map fun (key, value) =>
                (key, LayerValue.ofJson value)⟩
          | some value => .error (.notObject (originOf file) (LayerValue.ofJson value).description)
          | none =>
              let problem := (JsonValue.flaw? text).elim [] fun flaw => flaw.message text
              .error (.malformed (originOf file) problem)

def variableStart : Text := "shader_perf_"

/-- The usual names of the variables that settings are read from. -/
def variableNames : List Text :=
  ("settings".toList :: Key.all.map Key.name).map fun name =>
    Text.toUpper (variableStart ++ name)

/-- The layer of the environment. -/
def environmentLayer (environment : Environment) : Layer :=
  ⟨"the environment", environment.bindings.filterMap fun (name, value) =>
    (Text.after? variableStart (Text.lowercase name)).map fun key =>
      (key, LayerValue.ofVariable value)⟩

def load (tree : FileTree) (environment : Environment) (path : Text) :
    Except SettingsError Settings := do
  let file ← fileLayer tree path
  overlay (default environment) [file, environmentLayer environment]

def save (path : Text) (settings : Settings) : Filing SettingsError Unit := do
  match Path.parent? path with
  | some parent =>
      if parent.isEmpty then pure ()
      else Filing.makeDirectories (SettingsError.file parent) parent
  | none => pure ()
  Filing.writeText (SettingsError.file path) path (settings.toJson.pretty 0)

/-- The settings file that is used when none is named. -/
def defaultPath (environment : Environment) : Text :=
  match (environment.get? "SHADER_PERF_SETTINGS").filter fun path => !path.isEmpty with
  | some path => path
  | none =>
      match environment.configDirectory? with
      | some directory => Path.join directory "settings.json"
      | none => "settings.json"

end ShaderCost.Settings
