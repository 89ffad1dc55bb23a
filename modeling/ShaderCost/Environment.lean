import ShaderCost.Files.Path

/-!
Environment variables, and the per-user directories that follow from them.
-/

namespace ShaderCost

structure Environment where
  bindings : List (Text × Text)

namespace Environment

def get? (environment : Environment) (name : Text) : Option Text :=
  environment.bindings.lookup name

/-- Sets a variable. One that was set before keeps its place in the list. -/
def set (environment : Environment) (name value : Text) : Environment :=
  if (environment.get? name).isSome then
    ⟨environment.bindings.map fun entry => if entry.1 = name then (name, value) else entry⟩
  else ⟨environment.bindings ++ [(name, value)]⟩

/-- A base directory: an absolute path in its own variable, or else a directory in the home. -/
def baseDirectory? (environment : Environment) (name inHome : Text) : Option Text :=
  match (environment.get? name).filter Path.isAbsolute with
  | some directory => some directory
  | none =>
      ((environment.get? "HOME").filter fun home => !home.isEmpty).map fun home =>
        Path.join home inHome

def applicationName : Text := "shader-perf"

/-- The directory for the program's data. -/
def dataDirectory? (environment : Environment) : Option Text :=
  (environment.baseDirectory? "XDG_DATA_HOME" ".local/share").map fun base =>
    Path.join base applicationName

/-- The directory for the program's configuration. -/
def configDirectory? (environment : Environment) : Option Text :=
  (environment.baseDirectory? "XDG_CONFIG_HOME" ".config").map fun base =>
    Path.join base applicationName

end Environment

end ShaderCost
