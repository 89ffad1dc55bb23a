import ShaderCost.Batch
import ShaderCost.CommandLine.Listing
import ShaderCost.Compiler.Process
import ShaderCost.Settings.Store

/-!
What each command does. A command reads and changes a file tree, and ends with what it shows or
with the trouble it ran into; what it wrote before the trouble stays.
-/

namespace ShaderCost.CommandLine

inductive Trouble where
  | settingsNotLoaded (path : Text) (cause : SettingsError)
  | settingsNotSaved (path : Text) (cause : SettingsError)
  | settingRefused (cause : SettingsError)
  | unreadable (path : Text) (cause : FileError)
  | notSaved (cause : SaveError)
  | notAnalyzed (shader : Text) (cause : Batch.Failure)
  | compilerUnusable (executable : Text)
  deriving DecidableEq

namespace Trouble

/-- What went wrong and why, outermost first. -/
def chain : Trouble → List Text
  | settingsNotLoaded path cause =>
      ("failed to load settings from " ++ Text.quoted path) :: cause.chain
  | settingsNotSaved path cause =>
      ("failed to save settings to " ++ Text.quoted path) :: cause.chain
  | settingRefused cause => cause.chain
  | unreadable path cause => ["failed to read " ++ Text.quoted path, cause.message]
  | notSaved cause => cause.chain
  | notAnalyzed shader cause => ("analysis of `" ++ shader ++ "` failed") :: cause.chain
  | compilerUnusable executable => ["offline compiler `" ++ executable ++ "` is not usable"]

/-- A cause with its lines after the first as far in as its own text. -/
def indented (start : Text) (cause : Text) : Text :=
  start ++ cause.flatMap fun c =>
    if c = '\n' then c :: List.replicate start.length ' ' else [c]

/-- The causes of a trouble, numbered if there are several. -/
def causeLines : List Text → List Text
  | [cause] => [indented "    " cause]
  | causes => causes.zipIdx.map fun (cause, index) =>
      let number := Text.ofNat index
      indented (List.replicate (5 - number.length) ' ' ++ number ++ ": ") cause

def text (trouble : Trouble) : Text :=
  match trouble.chain with
  | [] => "Error: \n"
  | [message] => "Error: " ++ message ++ "\n"
  | message :: causes =>
      "Error: " ++ message ++ "\n\nCaused by:\n" ++ shownLines (causeLines causes)

end Trouble

/-- What a command needs to know beside the files. -/
structure Surroundings where
  environment : Environment
  now : Calendar.Moment

/-- What a command shows, and the trouble that it tells of after that. -/
structure Reply where
  output : Text
  /-- What is said beside the output. -/
  notice : Text
  trouble : Option Trouble
  deriving DecidableEq

def Reply.silent : Reply := ⟨[], [], none⟩

def Reply.ofOutput (output : Text) : Reply := ⟨output, [], none⟩

abbrev Work := Filing Trouble

/-- Takes over work that names its own failures. -/
def carryOut {ε α : Type} (explain : ε → Trouble) (work : Filing ε α) : Work α :=
  ExceptT.adapt explain work

def readFile (path : Text) : Work Text :=
  Filing.look (Trouble.unreadable path) fun tree => tree.readText path

/-- Settings with a model in place of their own. A name of the catalogue is taken in its full
form, any other as it is. -/
def withGpu (settings : Settings) : Option Text → Settings
  | none => settings
  | some name =>
      { settings with gpuModel := some (((Gpu.Model.find? name).map Gpu.Model.name).getD name) }

/-- The name that a file gives to a shader. -/
def shaderOf (path : Text) : Text := (Path.fileStem? path).getD "shader"

/-- The compiler as settings call it. -/
def compilerOf (surroundings : Surroundings) (settings : Settings) : Compiler.Run :=
  Compiler.run surroundings.environment settings.compilerConfig

/-- Saves the report of analyses if that is wanted, and shows them. -/
def present (surroundings : Surroundings) (invocation : Invocation) (settings : Settings)
    (shader : Text) (saves : Bool) (analyses : List VariantAnalysis) : Work Reply := do
  let header : Report.Header := ⟨shader, settings.gpuModel, surroundings.now⟩
  let mut notice : Text := []
  if saves then
    let path ← carryOut Trouble.notSaved (saveReport settings.outputDirectory shader
      (Report.document header analyses) surroundings.now)
    notice := "Report saved to " ++ path ++ "\n"
  if invocation.quiet then return .silent
  else return ⟨showAnalyses invocation.format header analyses, notice, none⟩

/-- Writes the stage sources of variants, each under the stem that its place gives it. -/
def extractVariants (directory : Text) (variants : List Dump.Variant) : Work (List Extracted) :=
  variants.zipIdx.mapM fun (variant, index) => do
    let paths ← carryOut Trouble.notSaved (saveStagePair directory (variant.fileStem index)
      variant.vertexSource variant.fragmentSource)
    return ⟨variant.label, paths⟩

/-- Changes one setting and saves all of them. -/
def changeSetting (path : Text) (settings : Settings) (key value : Text) : Work Settings := do
  match settings.set key value with
  | .error cause => throw (.settingRefused cause)
  | .ok changed =>
      carryOut (Trouble.settingsNotSaved path) (Settings.save path changed)
      return changed

/-- Carries out a command under settings that were loaded from a path. -/
def perform (surroundings : Surroundings) (invocation : Invocation) (path : Text)
    (settings : Settings) : Work Reply := do
  let shown (output : Format → Text) : Reply :=
    if invocation.quiet then .silent else .ofOutput (output invocation.format)
  match invocation.command with
  | .extract dump directory => do
      let variants := Dump.select (Dump.variants (← readFile dump)) true
      let extracted ← extractVariants directory variants
      return shown fun format => showExtracted format extracted
  | .analyze vertex fragment gpu saves => do
      let settings := withGpu settings gpu
      let analysis ← Batch.analyzeFiles (compilerOf surroundings settings) none vertex fragment
      present surroundings invocation settings (shaderOf vertex) saves [analysis]
  | .shader name dumpDirectory platform allVariants gpu workDirectory saves => do
      let settings := withGpu settings gpu
      let settings :=
        { settings with includeAllVariants := settings.includeAllVariants || allVariants }
      let analyses ← carryOut (Trouble.notAnalyzed name)
        (Batch.analyzeShader (compilerOf surroundings settings)
          (Batch.Options.ofSettings settings workDirectory) dumpDirectory name platform)
      present surroundings invocation settings name saves analyses
  | .inspect vertexReport fragmentReport => do
      let vertex ← readFile vertexReport
      let fragment ← readFile fragmentReport
      present surroundings invocation settings (shaderOf vertexReport) false
        [.ofReports vertex fragment]
  | .gpus architecture =>
      let models := match architecture with
        | some architecture => Gpu.Model.ofArchitecture architecture
        | none => Gpu.Model.all
      return shown fun format => showModels format models
  | .check => do
      let config := settings.compilerConfig
      let check := Check.ofRun config.executable
        (← Compiler.version surroundings.environment config)
      let reply := shown fun format => showCheck format check
      if check.available then return reply
      else return { reply with trouble := some (.compilerUnusable check.executable) }
  | .showSettings => return shown fun format => showSettings format path settings
  | .changeSetting key value => do
      let settings ← changeSetting path settings key value
      return shown fun format => showSettings format path settings
  | .completions _ => return .silent

/-- The files that a command may read, beside the settings and the compiler. -/
def Command.inputs : Command → List Text
  | extract dump _ => [dump]
  | analyze vertex fragment _ _ => [vertex, fragment]
  | shader name dumpDirectory _ _ _ _ _ => Dump.candidates dumpDirectory name
  | inspect vertexReport fragmentReport => [vertexReport, fragmentReport]
  | _ => []

/-- The settings file that an invocation uses. -/
def Invocation.settingsFile (invocation : Invocation) (environment : Environment) : Text :=
  invocation.settingsPath.getD (Settings.defaultPath environment)

/-- Loads the settings and carries out an invocation under them. -/
def run (surroundings : Surroundings) (invocation : Invocation) : Work Reply := do
  let path := invocation.settingsFile surroundings.environment
  match Settings.load (← get) surroundings.environment path with
  | .error cause => throw (.settingsNotLoaded path cause)
  | .ok settings => perform surroundings invocation path settings

/-- What a run of the program shows and the code that it exits with. -/
structure Ending where
  exitCode : Nat
  output : Text
  errorOutput : Text
  deriving DecidableEq

namespace Ending

def ofTrouble (trouble : Trouble) : Ending := ⟨1, [], trouble.text⟩

def ofReply (reply : Reply) : Ending :=
  match reply.trouble with
  | none => ⟨0, reply.output, reply.notice⟩
  | some trouble => ⟨1, reply.output, reply.notice ++ trouble.text⟩

def usage : Text :=
  "Usage: shader-perf [--format json|markdown|text] [--quiet] [--settings PATH] COMMAND\n"

def ofRefusal : Refusal → Ending
  | .usage => ⟨2, [], usage⟩
  | .helpWanted => ⟨0, usage, []⟩
  | .versionWanted => ⟨0, "shader-perf 1.0.0\n", []⟩

end Ending

/-- The surroundings in which an invocation is carried out. -/
def Surroundings.forInvocation (surroundings : Surroundings) (invocation : Invocation) :
    Surroundings :=
  if invocation.isPlain then
    { surroundings with environment := surroundings.environment.set "NO_COLOR" "1" }
  else surroundings

/-- A run of the program on its words. -/
def execute (surroundings : Surroundings) (words : List Text) (tree : FileTree) :
    Ending × FileTree :=
  match Invocation.ofWords words with
  | .error refusal => (.ofRefusal refusal, tree)
  | .ok invocation =>
      match (run (surroundings.forInvocation invocation) invocation).run.run tree with
      | (.ok reply, after) => (.ofReply reply, after)
      | (.error trouble, after) => (.ofTrouble trouble, after)

end ShaderCost.CommandLine
