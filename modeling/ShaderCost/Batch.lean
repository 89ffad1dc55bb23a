import ShaderCost.Analysis
import ShaderCost.Dump.Source
import ShaderCost.Files.Saved
import ShaderCost.Settings.Basic

/-!
Batch analysis: every selected variant of a dump has its stage sources written to files and
compiled. A compiler run that fails is a result of its stage alone; only a file that cannot be
written stops the batch.
-/

namespace ShaderCost

namespace Batch

structure Options where
  workDirectory : Text
  includeAllVariants : Bool
  /-- How many variants may be under way at once. -/
  concurrency : Nat
  deriving DecidableEq

def defaultConcurrency : Nat := 4

namespace Options

/-- The options that follow from settings: stage files go below the reports unless another
directory is given. -/
def ofSettings (settings : Settings) (workDirectory : Option Text) : Options :=
  ⟨workDirectory.getD (Path.join settings.outputDirectory "stages"),
    settings.includeAllVariants, defaultConcurrency⟩

/-- At least one variant is under way. -/
def window (options : Options) : Nat := max options.concurrency 1

end Options

inductive Failure where
  | source (shader : Text) (cause : Dump.SourceError)
  | files (variant : Dump.VariantKey) (cause : SaveError)
  deriving DecidableEq

/-- What went wrong and why, outermost first. -/
def Failure.chain : Failure → List Text
  | source shader cause =>
      ("failed to obtain compiled source for `" ++ shader ++ "`") :: cause.chain
  | files variant cause =>
      ("failed to write stage files for variant " ++ variant.label) :: cause.chain

/-- Runs the compiler on one stage file. -/
def analyzeStage (compile : Compiler.Run) (stage : Stage) (path : Text) :
    StateM FileTree StageAnalysis := do
  return .ofRun stage path (← compile path)

/-- Runs the compiler on two stage files as they are. -/
def analyzeFiles (compile : Compiler.Run) (variant : Option Dump.VariantKey)
    (vertexPath fragmentPath : Text) : StateM FileTree VariantAnalysis := do
  let vertex ← analyzeStage compile .vertex vertexPath
  let fragment ← analyzeStage compile .fragment fragmentPath
  return .ofStages variant vertex fragment

/-- Writes the sources of a variant and runs the compiler on them. -/
def analyzeVariant (compile : Compiler.Run) (workDirectory : Text) (variant : Dump.Variant)
    (stem : Text) : Filing Failure VariantAnalysis := do
  let paths ← ExceptT.adapt (Failure.files variant.key)
    (saveStagePair workDirectory stem variant.vertexSource variant.fragmentSource)
  analyzeFiles compile (some variant.key) paths.vertex paths.fragment

/-- Analyses variants in order, each under the stem that its place gives it. -/
def analyzeVariants (compile : Compiler.Run) (workDirectory : Text)
    (variants : List Dump.Variant) : Filing Failure (List VariantAnalysis) :=
  variants.zipIdx.mapM fun (variant, index) =>
    analyzeVariant compile workDirectory variant (variant.fileStem index)

/-- The variants of a dump that a batch takes up. -/
def selected (options : Options) (text : Text) : List Dump.Variant :=
  Dump.select (Dump.variants text) options.includeAllVariants

def analyzeDump (compile : Compiler.Run) (options : Options) (text : Text) :
    Filing Failure (List VariantAnalysis) :=
  analyzeVariants compile options.workDirectory (selected options text)

/-- Fetches the dump of a shader and analyses it. -/
def analyzeShader (compile : Compiler.Run) (options : Options) (dumpDirectory shader : Text)
    (platform : Platform) : Filing Failure (List VariantAnalysis) := do
  match Dump.fetch (← get) dumpDirectory shader platform with
  | .error cause => throw (.source shader cause)
  | .ok text => analyzeDump compile options text

end Batch

end ShaderCost
