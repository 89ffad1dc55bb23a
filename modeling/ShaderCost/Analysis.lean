import ShaderCost.Compiler.Output
import ShaderCost.Dump.Variant
import ShaderCost.Metrics
import ShaderCost.Suggestion

/-!
Analyses: what is known about one stage after its compiler run, and about one variant after both.
A failed stage is a result like any other, and its figures come from whatever the run printed.
-/

namespace ShaderCost

inductive Outcome where
  | analyzed
  /-- No clean report; `output` is what the compiler printed. -/
  | failed (reason output : Text)
  deriving DecidableEq

structure StageAnalysis where
  stage : Stage
  sourcePath : Option Text
  outcome : Outcome
  metrics : Metrics
  rawReport : Text
  deriving DecidableEq

namespace StageAnalysis

def ofOutput (stage : Stage) (sourcePath : Option Text) (output : Compiler.Output) :
    StageAnalysis :=
  let report := output.reportText
  { stage
    sourcePath
    outcome :=
      if output.isSuccess then .analyzed else .failed output.status.text (Text.trim report)
    metrics := Metrics.ofReport report
    rawReport := report }

/-- The analysis of a report that was saved by an earlier run. -/
def ofReport (stage : Stage) (report : Text) : StageAnalysis :=
  ⟨stage, none, .analyzed, Metrics.ofReport report, report⟩

/-- The analysis of a stage whose compiler run left nothing behind. -/
def ofFailure (stage : Stage) (sourcePath : Option Text) (reason : Text) : StageAnalysis :=
  ⟨stage, sourcePath, .failed reason [], {}, []⟩

/-- The analysis of one compiler run, whatever came of it. -/
def ofRun (stage : Stage) (path : Text) : Except Compiler.Failure Compiler.Output → StageAnalysis
  | .ok output => ofOutput stage (some path) output
  | .error failure => ofFailure stage (some path) failure.message

def isSuccess (analysis : StageAnalysis) : Bool := analysis.outcome = .analyzed

end StageAnalysis

structure VariantAnalysis where
  variant : Option Dump.VariantKey
  vertex : StageAnalysis
  fragment : StageAnalysis
  suggestions : List Suggestion
  deriving DecidableEq

namespace VariantAnalysis

def ofStages (variant : Option Dump.VariantKey) (vertex fragment : StageAnalysis) :
    VariantAnalysis :=
  ⟨variant, vertex, fragment, Suggestion.forMetrics vertex.metrics fragment.metrics⟩

/-- The analysis of two saved reports. -/
def ofReports (vertexReport fragmentReport : Text) : VariantAnalysis :=
  ofStages none (.ofReport .vertex vertexReport) (.ofReport .fragment fragmentReport)

def stages (analysis : VariantAnalysis) : List StageAnalysis :=
  [analysis.vertex, analysis.fragment]

def isSuccess (analysis : VariantAnalysis) : Bool :=
  analysis.vertex.isSuccess && analysis.fragment.isSuccess

end VariantAnalysis

end ShaderCost
