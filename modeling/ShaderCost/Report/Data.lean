import ShaderCost.Json.Value
import ShaderCost.Report.Document

/-!
The report as data, for programs that read it. Suggestions keep the order of their rules.
-/

namespace ShaderCost

def Metrics.toJson (metrics : Metrics) : JsonValue :=
  .object [
    ("work_registers", .integer metrics.workRegisters),
    ("uniform_registers", .integer metrics.uniformRegisters),
    ("sixteen_bit_arithmetic", .float metrics.sixteenBitArithmetic),
    ("total_cycles", .float metrics.totalCycles),
    ("shortest_path_cycles", .float metrics.shortestPathCycles),
    ("longest_path_cycles", .float metrics.longestPathCycles),
    ("bottleneck_unit", .string metrics.bottleneckUnit),
    ("architecture", .string metrics.architecture),
    ("has_stack_spilling", .bool metrics.stackSpilling),
    ("has_uniform_computation", .bool metrics.uniformComputation),
    ("has_side_effects", .bool metrics.sideEffects),
    ("modifies_coverage", .bool metrics.modifiesCoverage),
    ("uses_late_zs_test", .bool metrics.lateDepthTest),
    ("uses_late_zs_update", .bool metrics.lateDepthUpdate),
    ("reads_color_buffer", .bool metrics.readsColorBuffer)]

def Suggestion.toJson (suggestion : Suggestion) : JsonValue :=
  .object [
    ("priority", .string suggestion.priority.name),
    ("category", .string suggestion.category),
    ("issue", .string suggestion.issue),
    ("suggestion", .string suggestion.remedy),
    ("expected_impact", .string suggestion.impact)]

def Outcome.toJson : Outcome → JsonValue
  | analyzed => .object [("status", .string "analyzed")]
  | failed reason output =>
      .object [("status", .string "failed"), ("reason", .string reason), ("output", .string output)]

/-- A stage that was not read from a file has no path. -/
def StageAnalysis.toJson (analysis : StageAnalysis) : JsonValue :=
  let path : List (Text × JsonValue) := match analysis.sourcePath with
    | some path => [("source_path", .string path)]
    | none => []
  let findings : List (Text × JsonValue) :=
    [("outcome", analysis.outcome.toJson), ("metrics", analysis.metrics.toJson)]
  .object (("stage".toList, .string analysis.stage.word) :: (path ++ findings))

def Dump.VariantKey.toJson (key : Dump.VariantKey) : JsonValue :=
  .object [("pass_name", .string key.passName), ("keywords", .string key.keywords)]

def VariantAnalysis.toJson (analysis : VariantAnalysis) : JsonValue :=
  let variant : List (Text × JsonValue) := match analysis.variant with
    | some key => [("variant", key.toJson)]
    | none => []
  let findings : List (Text × JsonValue) := [
    ("vertex", analysis.vertex.toJson),
    ("fragment", analysis.fragment.toJson),
    ("suggestions", .list (analysis.suggestions.map Suggestion.toJson))]
  .object (variant ++ findings)

/-- A text, or nothing. -/
def JsonValue.textOrNull : Option Text → JsonValue
  | some text => .string text
  | none => .null

namespace Report

def data (header : Header) (analyses : List VariantAnalysis) : JsonValue :=
  .object [
    ("shader", .string header.shader),
    ("gpu_model", .textOrNull header.gpuModel),
    ("generated_at", .string header.generatedAt.timestamp),
    ("variants", .list (analyses.map VariantAnalysis.toJson))]

end Report

end ShaderCost
