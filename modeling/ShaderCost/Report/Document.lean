import ShaderCost.Analysis
import ShaderCost.Binary64.Decimal
import ShaderCost.Calendar.Moment
import ShaderCost.Text.Basic

/-!
The report as a Markdown document: a header, then for each variant both stages as tables of
figures and the ranked suggestions. Output captured from a failed run stands in a code fence. Texts
are put into the pieces of Markdown as they are; nothing is escaped. The same report in a few lines
has one line for each stage and one for each suggestion.
-/

namespace ShaderCost.Markdown

/-- A heading; level zero counts as level one. -/
def heading (level : Nat) (text : Text) : Text := List.replicate (max level 1) '#' ++ " " ++ text

def bold (label value : Text) : Text := "**" ++ label ++ ":** " ++ value

def bullet (label value : Text) : Text := "- " ++ bold label value

def tableRow (cells : List Text) : Text := "| " ++ List.intercalate " | ".toList cells ++ " |"

/-- The column titles and the rule below them. -/
def tableHeader (columns : List Text) : List Text :=
  [tableRow columns, "|" ++ (List.replicate columns.length " --- |".toList).flatten]

def yesNo (value : Bool) : Text := if value then "yes" else "no"

end ShaderCost.Markdown

namespace ShaderCost.Report

structure Header where
  shader : Text
  /-- The model that the compiler was told to use, if any. -/
  gpuModel : Option Text
  generatedAt : Calendar.Moment
  deriving DecidableEq

def orNotAvailable (value : Text) : Text := if value.isEmpty then "n/a" else value

/-- The figures of a stage in the order in which they are shown, with their texts. -/
def figures (metrics : Metrics) : List (Text × Text) :=
  let measured : List (Text × Text) := [
    ("Architecture", orNotAvailable metrics.architecture),
    ("Work registers", Text.ofNat metrics.workRegisters),
    ("Uniform registers", Text.ofNat metrics.uniformRegisters),
    ("16-bit arithmetic", metrics.sixteenBitArithmetic.toFixed 1 ++ "%"),
    ("Total instruction cycles", metrics.totalCycles.toFixed 2),
    ("Shortest path cycles", metrics.shortestPathCycles.toFixed 2),
    ("Longest path cycles", metrics.longestPathCycles.toFixed 2),
    ("Bottleneck unit", orNotAvailable metrics.bottleneckUnit),
    ("Stack spilling", Markdown.yesNo metrics.stackSpilling)]
  measured ++ Property.all.map fun property =>
    (property.label, Markdown.yesNo (metrics.has property))

/-- What a document says of a failed run before the figures. -/
def failureLines : Outcome → List Text
  | .analyzed => []
  | .failed reason output =>
      let fence : List Text := if output.isEmpty then [] else ["```text", output, "```", []]
      ("> Analysis failed (" ++ reason ++ ")") :: [] :: fence

def stageLines (level : Nat) (analysis : StageAnalysis) : List Text :=
  [[], Markdown.heading level (analysis.stage.title ++ " Shader"), []] ++
    failureLines analysis.outcome ++
    Markdown.tableHeader ["Metric", "Value"] ++
    (figures analysis.metrics).map fun (label, value) => Markdown.tableRow [label, value]

def suggestionLines (level : Nat) (suggestion : Suggestion) : List Text :=
  [ Markdown.heading (level + 1)
      (suggestion.priority.icon ++ " [" ++ suggestion.priority.label ++ "] " ++
        suggestion.category),
    Markdown.bullet "Issue" suggestion.issue,
    Markdown.bullet "Suggestion" suggestion.remedy,
    Markdown.bullet "Expected impact" suggestion.impact ]

/-- The ranked suggestions, with an empty line between any two. -/
def suggestionsLines (level : Nat) (suggestions : List Suggestion) : List Text :=
  let blocks := (Suggestion.rank suggestions).map (suggestionLines level)
  [[], Markdown.heading level "Optimization Suggestions", []] ++
    if suggestions.isEmpty then ["No optimization opportunities detected.".toList]
    else List.intercalate [[]] blocks

def analysisLines (analysis : VariantAnalysis) : List Text :=
  let title := match analysis.variant with
    | some key => [[], Markdown.heading 2 ("Variant: " ++ key.label)]
    | none => []
  let level := if analysis.variant.isSome then 3 else 2
  title ++ stageLines level analysis.vertex ++ stageLines level analysis.fragment ++
    suggestionsLines level analysis.suggestions

def headerLines (header : Header) : List Text :=
  [ Markdown.heading 1 "Shader Performance Report",
    [],
    Markdown.bold "Shader" header.shader,
    Markdown.bold "GPU Model" (header.gpuModel.getD "Auto-detect"),
    Markdown.bold "Generated" header.generatedAt.timestamp ]

def emptyLines (analyses : List VariantAnalysis) : List Text :=
  if analyses.isEmpty then [[], "No shader variants were analyzed."] else []

def document (header : Header) (analyses : List VariantAnalysis) : Text :=
  Text.joinLines (headerLines header ++ emptyLines analyses ++ analyses.flatMap analysisLines) ++
    "\n"

end ShaderCost.Report

namespace ShaderCost.Report

/-- The figures of a stage on one line. -/
def figuresLine (metrics : Metrics) : Text :=
  "registers " ++ Text.ofNat metrics.workRegisters ++ "/" ++ Text.ofNat metrics.uniformRegisters ++
    ", 16-bit " ++ metrics.sixteenBitArithmetic.toFixed 1 ++ "%, cycles " ++
    metrics.totalCycles.toFixed 2 ++ "/" ++ metrics.shortestPathCycles.toFixed 2 ++ "/" ++
    metrics.longestPathCycles.toFixed 2 ++ ", bound " ++ orNotAvailable metrics.bottleneckUnit

def stageLine (analysis : StageAnalysis) : Text :=
  let failure : Text := match analysis.outcome with
    | .analyzed => []
    | .failed reason _ => "failed (" ++ reason ++ "); "
  "  " ++ analysis.stage.title ++ ": " ++ failure ++ figuresLine analysis.metrics

def suggestionLine (suggestion : Suggestion) : Text :=
  "  [" ++ suggestion.priority.label ++ "] " ++ suggestion.category ++ ": " ++ suggestion.issue

def analysisSummary (analysis : VariantAnalysis) : List Text :=
  let title : List Text := match analysis.variant with
    | some key => ["Variant " ++ key.label]
    | none => []
  let nothing : List Text := if analysis.suggestions.isEmpty then ["  no suggestions"] else []
  title ++ analysis.stages.map stageLine ++ nothing ++
    (Suggestion.rank analysis.suggestions).map suggestionLine

def summary (header : Header) (analyses : List VariantAnalysis) : Text :=
  let title : Text :=
    header.shader ++ " (" ++ header.gpuModel.getD "auto-detected GPU" ++ ")"
  let nothing : List Text := if analyses.isEmpty then ["  no variants analyzed"] else []
  Text.joinLines (title :: nothing ++ analyses.flatMap analysisSummary) ++ "\n"

end ShaderCost.Report
