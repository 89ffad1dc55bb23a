import ShaderCost.Proofs.Report.Lines

/-!
Captured output in a report. A reader of Markdown goes through the lines of a report: outside of
code fences a line that starts with three backticks opens one, and a line of three backticks alone
closes it again. Output of failed runs stands in a fence as it was captured. It stays there, and
every heading that is read is one of the report's own, as long as no line of it is the one that
closes a fence; nothing keeps such a line from ending the fence that was meant for the output.
-/

namespace ShaderCost

open Text (OneLine)

namespace Report

/-- The line that closes a code fence, and the beginning of one that opens it. -/
def fence : Text := "```"

/-- A reader of Markdown between two lines. -/
structure Reader where
  /-- The headings outside of fences. -/
  headings : List Text
  /-- The lines of each fence that has been closed. -/
  closed : List (List Text)
  /-- The lines of the fence that the reader is in. -/
  current : Option (List Text)

namespace Reader

def step (reader : Reader) (line : Text) : Reader :=
  match reader.current with
  | some content =>
      if line = fence then { reader with closed := reader.closed ++ [content], current := none }
      else { reader with current := some (content ++ [line]) }
  | none =>
      if fence.isPrefixOf line then { reader with current := some [] }
      else if line.head? = some '#' then { reader with headings := reader.headings ++ [line] }
      else reader

def read (lines : List Text) : Reader := lines.foldl step ⟨[], [], none⟩

/-- What stands in fences; one that nothing closes goes on to the end. -/
def fences (reader : Reader) : List (List Text) := reader.closed ++ reader.current.toList

/-- No line that closes a fence stands in one. -/
theorem step_fences {reader : Reader} (free : ∀ content ∈ reader.fences, fence ∉ content)
    (line : Text) : ∀ content ∈ (reader.step line).fences, fence ∉ content := by
  obtain ⟨headings, closed, current⟩ := reader
  obtain ⟨before, inside⟩ := List.forall_mem_append.mp free
  cases current with
  | some content =>
      have here : fence ∉ content := inside content List.mem_cons_self
      rw [step]
      dsimp only
      split
      · exact List.forall_mem_append.mpr ⟨free, List.forall_mem_nil _⟩
      · rename_i other
        refine List.forall_mem_append.mpr ⟨before, List.forall_mem_singleton.mpr ?_⟩
        rw [List.mem_append, List.mem_singleton, not_or]
        exact ⟨here, Ne.symm other⟩
  | none =>
      rw [step]
      dsimp only
      split
      · exact List.forall_mem_append.mpr ⟨before, List.forall_mem_singleton.mpr List.not_mem_nil⟩
      · split <;> exact free

theorem foldl_fences (lines : List Text) {reader : Reader}
    (free : ∀ content ∈ reader.fences, fence ∉ content) :
    ∀ content ∈ (lines.foldl step reader).fences, fence ∉ content := by
  induction lines generalizing reader with
  | nil => exact free
  | cons line lines induction => exact induction (step_fences free line)

theorem read_fences (lines : List Text) : ∀ content ∈ (read lines).fences, fence ∉ content :=
  foldl_fences lines (List.forall_mem_nil _)

theorem step_headings (reader : Reader) (line : Text) :
    reader.headings ⊆ (reader.step line).headings := by
  obtain ⟨headings, closed, current⟩ := reader
  cases current with
  | some content =>
      rw [step]
      dsimp only
      split <;> exact fun _ member => member
  | none =>
      rw [step]
      dsimp only
      split
      · exact fun _ member => member
      · split
        · exact List.subset_append_left _ _
        · exact fun _ member => member

theorem foldl_headings (reader : Reader) (lines : List Text) :
    reader.headings ⊆ (lines.foldl step reader).headings := by
  induction lines generalizing reader with
  | nil => exact fun _ member => member
  | cons line lines induction =>
      exact fun _ member => induction (reader.step line) (step_headings reader line member)

/-- Lines inside of a fence are kept up to one that closes it. -/
theorem foldl_inside {lines : List Text} (free : fence ∉ lines) (headings : List Text)
    (closed : List (List Text)) (content : List Text) :
    lines.foldl step ⟨headings, closed, some content⟩ =
      ⟨headings, closed, some (content ++ lines)⟩ := by
  induction lines generalizing content with
  | nil => rw [List.append_nil]; rfl
  | cons line lines induction =>
      rw [List.mem_cons, not_or] at free
      rw [List.foldl_cons, step]
      dsimp only
      rw [if_neg (Ne.symm free.1), induction free.2, List.append_assoc]
      rfl

/-- Lines outside of fences leave their headings behind. -/
theorem foldl_outside {lines : List Text} (plain : ∀ line ∈ lines, line.head? ≠ some '\x60')
    (headings : List Text) (closed : List (List Text)) :
    lines.foldl step ⟨headings, closed, none⟩ =
      ⟨headings ++ lines.filter fun line => line.head? = some '#', closed, none⟩ := by
  induction lines generalizing headings with
  | nil => rw [List.filter_nil, List.append_nil]; rfl
  | cons line lines induction =>
      rw [List.forall_mem_cons] at plain
      have opens : fence.isPrefixOf line = false := by
        cases line with
        | nil => rfl
        | cons c rest =>
            have other : ('\x60' == c) = false := by
              rw [beq_eq_false_iff_ne]
              exact fun same => plain.1 (congrArg some same.symm)
            exact congrArg (· && _) other
      rw [List.foldl_cons, step]
      dsimp only
      rw [opens, if_neg Bool.false_ne_true]
      split
      · rename_i heading
        rw [induction plain.2, List.filter_cons_of_pos (by simp [heading]), List.append_assoc]
        rfl
      · rename_i other
        rw [induction plain.2, List.filter_cons_of_neg (by simp [other])]

end Reader

/-- Texts that a reader outside of fences takes for the given headings and the given fences. -/
def ReadAs (texts headings : List Text) (fences : List (List Text)) : Prop :=
  ∀ before closed, (texts.flatMap (List.splitOn '\n')).foldl Reader.step ⟨before, closed, none⟩ =
    ⟨before ++ headings, closed ++ fences, none⟩

theorem ReadAs.append {texts more headings others : List Text} {fences behind : List (List Text)}
    (first : ReadAs texts headings fences) (second : ReadAs more others behind) :
    ReadAs (texts ++ more) (headings ++ others) (fences ++ behind) := by
  intro before closed
  rw [List.flatMap_append, List.foldl_append, first, second, List.append_assoc, List.append_assoc]

theorem ReadAs.flatMap {Item : Type} {items : List Item} {texts headings : Item → List Text}
    {fences : Item → List (List Text)}
    (each : ∀ item ∈ items, ReadAs (texts item) (headings item) (fences item)) :
    ReadAs (items.flatMap texts) (items.flatMap headings) (items.flatMap fences) := by
  induction items with
  | nil =>
      intro before closed
      simp only [List.flatMap_nil, List.foldl_nil, List.append_nil]
  | cons item items induction =>
      rw [List.forall_mem_cons] at each
      exact each.1.append (induction each.2)

/-- A line of a report outside of its code fences. -/
structure Plain (line : Text) : Prop where
  single : OneLine line
  first : line.head? ≠ some '\x60'

theorem read_as_plain {lines : List Text} (plain : ∀ line ∈ lines, Plain line) :
    ReadAs lines (lines.filter fun line => line.head? = some '#') [] := by
  intro before closed
  rw [Text.split_lines fun line member => (plain line member).single,
    Reader.foldl_outside fun line member => (plain line member).first, List.append_nil]

theorem read_as_fenced {output : Text} (free : fence ∉ output.splitOn '\n') :
    ReadAs ["```text", output, fence] [] [output.splitOn '\n'] := by
  intro before closed
  have opened : "```text".toList.splitOn '\n' = ["```text".toList] :=
    Text.split_one_line (by decide)
  have ended : fence.splitOn '\n' = [fence] := Text.split_one_line (by decide)
  have opens : Reader.step ⟨before, closed, none⟩ "```text" = ⟨before, closed, some []⟩ := rfl
  simp only [List.flatMap_cons, List.flatMap_nil, opened, ended, List.append_nil, List.foldl_append,
    List.foldl_cons, List.foldl_nil, opens]
  rw [Reader.foldl_inside free, Reader.step]
  rfl

end Report

/-- What a failed run printed, unless it printed nothing. -/
def Outcome.output : Outcome → List Text
  | .analyzed => []
  | .failed _ output => if output.isEmpty then [] else [output]

/-- A stage whose texts are of one line, except for what the compiler printed. -/
structure StageAnalysis.OneLine (analysis : StageAnalysis) : Prop where
  reason : ∀ reason output, analysis.outcome = .failed reason output → Text.OneLine reason
  metrics : analysis.metrics.OneLine

namespace VariantAnalysis

/-- An analysis whose texts are of one line, except for what the compiler printed. -/
structure OneLine (analysis : VariantAnalysis) : Prop where
  label : ∀ key ∈ analysis.variant, Text.OneLine key.label
  vertex : analysis.vertex.OneLine
  fragment : analysis.fragment.OneLine
  suggestions : ∀ suggestion ∈ analysis.suggestions, suggestion.OneLine

def outputs (analysis : VariantAnalysis) : List Text :=
  analysis.vertex.outcome.output ++ analysis.fragment.outcome.output

end VariantAnalysis

theorem Compiler.status_one_line (status : Compiler.Status) : OneLine status.text := by
  have digits (code : Int) : OneLine (Text.ofInt code) := by
    rw [Text.ofInt]
    split <;> simp
  rw [Compiler.Status.text.eq_def]
  split <;> simp [digits]

theorem StageAnalysis.of_output_one_line (stage : Stage) (path : Option Text)
    (output : Compiler.Output) : (ofOutput stage path output).OneLine where
  reason := by
    intro reason printed failed
    rw [ofOutput] at failed
    dsimp only at failed
    split at failed
    · cases failed
    · cases failed
      exact Compiler.status_one_line output.status
  metrics := Metrics.of_report_one_line output.reportText

theorem StageAnalysis.of_report_one_line (stage : Stage) (report : Text) :
    (ofReport stage report).OneLine where
  reason := fun _ _ failed => nomatch failed
  metrics := Metrics.of_report_one_line report

/-- Whatever becomes of a run, only the message that nothing came of it may have several lines. -/
theorem StageAnalysis.of_run_one_line (stage : Stage) (path : Text)
    {result : Except Compiler.Failure Compiler.Output}
    (message : ∀ failure, result = .error failure → Text.OneLine failure.message) :
    (ofRun stage path result).OneLine := by
  cases result with
  | ok output => exact of_output_one_line stage (some path) output
  | error failure =>
      refine ⟨fun reason output failed => ?_, ⟨Text.one_line_nil, Text.one_line_nil⟩⟩
      cases failed
      exact message failure rfl

theorem VariantAnalysis.of_stages_one_line {variant : Option Dump.VariantKey}
    {vertex fragment : StageAnalysis} (label : ∀ key ∈ variant, Text.OneLine key.label)
    (vertexSingle : vertex.OneLine) (fragmentSingle : fragment.OneLine) :
    (ofStages variant vertex fragment).OneLine :=
  ⟨label, vertexSingle, fragmentSingle, Suggestion.for_metrics_one_line⟩

namespace Report

def stageHeading (level : Nat) (analysis : StageAnalysis) : Text :=
  Markdown.heading level (analysis.stage.title ++ " Shader")

def suggestionHeading (level : Nat) (suggestion : Suggestion) : Text :=
  Markdown.heading (level + 1)
    (suggestion.priority.icon ++ " [" ++ suggestion.priority.label ++ "] " ++ suggestion.category)

def bodyHeadings (level : Nat) (analysis : VariantAnalysis) : List Text :=
  [stageHeading level analysis.vertex, stageHeading level analysis.fragment,
      Markdown.heading level "Optimization Suggestions"] ++
    (Suggestion.rank analysis.suggestions).map (suggestionHeading level)

/-- The headings of an analysis: its variant, its stages, and its suggestions as they are ranked. -/
def analysisHeadings (analysis : VariantAnalysis) : List Text :=
  match analysis.variant with
  | some key => Markdown.heading 2 ("Variant: " ++ key.label) :: bodyHeadings 3 analysis
  | none => bodyHeadings 2 analysis

/-- The headings of a report. -/
def ownHeadings (analyses : List VariantAnalysis) : List Text :=
  "# Shader Performance Report" :: analyses.flatMap analysisHeadings

theorem plain_nil : Plain [] := ⟨Text.one_line_nil, by decide⟩

theorem plain_heading (level : Nat) {text : Text} (single : OneLine text) :
    Plain (Markdown.heading level text) := by
  refine ⟨Markdown.heading_one_line.mpr single, ?_⟩
  rw [Markdown.heading_first]
  decide

/-- A heading after an empty line is the one heading of these lines. -/
theorem read_as_heading (level : Nat) {text : Text} (single : OneLine text) {lines : List Text}
    (plain : ∀ line ∈ lines, Plain line) (other : ∀ line ∈ lines, line.head? ≠ some '#') :
    ReadAs ([] :: Markdown.heading level text :: lines) [Markdown.heading level text] [] := by
  have headings : ([] :: Markdown.heading level text :: lines).filter
      (fun line => line.head? = some '#') = [Markdown.heading level text] := by
    rw [List.filter_cons_of_neg (by decide), List.filter_cons_of_pos (by
      simp [Markdown.heading_first])]
    simpa using other
  rw [← headings]
  exact read_as_plain (List.forall_mem_cons.mpr ⟨plain_nil,
    List.forall_mem_cons.mpr ⟨plain_heading level single, plain⟩⟩)

theorem read_as_text {lines : List Text} (plain : ∀ line ∈ lines, Plain line)
    (other : ∀ line ∈ lines, line.head? ≠ some '#') : ReadAs lines [] [] := by
  have none : lines.filter (fun line => line.head? = some '#') = [] := by simpa using other
  rw [← none]
  exact read_as_plain plain

theorem table_line_first {metrics : Metrics} :
    ∀ line ∈ tableLines metrics, line.head? = some '|' := by
  have header : ∀ line ∈ Markdown.tableHeader ["Metric", "Value"], line.head? = some '|' := by
    decide
  refine List.forall_mem_append.mpr ⟨header, List.forall_mem_map.mpr fun figure _ => rfl⟩

theorem read_as_table {metrics : Metrics} (single : metrics.OneLine) :
    ReadAs (tableLines metrics) [] [] := by
  refine read_as_text (fun line member => ⟨table_lines_one_line single line member, ?_⟩)
    fun line member => ?_
  · rw [table_line_first line member]
    decide
  · rw [table_line_first line member]
    decide

theorem read_as_reason {cause : Text} (single : OneLine cause) :
    ReadAs ["> Analysis failed (" ++ cause ++ ")", []] [] [] := by
  have line : OneLine ("> Analysis failed (" ++ cause ++ ")") := by simp [single]
  exact read_as_text (List.forall_mem_cons.mpr ⟨⟨line, by simp⟩,
    List.forall_mem_singleton.mpr plain_nil⟩) (by simp)

theorem read_as_failure {outcome : Outcome}
    (reason : ∀ reason output, outcome = .failed reason output → OneLine reason)
    (free : ∀ output ∈ outcome.output, fence ∉ output.splitOn '\n') :
    ReadAs (failureLines outcome) [] (outcome.output.map (List.splitOn '\n')) := by
  cases outcome with
  | analyzed => exact read_as_text (List.forall_mem_nil _) (List.forall_mem_nil _)
  | failed cause output =>
      have told := read_as_reason (reason cause output rfl)
      rw [Outcome.output] at free ⊢
      rw [failureLines]
      split
      · exact told
      · rename_i filled
        rw [if_neg filled, List.forall_mem_singleton] at free
        have ended : ReadAs [[]] [] [] :=
          read_as_text (List.forall_mem_singleton.mpr plain_nil) (by simp)
        exact told.append ((read_as_fenced free).append ended)

theorem read_as_title (level : Nat) (analysis : StageAnalysis) :
    ReadAs [[], stageHeading level analysis, []] [stageHeading level analysis] [] := by
  have title : OneLine (analysis.stage.title ++ " Shader") := by
    cases analysis.stage <;> decide
  exact read_as_heading level title (List.forall_mem_singleton.mpr plain_nil) (by simp)

theorem read_as_stage (level : Nat) {analysis : StageAnalysis} (single : analysis.OneLine)
    (free : ∀ output ∈ analysis.outcome.output, fence ∉ output.splitOn '\n') :
    ReadAs (stageLines level analysis) [stageHeading level analysis]
      (analysis.outcome.output.map (List.splitOn '\n')) := by
  have whole := (read_as_title level analysis).append ((read_as_failure single.reason free).append
    (read_as_table single.metrics))
  simp only [List.append_nil, List.nil_append] at whole
  rw [stage_lines_eq]
  exact whole

theorem read_as_suggestion (level : Nat) {suggestion : Suggestion} (single : suggestion.OneLine) :
    ReadAs ([] :: suggestionLines level suggestion) [suggestionHeading level suggestion] [] := by
  have texts := suggestion_lines_one_line level single
  rw [suggestionLines, List.forall_mem_cons] at texts
  refine read_as_heading (level + 1) (Markdown.heading_one_line.mp texts.1)
    (fun line member => ⟨texts.2 line member, ?_⟩) ?_
  · revert line
    simp [Markdown.bullet]
  · simp [Markdown.bullet]

theorem read_as_suggestions (level : Nat) {suggestions : List Suggestion}
    (single : ∀ suggestion ∈ suggestions, suggestion.OneLine) :
    ReadAs (suggestionsLines level suggestions)
      (Markdown.heading level "Optimization Suggestions" ::
        (Suggestion.rank suggestions).map (suggestionHeading level)) [] := by
  have name : OneLine "Optimization Suggestions" := by decide
  have title : ReadAs [[], Markdown.heading level "Optimization Suggestions"]
      [Markdown.heading level "Optimization Suggestions"] [] :=
    read_as_heading level name (List.forall_mem_nil _) (List.forall_mem_nil _)
  rw [suggestions_lines_eq]
  split
  · rename_i none
    have nothing : OneLine "No optimization opportunities detected." := by decide
    have told : ReadAs [[], "No optimization opportunities detected."] [] [] :=
      read_as_text (List.forall_mem_cons.mpr ⟨plain_nil,
        List.forall_mem_singleton.mpr ⟨nothing, by decide⟩⟩) (by decide)
    rw [Suggestion.rank_eq_nil.mpr (List.isEmpty_iff.mp none)]
    exact title.append told
  · have ranked := ReadAs.flatMap fun suggestion member =>
      read_as_suggestion level (single suggestion (Suggestion.mem_rank.mp member))
    have none : (Suggestion.rank suggestions).flatMap (fun _ => ([] : List (List Text))) = [] :=
      List.flatMap_eq_nil_iff.mpr fun _ _ => rfl
    rw [none, ← List.map_eq_flatMap] at ranked
    exact title.append ranked

theorem read_as_body (level : Nat) {analysis : VariantAnalysis} (single : analysis.OneLine)
    (free : ∀ output ∈ analysis.outputs, fence ∉ output.splitOn '\n') :
    ReadAs (bodyLines level analysis) (bodyHeadings level analysis)
      (analysis.outputs.map (List.splitOn '\n')) := by
  obtain ⟨vertexFree, fragmentFree⟩ := List.forall_mem_append.mp free
  have whole := (read_as_stage level single.vertex vertexFree).append
    ((read_as_stage level single.fragment fragmentFree).append
      (read_as_suggestions level single.suggestions))
  rw [List.append_nil, ← List.map_append] at whole
  exact whole

/-- An analysis has its own headings, and a fence for whatever a failed run printed. -/
theorem read_as_analysis {analysis : VariantAnalysis} (single : analysis.OneLine)
    (free : ∀ output ∈ analysis.outputs, fence ∉ output.splitOn '\n') :
    ReadAs (analysisLines analysis) (analysisHeadings analysis)
      (analysis.outputs.map (List.splitOn '\n')) := by
  rw [analysisHeadings]
  split
  · rename_i key titled
    have name : OneLine ("Variant: " ++ key.label) := by simp [single.label key titled]
    have title : ReadAs [[], Markdown.heading 2 ("Variant: " ++ key.label)]
        [Markdown.heading 2 ("Variant: " ++ key.label)] [] :=
      read_as_heading 2 name (List.forall_mem_nil _) (List.forall_mem_nil _)
    rw [analysis_lines_titled titled]
    exact title.append (read_as_body 3 single free)
  · rename_i titled
    rw [analysis_lines_plain titled]
    exact read_as_body 2 single free

/-- The lines of a report; the last one is empty. -/
theorem document_split (header : Header) (analyses : List VariantAnalysis) :
    (document header analyses).splitOn '\n' =
      (headerLines header ++ contentLines analyses ++ [[]]).flatMap (List.splitOn '\n') := by
  have ended : Text.below (contentLines analyses) ++ "\n" =
      Text.below (contentLines analyses ++ [[]]) := by
    rw [Text.below_append]
    rfl
  rw [document_eq, ended, ← header_text_eq, headerLines, Text.split_join_below, ← List.append_assoc]

theorem read_as_header {header : Header} (shader : OneLine header.shader)
    (model : ∀ model ∈ header.gpuModel, OneLine model) :
    ReadAs (headerLines header) ["# Shader Performance Report"] [] := by
  have used : OneLine (header.gpuModel.getD "Auto-detect") := by
    cases given : header.gpuModel with
    | none => decide
    | some name => exact model name given
  have time := Calendar.timestamp_one_line header.generatedAt
  have title : Markdown.heading 1 "Shader Performance Report" =
      "# Shader Performance Report".toList := rfl
  have first (label value : Text) : (Markdown.bold label value).head? = some '*' := rfl
  have plain (label value : Text) (name : OneLine label) (single : OneLine value) :
      Plain (Markdown.bold label value) :=
    ⟨Markdown.bold_one_line.mpr ⟨name, single⟩, by rw [first]; decide⟩
  have lines : ∀ line ∈ headerLines header, Plain line := by
    simp only [headerLines, List.forall_mem_cons]
    exact ⟨plain_heading 1 (by decide), plain_nil, plain _ _ (by decide) shader,
      plain _ _ (by decide) used, plain _ _ (by decide) time, List.forall_mem_nil _⟩
  have headings : (headerLines header).filter (fun line => line.head? = some '#') =
      ["# Shader Performance Report".toList] := by
    simp only [headerLines, title, List.filter_cons, first]
    rfl
  rw [← headings]
  exact read_as_plain lines

theorem read_as_content {analyses : List VariantAnalysis}
    (single : ∀ analysis ∈ analyses, analysis.OneLine)
    (free : ∀ output ∈ analyses.flatMap VariantAnalysis.outputs, fence ∉ output.splitOn '\n') :
    ReadAs (contentLines analyses) (analyses.flatMap analysisHeadings)
      ((analyses.flatMap VariantAnalysis.outputs).map (List.splitOn '\n')) := by
  have nothing : ReadAs (emptyLines analyses) [] [] := by
    cases analyses with
    | nil =>
        have told : OneLine "No shader variants were analyzed." := by decide
        exact read_as_text (List.forall_mem_cons.mpr ⟨plain_nil,
          List.forall_mem_singleton.mpr ⟨told, by decide⟩⟩) (by decide)
    | cons first others =>
        exact read_as_text (List.forall_mem_nil _) (List.forall_mem_nil _)
  have each := ReadAs.flatMap fun analysis listed => read_as_analysis (single analysis listed)
    fun output shown => free output (List.mem_flatMap.mpr ⟨analysis, listed, shown⟩)
  rw [List.map_flatMap]
  exact nothing.append each

theorem read_document {header : Header} {analyses : List VariantAnalysis}
    (shader : OneLine header.shader) (model : ∀ model ∈ header.gpuModel, OneLine model)
    (single : ∀ analysis ∈ analyses, analysis.OneLine)
    (free : ∀ output ∈ analyses.flatMap VariantAnalysis.outputs, fence ∉ output.splitOn '\n') :
    Reader.read ((document header analyses).splitOn '\n') =
      ⟨ownHeadings analyses,
        (analyses.flatMap VariantAnalysis.outputs).map (List.splitOn '\n'), none⟩ := by
  have ended : ReadAs [[]] [] [] :=
    read_as_text (List.forall_mem_singleton.mpr plain_nil) (by simp)
  have lines := ((read_as_header shader model).append (read_as_content single free)).append ended
  rw [Reader.read, document_split, lines, List.append_nil, List.append_nil]
  rfl

/-- Headers, labels and reasons being of one line, failed output stays in the fences of a report as
long as no line of it closes a fence, and then the headings that are read are the report's own. -/
theorem outputs_fenced (header : Header) (analyses : List VariantAnalysis)
    (shader : OneLine header.shader) (model : ∀ model ∈ header.gpuModel, OneLine model)
    (single : ∀ analysis ∈ analyses, analysis.OneLine) :
    let outputs := analyses.flatMap VariantAnalysis.outputs
    let read := Reader.read ((document header analyses).splitOn '\n')
    (read.fences = outputs.map (List.splitOn '\n') ↔
      ∀ output ∈ outputs, fence ∉ output.splitOn '\n') ∧
    ((∀ output ∈ outputs, fence ∉ output.splitOn '\n') → read.headings = ownHeadings analyses) := by
  intro outputs read
  refine ⟨⟨fun same output member => ?_, fun free => ?_⟩, fun free => ?_⟩
  · apply Reader.read_fences ((document header analyses).splitOn '\n')
    exact same ▸ List.mem_map_of_mem member
  · dsimp only [read]
    rw [read_document shader model single free]
    exact List.append_nil _
  · dsimp only [read]
    rw [read_document shader model single free]

/-- A vertex stage whose run failed, and a fragment stage whose run could not be started. -/
def failedRuns : VariantAnalysis :=
  .ofStages (some ⟨"FORWARD", "FOG"⟩)
    (.ofRun .vertex "w.vert" (.ok ⟨[], "ERROR: 0:3\n# Not a heading", .failed (some 1)⟩))
    (.ofRun .fragment "w.frag" (.error (.notStarted "malioc" "not found")))

theorem outputs_fenced_failed_runs :
    let read := Reader.read ((document ⟨"Water", some "G78", ⟨0, 0, 0⟩⟩ [failedRuns]).splitOn '\n')
    read.fences = [["ERROR: 0:3".toList, "# Not a heading".toList]] ∧
      read.headings = ownHeadings [failedRuns] := by
  have single : ∀ analysis ∈ [failedRuns], analysis.OneLine := by
    refine List.forall_mem_singleton.mpr (VariantAnalysis.of_stages_one_line (by decide)
      (StageAnalysis.of_run_one_line _ _ fun failure failed => nomatch failed)
      (StageAnalysis.of_run_one_line _ _ fun failure failed => ?_))
    cases failed
    decide
  have outputs : [failedRuns].flatMap VariantAnalysis.outputs =
    ["ERROR: 0:3\n# Not a heading".toList] := rfl
  have free : ∀ output ∈ [failedRuns].flatMap VariantAnalysis.outputs,
      fence ∉ output.splitOn '\n' := by
    rw [outputs]
    decide
  obtain ⟨fences, headings⟩ := outputs_fenced ⟨"Water", some "G78", ⟨0, 0, 0⟩⟩ [failedRuns]
    (by decide) (by decide) single
  refine ⟨?_, headings free⟩
  rw [fences.mpr free, outputs]
  rfl

/-- A heading behind a line that closes a fence is read as if it were the report's own. -/
theorem ReadAs.forged {texts headings : List Text} {fences : List (List Text)}
    (before : ReadAs texts headings fences) {output line : Text} {front back : List Text}
    (free : fence ∉ front) (cut : output.splitOn '\n' = front ++ fence :: line :: back)
    (heading : line.head? = some '#') (more : List Text) :
    line ∈ (Reader.read ((texts ++ "```text".toList :: output :: more).flatMap
      (List.splitOn '\n'))).headings := by
  have opened : "```text".toList.splitOn '\n' = ["```text".toList] :=
    Text.split_one_line (by decide)
  have lines : (texts ++ "```text".toList :: output :: more).flatMap (List.splitOn '\n') =
      texts.flatMap (List.splitOn '\n') ++ "```text".toList :: (front ++ fence :: line ::
        (back ++ more.flatMap (List.splitOn '\n'))) := by
    simp only [List.flatMap_append, List.flatMap_cons, opened, cut, List.append_assoc,
      List.cons_append, List.nil_append]
  have opens : Reader.step ⟨[] ++ headings, [] ++ fences, none⟩ "```text" =
    ⟨headings, fences, some []⟩ := rfl
  have closes : Reader.step ⟨headings, fences, some ([] ++ front)⟩ fence =
    ⟨headings, fences ++ [front], none⟩ := rfl
  have shown : line ∈ (Reader.step ⟨headings, fences ++ [front], none⟩ line).headings := by
    have plain : ∀ other ∈ [line], other.head? ≠ some '\x60' := by simp [heading]
    have alone := Reader.foldl_outside plain headings (fences ++ [front])
    rw [List.foldl_cons, List.foldl_nil] at alone
    rw [alone]
    simp [heading]
  rw [Reader.read, lines, List.foldl_append, before, List.foldl_cons, opens, List.foldl_append,
    Reader.foldl_inside free, List.foldl_cons, closes, List.foldl_cons]
  exact Reader.foldl_headings _ _ shown

/-- Such a heading need only be printed by the first run that a report tells of. -/
theorem forged_heading {header : Header} {first : VariantAnalysis} (others : List VariantAnalysis)
    (shader : OneLine header.shader) (model : ∀ model ∈ header.gpuModel, OneLine model)
    (single : first.OneLine) (untitled : first.variant = none) {cause output line : Text}
    (failed : first.vertex.outcome = .failed cause output) {front back : List Text}
    (free : fence ∉ front) (cut : output.splitOn '\n' = front ++ fence :: line :: back)
    (heading : line.head? = some '#') :
    line ∈ (Reader.read ((document header (first :: others)).splitOn '\n')).headings := by
  have filled : output.isEmpty = false := by
    cases output with
    | nil =>
        have lengths := congrArg List.length cut
        rw [List.length_append, List.length_cons, List.length_cons] at lengths
        exact absurd lengths (by simp; omega)
    | cons c rest => rfl
  have before := (read_as_header shader model).append ((read_as_title 2 first.vertex).append
    (read_as_reason (single.vertex.reason cause output failed)))
  obtain ⟨more, shape⟩ : ∃ more, headerLines header ++ contentLines (first :: others) ++ [[]] =
      headerLines header ++ ([[], stageHeading 2 first.vertex, []] ++
        ["> Analysis failed (" ++ cause ++ ")", []]) ++ "```text".toList :: output :: more := by
    refine ⟨fence :: [] :: (tableLines first.vertex.metrics ++ (stageLines 2 first.fragment ++
      (suggestionsLines 2 first.suggestions ++ (others.flatMap analysisLines ++ [[]])))), ?_⟩
    rw [contentLines, List.flatMap_cons, analysis_lines_plain untitled, bodyLines, stage_lines_eq,
      failed, failureLines, filled]
    simp only [List.append_assoc]
    rfl
  rw [document_split, shape]
  exact before.forged free cut heading more

/-- Headings inside of an analysis stand below the title of a report. -/
theorem body_headings_below {level : Nat} {analysis : VariantAnalysis} :
    ∀ line ∈ bodyHeadings level analysis, ∃ deeper text, level ≤ deeper ∧
      line = Markdown.heading deeper text := by
  refine List.forall_mem_append.mpr ⟨?_, List.forall_mem_map.mpr fun suggestion _ =>
    ⟨level + 1, _, Nat.le_succ level, rfl⟩⟩
  simp only [List.forall_mem_cons]
  exact ⟨⟨level, _, Nat.le_refl level, rfl⟩, ⟨level, _, Nat.le_refl level, rfl⟩,
    ⟨level, _, Nat.le_refl level, rfl⟩, List.forall_mem_nil _⟩

/-- A run that fails with a line of three backticks and a heading behind it. -/
def forgingRun : VariantAnalysis :=
  .ofStages none
    (.ofOutput .vertex none ⟨[], "ERROR: 0:3\n```\n# Forged", .failed (some 1)⟩)
    (.ofReport .fragment "16-bit arithmetic: 90%")

theorem captured_heading_forged :
    let read := Reader.read ((document ⟨"Water", none, ⟨0, 0, 0⟩⟩ [forgingRun]).splitOn '\n')
    forgingRun.OneLine ∧ "# Forged".toList ∈ read.headings ∧
      "# Forged".toList ∉ ownHeadings [forgingRun] := by
  have single : forgingRun.OneLine :=
    VariantAnalysis.of_stages_one_line (by decide) (StageAnalysis.of_output_one_line _ _ _)
      (StageAnalysis.of_report_one_line _ _)
  have failed : forgingRun.vertex.outcome =
    .failed "exit code 1" "ERROR: 0:3\n```\n# Forged" := rfl
  have cut : "ERROR: 0:3\n```\n# Forged".toList.splitOn '\n' =
    ["ERROR: 0:3".toList] ++ fence :: "# Forged".toList :: [] := rfl
  refine ⟨single, forged_heading [] (by decide) (by decide) single rfl failed (by decide) cut rfl,
    fun own => ?_⟩
  have forged : "# Forged".toList = Markdown.heading 1 "Forged" := rfl
  rcases List.mem_cons.mp own with title | inside
  · exact absurd title (by decide)
  · obtain ⟨analysis, listed, heading⟩ := List.mem_flatMap.mp inside
    rw [List.mem_singleton.mp listed, forged] at heading
    obtain ⟨deeper, text, below, same⟩ := body_headings_below _ heading
    have levels := (Markdown.heading_injective same).1
    omega

end Report

end ShaderCost
