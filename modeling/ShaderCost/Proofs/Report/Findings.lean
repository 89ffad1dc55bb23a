import ShaderCost.Proofs.Report.Lines

/-!
A report loses no finding of clean runs. Read from the front, each block of lines tells what it was
made from and where it ends: the figures of a stage fill a fixed number of lines, and after the
suggestions of an analysis comes nothing or a heading of level two, which none of theirs has.
-/

namespace ShaderCost

namespace Markdown

@[simp] theorem table_row_inj {label left right : Text} :
    tableRow [label, left] = tableRow [label, right] ↔ left = right := by
  simp [table_row_pair]

@[simp] theorem bullet_inj {label left right : Text} :
    bullet label left = bullet label right ↔ left = right := by
  simp [bullet, bold]

@[simp] theorem yes_no_inj {left right : Bool} : yesNo left = yesNo right ↔ left = right := by
  cases left <;> cases right <;> decide

end Markdown

@[simp] theorem of_nat_inj {left right : Nat} :
    Text.ofNat left = Text.ofNat right ↔ left = right :=
  ⟨ofNat_injective, congrArg Text.ofNat⟩

/-- What the figures of a stage come down to where nothing is rounded. -/
structure StageFindings where
  architecture : Text
  workRegisters : Nat
  uniformRegisters : Nat
  bottleneckUnit : Text
  stackSpilling : Bool
  has : Property → Bool

def Metrics.findings (metrics : Metrics) : StageFindings :=
  ⟨metrics.architecture, metrics.workRegisters, metrics.uniformRegisters, metrics.bottleneckUnit,
    metrics.stackSpilling, metrics.has⟩

/-- What is found out about a variant, the suggestions in the order in which they are read. -/
structure Findings where
  label : Option Text
  vertex : StageFindings
  fragment : StageFindings
  ranked : List Suggestion

def VariantAnalysis.findings (analysis : VariantAnalysis) : Findings :=
  ⟨analysis.variant.map Dump.VariantKey.label, analysis.vertex.metrics.findings,
    analysis.fragment.metrics.findings, Suggestion.rank analysis.suggestions⟩

/-- A stage whose figures were taken from the report of a clean run. -/
structure StageAnalysis.Clean (analysis : StageAnalysis) : Prop where
  analyzed : analysis.outcome = .analyzed
  read : ∃ report, analysis.metrics = Metrics.ofReport report

/-- An analysis of two clean runs with suggestions of the rules and a label of one line. -/
structure VariantAnalysis.Clean (analysis : VariantAnalysis) : Prop where
  vertex : analysis.vertex.Clean
  fragment : analysis.fragment.Clean
  suggested : ∃ vertex fragment, analysis.suggestions = Suggestion.forMetrics vertex fragment
  label : ∀ key ∈ analysis.variant, Text.OneLine key.label

namespace Report

/-- Unless a value is spelled like the sign that there is none, it can be told from what is shown. -/
theorem or_not_available_injective {left right : Text} (leftSaid : left ≠ "n/a")
    (rightSaid : right ≠ "n/a") (same : orNotAvailable left = orNotAvailable right) :
    left = right := by
  rw [orNotAvailable, orNotAvailable] at same
  split at same
  · rename_i leftEmpty
    split at same
    · rename_i rightEmpty
      rw [List.isEmpty_iff.mp leftEmpty, List.isEmpty_iff.mp rightEmpty]
    · exact absurd same.symm rightSaid
  · split at same
    · exact absurd same leftSaid
    · exact same

theorem architecture_said (report : Text) : (Metrics.ofReport report).architecture ≠ "n/a" := by
  have fixed : ∀ name ∈ [] :: Metrics.architectures, name ≠ "n/a" := by decide
  exact fixed _ (Metrics.of_report_architecture report)

theorem bottleneck_said (report : Text) : (Metrics.ofReport report).bottleneckUnit ≠ "n/a" := by
  intro same
  have absent : '/' ∉ (Metrics.ofReport report).bottleneckUnit :=
    Metrics.not_mem_bottleneck (Metrics.of_report_spelled report) (by decide) (by decide)
  rw [same] at absent
  exact absent (by decide)

theorem table_lines_injective {left right : Text}
    (same : tableLines (Metrics.ofReport left) = tableLines (Metrics.ofReport right)) :
    (Metrics.ofReport left).findings = (Metrics.ofReport right).findings := by
  simp only [tableLines, figures, Property.all, List.map_cons, List.map_nil, List.cons_append,
    List.nil_append, List.append_cancel_left_eq, List.cons.injEq, Markdown.table_row_inj,
    of_nat_inj, Markdown.yes_no_inj] at same
  obtain ⟨architecture, work, uniform, -, -, -, -, bottleneck, spilling, rest⟩ := same
  obtain ⟨computation, effects, coverage, test, update, buffer, -⟩ := rest
  have named := or_not_available_injective (architecture_said left) (architecture_said right)
    architecture
  have bound := or_not_available_injective (bottleneck_said left) (bottleneck_said right) bottleneck
  have properties : (Metrics.ofReport left).has = (Metrics.ofReport right).has := by
    funext property
    cases property with
    | uniformComputation => exact computation
    | sideEffects => exact effects
    | modifiesCoverage => exact coverage
    | lateDepthTest => exact test
    | lateDepthUpdate => exact update
    | readsColorBuffer => exact buffer
  rw [Metrics.findings, Metrics.findings, named, work, uniform, bound, spilling, properties]

/-- The lines of a cleanly analysed stage: their number does not depend on the figures. -/
theorem clean_stage_lines (level : Nat) {analysis : StageAnalysis}
    (analyzed : analysis.outcome = .analyzed) : stageLines level analysis =
      [[], Markdown.heading level (analysis.stage.title ++ " Shader"), []] ++
        tableLines analysis.metrics := by
  rw [stage_lines_eq, analyzed]
  rfl

theorem table_lines_length (metrics : Metrics) : (tableLines metrics).length = 17 := rfl

theorem stage_lines_unambiguous {leftLevel rightLevel : Nat} {left right : StageAnalysis}
    {rest more : List Text} (leftClean : left.Clean) (rightClean : right.Clean)
    (same : stageLines leftLevel left ++ rest = stageLines rightLevel right ++ more) :
    left.metrics.findings = right.metrics.findings ∧ rest = more := by
  obtain ⟨leftReport, leftRead⟩ := leftClean.read
  obtain ⟨rightReport, rightRead⟩ := rightClean.read
  rw [clean_stage_lines leftLevel leftClean.analyzed, clean_stage_lines rightLevel
    rightClean.analyzed, leftRead, rightRead] at same
  obtain ⟨stages, behind⟩ := List.append_inj same (by simp [table_lines_length])
  obtain ⟨-, tables⟩ := List.append_inj stages rfl
  rw [leftRead, rightRead]
  exact ⟨table_lines_injective tables, behind⟩

/-- The heading of a suggestion begins with a sign for its priority. -/
theorem priority_heading_injective {left right : Priority} {category other : Text}
    (same : left.icon ++ " [" ++ left.label ++ "] " ++ category =
      right.icon ++ " [" ++ right.label ++ "] " ++ other) : left = right ∧ category = other := by
  have sign (priority : Priority) (behind : Text) :
      (priority.icon ++ " [" ++ priority.label ++ "] " ++ behind).head? = priority.icon.head? := by
    cases priority <;> rfl
  have icons : left.icon.head? = right.icon.head? := by
    rw [← sign left category, same, sign]
  have priorities : left = right := by
    revert icons
    cases left <;> cases right <;> decide
  subst priorities
  exact ⟨rfl, List.append_cancel_left same⟩

theorem suggestion_lines_injective {level : Nat} {left right : Suggestion}
    (same : suggestionLines level left = suggestionLines level right) : left = right := by
  obtain ⟨priority, category, issue, remedy, impact⟩ := left
  obtain ⟨priority', category', issue', remedy', impact'⟩ := right
  simp only [suggestionLines, List.cons.injEq, Markdown.bullet_inj] at same
  obtain ⟨heading, rfl, rfl, rfl, -⟩ := same
  obtain ⟨rfl, rfl⟩ := priority_heading_injective (Markdown.heading_injective heading).2
  rfl

/-- What may follow an analysis in a report: nothing, or an empty line and a heading of level
two. -/
inductive Following : List Text → Prop where
  | nothing : Following []
  | heading (title : Text) (lines : List Text) :
      Following ([] :: Markdown.heading 2 title :: lines)

theorem analyses_lines_begin (first : VariantAnalysis) (others : List VariantAnalysis) :
    ∃ title lines, (first :: others).flatMap analysisLines =
      [] :: Markdown.heading 2 title :: lines := by
  obtain ⟨variant, vertex, fragment, suggestions⟩ := first
  cases variant with
  | none => exact ⟨_, _, rfl⟩
  | some key => exact ⟨_, _, rfl⟩

theorem following_analyses (analyses : List VariantAnalysis) :
    Following (analyses.flatMap analysisLines) := by
  cases analyses with
  | nil => exact .nothing
  | cons first others =>
      obtain ⟨title, lines, shape⟩ := analyses_lines_begin first others
      rw [shape]
      exact .heading title lines

theorem suggestion_not_following {level : Nat} (below : 2 ≤ level) {suggestion : Suggestion}
    {suggestions : List Suggestion} {rest more : List Text} (following : Following rest)
    (same : [] ++ rest = ((suggestion :: suggestions).flatMap fun suggestion =>
      [] :: suggestionLines level suggestion) ++ more) : False := by
  rw [List.nil_append, List.flatMap_cons] at same
  cases following with
  | nothing => cases same
  | heading title lines =>
      have headings := (List.cons.inj (List.cons.inj same).2).1
      have levels := (Markdown.heading_injective headings).1
      omega

/-- Headings of suggestions stand below level two, so where the suggestions end is plain. -/
theorem ranked_unambiguous {level : Nat} (below : 2 ≤ level) {left right : List Suggestion}
    {rest more : List Text} (leftEnd : Following rest) (rightEnd : Following more)
    (same : (left.flatMap fun suggestion => [] :: suggestionLines level suggestion) ++ rest =
      (right.flatMap fun suggestion => [] :: suggestionLines level suggestion) ++ more) :
    left = right ∧ rest = more := by
  induction left generalizing right with
  | nil =>
      cases right with
      | nil => exact ⟨rfl, same⟩
      | cons first others => exact (suggestion_not_following below leftEnd same).elim
  | cons first others induction =>
      cases right with
      | nil => exact (suggestion_not_following below rightEnd same.symm).elim
      | cons first' others' =>
          rw [List.flatMap_cons, List.flatMap_cons, List.append_assoc, List.append_assoc] at same
          obtain ⟨blocks, behind⟩ := List.append_inj same rfl
          obtain ⟨others, ends⟩ := induction behind
          rw [suggestion_lines_injective (List.cons.inj blocks).2, others]
          exact ⟨rfl, ends⟩

theorem nothing_not_suggested {level : Nat} {suggestions : List Suggestion}
    (filled : suggestions ≠ []) {rest more : List Text}
    (same : [[], "No optimization opportunities detected."] ++ rest =
      ((Suggestion.rank suggestions).flatMap fun suggestion =>
        [] :: suggestionLines level suggestion) ++ more) : False := by
  obtain ⟨first, others, shape⟩ :=
    List.exists_cons_of_ne_nil (mt Suggestion.rank_eq_nil.mp filled)
  rw [shape, List.flatMap_cons] at same
  have headings := congrArg List.head? (List.cons.inj (List.cons.inj same).2).1
  rw [Markdown.heading_first] at headings
  cases headings

theorem suggestions_lines_unambiguous {level : Nat} (below : 2 ≤ level)
    {left right : List Suggestion} {rest more : List Text} (leftEnd : Following rest)
    (rightEnd : Following more)
    (same : suggestionsLines level left ++ rest = suggestionsLines level right ++ more) :
    Suggestion.rank left = Suggestion.rank right ∧ rest = more := by
  rw [suggestions_lines_eq, suggestions_lines_eq, List.append_assoc, List.append_assoc] at same
  have behind := List.append_cancel_left same
  cases left with
  | nil =>
      cases right with
      | nil => exact ⟨rfl, List.append_cancel_left behind⟩
      | cons first others => exact (nothing_not_suggested (List.cons_ne_nil _ _) behind).elim
  | cons first others =>
      cases right with
      | nil => exact (nothing_not_suggested (List.cons_ne_nil _ _) behind.symm).elim
      | cons first' others' => exact ranked_unambiguous below leftEnd rightEnd behind

theorem body_lines_unambiguous {level : Nat} (below : 2 ≤ level) {left right : VariantAnalysis}
    {rest more : List Text} (leftClean : left.Clean) (rightClean : right.Clean)
    (leftEnd : Following rest) (rightEnd : Following more)
    (same : bodyLines level left ++ rest = bodyLines level right ++ more) :
    left.vertex.metrics.findings = right.vertex.metrics.findings ∧
      left.fragment.metrics.findings = right.fragment.metrics.findings ∧
      Suggestion.rank left.suggestions = Suggestion.rank right.suggestions ∧ rest = more := by
  simp only [bodyLines, List.append_assoc] at same
  obtain ⟨vertex, same⟩ := stage_lines_unambiguous leftClean.vertex rightClean.vertex same
  obtain ⟨fragment, same⟩ := stage_lines_unambiguous leftClean.fragment rightClean.fragment same
  exact ⟨vertex, fragment, suggestions_lines_unambiguous below leftEnd rightEnd same⟩

/-- No stage has the title of a variant. -/
theorem title_not_stage {plain titled : VariantAnalysis} {label : Text} {rest more : List Text}
    (same : bodyLines 2 plain ++ rest =
      [[], Markdown.heading 2 ("Variant: " ++ label)] ++ bodyLines 3 titled ++ more) : False := by
  have headings := (List.cons.inj (List.cons.inj same).2).1
  have titles := (Markdown.heading_injective headings).2
  cases stage : plain.vertex.stage with
  | vertex =>
      rw [stage] at titles
      cases titles
  | fragment =>
      rw [stage] at titles
      cases titles

theorem analysis_lines_unambiguous {left right : VariantAnalysis} {rest more : List Text}
    (leftClean : left.Clean) (rightClean : right.Clean) (leftEnd : Following rest)
    (rightEnd : Following more) (same : analysisLines left ++ rest = analysisLines right ++ more) :
    left.findings = right.findings ∧ rest = more := by
  cases leftTitle : left.variant with
  | none =>
      rw [analysis_lines_plain leftTitle] at same
      cases rightTitle : right.variant with
      | none =>
          rw [analysis_lines_plain rightTitle] at same
          obtain ⟨vertex, fragment, ranked, ends⟩ :=
            body_lines_unambiguous (by decide) leftClean rightClean leftEnd rightEnd same
          rw [VariantAnalysis.findings, VariantAnalysis.findings, leftTitle, rightTitle, vertex,
            fragment, ranked]
          exact ⟨rfl, ends⟩
      | some key =>
          rw [analysis_lines_titled rightTitle] at same
          exact (title_not_stage same).elim
  | some key =>
      rw [analysis_lines_titled leftTitle] at same
      cases rightTitle : right.variant with
      | none =>
          rw [analysis_lines_plain rightTitle] at same
          exact (title_not_stage same.symm).elim
      | some other =>
          rw [analysis_lines_titled rightTitle, List.append_assoc, List.append_assoc] at same
          obtain ⟨titles, same⟩ := List.append_inj same rfl
          have headings := (List.cons.inj (List.cons.inj titles).2).1
          have labels : key.label = other.label :=
            List.append_cancel_left (Markdown.heading_injective headings).2
          obtain ⟨vertex, fragment, ranked, ends⟩ :=
            body_lines_unambiguous (by decide) leftClean rightClean leftEnd rightEnd same
          rw [VariantAnalysis.findings, VariantAnalysis.findings, leftTitle, rightTitle,
            Option.map_some, Option.map_some, labels, vertex, fragment, ranked]
          exact ⟨rfl, ends⟩

theorem analyses_lines_injective {left right : List VariantAnalysis}
    (leftClean : ∀ analysis ∈ left, analysis.Clean)
    (rightClean : ∀ analysis ∈ right, analysis.Clean)
    (same : left.flatMap analysisLines = right.flatMap analysisLines) :
    left.map VariantAnalysis.findings = right.map VariantAnalysis.findings := by
  induction left generalizing right with
  | nil =>
      cases right with
      | nil => rfl
      | cons first others =>
          obtain ⟨title, lines, shape⟩ := analyses_lines_begin first others
          rw [shape] at same
          cases same
  | cons first others induction =>
      cases right with
      | nil =>
          obtain ⟨title, lines, shape⟩ := analyses_lines_begin first others
          rw [shape] at same
          cases same
      | cons first' others' =>
          rw [List.forall_mem_cons] at leftClean rightClean
          obtain ⟨firsts, same⟩ := analysis_lines_unambiguous leftClean.1 rightClean.1
            (following_analyses others) (following_analyses others') same
          rw [List.map_cons, List.map_cons, firsts, induction leftClean.2 rightClean.2 same]

theorem none_analyzed_not_analyses {first : VariantAnalysis} {others : List VariantAnalysis}
    (same : contentLines [] = contentLines (first :: others)) : False := by
  obtain ⟨title, lines, shape⟩ := analyses_lines_begin first others
  rw [contentLines, contentLines, shape] at same
  have headings := congrArg List.head? (List.cons.inj (List.cons.inj same).2).1
  rw [Markdown.heading_first] at headings
  cases headings

theorem content_lines_injective {left right : List VariantAnalysis}
    (leftClean : ∀ analysis ∈ left, analysis.Clean)
    (rightClean : ∀ analysis ∈ right, analysis.Clean)
    (same : contentLines left = contentLines right) :
    left.map VariantAnalysis.findings = right.map VariantAnalysis.findings := by
  cases left with
  | nil =>
      cases right with
      | nil => rfl
      | cons first others => exact (none_analyzed_not_analyses same).elim
  | cons first others =>
      cases right with
      | nil => exact (none_analyzed_not_analyses same.symm).elim
      | cons first' others' => exact analyses_lines_injective leftClean rightClean same

theorem clean_stage_lines_one_line (level : Nat) {analysis : StageAnalysis}
    (clean : analysis.Clean) : ∀ line ∈ stageLines level analysis, Text.OneLine line := by
  have title : Text.OneLine analysis.stage.title := by cases analysis.stage <;> decide
  obtain ⟨report, read⟩ := clean.read
  rw [clean_stage_lines level clean.analyzed, read]
  refine List.forall_mem_append.mpr
    ⟨by simp [title], table_lines_one_line (Metrics.of_report_one_line report)⟩

theorem clean_body_lines_one_line (level : Nat) {analysis : VariantAnalysis}
    (clean : analysis.Clean) : ∀ line ∈ bodyLines level analysis, Text.OneLine line := by
  obtain ⟨vertex, fragment, suggested⟩ := clean.suggested
  refine List.forall_mem_append.mpr ⟨clean_stage_lines_one_line level clean.vertex,
    List.forall_mem_append.mpr ⟨clean_stage_lines_one_line level clean.fragment, ?_⟩⟩
  rw [suggested]
  exact suggestions_lines_one_line level Suggestion.for_metrics_one_line

theorem clean_analysis_lines_one_line {analysis : VariantAnalysis} (clean : analysis.Clean) :
    ∀ line ∈ analysisLines analysis, Text.OneLine line := by
  cases titled : analysis.variant with
  | none =>
      rw [analysis_lines_plain titled]
      exact clean_body_lines_one_line 2 clean
  | some key =>
      rw [analysis_lines_titled titled]
      have label := clean.label key titled
      refine List.forall_mem_append.mpr ⟨by simp [label], clean_body_lines_one_line 3 clean⟩

theorem clean_content_lines_one_line {analyses : List VariantAnalysis}
    (clean : ∀ analysis ∈ analyses, analysis.Clean) :
    ∀ line ∈ contentLines analyses, Text.OneLine line := by
  have nothing : ∀ line ∈ emptyLines analyses, Text.OneLine line := by
    cases analyses with
    | nil => decide
    | cons first others => exact List.forall_mem_nil _
  refine List.forall_mem_append.mpr ⟨nothing, fun line member => ?_⟩
  obtain ⟨analysis, listed, inside⟩ := List.mem_flatMap.mp member
  exact clean_analysis_lines_one_line (clean analysis listed) line inside

theorem of_reports_clean {variant : Option Dump.VariantKey}
    (label : ∀ key ∈ variant, Text.OneLine key.label) (path : Option Text)
    (vertex fragment : Text) :
    (VariantAnalysis.ofStages variant (.ofOutput .vertex path ⟨vertex, [], .success⟩)
      (.ofReport .fragment fragment)).Clean where
  vertex := ⟨rfl, vertex, rfl⟩
  fragment := ⟨rfl, fragment, rfl⟩
  suggested := ⟨_, _, rfl⟩
  label := label

/-- Under one header, reports of clean runs that read the same tell the same findings: there are
as many analyses, and each agrees with its counterpart in its label, in the architecture, the
registers, the bottleneck and all yes-or-no figures of both stages, and in the ranked
suggestions. -/
theorem report_keeps_findings (header : Header) (left right : List VariantAnalysis)
    (leftClean : ∀ analysis ∈ left, analysis.Clean)
    (rightClean : ∀ analysis ∈ right, analysis.Clean)
    (same : document header left = document header right) :
    left.map VariantAnalysis.findings = right.map VariantAnalysis.findings := by
  rw [document_eq, document_eq] at same
  have contents := List.append_cancel_right (List.append_cancel_left same)
  exact content_lines_injective leftClean rightClean
    (Text.below_injective (clean_content_lines_one_line leftClean)
      (clean_content_lines_one_line rightClean) contents)

/-- The same reports of two variants, from runs on the given file. -/
def twoVariants (path : Option Text) : List VariantAnalysis :=
  [.ofStages none (.ofOutput .vertex path ⟨"Bifrost\nWork registers: 40\n", [], .success⟩)
      (.ofReport .fragment "Bound: LS\n"),
    .ofStages (some ⟨"FORWARD", "FOG"⟩) (.ofOutput .vertex path ⟨"Valhall\n", [], .success⟩)
      (.ofReport .fragment "Has side-effects: true\n")]

theorem report_keeps_findings_two_variants :
    twoVariants (some "w.vert") ≠ twoVariants none ∧
      document ⟨"Water", none, ⟨0, 0, 0⟩⟩ (twoVariants (some "w.vert")) =
        document ⟨"Water", none, ⟨0, 0, 0⟩⟩ (twoVariants none) ∧
      (twoVariants (some "w.vert")).map VariantAnalysis.findings =
        (twoVariants none).map VariantAnalysis.findings := by
  have clean (path : Option Text) : ∀ analysis ∈ twoVariants path, analysis.Clean := by
    simp only [twoVariants, List.forall_mem_cons]
    exact ⟨of_reports_clean (by decide) path _ _, of_reports_clean (by decide) path _ _,
      List.forall_mem_nil _⟩
  have same : document ⟨"Water", none, ⟨0, 0, 0⟩⟩ (twoVariants (some "w.vert")) =
    document ⟨"Water", none, ⟨0, 0, 0⟩⟩ (twoVariants none) := rfl
  refine ⟨fun runs => ?_, same, report_keeps_findings _ _ _ (clean _) (clean _) same⟩
  have paths := congrArg (List.map fun analysis => analysis.vertex.sourcePath) runs
  cases paths

end Report

end ShaderCost
