import ShaderCost.Proofs.Metrics.Values
import ShaderCost.Proofs.Suggestion
import ShaderCost.Proofs.Text.Numeral
import ShaderCost.Proofs.Text.Words
import ShaderCost.Report.Document

/-!
The lines of a report. Behind its header a report is a list of lines, each after a line feed, and
these are the lines that a reader finds in it as long as none of them has a line feed inside.
Numbers, moments and the figures and suggestions that the program itself makes have none.
-/

namespace ShaderCost

namespace Text

/-- A text without line feeds. -/
def OneLine (text : Text) : Prop := '\n' ∉ text

instance (text : Text) : Decidable (OneLine text) := inferInstanceAs (Decidable ('\n' ∉ text))

@[simp] theorem one_line_nil : OneLine [] := List.not_mem_nil

@[simp] theorem one_line_cons {c : Char} {text : Text} :
    OneLine (c :: text) ↔ '\n' ≠ c ∧ OneLine text := by
  rw [OneLine, List.mem_cons, not_or]
  rfl

@[simp] theorem one_line_append {left right : Text} :
    OneLine (left ++ right) ↔ OneLine left ∧ OneLine right := by
  rw [OneLine, List.mem_append, not_or]
  rfl

@[simp] theorem one_line_ite {condition : Prop} [Decidable condition] {left right : Text} :
    OneLine (if condition then left else right) ↔
      (condition → OneLine left) ∧ (¬condition → OneLine right) := by
  split <;> simp [*]

/-- What is made of characters of a text of one line is itself one. -/
theorem one_line_of_subset {part text : Text} (single : OneLine text)
    (inside : ∀ c ∈ part, c ∈ text) : OneLine part :=
  fun member => single (inside _ member)

/-- Lines, each after a line feed. -/
def below (lines : List Text) : Text := lines.flatMap ('\n' :: ·)

theorem below_cons (line : Text) (following : List Text) :
    below (line :: following) = '\n' :: (line ++ below following) := rfl

theorem below_append (front following : List Text) :
    below (front ++ following) = below front ++ below following := List.flatMap_append

theorem join_lines_below (line : Text) (following : List Text) :
    joinLines (line :: following) = line ++ below following := by
  induction following generalizing line with
  | nil => rw [join_lines_single, below, List.flatMap_nil, List.append_nil]
  | cons next following induction => rw [join_lines_cons, induction, below_cons]

theorem split_below (front : Text) (lines : List Text) :
    (front ++ below lines).splitOn '\n' =
      front.splitOn '\n' ++ lines.flatMap (List.splitOn '\n') := by
  induction lines generalizing front with
  | nil => rw [below, List.flatMap_nil, List.flatMap_nil, List.append_nil, List.append_nil]
  | cons line following induction =>
      rw [below_cons, List.splitOn_append_cons_self, induction, List.flatMap_cons]

theorem split_join_below (line : Text) (following more : List Text) :
    (joinLines (line :: following) ++ below more).splitOn '\n' =
      (line :: following ++ more).flatMap (List.splitOn '\n') := by
  rw [join_lines_below, List.append_assoc, ← below_append, split_below, List.cons_append,
    List.flatMap_cons]

theorem split_one_line {line : Text} (single : OneLine line) : line.splitOn '\n' = [line] :=
  List.splitOn_eq_singleton single

theorem split_lines {lines : List Text} (single : ∀ line ∈ lines, OneLine line) :
    lines.flatMap (List.splitOn '\n') = lines := by
  induction lines with
  | nil => rfl
  | cons line following induction =>
      rw [List.forall_mem_cons] at single
      rw [List.flatMap_cons, split_one_line single.1, induction single.2, List.singleton_append]

theorem below_injective {left right : List Text} (leftSingle : ∀ line ∈ left, OneLine line)
    (rightSingle : ∀ line ∈ right, OneLine line) (same : below left = below right) :
    left = right := by
  have split := congrArg (List.splitOn '\n') same
  rw [← List.nil_append (below left), ← List.nil_append (below right), split_below, split_below,
    split_lines leftSingle, split_lines rightSingle] at split
  exact List.append_cancel_left split

end Text

namespace Report

/-- The header of a report with a text in its model line. -/
def headerText (header : Header) (model : Text) : Text :=
  Text.joinLines ["# Shader Performance Report", [], "**Shader:** " ++ header.shader,
    "**GPU Model:** " ++ model, "**Generated:** " ++ header.generatedAt.timestamp]

/-- The lines of a report behind its header. -/
def contentLines (analyses : List VariantAnalysis) : List Text :=
  emptyLines analyses ++ analyses.flatMap analysisLines

theorem header_text_eq (header : Header) : Text.joinLines (headerLines header) =
    headerText header (header.gpuModel.getD "Auto-detect") := by
  have title : Markdown.heading 1 "Shader Performance Report" =
      "# Shader Performance Report".toList := rfl
  have shader : Markdown.bold "Shader" header.shader = "**Shader:** " ++ header.shader := rfl
  have generated : Markdown.bold "Generated" header.generatedAt.timestamp =
      "**Generated:** " ++ header.generatedAt.timestamp := rfl
  have model (name : Text) : Markdown.bold "GPU Model" name = "**GPU Model:** " ++ name := rfl
  rw [headerLines, title, shader, generated, model]
  rfl

/-- A report is its header and, below it, the lines of its content. -/
theorem document_eq (header : Header) (analyses : List VariantAnalysis) :
    document header analyses =
      headerText header (header.gpuModel.getD "Auto-detect") ++
        (Text.below (contentLines analyses) ++ "\n") := by
  have whole : Text.joinLines (headerLines header ++ contentLines analyses) =
      Text.joinLines (headerLines header) ++ Text.below (contentLines analyses) := by
    rw [headerLines, List.cons_append, Text.join_lines_below, Text.join_lines_below,
      Text.below_append, List.append_assoc]
  rw [document, List.append_assoc, ← contentLines, whole, header_text_eq, List.append_assoc]

end Report

open Text (OneLine)

@[simp] theorem of_nat_one_line (number : Nat) : OneLine (Text.ofNat number) :=
  fun member => absurd ((digits_of_nat number).decimal _ member) (by decide)

@[simp] theorem zeros_one_line (count : Nat) : OneLine (List.replicate count '0') :=
  fun member => absurd (List.eq_of_mem_replicate member) (by decide)

/-- The characters of a literal are those that it was made of, and no octets need to be read. -/
theorem literal_one_line {text : Text} (single : OneLine text) : OneLine (String.ofList text) := by
  rw [String.toList_ofList]
  exact single

namespace Binary64

@[simp] theorem insert_point_one_line {places : Nat} {digits : Text} (single : OneLine digits) :
    OneLine (insertPoint places digits) := by
  have padded : OneLine (List.replicate (places + 1 - digits.length) '0' ++ digits) := by
    simp [single]
  have taken (count : Nat) : OneLine (List.take count _) :=
    Text.one_line_of_subset padded fun _ => List.mem_of_mem_take
  have dropped (count : Nat) : OneLine (List.drop count _) :=
    Text.one_line_of_subset padded fun _ => List.mem_of_mem_drop
  simp [insertPoint, single, taken, dropped]

@[simp] theorem to_fixed_one_line (places : Nat) (value : Binary64) :
    OneLine (value.toFixed places) := by
  rw [toFixed]
  split <;> simp [signText]

end Binary64

namespace Calendar

@[simp] theorem padded_one_line (width number : Nat) : OneLine (padded width number) := by
  simp [padded]

@[simp] theorem fraction_digits_one_line (nanos : Nat) : OneLine (fractionDigits nanos) :=
  Text.one_line_of_subset (padded_one_line 9 nanos) fun _ member =>
    List.mem_reverse.mp ((List.dropWhile_sublist _).mem (List.mem_reverse.mp member))

theorem timestamp_one_line (moment : Moment) : OneLine moment.timestamp := by
  simp [Moment.timestamp, Moment.internetText, Moment.plainText, dateText, yearText, clockText,
    offsetSign]

end Calendar

/-- Metrics whose texts are of one line. -/
structure Metrics.OneLine (metrics : Metrics) : Prop where
  architecture : Text.OneLine metrics.architecture
  bottleneckUnit : Text.OneLine metrics.bottleneckUnit

theorem Metrics.of_report_one_line (report : Text) : (Metrics.ofReport report).OneLine where
  architecture :=
    have fixed : ∀ name ∈ [] :: architectures, Text.OneLine name := by decide
    fixed _ (of_report_architecture report)
  bottleneckUnit := not_mem_bottleneck (of_report_spelled report) (by decide) (by decide)

/-- A suggestion whose texts are of one line. -/
structure Suggestion.OneLine (suggestion : Suggestion) : Prop where
  category : Text.OneLine suggestion.category
  issue : Text.OneLine suggestion.issue
  remedy : Text.OneLine suggestion.remedy
  impact : Text.OneLine suggestion.impact

theorem Suggestion.for_metrics_one_line {vertex fragment : Metrics} :
    ∀ suggestion ∈ forMetrics vertex fragment, suggestion.OneLine := by
  have texts : ∀ rule ∈ Rule.all, Text.OneLine rule.category ∧ Text.OneLine rule.issue ∧
      Text.OneLine rule.remedy ∧ Text.OneLine rule.impact := by
    simp only [Rule.all, List.forall_mem_cons, Text.one_line_append]
    and_intros
    all_goals first
      | exact literal_one_line (by decide)
      | exact List.forall_mem_nil _
  intro suggestion member
  obtain ⟨rule, applied, rfl⟩ := List.mem_map.mp member
  obtain ⟨category, issue, remedy, impact⟩ := texts rule (List.mem_filter.mp applied).1
  exact ⟨category, issue, remedy, impact⟩

namespace Markdown

@[simp] theorem heading_one_line {level : Nat} {text : Text} :
    Text.OneLine (heading level text) ↔ Text.OneLine text := by
  have marks : Text.OneLine (List.replicate (max level 1) '#') := fun member =>
    absurd (List.eq_of_mem_replicate member) (by decide)
  simp [heading, marks]

theorem heading_first (level : Nat) (text : Text) : (heading level text).head? = some '#' := by
  have shape : max level 1 = max level 1 - 1 + 1 := by omega
  rw [heading, shape, List.replicate_succ]
  rfl

/-- A heading tells its level and its text. -/
theorem heading_injective {level other : Nat} {left right : Text}
    (same : heading level left = heading other right) :
    max level 1 = max other 1 ∧ left = right := by
  have marks (level : Nat) (text : Text) :
      (heading level text).takeWhile (· == '#') = List.replicate (max level 1) '#' := by
    rw [heading, List.append_assoc, List.takeWhile_append_of_pos (by simp)]
    simp
  have levels : max level 1 = max other 1 := by
    have lengths := congrArg (List.length ∘ List.takeWhile (· == '#')) same
    simpa only [Function.comp_apply, marks, List.length_replicate] using lengths
  rw [heading, heading, levels] at same
  exact ⟨levels, List.append_cancel_left same⟩

@[simp] theorem bold_one_line {label value : Text} :
    Text.OneLine (bold label value) ↔ Text.OneLine label ∧ Text.OneLine value := by
  simp [bold]

@[simp] theorem bullet_one_line {label value : Text} :
    Text.OneLine (bullet label value) ↔ Text.OneLine label ∧ Text.OneLine value := by
  simp [bullet]

theorem table_row_pair (label value : Text) :
    tableRow [label, value] = "| " ++ label ++ " | " ++ value ++ " |" := by
  simp [tableRow, List.intercalate, List.intersperse]

@[simp] theorem table_row_one_line {label value : Text} :
    Text.OneLine (tableRow [label, value]) ↔ Text.OneLine label ∧ Text.OneLine value := by
  simp [table_row_pair]

end Markdown

namespace Report

/-- What stands between lists stands before each of them when it also stands before the first. -/
theorem separated_eq {Item : Type} (separator first : List Item) (others : List (List Item)) :
    separator ++ List.intercalate separator (first :: others) =
      (first :: others).flatMap (separator ++ ·) := by
  induction others generalizing first with
  | nil => rw [List.intercalate_singleton, List.flatMap_cons, List.flatMap_nil, List.append_nil]
  | cons next others induction =>
      rw [List.intercalate_cons_cons, List.flatMap_cons, ← induction, List.append_assoc,
        List.append_assoc]

/-- The table of the figures of a stage. -/
def tableLines (metrics : Metrics) : List Text :=
  Markdown.tableHeader ["Metric", "Value"] ++
    (figures metrics).map fun (label, value) => Markdown.tableRow [label, value]

theorem stage_lines_eq (level : Nat) (analysis : StageAnalysis) :
    stageLines level analysis =
      [[], Markdown.heading level (analysis.stage.title ++ " Shader"), []] ++
        (failureLines analysis.outcome ++ tableLines analysis.metrics) := by
  simp only [stageLines, tableLines, List.append_assoc]

theorem or_not_available_one_line {value : Text} (single : Text.OneLine value) :
    Text.OneLine (orNotAvailable value) := by
  simp [orNotAvailable, single]

theorem figures_one_line {metrics : Metrics} (single : metrics.OneLine) :
    ∀ figure ∈ figures metrics, Text.OneLine figure.1 ∧ Text.OneLine figure.2 := by
  have yesNo (value : Bool) : Text.OneLine (Markdown.yesNo value) := by cases value <;> decide
  have labels : ∀ property ∈ Property.all, Text.OneLine property.label := by decide
  have architecture := or_not_available_one_line single.architecture
  have bottleneck := or_not_available_one_line single.bottleneckUnit
  refine List.forall_mem_append.mpr ⟨?_, List.forall_mem_map.mpr fun property known => ?_⟩
  · simp only [List.forall_mem_cons]
    simp [yesNo, architecture, bottleneck]
  · exact ⟨labels property known, yesNo _⟩

theorem table_lines_one_line {metrics : Metrics} (single : metrics.OneLine) :
    ∀ line ∈ tableLines metrics, Text.OneLine line := by
  intro line member
  rcases List.mem_append.mp member with header | row
  · have fixed : ∀ line ∈ Markdown.tableHeader ["Metric", "Value"], Text.OneLine line := by decide
    exact fixed line header
  · obtain ⟨figure, shown, rfl⟩ := List.mem_map.mp row
    exact Markdown.table_row_one_line.mpr (figures_one_line single figure shown)

/-- The ranked suggestions with an empty line before each of them. -/
theorem suggestions_lines_eq (level : Nat) (suggestions : List Suggestion) :
    suggestionsLines level suggestions =
      [[], Markdown.heading level "Optimization Suggestions"] ++
        if suggestions.isEmpty then [[], "No optimization opportunities detected."]
        else (Suggestion.rank suggestions).flatMap fun suggestion =>
          [] :: suggestionLines level suggestion := by
  rw [suggestionsLines]
  split
  · rfl
  · rename_i filled
    have ranked : Suggestion.rank suggestions ≠ [] := by
      rw [ne_eq, Suggestion.rank_eq_nil, ← List.isEmpty_iff]
      exact filled
    obtain ⟨first, others, shape⟩ := List.exists_cons_of_ne_nil ranked
    have separated := separated_eq [[]] (suggestionLines level first)
      (others.map (suggestionLines level))
    rw [← List.map_cons, List.flatMap_map] at separated
    rw [shape]
    exact congrArg ([[], _] ++ ·) separated

theorem suggestion_lines_one_line (level : Nat) {suggestion : Suggestion}
    (single : suggestion.OneLine) :
    ∀ line ∈ suggestionLines level suggestion, Text.OneLine line := by
  have mark (priority : Priority) :
      Text.OneLine priority.icon ∧ Text.OneLine priority.label := by cases priority <;> decide
  simp only [suggestionLines, List.forall_mem_cons]
  simp [mark, single.category, single.issue, single.remedy, single.impact]

theorem suggestions_lines_one_line (level : Nat) {suggestions : List Suggestion}
    (single : ∀ suggestion ∈ suggestions, suggestion.OneLine) :
    ∀ line ∈ suggestionsLines level suggestions, Text.OneLine line := by
  rw [suggestions_lines_eq]
  refine List.forall_mem_append.mpr ⟨by simp, ?_⟩
  split
  · decide
  · intro line member
    obtain ⟨suggestion, ranked, inside⟩ := List.mem_flatMap.mp member
    rcases List.mem_cons.mp inside with rfl | inside
    · exact Text.one_line_nil
    · have texts := single suggestion (Suggestion.mem_rank.mp ranked)
      exact suggestion_lines_one_line level texts line inside

/-- What stands below the title of an analysis. -/
def bodyLines (level : Nat) (analysis : VariantAnalysis) : List Text :=
  stageLines level analysis.vertex ++
    (stageLines level analysis.fragment ++ suggestionsLines level analysis.suggestions)

theorem analysis_lines_plain {analysis : VariantAnalysis} (plain : analysis.variant = none) :
    analysisLines analysis = bodyLines 2 analysis := by
  simp only [analysisLines, plain, bodyLines, List.nil_append, List.append_assoc]
  rfl

theorem analysis_lines_titled {analysis : VariantAnalysis} {key : Dump.VariantKey}
    (titled : analysis.variant = some key) : analysisLines analysis =
      [[], Markdown.heading 2 ("Variant: " ++ key.label)] ++ bodyLines 3 analysis := by
  simp only [analysisLines, titled, bodyLines, List.append_assoc]
  rfl

end Report

end ShaderCost
