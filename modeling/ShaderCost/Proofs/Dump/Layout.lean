import ShaderCost.Proofs.Dump.Opacity
import ShaderCost.Proofs.Text.Words

/-!
The layout of a dump. Neither the kind of line ends between its lines nor their number matters, and
blank lines matter only in a region that is never closed: such a region loses its last line,
whatever that holds.
-/

namespace ShaderCost.Dump

/-- A line as it stands in a text, with the line ends behind it. -/
structure WrittenLine where
  line : Text
  ending : Text
  unbroken : Unbroken line
  filled : ending ≠ []
  ends : ∀ c ∈ ending, isLineEnd c = true

/-- The text in which lines stand one behind the other. -/
def writtenText (written : List WrittenLine) : Text :=
  written.flatMap fun part => part.line ++ part.ending

/-- However its lines end, a text is read as the lines that stand in it. -/
theorem lines_written (written : List WrittenLine) : lines (writtenText written) =
    (written.map WrittenLine.line).filter fun line => !line.isEmpty := by
  induction written with
  | nil => rfl
  | cons part rest induction =>
      obtain ⟨c, ending, spelled⟩ := List.exists_cons_of_ne_nil part.filled
      have ends := part.ends
      rw [spelled, List.forall_mem_cons] at ends
      rw [writtenText, List.flatMap_cons, spelled, List.append_assoc, List.cons_append,
        lines_divided _ ends.1, lines_behind_ends ends.2, lines_of_line part.unbroken,
        ← writtenText, induction, ← List.filter_append]
      rfl

/-- What is taken out of a text by two markers depends on its lines alone. -/
theorem extract_section_eq (text opener closer : Text) : extractSection text opener closer =
    if opener.isEmpty || closer.isEmpty then []
    else (Region.takeFrom closer
      ((lines text).dropWhile fun line => Text.trim line != opener)).1.source := by
  cases text with
  | nil =>
      rw [extractSection, if_pos (by rfl)]
      split <;> rfl
  | cons c text => rfl

namespace Region

/-- Lines that neither open nor close anything can be left out, before or after a region is
taken. -/
theorem interior_filter {closer : Text} {keep : Text → Bool}
    (keepsOpener : ∀ line, opensBlock line = true → keep line = true)
    (keepsCloser : ∀ line, Text.trim line = closer → keep line = true) (depth : Nat)
    (lines : List Text) : interior closer depth (lines.filter keep) =
      (⟨(interior closer depth lines).1.lines.filter keep,
        (interior closer depth lines).1.balanced⟩,
        (interior closer depth lines).2.filter keep) := by
  fun_induction interior closer depth lines with
  | case1 => rfl
  | case2 depth line following opens induction =>
      rw [List.filter_cons_of_pos (keepsOpener line opens), interior.eq_def]
      simp only [if_pos opens, induction, push, List.filter_cons_of_pos (keepsOpener line opens)]
  | case3 line following opens closes =>
      rw [List.filter_cons_of_pos (keepsCloser line closes), interior.eq_def]
      simp only [if_neg opens, if_pos closes, List.filter_cons_of_pos (keepsCloser line closes),
        List.filter_nil]
  | case4 line following opens closes depth induction =>
      rw [List.filter_cons_of_pos (keepsCloser line closes), interior.eq_def]
      simp only [if_neg opens, if_pos closes, induction, push,
        List.filter_cons_of_pos (keepsCloser line closes)]
  | case5 depth line following opens continues induction =>
      by_cases kept : keep line = true
      · rw [List.filter_cons_of_pos kept, interior.eq_def]
        simp only [if_neg opens, if_neg continues, induction, push, List.filter_cons_of_pos kept]
      · rw [List.filter_cons_of_neg kept, induction, push, List.filter_cons_of_neg kept]

theorem takeFrom_filter {closer : Text} {keep : Text → Bool}
    (keepsOpener : ∀ line, opensBlock line = true → keep line = true)
    (keepsCloser : ∀ line, Text.trim line = closer → keep line = true) {first : Text}
    (kept : keep first = true) (following : List Text) :
    takeFrom closer (first :: following.filter keep) =
      (⟨(takeFrom closer (first :: following)).1.lines.filter keep,
        (takeFrom closer (first :: following)).1.balanced⟩,
        (takeFrom closer (first :: following)).2.filter keep) := by
  rw [takeFrom, interior_filter keepsOpener keepsCloser]
  simp only [takeFrom, push, List.filter_cons_of_pos kept]

end Region

theorem blank_opens {line : Text} (blank : Text.isAllBlank line = true) :
    opensBlock line = false := by
  rw [opensBlock, Text.trim_blank blank]
  rfl

theorem blank_marks {line : Text} (blank : Text.isAllBlank line = true) :
    Stage.ofMarker? (Text.trim line) = none := by
  rw [Text.trim_blank blank]
  rfl

theorem blank_observed {line : Text} (blank : Text.isAllBlank line = true) (context : Context) :
    context.observe line = context := by
  have start := Text.trimStart_blank blank
  have decoration : Metadata.dropDecoration line = [] := by
    rw [Metadata.dropDecoration, ← List.append_nil line, List.dropWhile_append_of_pos]
    · rfl
    · intro c member
      simp [Text.blank_no_word (List.all_eq_true.mp blank c member)]
  have inline : Metadata.inlinePassName? line = none := by rw [Metadata.inlinePassName?, start]; rfl
  have named : Metadata.nameLine? line = none := by rw [Metadata.nameLine?, start]; rfl
  have pass : Metadata.passLine? line = none := by rw [Metadata.passLine?, start]; rfl
  have numbered : Metadata.subshaderPass? line = none := by
    rw [Metadata.subshaderPass?, decoration]; rfl
  have locals : Metadata.localKeywords? line = none := by
    rw [Metadata.localKeywords?, decoration]; rfl
  have globals : Metadata.globalKeywords? line = none := by
    rw [Metadata.globalKeywords?, decoration]; rfl
  have none : Metadata.ofLine? line = none := by
    simp only [Metadata.ofLine?, Metadata.shapes, List.findSome?_cons, inline, named, pass,
      numbered, locals, globals, List.findSome?_nil]
  rw [Context.observe, none]

/-- Whether a line is more than blanks. -/
def isSolid (line : Text) : Bool := !Text.isAllBlank line

theorem filled_of_solid {line : Text} (solid : isSolid line = true) : line ≠ [] := by
  rintro rfl
  exact absurd solid (by decide)

theorem solid_of_trim {line : Text} (more : Text.trim line ≠ []) : isSolid line = true := by
  rw [isSolid, Bool.not_eq_true', ← Bool.not_eq_true]
  exact fun blank => more (Text.trim_blank blank)

theorem solid_of_opens {line : Text} (opens : opensBlock line = true) : isSolid line = true := by
  rw [isSolid, Bool.not_eq_true', ← Bool.not_eq_true]
  intro blank
  rw [blank_opens blank] at opens
  simp at opens

theorem solid_of_closer {line : Text} (closes : Text.trim line = endMarker) :
    isSolid line = true := by
  apply solid_of_trim
  rw [closes]
  decide

theorem take_from_solid {first : Text} (solid : isSolid first = true) (following : List Text) :
    Region.takeFrom endMarker (first :: following.filter isSolid) =
      (⟨(Region.takeFrom endMarker (first :: following)).1.lines.filter isSolid,
        (Region.takeFrom endMarker (first :: following)).1.balanced⟩,
        (Region.takeFrom endMarker (first :: following)).2.filter isSolid) :=
  Region.takeFrom_filter (fun _ => solid_of_opens) (fun _ => solid_of_closer) solid following

theorem solid_of_marker {line : Text} {stage : Stage}
    (marked : Stage.ofMarker? (Text.trim line) = some stage) : isSolid line = true := by
  rw [isSolid, Bool.not_eq_true', ← Bool.not_eq_true]
  intro blank
  rw [blank_marks blank] at marked
  simp at marked

theorem region_source_between (first last : Text) (inner : List Text) (balanced : Bool) :
    Region.source ⟨first :: (inner ++ [last]), balanced⟩ =
      ((Text.joinLines (inner.filter isSolid)).reverse.dropWhile isLineEnd).reverse := by
  have long : ¬ (first :: (inner ++ [last])).length < 2 := by simp
  rw [Region.source, if_neg long, List.tail_cons, List.dropLast_concat]
  rfl

/-- The source of a region that is closed does not depend on its blank lines. -/
theorem source_solid {first : Text} {following : List Text} (solid : isSolid first = true)
    (balanced : (Region.takeFrom endMarker (first :: following)).1.balanced = true) :
    (Region.takeFrom endMarker (first :: following.filter isSolid)).1.source =
      (Region.takeFrom endMarker (first :: following)).1.source := by
  rw [take_from_solid solid]
  obtain ⟨inner, last, spelled, closes⟩ := Region.takeFrom_last balanced
  generalize (Region.takeFrom endMarker (first :: following)).1 = region at spelled
  obtain ⟨taken, closed⟩ := region
  obtain rfl : taken = first :: (inner ++ [last]) := spelled
  have kept : (first :: (inner ++ [last])).filter isSolid =
      first :: (inner.filter isSolid ++ [last]) := by
    rw [List.filter_cons_of_pos solid, List.filter_append,
      List.filter_cons_of_pos (solid_of_closer closes), List.filter_nil]
  rw [kept, region_source_between, region_source_between, List.filter_filter]
  simp only [Bool.and_self]

/-- A section without the source that an open region leaves it. -/
def StageSection.settled (part : StageSection) : StageSection :=
  if part.balanced then part else { part with source := [] }

theorem settled_section {line : Text} {stage : Stage}
    (marked : Stage.ofMarker? (Text.trim line) = some stage) (context : Context)
    (following : List Text) :
    (sectionAt context stage (line :: following.filter isSolid)).settled =
      (sectionAt context stage (line :: following)).settled := by
  have solid := solid_of_marker marked
  have region := take_from_solid solid following
  have same : (Region.takeFrom endMarker (line :: following.filter isSolid)).1.balanced =
      (Region.takeFrom endMarker (line :: following)).1.balanced := by rw [region]
  by_cases balanced : (Region.takeFrom endMarker (line :: following)).1.balanced = true
  · simp only [sectionAt, same, source_solid solid balanced]
  · have unclosed : ¬ (sectionAt context stage (line :: following)).balanced = true := balanced
    have stillUnclosed :
        ¬ (sectionAt context stage (line :: following.filter isSolid)).balanced = true := by
      rw [sectionAt, same]
      exact balanced
    rw [StageSection.settled, StageSection.settled, if_neg unclosed, if_neg stillUnclosed]
    simp only [sectionAt, same]

/-- Blank lines play no part in a scan, but for the source of a region that is never closed. -/
theorem sections_solid (context : Context) (lines : List Text) :
    (sectionsFrom context (lines.filter isSolid)).map StageSection.settled =
      (sectionsFrom context lines).map StageSection.settled := by
  fun_induction sectionsFrom context lines with
  | case1 context => rw [List.filter_nil, sections_nil]
  | case2 context line following plain induction =>
      by_cases solid : isSolid line = true
      · rw [List.filter_cons_of_pos solid, sections_plain plain, induction]
      · have blank : Text.isAllBlank line = true := by simpa [isSolid] using solid
        rw [List.filter_cons_of_neg solid, ← induction, blank_observed blank]
  | case3 context line following stage marked captured induction =>
      have solid := solid_of_marker marked
      rw [List.filter_cons_of_pos solid, sections_marked marked, List.map_cons, List.map_cons,
        settled_section marked, take_from_solid solid, induction]
      rfl

theorem settled_balanced (part : StageSection) : part.settled.balanced = part.balanced := by
  rw [StageSection.settled]
  split <;> rfl

theorem settled_of_balanced {part : StageSection} (balanced : part.balanced = true) :
    part.settled = part := if_pos balanced

theorem map_settled {parts : List StageSection} (closed : ∀ part ∈ parts, part.balanced = true) :
    parts.map StageSection.settled = parts := by
  rw [List.map_congr_left fun part member => settled_of_balanced (closed part member), List.map_id']

/-- Two dumps with the same lines but for blank ones have the same sections, if one of them has all
its regions closed. -/
theorem sections_of_solid_lines {text changed : Text}
    (closed : ∀ part ∈ sections text, part.balanced = true)
    (same : (lines changed).filter isSolid = (lines text).filter isSolid) :
    sections changed = sections text := by
  have settled : (sections changed).map StageSection.settled = sections text := by
    rw [← map_settled closed, sections, sections, ← sections_solid, same, sections_solid]
  have balanced : ∀ part ∈ sections changed, part.balanced = true := by
    intro part member
    rw [← settled_balanced]
    apply closed
    rw [← settled]
    exact List.mem_map_of_mem member
  rw [← settled, map_settled balanced]

theorem variants_of_sections {left right : Text} (same : sections left = sections right) :
    variants left = variants right := by
  rw [variants, variants, same]

/-- How lines end does not matter: two texts with the same lines, each with line ends of its own,
are read alike. Blank lines do not matter either, as long as all regions are closed: a text that has
the same lines but for blank ones, wherever these stand, gives the same variants. -/
theorem layout_irrelevant :
    (∀ {left right : List WrittenLine}, left.map WrittenLine.line = right.map WrittenLine.line →
      lines (writtenText left) = lines (writtenText right) ∧
        (∀ includeAll, select (variants (writtenText left)) includeAll =
          select (variants (writtenText right)) includeAll) ∧
        ∀ opener closer, extractSection (writtenText left) opener closer =
          extractSection (writtenText right) opener closer) ∧
      ∀ {text changed : Text}, (∀ part ∈ sections text, part.balanced = true) →
        (lines changed).filter isSolid = (lines text).filter isSolid →
        ∀ includeAll, select (variants changed) includeAll =
          select (variants text) includeAll := by
  constructor
  · intro left right same
    have read : lines (writtenText left) = lines (writtenText right) := by
      rw [lines_written, lines_written, same]
    have found : sections (writtenText left) = sections (writtenText right) := by
      rw [sections, sections, read]
    refine ⟨read, ?_, ?_⟩
    · intro includeAll
      rw [variants_of_sections found]
    · intro opener closer
      rw [extract_section_eq, extract_section_eq, read]
  · intro text changed closed same includeAll
    rw [variants_of_sections (sections_of_solid_lines closed same)]

/-- The lines of `twoPasses`, each with the same line ends behind it. -/
def passesEnding (ending : Text) (filled : ending ≠ [])
    (ends : ∀ c ∈ ending, isLineEnd c = true) : List WrittenLine :=
  (lines twoPasses).attach.map fun line =>
    ⟨line.1, ending, lines_unbroken twoPasses line.1 line.2, filled, ends⟩

/-- The lines of `twoPasses` with blank lines before, between and behind them. -/
def spreadPasses : Text :=
  "\n \u0085\nPass: A\r\n\u3000\r\n#ifdef VERTEX\n \nv\n\t\r#endif\n#ifdef FRAGMENT\nf\n\n#endif\n" ++
    "\u2028\nPass: B\r#ifdef VERTEX\rw\r#endif\r#ifdef FRAGMENT\rg\r \r \r#endif\r "

theorem layout_irrelevant_two_passes :
    lines (writtenText (passesEnding ['\r', '\n'] (by decide) (Text.every (by decide)))) =
        lines (writtenText (passesEnding ['\r'] (by decide) (Text.every (by decide)))) ∧
      (∀ part ∈ sections twoPasses, part.balanced = true) ∧
      (lines spreadPasses).filter isSolid = (lines twoPasses).filter isSolid ∧
      lines spreadPasses ≠ lines twoPasses ∧
      select (variants spreadPasses) true = select (variants twoPasses) true := by
  have sameLines : (passesEnding ['\r', '\n'] (by decide) (Text.every (by decide))).map WrittenLine.line =
      (passesEnding ['\r'] (by decide) (Text.every (by decide))).map WrittenLine.line := rfl
  have closed : ∀ part ∈ sections twoPasses, part.balanced = true := by decide +kernel
  have solid : (lines spreadPasses).filter isSolid = (lines twoPasses).filter isSolid := by
    decide +kernel
  obtain ⟨endings, blanks⟩ := layout_irrelevant
  exact ⟨(endings sameLines).1, closed, solid, by decide +kernel, blanks closed solid true⟩

end ShaderCost.Dump
