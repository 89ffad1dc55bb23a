import ShaderCost.Proofs.Dump.Balance
import ShaderCost.Proofs.Dump.Grammar
import ShaderCost.Proofs.Dump.Normalization
import ShaderCost.Proofs.Dump.Selection

/-!
What the sources of a dump look like. A source is made of solid lines, each ended by a line feed but
for the last, and no front part of it closes a conditional that it did not open; where its region is
closed it closes all that it opens. Leaving out blank lines and putting versions right keep the
count of open conditionals at every line, so that a source from a closed region comes back from the
delimiters of either stage as it went in.
-/

namespace ShaderCost.Dump

open Region

/-- A line either closes a conditional where none is open, or the lines behind it are counted from
what it leaves open. -/
theorem open_after_cases (depth : Nat) (line : Text) (following : List Text) :
    (depth + surplus endMarker [line] = -1 ∧ openAfter depth (line :: following) = none) ∨
      ∃ inner : Nat, (inner : Int) = depth + surplus endMarker [line] ∧
        openAfter depth (line :: following) = openAfter inner following := by
  rcases surplus_cases endMarker line with
    ⟨opens, one⟩ | ⟨_, closes, one⟩ | ⟨continues, stays, none⟩
  · exact .inr ⟨depth + 1, by omega, open_after_opener opens depth following⟩
  · cases depth with
    | zero => exact .inl ⟨by omega, by simp [openAfter, end_marker_continues closes, closes]⟩
    | succ depth => exact .inr ⟨depth, by omega, open_after_closer closes depth following⟩
  · exact .inr ⟨depth, by omega, open_after_plain continues stays depth following⟩

/-- What is open behind some lines is what the count says, if it falls below zero nowhere. -/
theorem open_after_iff {depth final : Nat} {lines : List Text} :
    openAfter depth lines = some final ↔
      (∀ front, front <+: lines → 0 ≤ depth + surplus endMarker front) ∧
        (final : Int) = depth + surplus endMarker lines := by
  induction lines generalizing depth with
  | nil =>
      rw [openAfter, Option.some.injEq]
      constructor
      · rintro rfl
        refine ⟨?_, by simp [surplus]⟩
        intro front empty
        obtain rfl := List.prefix_nil.mp empty
        simp [surplus]
      · rintro ⟨_, same⟩
        simp only [surplus, List.countP_nil] at same
        omega
  | cons line following induction =>
      rcases open_after_cases depth line following with ⟨none, counted⟩ | ⟨inner, same, counted⟩
      · rw [counted]
        constructor
        · simp
        · rintro ⟨never, _⟩
          have first := never [line] ⟨following, rfl⟩
          omega
      · rw [counted, induction, surplus_cons]
        constructor
        · rintro ⟨never, last⟩
          refine ⟨?_, by omega⟩
          intro front part
          rcases List.prefix_cons_iff.mp part with rfl | ⟨front, rfl, rest⟩
          · simp [surplus]
          · have later := never front rest
            rw [surplus_cons]
            omega
        · rintro ⟨never, last⟩
          refine ⟨?_, by omega⟩
          intro front part
          have later := never (line :: front) (List.prefix_cons_iff.mpr (.inr ⟨front, rfl, part⟩))
          rw [surplus_cons] at later
          omega

/-- No front part of some lines closes more conditionals than it opens. -/
def ClosesOwn (lines : List Text) : Prop :=
  ∀ front, front <+: lines → 0 ≤ surplus endMarker front

/-- Lines are well nested if and only if they close no more than they have opened anywhere, and in
the end all of it. -/
theorem well_nested_iff_surplus {lines : List Text} :
    WellNested lines ↔ ClosesOwn lines ∧ surplus endMarker lines = 0 := by
  rw [well_nested_iff, open_after_iff, ClosesOwn]
  simp only [Int.natCast_zero, Int.zero_add]
  rw [eq_comm (a := surplus endMarker lines)]

theorem surplus_solid (lines : List Text) :
    surplus endMarker (lines.filter isSolid) = surplus endMarker lines := by
  have opener : ∀ line, (opensBlock line && isSolid line) = opensBlock line := by
    intro line
    rw [Bool.and_eq_left_iff_imp]
    exact solid_of_opens
  have closer : ∀ line,
      (closesBlock endMarker line && isSolid line) = closesBlock endMarker line := by
    intro line
    rw [Bool.and_eq_left_iff_imp, closesBlock, Bool.and_eq_true, beq_iff_eq]
    exact fun closes => solid_of_closer closes.2
  rw [surplus, surplus, List.countP_filter, List.countP_filter]
  simp only [opener, closer]

theorem closes_own_solid {lines : List Text} (own : ClosesOwn lines) :
    ClosesOwn (lines.filter isSolid) := by
  intro front part
  obtain ⟨whole, inside, rfl⟩ := List.prefix_filter_iff.mp part
  rw [surplus_solid]
  exact own whole inside

theorem surplus_blur (lines : List Text) :
    surplus endMarker (lines.map (List.map blur)) = surplus endMarker lines := by
  have opener : opensBlock ∘ List.map blur = opensBlock := funext opens_blur
  have closer : closesBlock endMarker ∘ List.map blur = closesBlock endMarker := by
    funext line
    have same := closes_blur line
    rw [Function.comp_apply, closesBlock, closesBlock, opens_blur, Bool.eq_iff_iff]
    simp only [Bool.and_eq_true, beq_iff_eq, same]
  rw [surplus, surplus, List.countP_map, List.countP_map, opener, closer]

theorem closes_own_blur {lines : List Text} :
    ClosesOwn (lines.map (List.map blur)) ↔ ClosesOwn lines := by
  constructor
  · intro own front part
    rw [← surplus_blur]
    exact own _ (part.map _)
  · intro own front part
    obtain ⟨whole, inside, rfl⟩ := List.prefix_map_iff.mp part
    rw [surplus_blur]
    exact own whole inside

theorem lines_normalize_blur (text : Text) :
    (lines (normalizeVersion text)).map (List.map blur) = (lines text).map (List.map blur) := by
  rw [← lines_map blur_line_end, normalize_blur, lines_map blur_line_end]

/-- In the lines that a region has between its delimiters nothing is closed but what they open. -/
theorem interior_closes_own (lines : List Text) :
    ClosesOwn (interior endMarker 0 lines).1.lines.dropLast := by
  intro front part
  have taken : (interior endMarker 0 lines).1.lines <+: lines :=
    ⟨_, interior_split endMarker 0 lines⟩
  have within : front <+: lines := (part.trans (List.dropLast_prefix _)).trans taken
  have short := part.length_le
  rw [List.length_dropLast] at short
  cases front with
  | nil => simp [surplus]
  | cons line front =>
      have bound : (line :: front).length < (interior endMarker 0 lines).1.lines.length := by
        rw [List.length_cons] at short ⊢
        omega
      obtain ⟨inner, counted, _⟩ := interior_resumes (.inl bound)
      rw [← List.prefix_iff_eq_take.mp within] at counted
      omega

theorem interior_closes_all {lines : List Text}
    (balanced : (interior endMarker 0 lines).1.balanced = true) :
    surplus endMarker (interior endMarker 0 lines).1.lines.dropLast = 0 := by
  obtain ⟨inner, last, spelled, closes⟩ := interior_last balanced
  have whole := interior_surplus balanced
  have single : surplus endMarker [last] = -1 := by
    simp [surplus, closesBlock, end_marker_continues closes, closes]
  rw [spelled, surplus_append, single] at whole
  rw [spelled, List.dropLast_concat]
  omega

/-- The lines that a region keeps of those behind its first one. -/
def kept (following : List Text) : List Text :=
  (interior endMarker 0 following).1.lines.dropLast.filter isSolid

theorem kept_unbroken {following : List Text} (unbroken : ∀ line ∈ following, Unbroken line) :
    ∀ line ∈ kept following, Unbroken line := by
  intro line member
  apply unbroken
  rw [← interior_split endMarker 0 following]
  exact List.mem_append_left _ ((List.dropLast_prefix _).mem (List.mem_filter.mp member).1)

theorem kept_solid (following : List Text) : ∀ line ∈ kept following, isSolid line = true :=
  fun _ member => (List.mem_filter.mp member).2

theorem kept_closes_own (following : List Text) : ClosesOwn (kept following) :=
  closes_own_solid (interior_closes_own following)

theorem kept_closes_all {following : List Text}
    (balanced : (interior endMarker 0 following).1.balanced = true) :
    surplus endMarker (kept following) = 0 := by
  rw [kept, surplus_solid, interior_closes_all balanced]

/-- The source in a region is joined from the lines that it keeps. -/
theorem source_joined (first : Text) {following : List Text}
    (unbroken : ∀ line ∈ following, Unbroken line) :
    (takeFrom endMarker (first :: following)).1.source = Text.joinLines (kept following) := by
  have inside : ∀ line ∈ (interior endMarker 0 following).1.lines, Unbroken line := by
    intro line member
    apply unbroken
    rw [← interior_split endMarker 0 following]
    exact List.mem_append_left _ member
  rw [takeFrom, push, kept]
  generalize (interior endMarker 0 following).1 = region at inside
  obtain ⟨taken, balanced⟩ := region
  rcases List.eq_nil_or_concat taken with rfl | ⟨inner, last, rfl⟩
  · rfl
  · rw [List.concat_eq_append] at inside ⊢
    rw [List.dropLast_concat]
    exact region_source_inner first last
      (fun line member => inside line (List.mem_append_left _ member)) balanced

theorem lines_of_solid {parts : List Text} (unbroken : ∀ line ∈ parts, Unbroken line)
    (solid : ∀ line ∈ parts, isSolid line = true) : lines (Text.joinLines parts) = parts := by
  rw [lines_join_lines unbroken, List.filter_eq_self]
  intro line member
  simpa using filled_of_solid (solid line member)

/-- A source without carriage returns, line ends at its ends and blank lines. -/
structure Tidy (source : Text) : Prop where
  noReturn : '\r' ∉ source
  solid : source ≠ [] → ∀ line ∈ source.splitOn '\n', Text.isAllBlank line = false
  start : source.head? ≠ some '\n'
  ending : source.getLast? ≠ some '\n'

theorem tidy_join_lines {parts : List Text} (unbroken : ∀ line ∈ parts, Unbroken line)
    (solid : ∀ line ∈ parts, isSolid line = true) : Tidy (Text.joinLines parts) := by
  have filled : ∀ line ∈ parts, line ≠ [] :=
    fun line member => filled_of_solid (solid line member)
  constructor
  · intro member
    rcases mem_join_lines member with feed | ⟨line, present, inside⟩
    · exact absurd feed (by decide)
    · exact absurd (unbroken line present '\r' inside) (by decide)
  · intro more line member
    have some : parts ≠ [] := by
      rintro rfl
      exact more rfl
    have apart : ∀ part ∈ parts, '\n' ∉ part :=
      fun part present => not_mem_unbroken (unbroken part present)
    rw [Text.joinLines, List.splitOn_intercalate '\n' apart some] at member
    simpa [isSolid] using solid line member
  · intro first
    exact absurd (join_lines_beginning unbroken filled first) (by decide)
  · intro last
    exact absurd (join_lines_ending unbroken filled last) (by decide)

/-- What a region gives, and what putting versions right keeps: a text that is made of its solid
lines, none of which closes a conditional that is not open. -/
structure Extracted (source : Text) : Prop where
  tidied : tidied source = source
  own : ClosesOwn (lines source)

namespace Extracted

theorem of_parts {parts : List Text} (unbroken : ∀ line ∈ parts, Unbroken line)
    (solid : ∀ line ∈ parts, isSolid line = true) (own : ClosesOwn parts) :
    Extracted (Text.joinLines parts) := by
  have read := lines_of_solid unbroken solid
  constructor
  · rw [Dump.tidied, read, List.filter_eq_self.mpr solid]
  · rwa [read]

theorem normalize {source : Text} (extracted : Extracted source) :
    Extracted (normalizeVersion source) where
  tidied := by rw [tidied_normalize, extracted.tidied]
  own := by
    have own := closes_own_blur.mpr extracted.own
    rw [← lines_normalize_blur] at own
    exact closes_own_blur.mp own

theorem tidy {source : Text} (extracted : Extracted source) : Tidy source := by
  rw [← extracted.tidied]
  apply tidy_join_lines
  · intro line member
    exact lines_unbroken source line (List.mem_filter.mp member).1
  · intro line member
    exact (List.mem_filter.mp member).2

/-- A source that closes all that it opens is read back from the delimiters of any stage. -/
theorem read_back {source : Text} (extracted : Extracted source)
    (closed : surplus endMarker (lines source) = 0) (stage : Stage) :
    extractStage (stage.marker ++ "\n" ++ source ++ "\n" ++ endMarker) stage = source := by
  have spelled : lines (stage.marker ++ "\n" ++ source ++ "\n" ++ endMarker) =
      [] ++ stage.marker :: (lines source ++ endMarker :: []) := by
    have frame : stage.marker ++ "\n" ++ source ++ "\n" ++ endMarker =
        stage.marker ++ '\n' :: (source ++ '\n' :: endMarker) := by
      simp
    rw [frame, lines_append, lines_append]
    cases stage <;> rfl
  have opens : Text.trim stage.marker = stage.marker := by cases stage <;> rfl
  have nested := well_nested_iff_surplus.mpr ⟨extracted.own, closed⟩
  have taken := extract_stage_between spelled (by simp) opens nested (by rfl)
  rw [taken]
  exact extracted.tidied

end Extracted

theorem surplus_normalize (source : Text) :
    surplus endMarker (lines (normalizeVersion source)) = surplus endMarker (lines source) := by
  rw [← surplus_blur, lines_normalize_blur, surplus_blur]

/-- The source of a captured region, before its version is put right. -/
theorem captured_extracted {text : Text} {start : Nat} (inside : start < (lines text).length) :
    Extracted (capture (lines text) start endMarker).source ∧
      ((capture (lines text) start endMarker).balanced = true →
        surplus endMarker (lines (capture (lines text) start endMarker).source) = 0) := by
  have following : ∀ line ∈ (lines text).drop (start + 1), Unbroken line :=
    fun line member => lines_unbroken text line (List.mem_of_mem_drop member)
  have spelled := source_joined (lines text)[start] following
  rw [← List.drop_eq_getElem_cons inside, ← capture] at spelled
  have unbroken := kept_unbroken following
  have solid := kept_solid ((lines text).drop (start + 1))
  rw [spelled]
  refine ⟨.of_parts unbroken solid (kept_closes_own _), ?_⟩
  intro balanced
  rw [balanced_inside inside] at balanced
  rw [lines_of_solid unbroken solid, kept_closes_all balanced]

/-- Every section comes from the region of a visited marker line. -/
theorem Scan.run_regions {lines : List Text} {scan final : Scan} {events : List Event}
    (agrees : Agrees lines scan) (run : Run lines scan events final) :
    ∀ part ∈ sectionsFrom scan.context (lines.drop scan.cursor), ∃ start,
      visited lines start = true ∧ markerAt? lines start = some part.stage ∧
        part.balanced = (capture lines start endMarker).balanced ∧
        part.source = normalizeVersion (capture lines start endMarker).source := by
  induction run with
  | stop nothing =>
      rw [List.drop_eq_nil_of_le (step_none_iff.mp nothing), sections_nil]
      simp
  | @round scan next final event events step rest induction =>
      have later := induction (agrees_step agrees step)
      rcases step_cases step with ⟨line, here, plain, _, rfl⟩ | ⟨stage, inside, marked, _, rfl⟩
      · rw [sections_at_plain here plain]
        exact later
      · rw [record_context] at later
        rw [sections_at_marker inside marked]
        intro part member
        rcases List.mem_cons.mp member with rfl | behind
        · exact ⟨scan.cursor, agrees.reached, marked, rfl, rfl⟩
        · exact later part behind

theorem section_region {text : Text} {part : StageSection} (member : part ∈ sections text) :
    ∃ start, visited (lines text) start = true ∧ markerAt? (lines text) start = some part.stage ∧
      part.balanced = (capture (lines text) start endMarker).balanced ∧
      part.source = normalizeVersion (capture (lines text) start endMarker).source := by
  obtain ⟨events, final, run⟩ := Scan.run_exists (lines text) .initial
  exact Scan.run_regions (Scan.agrees_initial (lines text)) run part member

/-- The sources of a variant are those of two sections under its key. -/
theorem variant_sections {text : Text} {variant : Variant} (member : variant ∈ variants text)
    (stage : Stage) : ∃ part ∈ sections text, part.stage = stage ∧ part.key = variant.key ∧
      part.source = variant.source stage := by
  have under : variant ∈ pairUnder (sections text) variant.key := by
    rw [← variants_under, List.mem_filter]
    exact ⟨member, by simp⟩
  obtain ⟨index, listed⟩ := List.mem_iff_getElem?.mp under
  have source := List.mem_of_getElem? (pair_under_source listed stage)
  obtain ⟨part, found, same⟩ := List.mem_map.mp source
  obtain ⟨present, wanted⟩ := List.mem_filter.mp found
  rw [Bool.and_eq_true, decide_eq_true_eq, decide_eq_true_eq] at wanted
  exact ⟨part, present, wanted.1, wanted.2, same⟩

/-- Each source of a variant is the source of a section, and that is what the region of a marker
line gives, before and after versions are put right: a text without carriage returns and without
blank lines, which closes no conditional that it has not opened. If the region is closed the source
closes all that it opens, and is taken unchanged from between the delimiters of any stage. -/
theorem sources_well_formed (text : Text) :
    (∀ variant ∈ variants text, ∀ stage, ∃ part ∈ sections text, part.stage = stage ∧
      part.key = variant.key ∧ part.source = variant.source stage) ∧
    ∀ part ∈ sections text, ∃ start, visited (lines text) start = true ∧
      markerAt? (lines text) start = some part.stage ∧
      part.balanced = (capture (lines text) start endMarker).balanced ∧
      part.source = normalizeVersion (capture (lines text) start endMarker).source ∧
      ∀ source ∈ [(capture (lines text) start endMarker).source, part.source],
        Tidy source ∧ ClosesOwn (lines source) ∧
          (part.balanced = true → surplus endMarker (lines source) = 0 ∧
            ∀ stage : Stage,
              extractStage (stage.marker ++ "\n" ++ source ++ "\n" ++ endMarker) stage = source) := by
  refine ⟨fun variant member stage => variant_sections member stage, ?_⟩
  intro part member
  obtain ⟨start, seen, marked, balanced, normalized⟩ := section_region member
  have inside : start < (lines text).length := by
    obtain ⟨line, here, _⟩ := marker_at_iff.mp marked
    exact (List.getElem?_eq_some_iff.mp here).1
  obtain ⟨extracted, closed⟩ := captured_extracted inside
  refine ⟨start, seen, marked, balanced, normalized, ?_⟩
  intro source listed
  simp only [List.mem_cons, List.not_mem_nil, or_false] at listed
  have both : Extracted source ∧
      (part.balanced = true → surplus endMarker (lines source) = 0) := by
    rw [balanced]
    rcases listed with rfl | rfl
    · exact ⟨extracted, closed⟩
    · rw [normalized, surplus_normalize]
      exact ⟨extracted.normalize, closed⟩
  refine ⟨both.1.tidy, both.1.own, ?_⟩
  intro closes
  exact ⟨both.2 closes, both.1.read_back (both.2 closes)⟩

/-- A closed vertex section with a conditional in it, and a fragment section that is never closed
and whose last line is an end marker. -/
def closedThenOpen : Text :=
  "Pass: A\r\n#ifdef VERTEX\r\n#version 300 es\r\n \r\n  #if X\r\nv\r\n#endif \r\n#endif\r\n" ++
    "#ifdef FRAGMENT\n#if Y\n\n#ifdef Z\nf\n#endif"

theorem sources_well_formed_closed_then_open :
    sections closedThenOpen =
        [⟨.vertex, ⟨"A", ""⟩, "#version 310 es\n  #if X\nv\n#endif ", true⟩,
          ⟨.fragment, ⟨"A", ""⟩, "#if Y\n#ifdef Z\nf", false⟩] ∧
      extractStage (Stage.marker .fragment ++ "\n" ++ "#version 310 es\n  #if X\nv\n#endif " ++
        "\n" ++ endMarker) .fragment = "#version 310 es\n  #if X\nv\n#endif ".toList ∧
      Tidy "#if Y\n#ifdef Z\nf" ∧ ClosesOwn (lines "#if Y\n#ifdef Z\nf") ∧
      surplus endMarker (lines "#if Y\n#ifdef Z\nf") = 2 := by
  have listed : sections closedThenOpen =
      [⟨.vertex, ⟨"A", ""⟩, "#version 310 es\n  #if X\nv\n#endif ", true⟩,
        ⟨.fragment, ⟨"A", ""⟩, "#if Y\n#ifdef Z\nf", false⟩] := by decide +kernel
  obtain ⟨_, regions⟩ := sources_well_formed closedThenOpen
  rw [listed] at regions
  obtain ⟨_, _, _, _, _, vertex⟩ := regions _ List.mem_cons_self
  obtain ⟨_, _, _, _, _, fragment⟩ := regions _ (List.mem_cons_of_mem _ List.mem_cons_self)
  obtain ⟨_, _, closed⟩ := vertex _ (List.mem_cons_of_mem _ List.mem_cons_self)
  obtain ⟨tidy, own, _⟩ := fragment _ (List.mem_cons_of_mem _ List.mem_cons_self)
  exact ⟨listed, (closed rfl).2 .fragment, tidy, own, by decide +kernel⟩

end ShaderCost.Dump
