import ShaderCost.Proofs.Dump.Opacity

/-!
Taking a single section out of a dump. A search for the first marker of a stage looks at every
line, while a scan jumps over the regions that it captures. Both come to the same line unless a
marker of the stage is hidden in an earlier region of the other stage.
-/

namespace ShaderCost

theorem Stage.of_marker_iff {line : Text} {stage : Stage} :
    ofMarker? line = some stage ↔ line = stage.marker := by
  constructor
  · intro found
    rw [ofMarker?] at found
    split at found
    · rename_i vertex
      rw [vertex, ← Option.some.inj found]
    · split at found
      · rename_i fragment
        rw [fragment, ← Option.some.inj found]
      · simp at found
  · rintro rfl
    cases stage <;> rfl

namespace Dump

theorem marker_at_iff {lines : List Text} {index : Nat} {stage : Stage} :
    markerAt? lines index = some stage ↔
      ∃ line, lines[index]? = some line ∧ Text.trim line = stage.marker := by
  rw [markerAt?, Option.bind_eq_some_iff]
  simp only [Stage.of_marker_iff]

/-- The lines from the first marker of a stage on. -/
def fromMarker (stage : Stage) (lines : List Text) : List Text :=
  lines.dropWhile fun line => Text.trim line != stage.marker

/-- The source in the region that the first marker of a stage opens. -/
def firstSource? (stage : Stage) (lines : List Text) : Option Text :=
  match fromMarker stage lines with
  | [] => none
  | found => some (normalizeVersion (Region.takeFrom endMarker found).1.source)

theorem first_source_skip {stage : Stage} {front : List Text}
    (other : ∀ line ∈ front, Text.trim line ≠ stage.marker) (following : List Text) :
    firstSource? stage (front ++ following) = firstSource? stage following := by
  rw [firstSource?, fromMarker, List.dropWhile_append_of_pos]
  · rfl
  · intro line member
    rw [bne_iff_ne]
    exact other line member

theorem first_source_other {stage : Stage} {line : Text} (other : Text.trim line ≠ stage.marker)
    (following : List Text) :
    firstSource? stage (line :: following) = firstSource? stage following := by
  have single : ∀ first ∈ [line], Text.trim first ≠ stage.marker := by simpa using other
  exact first_source_skip single following

theorem first_source_marker {stage : Stage} {line : Text} (marked : Text.trim line = stage.marker)
    (following : List Text) : firstSource? stage (line :: following) =
      some (normalizeVersion (Region.takeFrom endMarker (line :: following)).1.source) := by
  rw [firstSource?, fromMarker, List.dropWhile_cons_of_neg (by simp [marked])]

theorem first_source_at {lines : List Text} {index : Nat} {line : Text} {stage : Stage}
    (here : lines[index]? = some line) (marked : Text.trim line = stage.marker) :
    firstSource? stage (lines.drop index) =
      some (normalizeVersion (Region.capture lines index endMarker).source) := by
  obtain ⟨inside, this⟩ := List.getElem?_eq_some_iff.mp here
  rw [Region.capture, List.drop_eq_getElem_cons inside, this, first_source_marker marked]

theorem first_source_none {stage : Stage} {lines : List Text} :
    firstSource? stage lines = none ↔ ∀ line ∈ lines, Text.trim line ≠ stage.marker := by
  induction lines with
  | nil => simp [firstSource?, fromMarker]
  | cons line lines induction =>
      rw [List.forall_mem_cons]
      by_cases marked : Text.trim line = stage.marker
      · simp [first_source_marker marked, marked]
      · rw [first_source_other marked, induction]
        exact ⟨fun later => ⟨marked, later⟩, And.right⟩

theorem extract_stage_eq (text : Text) (stage : Stage) :
    extractStage text stage =
      (Region.takeFrom endMarker (fromMarker stage (lines text))).1.source := by
  cases text with
  | nil => rfl
  | cons c text =>
      have filled : stage.marker.isEmpty = false := by cases stage <;> rfl
      rw [extractStage, extractSection, List.isEmpty_cons, filled]
      rfl

/-- A section that is taken out of a dump is the region of the first marker. -/
theorem extract_stage_first (text : Text) (stage : Stage) :
    (∀ source, firstSource? stage (lines text) = some source →
        normalizeVersion (extractStage text stage) = source) ∧
      (firstSource? stage (lines text) = none → extractStage text stage = []) := by
  rw [extract_stage_eq, firstSource?]
  cases fromMarker stage (lines text) with
  | nil => exact ⟨fun source found => by simp at found, fun _ => rfl⟩
  | cons line following =>
      exact ⟨fun source found => Option.some.inj found, fun nothing => by simp at nothing⟩

theorem region_line {lines : List Text} {start : Nat} {line : Text}
    (member : line ∈ (Region.capture lines start endMarker).lines) :
    ∃ index, start ≤ index ∧ index < regionEnd lines start ∧ lines[index]? = some line := by
  obtain ⟨offset, inside, here⟩ := List.mem_iff_getElem.mp member
  have split := Region.takeFrom_split endMarker (lines.drop start)
  refine ⟨start + offset, Nat.le_add_right _ _, Nat.add_lt_add_left inside start, ?_⟩
  rw [← List.getElem?_drop, ← split, ← Region.capture, List.getElem?_append_left inside,
    List.getElem?_eq_getElem inside, here]

namespace Scan

/-- From wherever a scan stands, the first section of a stage that it comes to is the one that a
search finds. -/
theorem run_first_source {lines : List Text} {scan final : Scan} {events : List Event}
    (run : Run lines scan events final) {stage : Stage}
    (apart : ∀ {other start stop index line}, .captured other start stop ∈ events →
      other ≠ stage → start < index → index < stop → lines[index]? = some line →
      Text.trim line ≠ stage.marker) :
    ((sectionsFrom scan.context (lines.drop scan.cursor)).find? fun part =>
        part.stage = stage).map StageSection.source =
      firstSource? stage (lines.drop scan.cursor) := by
  induction run with
  | stop nothing =>
      rw [List.drop_eq_nil_of_le (step_none_iff.mp nothing), sections_nil]
      rfl
  | @round scan next final event events step rest induction =>
      have later := induction fun member => apart (List.mem_cons_of_mem _ member)
      rcases step_cases step with ⟨line, here, plain, _, rfl⟩ | ⟨found, inside, marked, rfl, rfl⟩
      · have other : Text.trim line ≠ stage.marker := by
          intro equal
          simp [marker_at_iff.mpr ⟨line, here, equal⟩] at plain
        obtain ⟨inside, this⟩ := List.getElem?_eq_some_iff.mp here
        rw [sections_at_plain here plain, List.drop_eq_getElem_cons inside, this,
          first_source_other other]
        exact later
      · rw [record_context] at later
        rw [sections_at_marker inside marked]
        by_cases own : found = stage
        · subst own
          obtain ⟨line, here, opens⟩ := marker_at_iff.mp marked
          rw [List.find?_cons_of_pos (by simp [sectionAt]), first_source_at here opens]
          rfl
        · have other : ∀ line ∈ (Region.capture lines scan.cursor endMarker).lines,
              Text.trim line ≠ stage.marker := by
            intro line member equal
            obtain ⟨index, lower, upper, there⟩ := region_line member
            rcases Nat.eq_or_lt_of_le lower with rfl | behind
            · rw [marker_at_iff.mpr ⟨line, there, equal⟩] at marked
              exact own (Option.some.inj marked).symm
            · exact apart List.mem_cons_self own behind upper there equal
          have split := Region.takeFrom_split endMarker (lines.drop scan.cursor)
          have skipped := first_source_skip other (lines.drop (regionEnd lines scan.cursor))
          rw [Region.capture, regionEnd, ← Region.capture_rest, split] at skipped
          rw [List.find?_cons_of_neg (by simp [sectionAt, own]), skipped]
          rw [regionEnd, ← Region.capture_rest] at later ⊢
          exact later

end Scan

/-- A search for the first section of a stage and a scan agree, as long as no marker of the stage
is hidden in an earlier region of the other stage: the search gives the source of the first section
of the stage that the scan records, and without a marker of the stage there is none. -/
theorem extraction_agrees {text : Text} {events : List Event} {final : Scan}
    (run : Scan.Run (lines text) .initial events final) (stage : Stage)
    (apart : ∀ {other start stop index line}, .captured other start stop ∈ events →
      other ≠ stage → start < index → index < stop → (lines text)[index]? = some line →
      Text.trim line ≠ stage.marker) :
    ((∃ line ∈ lines text, Text.trim line = stage.marker) →
        ∃ part, (sections text).find? (fun part => part.stage = stage) = some part ∧
          normalizeVersion (extractStage text stage) = part.source) ∧
      ((∀ line ∈ lines text, Text.trim line ≠ stage.marker) →
        extractStage text stage = [] ∧ ∀ part ∈ sections text, part.stage ≠ stage) := by
  have same : ((sections text).find? fun part => part.stage = stage).map StageSection.source =
      firstSource? stage (lines text) := Scan.run_first_source run apart
  obtain ⟨found, missing⟩ := extract_stage_first text stage
  constructor
  · rintro ⟨line, member, marked⟩
    cases first : (sections text).find? fun part => part.stage = stage with
    | none =>
        rw [first, Option.map_none] at same
        exact absurd marked (first_source_none.mp same.symm line member)
    | some part =>
        rw [first, Option.map_some] at same
        exact ⟨part, rfl, found part.source same.symm⟩
  · intro unmarked
    have nothing := first_source_none.mpr unmarked
    rw [nothing, Option.map_eq_none_iff, List.find?_eq_none] at same
    refine ⟨missing nothing, ?_⟩
    intro part member
    simpa using same part member

/-- A closed fragment section, and a vertex section with a marker of its own that is never
closed. -/
def openEnded : Text :=
  "#ifdef FRAGMENT\nf\n#endif\r\n#ifdef VERTEX\r\n#version 300 es\r#ifdef VERTEX\nv"

theorem extraction_agrees_open_ended :
    ∃ events final, Scan.Run (lines openEnded) .initial events final ∧
      events = [.captured .fragment 0 3, .captured .vertex 3 7] ∧
      (∃ line ∈ lines openEnded, Text.trim line = Stage.marker .vertex) ∧
      ∃ part, (sections openEnded).find? (fun part => part.stage = .vertex) = some part ∧
        part.source = "#version 310 es\n#ifdef VERTEX".toList := by
  obtain ⟨events, final, run⟩ := Scan.run_exists (lines openEnded) .initial
  have listed : events = [.captured .fragment 0 3, .captured .vertex 3 7] := by
    rw [Scan.run_events run]
    decide +kernel
  have unmarked : ∀ index < 3, ∀ line ∈ (lines openEnded)[index]?,
      Text.trim line ≠ Stage.marker .vertex := by
    decide +kernel
  have marked : ∃ line ∈ lines openEnded, Text.trim line = Stage.marker .vertex := by
    decide +kernel
  have taken : normalizeVersion (extractStage openEnded .vertex) =
      "#version 310 es\n#ifdef VERTEX".toList := by
    decide +kernel
  obtain ⟨agree, _⟩ := extraction_agrees run .vertex (by
    intro other start stop index line captured apart _ before there
    rw [listed, List.mem_cons, List.mem_singleton] at captured
    rcases captured with fragment | vertex
    · obtain ⟨_, _, rfl⟩ := Event.captured.inj fragment
      exact unmarked index before line there
    · exact absurd (Event.captured.inj vertex).1 apart)
  obtain ⟨part, first, same⟩ := agree marked
  exact ⟨events, final, run, listed, marked, part, first, same ▸ taken⟩

/-- A marker that is hidden in a section of the other stage is found by a search alone. -/
example :
    extractStage "#ifdef VERTEX\n#ifdef FRAGMENT\nf\n#endif\n#endif" .fragment = "f".toList ∧
      (sections "#ifdef VERTEX\n#ifdef FRAGMENT\nf\n#endif\n#endif").map StageSection.stage =
        [.vertex] := by
  decide +kernel

end Dump

end ShaderCost
