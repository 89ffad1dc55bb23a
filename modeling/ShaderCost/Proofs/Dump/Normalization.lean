import ShaderCost.Proofs.Dump.Extraction
import ShaderCost.Proofs.Dump.Layout
import ShaderCost.Proofs.Dump.Version

/-!
Version declarations put right before a dump is scanned. In a closed region a declaration may run
over several lines, with blank lines between its words that the source of the region no longer has.
Neither these nor the marker lines around the region hide a declaration or make one, so that it does
not matter whether versions are put right in the dump or in each source.
-/

namespace ShaderCost.Dump

/-- Zero is not told apart from one, which is all that putting versions right can change. -/
def blur (c : Char) : Char := if c = '0' then '1' else c

theorem blur_cases (c : Char) : c = '0' ∧ blur c = '1' ∨ blur c = c := by
  by_cases zero : c = '0'
  · exact .inl ⟨zero, by rw [zero]; rfl⟩
  · exact .inr (if_neg zero)

theorem blur_blank (c : Char) : Text.isBlank (blur c) = Text.isBlank c := by
  rcases blur_cases c with ⟨rfl, _⟩ | same
  · decide
  · rw [same]

theorem blur_line_end (c : Char) : isLineEnd (blur c) = isLineEnd c := by
  rcases blur_cases c with ⟨rfl, _⟩ | same
  · decide
  · rw [same]

theorem normalize_blur (text : Text) : (normalizeVersion text).map blur = text.map blur := by
  fun_induction normalizeVersion text with
  | case1 text gap rest found induction =>
      have digits : ("300" : Text).map blur = ("310" : Text).map blur := by decide
      rw [(directive_spelled found).2]
      simp only [List.map_append, induction, digits]
  | case2 => rfl
  | case3 c rest absent induction => rw [List.map_cons, List.map_cons, induction]

/-- Two texts that differ in zeros and ones at most differ in what is not blank, if at all. -/
theorem eq_of_blur {left right : Text} (same : left.map blur = right.map blur)
    (solid : Text.solids left = Text.solids right) : left = right := by
  induction left generalizing right with
  | nil => simpa using same.symm
  | cons c left induction =>
      cases right with
      | nil => simp at same
      | cons d right =>
          obtain ⟨here, later⟩ := List.cons.inj same
          have blank : Text.isBlank c = Text.isBlank d := by rw [← blur_blank c, here, blur_blank]
          simp only [Text.solids, List.filter_cons, blank] at solid
          by_cases hidden : Text.isBlank d = true
          · have equal : c = d := by
              rcases blur_cases c with ⟨rfl, _⟩ | first
              · rw [← blank] at hidden
                exact absurd hidden (by decide)
              · rcases blur_cases d with ⟨rfl, _⟩ | second
                · exact absurd hidden (by decide)
                · rw [← first, here, second]
            rw [if_neg (by simp [hidden]), if_neg (by simp [hidden])] at solid
            rw [equal, induction later solid]
          · rw [if_pos (by simp [hidden]), if_pos (by simp [hidden])] at solid
            obtain ⟨equal, others⟩ := List.cons.inj solid
            rw [equal, induction later others]

theorem trim_blur (line : Text) : Text.trim (line.map blur) = (Text.trim line).map blur := by
  have start : ∀ text, Text.trimStart (text.map blur) = (Text.trimStart text).map blur := by
    intro text
    have same : Text.isBlank ∘ blur = Text.isBlank := funext blur_blank
    rw [Text.trimStart, List.dropWhile_map, same, ← Text.trimStart]
  have ending : ∀ text, Text.trimEnd (text.map blur) = (Text.trimEnd text).map blur := by
    intro text
    induction text with
    | nil => rfl
    | cons c rest induction =>
        rw [List.map_cons, Text.trimEnd, Text.trimEnd, induction, blur_blank]
        cases Text.trimEnd rest with
        | nil =>
            rw [List.map_nil]
            dsimp only
            split <;> rfl
        | cons d kept => rfl
  rw [Text.trim, start, ending, Text.trim]

theorem solid_blur (line : Text) : isSolid (line.map blur) = isSolid line := by
  simp only [isSolid, Text.isAllBlank, List.all_map, Function.comp_def, blur_blank]

theorem blur_eq_iff {word : Text} (clear : ∀ c ∈ word, c ≠ '0' ∧ c ≠ '1') {text : Text} :
    text.map blur = word ↔ text = word := by
  induction word generalizing text with
  | nil => exact List.map_eq_nil_iff
  | cons w word induction =>
      obtain ⟨here, later⟩ := List.forall_mem_cons.mp clear
      cases text with
      | nil => simp
      | cons c text =>
          have first : blur c = w ↔ c = w := by
            rcases blur_cases c with ⟨rfl, other⟩ | same
            · rw [other]
              exact ⟨fun equal => absurd equal.symm here.2, fun equal => absurd equal.symm here.1⟩
            · rw [same]
          rw [List.map_cons, List.cons.injEq, List.cons.injEq, first, induction later]

theorem opens_blur (line : Text) : opensBlock (line.map blur) = opensBlock line := by
  have clear : ∀ c ∈ "#if".toList, c ≠ '0' ∧ c ≠ '1' := Text.every (by decide)
  rw [opensBlock, opensBlock, trim_blur, Bool.eq_iff_iff, List.isPrefixOf_iff_prefix,
    List.isPrefixOf_iff_prefix, List.prefix_iff_eq_take, List.prefix_iff_eq_take, ← List.map_take,
    eq_comm, blur_eq_iff clear, eq_comm]

theorem closes_blur (line : Text) :
    Text.trim (line.map blur) = endMarker ↔ Text.trim line = endMarker := by
  rw [trim_blur, blur_eq_iff (Text.every (by decide))]

theorem open_after_blur (depth : Nat) (body : List Text) :
    openAfter depth (body.map (List.map blur)) = openAfter depth body := by
  induction body generalizing depth with
  | nil => rfl
  | cons line body induction =>
      rw [List.map_cons]
      cases depth <;> simp only [openAfter, opens_blur, closes_blur, induction]

theorem well_nested_normalize {text : Text} (nested : WellNested (lines text)) :
    WellNested (lines (normalizeVersion text)) := by
  rw [well_nested_iff, ← open_after_blur, ← lines_map blur_line_end] at nested ⊢
  rwa [normalize_blur]

/-- A text without its blank lines, the others joined by line feeds. -/
def tidied (text : Text) : Text := Text.joinLines ((lines text).filter isSolid)

theorem join_lines_map (change : Char → Char) (feed : change '\n' = '\n') (parts : List Text) :
    Text.joinLines (parts.map (List.map change)) = (Text.joinLines parts).map change := by
  induction parts with
  | nil => rfl
  | cons line following induction =>
      cases following with
      | nil => rw [List.map_singleton, Text.join_lines_single, Text.join_lines_single]
      | cons next following =>
          rw [List.map_cons, List.map_cons, Text.join_lines_cons, Text.join_lines_cons,
            ← List.map_cons, induction, List.map_append, List.map_cons, feed]

theorem tidied_blur (text : Text) : tidied (text.map blur) = (tidied text).map blur := by
  rw [tidied, lines_map blur_line_end, List.filter_map, tidied, ← join_lines_map blur (by decide)]
  congr 2
  exact List.filter_congr fun line _ => solid_blur line

theorem spaced_tidied (text : Text) : Text.spaced false (tidied text) = Text.spaced false text := by
  rw [tidied, Text.spaced_join_lines, spaced_lines]
  induction lines text with
  | nil => rfl
  | cons line following induction =>
      by_cases solid : isSolid line = true
      · rw [List.filter_cons_of_pos solid, List.flatMap_cons, List.flatMap_cons, induction]
      · have blank : Text.isAllBlank line = true := by simpa [isSolid] using solid
        rw [List.filter_cons_of_neg solid, List.flatMap_cons, induction,
          Text.spaced_all_blank blank, List.nil_append]

theorem tidied_normalize (text : Text) :
    tidied (normalizeVersion text) = normalizeVersion (tidied text) := by
  apply eq_of_blur
  · rw [← tidied_blur, normalize_blur, tidied_blur, normalize_blur]
  · rw [← Text.solids_spaced false, ← Text.solids_spaced false (normalizeVersion (tidied text)),
      spaced_tidied, ← normalize_spaced, ← normalize_spaced, spaced_tidied]

/-- The lines behind a marker line are well nested ones up to the end marker that closes the
region. -/
theorem Region.interior_closing {depth : Nat} {lines : List Text}
    (balanced : (interior endMarker depth lines).1.balanced = true) :
    ∃ inner last following, lines = inner ++ last :: following ∧
      openAfter depth inner = some 0 ∧ Text.trim last = endMarker := by
  fun_induction interior endMarker depth lines with
  | case1 => simp at balanced
  | case2 depth line rest opens induction =>
      obtain ⟨inner, last, following, rfl, counted, closes⟩ := induction balanced
      exact ⟨line :: inner, last, following, rfl, by rwa [open_after_opener opens], closes⟩
  | case3 line rest opens closes => exact ⟨[], line, rest, rfl, rfl, closes⟩
  | case4 line rest opens closed depth induction =>
      obtain ⟨inner, last, following, rfl, counted, closes⟩ := induction balanced
      exact ⟨line :: inner, last, following, rfl, by rwa [open_after_closer closed], closes⟩
  | case5 depth line rest opens continues induction =>
      obtain ⟨inner, last, following, rfl, counted, closes⟩ := induction balanced
      exact ⟨line :: inner, last, following, rfl,
        by rwa [open_after_plain (by simpa using opens) continues], closes⟩

/-- A line that begins with a number sign, blanks aside, and holds neither another one nor the
beginning of a declaration. -/
structure Guard (line : Text) : Prop where
  first : ∃ c rest, Text.trim line = '#' :: c :: rest ∧ c ≠ 'v' ∧ '#' ∉ c :: rest

theorem guard_closer {line : Text} (closes : Text.trim line = endMarker) : Guard line :=
  ⟨'e', _, closes, by decide, by decide⟩

theorem guard_marker {line : Text} {stage : Stage}
    (marked : Stage.ofMarker? (Text.trim line) = some stage) : Guard line := by
  rw [Stage.of_marker_iff] at marked
  cases stage with
  | vertex => exact ⟨'i', _, marked, by decide, by decide⟩
  | fragment => exact ⟨'i', _, marked, by decide, by decide⟩

namespace Guard

theorem normalize {line : Text} (guard : Guard line) (behind : Text) :
    normalizeVersion (line ++ behind) = line ++ normalizeVersion behind := by
  obtain ⟨c, rest, trimmed, other, free⟩ := guard.first
  obtain ⟨front, ending, spelled, before, after⟩ := Text.trim_parts line
  have sign : versionDirective? ('#' :: (c :: rest ++ ending ++ behind)) = none := by
    have word : Text.after? "#version" ('#' :: (c :: rest ++ ending ++ behind)) =
        Text.after? "version" (c :: rest ++ ending ++ behind) := rfl
    have first : ("version" : Text).head? = some 'v' := rfl
    rw [version_directive_eq, word, after_none first (by simpa using other), Option.bind_none]
  have clear : '#' ∉ c :: rest ++ ending := by
    rw [List.mem_append, not_or]
    exact ⟨free, gap_free after⟩
  have shape : line = front ++ '#' :: (c :: rest ++ ending) := by rwa [trimmed] at spelled
  rw [shape, List.append_assoc, List.append_assoc, normalize_free (gap_free before),
    List.cons_append, normalize_step sign, normalize_free clear]
  rfl

theorem fresh {line : Text} (guard : Guard line) {ends : Text}
    (blank : ∀ c ∈ ends, Text.isBlank c = true) (behind : Text) :
    Fresh (ends ++ (line ++ behind)) := by
  obtain ⟨c, rest, trimmed, _, _⟩ := guard.first
  obtain ⟨front, ending, spelled, before, _⟩ := Text.trim_parts line
  intro d found
  rw [trimmed] at spelled
  rw [spelled, Text.trimStart, List.dropWhile_append_of_pos blank, List.append_assoc,
    List.dropWhile_append_of_pos before] at found
  exact (Option.some.inj found).symm

end Guard

/-- A section whose lines are those of a text has the source that they have once the versions in
the text are put right. -/
theorem section_normalized (context : Context) (stage : Stage) (first : Text) {inner last : Text}
    (nested : WellNested (lines inner)) (closes : Text.trim last = endMarker)
    (following changed : List Text) :
    sectionAt context stage (first :: (lines (normalizeVersion inner) ++ last :: changed)) =
      sectionAt context stage (first :: (lines inner ++ last :: following)) := by
  have source : ∀ text, Region.source ⟨first :: (lines text ++ [last]), true⟩ = tidied text := by
    intro text
    exact region_source_inner first last (lines_unbroken text) true
  rw [sectionAt, sectionAt, Region.takeFrom_nested first nested closes,
    Region.takeFrom_nested first (well_nested_normalize nested) closes, source, source,
    tidied_normalize, normalize_again]

/-- The index of the line in which a character stands. -/
def lineAt (text : Text) (place : Nat) : Nat := (lines (text.take (place + 1))).length - 1

/-- No declaration begins in a line that the scan observes, which is one outside all regions. -/
def Sheltered (text : Text) (events : List Event) : Prop :=
  ∀ place, (versionDirective? (text.drop place)).isSome = true →
    .observed (lineAt text place) ∉ events

/-- A line that comes behind other lines has as index how many these are. -/
theorem line_at_behind (front : Text) {ends line : Text} (bounded : Bounded (ends ++ line))
    (all : ∀ c ∈ ends, isLineEnd c = true) (unbroken : Unbroken line) (behind : Text) {place : Nat}
    (inside : place < line.length) :
    lineAt (front ++ (ends ++ (line ++ behind))) (front.length + (ends.length + place)) =
      (lines front).length := by
  have part : line.take (place + 1) ++ line.drop (place + 1) = line := List.take_append_drop _ _
  have unbrokenPart : Unbroken (line.take (place + 1)) :=
    fun c member => unbroken c (List.mem_of_mem_take member)
  have filled : line.take (place + 1) ≠ [] := by
    rw [Ne, List.take_eq_nil_iff]
    rintro (zero | rfl)
    · simp at zero
    · simp at inside
  have boundedPart : Bounded (ends ++ line.take (place + 1)) := by
    rw [← part, ← List.append_assoc] at bounded
    exact bounded_front bounded
  have taken : (front ++ (ends ++ (line ++ behind))).take
      (front.length + (ends.length + place) + 1) =
        front ++ (ends ++ (line.take (place + 1) ++ [])) := by
    rw [Nat.add_assoc, Nat.add_assoc, List.take_length_add_append, List.take_length_add_append,
      List.take_append_of_le_length inside, List.append_nil]
  have empty : Bounded [] := by simp [Bounded]
  have single : lines (ends ++ (line.take (place + 1) ++ [])) = [line.take (place + 1)] := by
    rw [lines_behind_ends all, lines_line unbrokenPart filled empty]
    rfl
  rw [lineAt, taken, lines_bounded front (by rwa [List.append_nil]), single, List.length_append]
  rfl

theorem bounded_normalize {text : Text} (bounded : Bounded text) :
    Bounded (normalizeVersion text) := by
  rwa [Bounded, normalize_head]

/-- A line that is observed stays as it is when versions are put right. -/
theorem observed_normalized {front text line : Text} {following : List Text} {events : List Event}
    (sheltered : Sheltered (front ++ text) events)
    (observed : .observed (lines front).length ∈ events) (bounded : Bounded text)
    (spelled : lines text = line :: following) :
    ∃ passed behind, text = passed ++ behind ∧ Bounded passed ∧ Bounded behind ∧
      lines passed = [line] ∧ following = lines behind ∧
      lines (normalizeVersion text) = line :: lines (normalizeVersion behind) := by
  have member : line ∈ lines text := by
    rw [spelled]
    exact List.mem_cons_self
  have unbroken := lines_unbroken text line member
  have filled : line ≠ [] := by simpa using lines_filled text line member
  obtain ⟨ends, behind, rfl, all, boundedBehind, rfl⟩ := lines_cons spelled
  have first : ∀ {rest}, Bounded rest → lines (ends ++ (line ++ rest)) = line :: lines rest := by
    intro rest boundedRest
    rw [lines_behind_ends all, lines_line unbroken filled boundedRest]
  have boundedLine : Bounded (ends ++ line) := by
    rw [← List.append_assoc] at bounded
    exact bounded_front bounded
  have free : '#' ∉ ends := fun member => absurd (all '#' member) (by decide)
  have kept : normalizeVersion (ends ++ (line ++ behind)) =
      ends ++ (line ++ normalizeVersion behind) := by
    rw [normalize_free free, normalize_skip]
    intro place inside
    rw [← Option.not_isSome_iff_eq_none]
    intro directive
    apply sheltered (front.length + (ends.length + place))
    · rwa [List.drop_length_add_append, List.drop_length_add_append]
    · rwa [line_at_behind front boundedLine all unbroken behind inside]
  refine ⟨ends ++ line, behind, (List.append_assoc _ _ _).symm, boundedLine, boundedBehind, ?_, rfl,
    ?_⟩
  · have empty : Bounded [] := by simp [Bounded]
    have single := first empty
    rwa [List.append_nil] at single
  · rw [kept, first (bounded_normalize boundedBehind)]

/-- Texts that make up a closed region when they stand one behind the other: line ends and the first
line, what is inside, and line ends and the last line. -/
structure RegionText (ends first inner gap last : Text) : Prop where
  endsAll : ∀ c ∈ ends, isLineEnd c = true
  unbroken : Unbroken first
  filled : first ≠ []
  bounded : Bounded inner
  nested : WellNested (lines inner)
  gapAll : ∀ c ∈ gap, isLineEnd c = true
  lastUnbroken : Unbroken last
  lastBounded : Bounded (gap ++ last)
  closes : Text.trim last = endMarker

namespace RegionText

variable {ends first inner gap last : Text}

theorem lines_eq (region : RegionText ends first inner gap last) {changed behind : Text}
    (bounded : Bounded changed) (behindBounded : Bounded behind) :
    lines (ends ++ (first ++ (changed ++ (gap ++ (last ++ behind))))) =
      first :: (lines changed ++ last :: lines behind) := by
  have filled : last ≠ [] := by
    rintro rfl
    exact absurd region.closes (by decide)
  have lastBounded : Bounded (gap ++ (last ++ behind)) := by
    rw [← List.append_assoc]
    exact bounded_append region.lastBounded behindBounded
  rw [lines_behind_ends region.endsAll,
    lines_line region.unbroken region.filled (bounded_append bounded lastBounded),
    lines_bounded changed lastBounded, lines_behind_ends region.gapAll,
    lines_line region.lastUnbroken filled behindBounded]

/-- Versions are put right inside a region and behind it. -/
theorem normalize (region : RegionText ends first inner gap last) {stage : Stage}
    (marked : Stage.ofMarker? (Text.trim first) = some stage) (behind : Text) :
    normalizeVersion (ends ++ (first ++ (inner ++ (gap ++ (last ++ behind))))) = ends ++ (first ++
      (normalizeVersion inner ++ (gap ++ (last ++ normalizeVersion behind)))) := by
  have closer := guard_closer region.closes
  have blank : ∀ c ∈ gap, Text.isBlank c = true :=
    fun c member => line_end_blank (region.gapAll c member)
  rw [normalize_free (gap_free fun c member => line_end_blank (region.endsAll c member)),
    (guard_marker marked).normalize, normalize_append (closer.fresh blank behind),
    normalize_free (gap_free blank), closer.normalize]

end RegionText

/-- A text whose first line opens a closed region begins with the text of that region. -/
theorem region_text {text first : Text} (bounded : Bounded text) {following : List Text}
    (spelled : lines text = first :: following)
    (balanced : (Region.takeFrom endMarker (first :: following)).1.balanced = true) :
    ∃ ends inner gap last behind, RegionText ends first inner gap last ∧ Bounded behind ∧
      text = ends ++ (first ++ (inner ++ (gap ++ (last ++ behind)))) := by
  have member : first ∈ lines text := by
    rw [spelled]
    exact List.mem_cons_self
  obtain ⟨ends, onward, rfl, all, boundedOnward, rfl⟩ := lines_cons spelled
  obtain ⟨body, last, later, split, counted, closes⟩ := Region.interior_closing balanced
  obtain ⟨inner, second, rfl, rfl, closing, boundedSecond⟩ := lines_cut boundedOnward split
  have lastMember : last ∈ lines second := by
    rw [closing]
    exact List.mem_cons_self
  obtain ⟨gap, behind, rfl, gapAll, boundedBehind, rfl⟩ := lines_cons closing
  refine ⟨ends, inner, gap, last, behind, ?_, boundedBehind, rfl⟩
  constructor
  · exact all
  · exact lines_unbroken _ first member
  · simpa using lines_filled _ first member
  · exact bounded_front boundedOnward
  · exact well_nested_iff.mpr counted
  · exact gapAll
  · exact lines_unbroken _ last lastMember
  · rw [← List.append_assoc] at boundedSecond
    exact bounded_front boundedSecond
  · exact closes

/-- A closed region has the source that it has once versions are put right in and behind it. -/
theorem captured_normalized {text first : Text} {stage : Stage}
    (marked : Stage.ofMarker? (Text.trim first) = some stage) (context : Context)
    (bounded : Bounded text) {following : List Text} (spelled : lines text = first :: following)
    (balanced : (Region.takeFrom endMarker (first :: following)).1.balanced = true) :
    ∃ passed behind, text = passed ++ behind ∧ Bounded passed ∧ Bounded behind ∧
      lines passed = (Region.takeFrom endMarker (first :: following)).1.lines ∧
      (Region.takeFrom endMarker (first :: following)).2 = lines behind ∧
      sectionsFrom context (lines (normalizeVersion text)) =
        sectionAt context stage (lines text) ::
          sectionsFrom context (lines (normalizeVersion behind)) := by
  obtain ⟨ends, inner, gap, last, behind, region, boundedBehind, rfl⟩ :=
    region_text bounded spelled balanced
  have empty : Bounded [] := by simp [Bounded]
  have own := region.lines_eq region.bounded empty
  have whole := region.lines_eq region.bounded boundedBehind
  have changed := region.lines_eq (bounded_normalize region.bounded)
    (bounded_normalize boundedBehind)
  rw [List.append_nil] at own
  rw [← spelled, whole, Region.takeFrom_nested first region.nested region.closes]
  have parts : ends ++ (first ++ (inner ++ (gap ++ (last ++ behind)))) =
      ends ++ (first ++ (inner ++ (gap ++ last))) ++ behind := by simp only [List.append_assoc]
  refine ⟨_, behind, parts, ?_, boundedBehind, own, rfl, ?_⟩
  · rw [parts] at bounded
    exact bounded_front bounded
  · rw [region.normalize marked, changed, sections_marked marked,
      section_normalized context stage first region.nested region.closes (lines behind),
      Region.takeFrom_nested first (well_nested_normalize region.nested) region.closes]

theorem sheltered_later {text : Text} {event : Event} {events : List Event}
    (sheltered : Sheltered text (event :: events)) : Sheltered text events :=
  fun place directive later => sheltered place directive (List.mem_cons_of_mem event later)

/-- From any place on where the scan stands, versions can be put right before it goes on. -/
theorem run_normalized {whole : Text} {scan final : Scan} {events : List Event}
    (run : Scan.Run (lines whole) scan events final) (sheltered : Sheltered whole events)
    {front rest : Text} (spelled : whole = front ++ rest) (bounded : Bounded rest)
    (reached : (lines front).length = scan.cursor) (closed : Closed scan.context (lines rest)) :
    sectionsFrom scan.context (lines (normalizeVersion rest)) =
      sectionsFrom scan.context (lines rest) := by
  induction run generalizing front rest with
  | @stop scan nothing =>
      have size : (lines whole).length = (lines front).length + (lines rest).length := by
        rw [spelled, lines_bounded front bounded, List.length_append]
      have none : lines rest = [] := by
        rw [← List.length_eq_zero_iff]
        have behind := Scan.step_none_iff.mp nothing
        omega
      have free : '#' ∉ rest := fun member => absurd (lines_nil none '#' member) (by decide)
      rw [← List.append_nil rest, normalize_free free, normalize_nil]
  | @round scan next final event events step later induction =>
      have here : (lines whole).drop scan.cursor = lines rest := by
        rw [spelled, lines_bounded front bounded, ← reached, List.drop_left]
      rcases Scan.step_cases step with
        ⟨line, found, plain, rfl, rfl⟩ | ⟨stage, inside, marked, rfl, rfl⟩
      · obtain ⟨inside, this⟩ := List.getElem?_eq_some_iff.mp found
        have observed : .observed (lines front).length ∈ Event.observed scan.cursor :: events := by
          rw [reached]
          exact List.mem_cons_self
        simp only [markerAt?, found, Option.bind_some] at plain
        rw [List.drop_eq_getElem_cons inside, this] at here
        obtain ⟨passed, behind, rfl, boundedPassed, boundedBehind, single, same, normalized⟩ :=
          observed_normalized (spelled ▸ sheltered) observed bounded here.symm
        rw [← here, same, closed_plain plain] at closed
        have onward : whole = front ++ passed ++ behind := by rw [spelled, List.append_assoc]
        have next : (lines (front ++ passed)).length = scan.cursor + 1 := by
          rw [lines_bounded front boundedPassed, single, List.length_append, reached]
          rfl
        rw [normalized, ← here, same, sections_plain plain, sections_plain plain]
        exact induction (sheltered_later sheltered) onward boundedBehind next closed
      · have marker := marked
        simp only [markerAt?, List.getElem?_eq_getElem inside, Option.bind_some] at marker
        have own := here
        rw [List.drop_eq_getElem_cons inside] at own
        rw [← own, closed_marked marker] at closed
        obtain ⟨passed, behind, rfl, boundedPassed, boundedBehind, region, same, normalized⟩ :=
          captured_normalized marker scan.context bounded own.symm closed.1
        have onward : whole = front ++ passed ++ behind := by rw [spelled, List.append_assoc]
        have next : (lines (front ++ passed)).length = regionEnd (lines whole) scan.cursor := by
          rw [lines_bounded front boundedPassed, region, List.length_append, reached, own, ← here]
          rfl
        rw [same, ← Scan.record_context scan stage] at closed
        have later := induction (sheltered_later sheltered) onward boundedBehind next closed.2
        rw [Scan.record_context] at later
        rw [normalized, later, ← own, sections_marked marker, same]

/-- Versions may be put right in a whole dump or in each of its sources. If all regions are closed
and no declaration begins in a line outside them, let alone runs over one, a dump has the sections
and the variants that it has with its versions put right. -/
theorem normalization_commutes {text : Text} {events : List Event} {final : Scan}
    (run : Scan.Run (lines text) .initial events final)
    (closed : ∀ part ∈ sections text, part.balanced = true) (sheltered : Sheltered text events) :
    sections (normalizeVersion text) = sections text ∧
      ∀ includeAll, select (variants (normalizeVersion text)) includeAll =
        select (variants text) includeAll := by
  -- A line end in front makes every line one that stands behind a line end.
  have bounded : Bounded ('\n' :: text) := by simp [Bounded, isLineEnd]
  have feed : ∀ c ∈ ['\n'], isLineEnd c = true := List.forall_mem_singleton.mpr rfl
  have same : ∀ text, lines ('\n' :: text) = lines text := fun text => lines_behind_ends feed text
  have whole : Sheltered ('\n' :: text) events := by
    intro place directive
    cases place with
    | zero =>
        rw [List.drop_zero, no_directive (by simp)] at directive
        simp at directive
    | succ place =>
        rw [lineAt, List.take_succ_cons, same]
        exact sheltered place directive
  have kept : sections (normalizeVersion text) = sections text := by
    have all : '\n' :: text = [] ++ '\n' :: text := rfl
    have scanned := run_normalized ((same text).symm ▸ run) whole all bounded rfl (by rwa [same])
    rw [normalize_step (no_directive (by simp)), same, same] at scanned
    exact scanned
  refine ⟨kept, ?_⟩
  intro includeAll
  rw [variants_of_sections kept]

/-- A declaration that runs over five lines, two of them blank, and one that only looks like one. -/
def scatteredVersion : Text :=
  "Pass: 300 es\n#ifdef VERTEX\r\n#version\r\n \r\n300\n\t\nes\nv\n#endif\n" ++
    "#ifdef FRAGMENT\n#if A #version 300 es\n#endif\n#version 300\n#endif\nes"

theorem normalization_commutes_scattered :
    (∃ events final, Scan.Run (lines scatteredVersion) .initial events final ∧
        Sheltered scatteredVersion events) ∧
      (∀ part ∈ sections scatteredVersion, part.balanced = true) ∧
      sections (normalizeVersion scatteredVersion) = sections scatteredVersion ∧
      normalizeVersion scatteredVersion ≠ scatteredVersion ∧
      variants scatteredVersion = [⟨⟨"300 es", ""⟩, "#version\n310\nes\nv",
        "#if A #version 310 es\n#endif\n#version 300"⟩] := by
  obtain ⟨events, final, run⟩ := Scan.run_exists (lines scatteredVersion) .initial
  have closed : ∀ part ∈ sections scatteredVersion, part.balanced = true := by decide +kernel
  have sheltered : Sheltered scatteredVersion events := by
    have inside : ∀ place < scatteredVersion.length,
        (versionDirective? (scatteredVersion.drop place)).isSome = true →
          .observed (lineAt scatteredVersion place) ∉
            (List.range (lines scatteredVersion).length).filterMap
              (eventAt? (lines scatteredVersion)) := by decide +kernel
    intro place directive
    rw [Scan.run_events run]
    apply inside place _ directive
    rw [← Nat.not_le]
    intro beyond
    rw [List.drop_eq_nil_of_le beyond, no_directive (by simp)] at directive
    simp at directive
  obtain ⟨kept, _⟩ := normalization_commutes run closed sheltered
  exact ⟨⟨events, final, run, sheltered⟩, closed, kept, by decide +kernel, by decide +kernel⟩

end ShaderCost.Dump
