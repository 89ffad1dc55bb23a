import Mathlib.Data.List.Basic
import ShaderCost.Proofs.Dump.Balance
import ShaderCost.Proofs.Dump.Indentation
import ShaderCost.Proofs.Dump.Layout

/-!
Dumps that are indented in another way. The lines that open and close regions are told by their
trimmed text, and metadata lines by what stands between the blanks at their ends, so that the scan
goes the same way through two dumps whose lines differ in such blanks only. It takes the lines
inside of the regions as they are; these have to agree for the sections to be the same.
-/

namespace ShaderCost.Dump

open Text Metadata

/-- Whether a row of a text is a line of it: rows without a character are skipped. -/
def isFilled (row : Text) : Bool := !row.isEmpty

theorem filled_of_trim {row : Text} (more : trim row ≠ []) : isFilled row = true := by
  cases row with
  | nil => exact absurd rfl more
  | cons c row => rfl

theorem unbroken_rows {text : Text} {rows : List Text} (read : lines text = rows.filter isFilled) :
    ∀ row ∈ rows, Unbroken row := by
  intro row member
  by_cases filled : isFilled row = true
  · apply lines_unbroken text
    rw [read]
    exact List.mem_filter.mpr ⟨member, filled⟩
  · have nothing : row = [] := by simpa [isFilled] using filled
    rw [nothing]
    exact fun c member => nomatch member

namespace Region

/-- Where a region ends, and whether it is closed, is told by the trimmed lines. -/
theorem interior_cores {closer : Text} {depth : Nat} {lines altered : List Text}
    (cores : altered.map trim = lines.map trim) :
    (interior closer depth altered).1.balanced = (interior closer depth lines).1.balanced ∧
      (interior closer depth altered).1.lines.length =
        (interior closer depth lines).1.lines.length := by
  fun_induction interior closer depth lines generalizing altered with
  | case1 =>
      rw [List.map_nil, List.map_eq_nil_iff] at cores
      rw [cores]
      exact ⟨rfl, rfl⟩
  | case2 depth line following opens induction =>
      obtain ⟨other, changed, rfl, same, later⟩ := List.map_eq_cons_iff.mp cores
      have alsoOpens : opensBlock other = true := by rwa [opensBlock, same]
      obtain ⟨balanced, size⟩ := induction later
      rw [interior.eq_def]
      simp only [if_pos alsoOpens, push, List.length_cons, balanced, size, and_self]
  | case3 line following opens closes =>
      obtain ⟨other, changed, rfl, same, later⟩ := List.map_eq_cons_iff.mp cores
      have stillPlain : ¬ opensBlock other = true := by rwa [opensBlock, same]
      rw [interior.eq_def]
      simp only [if_neg stillPlain, if_pos (same.trans closes), List.length_singleton, and_self]
  | case4 line following opens closes depth induction =>
      obtain ⟨other, changed, rfl, same, later⟩ := List.map_eq_cons_iff.mp cores
      have stillPlain : ¬ opensBlock other = true := by rwa [opensBlock, same]
      obtain ⟨balanced, size⟩ := induction later
      rw [interior.eq_def]
      simp only [if_neg stillPlain, if_pos (same.trans closes), push, List.length_cons, balanced,
        size, and_self]
  | case5 depth line following opens continues induction =>
      obtain ⟨other, changed, rfl, same, later⟩ := List.map_eq_cons_iff.mp cores
      have stillPlain : ¬ opensBlock other = true := by rwa [opensBlock, same]
      have stillOpen : ¬ trim other = closer := by rwa [same]
      obtain ⟨balanced, size⟩ := induction later
      rw [interior.eq_def]
      simp only [if_neg stillPlain, if_neg stillOpen, push, List.length_cons, balanced, size,
        and_self]

/-- The source of a region depends on neither its first nor its last row, as long as the last one is
a line in both or in neither. -/
theorem source_between {first other : Text} {rest changed : List Text}
    (filled : isFilled first = true) (alsoFilled : isFilled other = true)
    (size : changed.length = rest.length)
    (inner : ∀ index, index + 1 < rest.length → changed[index]? = rest[index]?)
    (last : changed.getLast?.map isFilled = rest.getLast?.map isFilled)
    (balanced alsoBalanced : Bool) :
    source ⟨(other :: changed).filter isFilled, alsoBalanced⟩ =
      source ⟨(first :: rest).filter isFilled, balanced⟩ := by
  rw [List.filter_cons_of_pos filled, List.filter_cons_of_pos alsoFilled]
  rcases List.eq_nil_or_concat' rest with rfl | ⟨front, final, rfl⟩
  · rw [List.eq_nil_of_length_eq_zero size]
    rfl
  · rcases List.eq_nil_or_concat' changed with rfl | ⟨changedFront, changedFinal, rfl⟩
    · simp at size
    · simp only [List.length_append, List.length_singleton, Nat.add_right_cancel_iff] at size inner
      have same : changedFront = front := by
        apply List.ext_getElem?
        intro index
        by_cases within : index < front.length
        · have here := inner index (Nat.succ_lt_succ within)
          rwa [List.getElem?_append_left within, List.getElem?_append_left (size ▸ within)] at here
        · rw [List.getElem?_eq_none (Nat.not_lt.mp within),
            List.getElem?_eq_none (size ▸ Nat.not_lt.mp within)]
      simp only [List.getLast?_append, List.getLast?_singleton, Option.some_or, Option.map_some,
        Option.some.injEq] at last
      rw [same, List.filter_append, List.filter_append]
      by_cases kept : isFilled final = true
      · rw [List.filter_cons_of_pos kept, List.filter_cons_of_pos (last.trans kept),
          List.filter_nil, region_source_between, region_source_between]
      · rw [List.filter_cons_of_neg kept, List.filter_cons_of_neg (last ▸ kept), List.filter_nil,
          List.append_nil, source, source]
        rfl

end Region

theorem filled_of_opens {row : Text} (opens : opensBlock row = true) : isFilled row = true := by
  cases row with
  | nil => exact absurd opens (by decide)
  | cons c row => rfl

theorem filled_of_closer {row : Text} (closes : trim row = endMarker) : isFilled row = true :=
  filled_of_trim (closes ▸ by decide)

theorem filled_of_marker {row : Text} {stage : Stage}
    (marked : Stage.ofMarker? (trim row) = some stage) : isFilled row = true := by
  apply filled_of_trim
  intro nothing
  have none : Stage.ofMarker? (trim row) = none := by rw [nothing]; rfl
  rw [none] at marked
  cases marked

/-- A row that opens no region is observed, or skipped without anything to observe. -/
theorem sections_row {row : Text} (plain : Stage.ofMarker? (trim row) = none) (context : Context)
    (following : List Text) : sectionsFrom context ((row :: following).filter isFilled) =
      sectionsFrom (context.observe row) (following.filter isFilled) := by
  by_cases filled : isFilled row = true
  · rw [List.filter_cons_of_pos filled, sections_plain plain]
  · have nothing : row = [] := by simpa [isFilled] using filled
    have same : context.observe row = context := by
      rw [nothing]
      exact blank_observed rfl context
    rw [List.filter_cons_of_neg filled, same]

/-- Rows that a scan reads alike. Where they differ, they do so in blanks at their ends, and in the
regions that the scan captures only at the first and the last row. -/
structure Aligned (rows altered : List Text) : Prop where
  cores : altered.map trim = rows.map trim
  unbroken : ∀ row ∈ rows, Unbroken row
  still : ∀ row ∈ altered, Unbroken row
  inner : ∀ start index, visited rows start = true → (markerAt? rows start).isSome = true →
    start < index → index + 1 < regionEnd rows start → altered[index]? = rows[index]?
  kept : ∀ start index, visited rows start = true → (markerAt? rows start).isSome = true →
    start < index → index < regionEnd rows start →
      altered[index]?.map isFilled = rows[index]?.map isFilled

/-- The rows from one row on, up to the one at `stop`. -/
def rowsBetween (rows : List Text) (start stop : Nat) : List Text := (rows.take stop).drop start

theorem rows_between_get {rows : List Text} {start stop index : Nat} (before : start + index < stop) :
    (rowsBetween rows start stop)[index]? = rows[start + index]? := by
  rw [rowsBetween, List.getElem?_drop, List.getElem?_take_of_lt before]

theorem rows_between_length {rows : List Text} {stop : Nat} (fits : stop ≤ rows.length)
    (start : Nat) : (rowsBetween rows start stop).length = stop - start := by
  rw [rowsBetween, List.length_drop, List.length_take, Nat.min_eq_left fits]

section Regions

variable {rows : List Text} {start : Nat} (inside : start < rows.length)

include inside

/-- The region at a row, as it is taken from the lines among the rows. -/
theorem take_from_rows (filled : isFilled rows[start] = true) :
    Region.takeFrom endMarker ((rows.drop start).filter isFilled) =
      (⟨(rows[start] :: rowsBetween rows (start + 1) (regionEnd rows start)).filter isFilled,
        (Region.capture rows start endMarker).balanced⟩,
        (rows.drop (regionEnd rows start)).filter isFilled) := by
  have behind := Region.lt_nextIndex endMarker rows start inside
  have reached : start < (rows.take (regionEnd rows start)).length := by
    rw [List.length_take]
    exact Nat.lt_min.mpr ⟨behind, inside⟩
  have taken : (Region.capture rows start endMarker).lines =
      (rows.take (regionEnd rows start)).drop start := Region.capture_lines inside
  have rest := Region.capture_rest endMarker rows start
  rw [List.drop_eq_getElem_cons reached, List.getElem_take, ← rowsBetween] at taken
  rw [← regionEnd] at rest
  rw [← taken, ← rest, Region.capture, List.drop_eq_getElem_cons inside,
    List.filter_cons_of_pos filled]
  exact Region.takeFrom_filter (fun _ => filled_of_opens) (fun _ => filled_of_closer) filled _

/-- Rows with the same text between the blanks at their ends have regions of the same extent. -/
theorem region_cores {altered : List Text} (cores : altered.map trim = rows.map trim) :
    (Region.capture altered start endMarker).balanced =
        (Region.capture rows start endMarker).balanced ∧
      regionEnd altered start = regionEnd rows start := by
  have size : altered.length = rows.length := by
    rw [← List.length_map trim, cores, List.length_map]
  have later : (altered.drop (start + 1)).map trim = (rows.drop (start + 1)).map trim := by
    rw [List.map_drop, List.map_drop, cores]
  obtain ⟨balanced, lengths⟩ := Region.interior_cores later
  rw [Region.balanced_inside (size ▸ inside), Region.balanced_inside inside, regionEnd, regionEnd,
    Region.nextIndex_inside (size ▸ inside), Region.nextIndex_inside inside]
  exact ⟨balanced, congrArg (start + 1 + ·) lengths⟩

end Regions

namespace Aligned

variable {rows altered : List Text} (aligned : Aligned rows altered)

include aligned

theorem size : altered.length = rows.length := by
  rw [← List.length_map trim, aligned.cores, List.length_map]

theorem trim_at {index : Nat} (inside : index < rows.length) (there : index < altered.length) :
    trim altered[index] = trim rows[index] := by
  have same := congrArg (fun trimmed => trimmed[index]?) aligned.cores
  simpa [List.getElem?_eq_getElem inside, List.getElem?_eq_getElem there] using same

/-- A region that the scan captures gives the same section, and ends at the same row. -/
theorem region {start : Nat} (seen : visited rows start = true) (inside : start < rows.length)
    (there : start < altered.length) {stage : Stage}
    (marked : Stage.ofMarker? (trim rows[start]) = some stage) (context : Context) :
    sectionAt context stage ((altered.drop start).filter isFilled) =
        sectionAt context stage ((rows.drop start).filter isFilled) ∧
      regionEnd altered start = regionEnd rows start := by
  have alsoMarked : Stage.ofMarker? (trim altered[start]) = some stage := by
    rwa [aligned.trim_at inside there]
  have opens : (markerAt? rows start).isSome = true := by
    rw [markerAt?, List.getElem?_eq_getElem inside, Option.bind_some, marked]
    rfl
  obtain ⟨balanced, stop⟩ := region_cores inside aligned.cores
  have fits : regionEnd rows start ≤ rows.length :=
    Region.nextIndex_le endMarker rows start (Nat.le_of_lt inside)
  have filled := filled_of_marker marked
  have alsoFilled := filled_of_marker alsoMarked
  have length := rows_between_length fits (start + 1)
  have alsoLength := rows_between_length (aligned.size ▸ fits) (start + 1)
  have source : Region.source
        ⟨(altered[start] :: rowsBetween altered (start + 1) (regionEnd rows start)).filter isFilled,
          (Region.capture rows start endMarker).balanced⟩ =
      Region.source
        ⟨(rows[start] :: rowsBetween rows (start + 1) (regionEnd rows start)).filter isFilled,
          (Region.capture rows start endMarker).balanced⟩ := by
    apply Region.source_between filled alsoFilled (alsoLength.trans length.symm)
    · intro index before
      rw [length] at before
      have within : start + 1 + index + 1 < regionEnd rows start := by omega
      rw [rows_between_get (Nat.lt_of_succ_lt within), rows_between_get (Nat.lt_of_succ_lt within)]
      exact aligned.inner start _ seen opens (by omega) within
    · rw [List.getLast?_eq_getElem?, List.getLast?_eq_getElem?, length, alsoLength]
      by_cases within : start + 1 < regionEnd rows start
      · have last : start + 1 + (regionEnd rows start - (start + 1) - 1) < regionEnd rows start := by
          omega
        rw [rows_between_get last, rows_between_get last]
        exact aligned.kept start _ seen opens (by omega) last
      · rw [List.getElem?_eq_none (by omega), List.getElem?_eq_none (by omega)]
  refine ⟨?_, stop⟩
  rw [sectionAt, sectionAt, take_from_rows there alsoFilled, take_from_rows inside filled, stop,
    balanced, source]

/-- From any row on that the scan comes to, it finds the same sections. The induction is on the
rows that are left: the scan goes on at the next row or behind a region. -/
theorem sections_from {cursor : Nat} (seen : visited rows cursor = true) (context : Context) :
    sectionsFrom context ((altered.drop cursor).filter isFilled) =
      sectionsFrom context ((rows.drop cursor).filter isFilled) := by
  generalize left : rows.length - cursor = count
  induction count using Nat.strong_induction_on generalizing cursor context with
  | _ count induction =>
      by_cases inside : cursor < rows.length
      · have there : cursor < altered.length := aligned.size ▸ inside
        have same := aligned.trim_at inside there
        cases marker : Stage.ofMarker? (trim rows[cursor]) with
        | none =>
            have plain : markerAt? rows cursor = none := by
              rw [markerAt?, List.getElem?_eq_getElem inside, Option.bind_some, marker]
            have alsoPlain : Stage.ofMarker? (trim altered[cursor]) = none := by rwa [same]
            have observed : context.observe altered[cursor] = context.observe rows[cursor] :=
              observe_of_trim (aligned.unbroken _ (List.getElem_mem inside))
                (aligned.still _ (List.getElem_mem there)) same context
            rw [List.drop_eq_getElem_cons inside, List.drop_eq_getElem_cons there,
              sections_row marker, sections_row alsoPlain, observed]
            exact induction _ (by omega) (visited_succ seen plain) _ rfl
        | some stage =>
            have opens : (markerAt? rows cursor).isSome = true := by
              rw [markerAt?, List.getElem?_eq_getElem inside, Option.bind_some, marker]
              rfl
            have behind : cursor < regionEnd rows cursor :=
              Region.lt_nextIndex endMarker rows cursor inside
            have alsoMarked : Stage.ofMarker? (trim altered[cursor]) = some stage := by rwa [same]
            obtain ⟨found, stop⟩ := aligned.region seen inside there marker context
            have rest := induction _ (by omega) (visited_region_end seen opens behind) context rfl
            have filled := filled_of_marker marker
            have alsoFilled := filled_of_marker alsoMarked
            have taken := take_from_rows inside filled
            have alsoTaken := take_from_rows there alsoFilled
            rw [List.drop_eq_getElem_cons inside, List.filter_cons_of_pos filled] at found taken ⊢
            rw [List.drop_eq_getElem_cons there, List.filter_cons_of_pos alsoFilled]
              at found alsoTaken ⊢
            rw [sections_marked marker, sections_marked alsoMarked, found, taken, alsoTaken, stop,
              rest]
      · have beyond : rows.length ≤ cursor := Nat.not_lt.mp inside
        rw [List.drop_eq_nil_of_le beyond, List.drop_eq_nil_of_le (aligned.size.trans_le beyond)]

end Aligned

/-- A row of a region that the scan captures, other than its marker line and the end marker that
closes it. A region that is never closed has none: all of its rows behind the marker line are meant. -/
def Interior (rows : List Text) (index : Nat) : Prop :=
  ∃ start < index, visited rows start = true ∧ (markerAt? rows start).isSome = true ∧
    index < regionEnd rows start ∧
    ¬ ((Region.capture rows start endMarker).balanced = true ∧ index + 1 = regionEnd rows start)

instance (rows : List Text) (index : Nat) : Decidable (Interior rows index) :=
  inferInstanceAs (Decidable (∃ start < index, _))

/-- The same rows but for blanks at their ends, with those in the interior of regions as they
were. -/
structure Reindented (rows altered : List Text) : Prop where
  cores : altered.map trim = rows.map trim
  interior : ∀ index, Interior rows index → altered[index]? = rows[index]?

theorem marker_inside {rows : List Text} {index : Nat}
    (marked : (markerAt? rows index).isSome = true) : index < rows.length := by
  rw [← Nat.not_le]
  intro beyond
  rw [markerAt?, List.getElem?_eq_none beyond] at marked
  cases marked

theorem reindented_iff (rows altered : List Text) : Reindented rows altered ↔
    altered.map trim = rows.map trim ∧
      ∀ index < rows.length, Interior rows index → altered[index]? = rows[index]? := by
  constructor
  · exact fun reindented => ⟨reindented.cores, fun index _ => reindented.interior index⟩
  · rintro ⟨cores, interior⟩
    refine ⟨cores, fun index within => interior index ?_ within⟩
    obtain ⟨start, _, _, marked, before, _⟩ := within
    exact Nat.lt_of_lt_of_le before
      (Region.nextIndex_le endMarker rows start (Nat.le_of_lt (marker_inside marked)))

instance (rows altered : List Text) : Decidable (Reindented rows altered) :=
  decidable_of_iff' _ (reindented_iff rows altered)

/-- The last row of a region that is closed is an end marker. -/
theorem region_closer {rows : List Text} {start : Nat} (inside : start < rows.length)
    (balanced : (Region.capture rows start endMarker).balanced = true) :
    ∃ last, rows[regionEnd rows start - 1]? = some last ∧ trim last = endMarker := by
  have fits : regionEnd rows start ≤ rows.length :=
    Region.nextIndex_le endMarker rows start (Nat.le_of_lt inside)
  have taken : (Region.capture rows start endMarker).lines =
      rowsBetween rows start (regionEnd rows start) := Region.capture_lines inside
  have behind : start < regionEnd rows start - 1 := (Region.capture_closed inside balanced).1
  have length := rows_between_length fits start
  rw [Region.capture, List.drop_eq_getElem_cons inside] at balanced taken
  obtain ⟨inner, last, spelled, closes⟩ := Region.takeFrom_last balanced
  refine ⟨last, ?_, closes⟩
  have found : (rowsBetween rows start (regionEnd rows start)).getLast? = some last := by
    rw [← taken, spelled, ← List.cons_append, List.getLast?_append, List.getLast?_singleton,
      Option.some_or]
  have place : start + (regionEnd rows start - start - 1) = regionEnd rows start - 1 := by omega
  rwa [List.getLast?_eq_getElem?, length, rows_between_get (by omega), place] at found

theorem aligned_of_reindented {text changed : Text} {rows altered : List Text}
    (read : lines text = rows.filter isFilled) (alsoRead : lines changed = altered.filter isFilled)
    (reindented : Reindented rows altered) : Aligned rows altered where
  cores := reindented.cores
  unbroken := unbroken_rows read
  still := unbroken_rows alsoRead
  inner := by
    intro start index seen marked behind before
    exact reindented.interior index
      ⟨start, behind, seen, marked, Nat.lt_of_succ_lt before, fun last => by omega⟩
  kept := by
    intro start index seen marked behind before
    -- The row that closes the region is a line whatever blanks stand around its end marker.
    by_cases last : (Region.capture rows start endMarker).balanced = true ∧
        index + 1 = regionEnd rows start
    · obtain ⟨closer, here, closes⟩ := region_closer (marker_inside marked) last.1
      rw [← last.2, Nat.add_sub_cancel] at here
      have same := congrArg (fun trimmed => trimmed[index]?) reindented.cores
      simp only [List.getElem?_map, here, Option.map_some] at same
      obtain ⟨other, there, core⟩ := Option.map_eq_some_iff.mp same
      rw [here, there, Option.map_some, Option.map_some, filled_of_closer closes,
        filled_of_closer (core.trans closes)]
    · rw [reindented.interior index ⟨start, behind, seen, marked, before, last⟩]

theorem aligned_of_last {text changed : Text} {front : List Text} {last other : Text}
    (read : lines text = front ++ [last]) (alsoRead : lines changed = front ++ [other])
    (core : trim other = trim last) : Aligned (lines text) (lines changed) := by
  have earlier : ∀ index < front.length, (lines changed)[index]? = (lines text)[index]? := by
    intro index within
    rw [read, alsoRead, List.getElem?_append_left within, List.getElem?_append_left within]
  have fits : ∀ start, (markerAt? (lines text) start).isSome = true →
      regionEnd (lines text) start ≤ front.length + 1 := by
    intro start marked
    have bound := Region.nextIndex_le endMarker (lines text) start
      (Nat.le_of_lt (marker_inside marked))
    rwa [congrArg List.length read, List.length_append, List.length_singleton] at bound
  refine ⟨?_, lines_unbroken text, lines_unbroken changed, ?_, ?_⟩
  · rw [read, alsoRead, List.map_append, List.map_append, List.map_singleton, List.map_singleton,
      core]
  · intro start index _ marked _ before
    have bound := fits start marked
    exact earlier index (by omega)
  · intro start index _ marked _ before
    have bound := fits start marked
    by_cases within : index < front.length
    · rw [earlier index within]
    · obtain rfl : index = front.length := by omega
      have filled : isFilled last = true := lines_filled text last (by simp [read])
      have alsoFilled : isFilled other = true := lines_filled changed other (by simp [alsoRead])
      rw [read, alsoRead, List.getElem?_concat_length, List.getElem?_concat_length,
        Option.map_some, Option.map_some, filled, alsoFilled]

theorem select_of_aligned {text changed : Text} {rows altered : List Text}
    (read : lines text = rows.filter isFilled) (alsoRead : lines changed = altered.filter isFilled)
    (aligned : Aligned rows altered) (includeAll : Bool) :
    select (variants changed) includeAll = select (variants text) includeAll := by
  have start : visited rows 0 = true := by
    rw [visited_iff]
    exact fun earlier before => absurd before (Nat.not_lt_zero earlier)
  have same := aligned.sections_from start .initial
  rw [List.drop_zero, List.drop_zero, ← read, ← alsoRead] at same
  rw [variants_of_sections same]

/-- Blanks at the ends of lines that do not stand in the interior of a region play no part. A line
that is observed has metadata with them exactly if it has metadata without them, and the same. In a
dump they can be put at the ends of any such rows, or taken away, without changing the variants. Rows
are the pieces of a text between line ends, those without a character left out or not, so that a
blank line may vanish and an empty one may become a line. At the ends of the last line of a dump
blanks play no part even in a region that is never closed, as the source leaves that line out. -/
theorem indentation_irrelevant :
    (∀ (context : Context) (line : Text) {front behind : Text}, Indent front → Indent behind →
      (ofLine? (front ++ (line ++ behind))).isSome = (ofLine? line).isSome ∧
        context.observe (front ++ (line ++ behind)) = context.observe line) ∧
      (∀ {text changed : Text} {rows altered : List Text}, lines text = rows.filter isFilled →
        lines changed = altered.filter isFilled → Reindented rows altered →
        ∀ includeAll, select (variants changed) includeAll = select (variants text) includeAll) ∧
      ∀ {text changed : Text} {front : List Text} {last other : Text},
        lines text = front ++ [last] → lines changed = front ++ [other] → trim other = trim last →
        ∀ includeAll, select (variants changed) includeAll = select (variants text) includeAll := by
  refine ⟨?_, ?_, ?_⟩
  · intro context line front behind before after
    rw [Context.observe, Context.observe, metadata_between before after]
    exact ⟨rfl, rfl⟩
  · intro text changed rows altered read alsoRead reindented
    exact select_of_aligned read alsoRead (aligned_of_reindented read alsoRead reindented)
  · intro text changed front last other read alsoRead core
    have whole : ∀ any, lines any = (lines any).filter isFilled := fun any =>
      (List.filter_eq_self.mpr (lines_filled any)).symm
    exact select_of_aligned (whole text) (whole changed) (aligned_of_last read alsoRead core)

/-- A pass with a variant, and an empty row between its sections. -/
def passRows : List Text :=
  ["Pass: A", "#ifdef VERTEX", "v", "#endif", "", "#ifdef FRAGMENT", "f", "#endif"]

/-- The same rows with blanks at the ends of those that are not interior. -/
def indentedRows : List Text :=
  [" \tPass: A\u3000", "\t#ifdef VERTEX", "v", "  #endif ", "\u0085 ", "#ifdef FRAGMENT\u00a0", "f",
    "\u2003#endif\t"]

/-- A fragment section, and a vertex section that is not closed here. -/
def openRows : List Text := ["#ifdef FRAGMENT", "f", "#endif", "#ifdef VERTEX", "v"]

/-- A line that names a pass with its number. -/
def numberedPass : Text := "Subshader 1, Pass 2: 'A'"

theorem indentation_irrelevant_one_pass :
    Reindented passRows indentedRows ∧
      select (variants (Text.joinLines indentedRows)) true =
        select (variants (Text.joinLines passRows)) true ∧
      Context.initial.observe ("\t\u2003" ++ (numberedPass ++ " \u00a0")) =
        Context.initial.observe numberedPass ∧
      select (variants "#ifdef FRAGMENT\nf\n#endif\n#ifdef VERTEX\nv\n \tw ") true =
        select (variants "#ifdef FRAGMENT\nf\n#endif\n#ifdef VERTEX\nv\nw\t") true := by
  obtain ⟨observed, reindenting, ending⟩ := indentation_irrelevant
  have reindented : Reindented passRows indentedRows := by decide +kernel
  have before : Indent "\t\u2003" := by decide +kernel
  have after : Indent " \u00a0" := by decide +kernel
  refine ⟨reindented, ?_, ?_, ?_⟩
  · have read : lines (Text.joinLines passRows) = passRows.filter isFilled := by decide +kernel
    have alsoRead : lines (Text.joinLines indentedRows) = indentedRows.filter isFilled := by
      decide +kernel
    exact reindenting read alsoRead reindented true
  · exact (observed .initial numberedPass before after).2
  · have read : lines "#ifdef FRAGMENT\nf\n#endif\n#ifdef VERTEX\nv\nw\t" =
        openRows ++ [("w\t" : Text)] := by decide +kernel
    have alsoRead : lines "#ifdef FRAGMENT\nf\n#endif\n#ifdef VERTEX\nv\n \tw " =
        openRows ++ [(" \tw " : Text)] := by decide +kernel
    exact ending read alsoRead (by decide +kernel) true

end ShaderCost.Dump
