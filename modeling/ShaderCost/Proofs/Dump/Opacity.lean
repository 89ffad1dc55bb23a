import ShaderCost.Proofs.Dump.Written

/-!
Regions that are closed. What a region takes does not depend on the lines behind its end marker, so
that a scan over lines in which every region is closed goes on behind them as if it had started
there with the metadata then in effect. So what is appended to a dump leaves its sections, and the
variants under each key, where they are, and other well nested lines inside a region, were they to
look like metadata or like sections of their own, change the source of this one section and nothing
else.
-/

namespace ShaderCost.Dump

namespace Region

/-- A region that is closed is taken again from its own lines, whatever follows them. -/
theorem interior_again {closer : Text} {depth : Nat} {lines : List Text}
    (balanced : (interior closer depth lines).1.balanced = true) (following : List Text) :
    interior closer depth ((interior closer depth lines).1.lines ++ following) =
      ((interior closer depth lines).1, following) := by
  fun_induction interior closer depth lines with
  | case1 => simp at balanced
  | case2 depth line rest opens induction =>
      have again := induction balanced
      simp only [push, List.cons_append]
      rw [interior.eq_def]
      simp only [if_pos opens, again, push]
  | case3 line rest opens closes => simp [interior, opens, closes]
  | case4 line rest opens closes depth induction =>
      have again := induction balanced
      simp only [push, List.cons_append]
      rw [interior.eq_def]
      simp only [if_neg opens, if_pos closes, again, push]
  | case5 depth line rest opens continues induction =>
      have again := induction balanced
      simp only [push, List.cons_append]
      rw [interior.eq_def]
      simp only [if_neg opens, if_neg continues, again, push]

theorem takeFrom_again {closer : Text} {lines : List Text}
    (balanced : (takeFrom closer lines).1.balanced = true) (following : List Text) :
    takeFrom closer ((takeFrom closer lines).1.lines ++ following) =
      ((takeFrom closer lines).1, following) := by
  cases lines with
  | nil => simp [takeFrom] at balanced
  | cons first rest =>
      simp only [takeFrom, push, List.cons_append] at balanced ⊢
      rw [interior_again balanced]

theorem takeFrom_append {closer : Text} {lines : List Text}
    (balanced : (takeFrom closer lines).1.balanced = true) (following : List Text) :
    takeFrom closer (lines ++ following) =
      ((takeFrom closer lines).1, (takeFrom closer lines).2 ++ following) := by
  have again := takeFrom_again balanced ((takeFrom closer lines).2 ++ following)
  rwa [← List.append_assoc, takeFrom_split] at again

end Region

/-- The metadata in effect behind some lines, when `context` is in effect before them. -/
def contextAfter (context : Context) : List Text → Context
  | [] => context
  | line :: following =>
      match Stage.ofMarker? (Text.trim line) with
      | none => contextAfter (context.observe line) following
      | some _ => contextAfter context (Region.takeFrom endMarker (line :: following)).2
termination_by lines => lines.length
decreasing_by
  · simp
  · exact Nat.lt_succ_of_le (Region.takeFrom_rest_length endMarker line following)

/-- Lines in which every region that the scan captures is closed. -/
def Closed (context : Context) (lines : List Text) : Prop :=
  ∀ part ∈ sectionsFrom context lines, part.balanced = true

theorem closed_nil (context : Context) : Closed context [] := by
  rw [Closed, sections_nil]
  simp

theorem closed_plain {line : Text} (plain : Stage.ofMarker? (Text.trim line) = none)
    {context : Context} {following : List Text} :
    Closed context (line :: following) ↔ Closed (context.observe line) following := by
  rw [Closed, sections_plain plain, Closed]

theorem closed_marked {line : Text} {stage : Stage}
    (marked : Stage.ofMarker? (Text.trim line) = some stage) {context : Context}
    {following : List Text} : Closed context (line :: following) ↔
      (Region.takeFrom endMarker (line :: following)).1.balanced = true ∧
        Closed context (Region.takeFrom endMarker (line :: following)).2 := by
  rw [Closed, sections_marked marked, List.forall_mem_cons, Closed]
  rfl

/-- Behind lines in which every region is closed, a scan goes on with the metadata then in effect
and with nothing else. -/
theorem sections_append {context : Context} {front : List Text} (closed : Closed context front)
    (following : List Text) :
    sectionsFrom context (front ++ following) =
      sectionsFrom context front ++ sectionsFrom (contextAfter context front) following := by
  fun_induction contextAfter context front with
  | case1 context => rw [sections_nil, List.nil_append, List.nil_append]
  | case2 context line rest plain induction =>
      rw [closed_plain plain] at closed
      rw [List.cons_append, sections_plain plain, sections_plain plain, induction closed]
  | case3 context line rest stage marked induction =>
      obtain ⟨balanced, later⟩ := (closed_marked marked).mp closed
      have same := Region.takeFrom_append balanced following
      rw [List.cons_append] at same ⊢
      rw [sections_marked marked, sections_marked marked, sectionAt, same, induction later]
      rfl

theorem sources_of_append (front rest : List StageSection) (stage : Stage) (key : VariantKey) :
    sourcesOf (front ++ rest) stage key =
      sourcesOf front stage key ++ sourcesOf rest stage key := by
  rw [sourcesOf, List.filter_append, List.map_append]
  rfl

theorem zip_append_prefix (pair : Text → Text → Variant) (vertex fragment : List Text)
    (laterVertex laterFragment : List Text) :
    List.zipWith pair vertex fragment <+:
      List.zipWith pair (vertex ++ laterVertex) (fragment ++ laterFragment) := by
  induction vertex generalizing fragment with
  | nil => exact List.nil_prefix
  | cons source vertex induction =>
      cases fragment with
      | nil => exact List.nil_prefix
      | cons other fragment =>
          rw [List.cons_append, List.cons_append, List.zipWith_cons_cons, List.zipWith_cons_cons,
            List.prefix_cons_inj]
          exact induction fragment

theorem pair_under_append (front rest : List StageSection) (key : VariantKey) :
    pairUnder front key <+: pairUnder (front ++ rest) key := by
  rw [pairUnder, pairUnder, sources_of_append, sources_of_append]
  exact zip_append_prefix _ _ _ _ _

/-- What is appended to a dump whose regions are all closed is scanned with the metadata that the
dump leaves behind. Its own sections come first, as they were, and so do its own variants under
each key. -/
theorem appending_keeps_sections {text : Text}
    (closed : ∀ part ∈ sections text, part.balanced = true) (appended : Text) :
    sections (text ++ '\n' :: appended) =
        sections text ++ sectionsFrom (contextAfter .initial (lines text)) (lines appended) ∧
      sections text <+: sections (text ++ '\n' :: appended) ∧
      ∀ key, (variants text).filter (fun variant => variant.key = key) <+:
        (variants (text ++ '\n' :: appended)).filter fun variant => variant.key = key := by
  have whole : sections (text ++ '\n' :: appended) =
      sections text ++ sectionsFrom (contextAfter .initial (lines text)) (lines appended) := by
    rw [sections, lines_append]
    exact sections_append closed (lines appended)
  refine ⟨whole, ?_, ?_⟩
  · rw [whole]
    exact List.prefix_append _ _
  · intro key
    rw [variants_under, variants_under, whole]
    exact pair_under_append _ _ key

/-- Sections that name no pass of their own. -/
def nameless : Text := "#ifdef VERTEX\nx\n#endif\n#ifdef FRAGMENT\ny\n#endif"

/-- Sections without a pass belong to the last pass of the dump that they are appended to. -/
theorem appending_keeps_sections_two_passes :
    (∀ part ∈ sections twoPasses, part.balanced = true) ∧
      sections twoPasses <+: sections (twoPasses ++ '\n' :: nameless) ∧
      [⟨⟨"B", ""⟩, "w", "g"⟩] <+:
        (variants (twoPasses ++ '\n' :: nameless)).filter (fun variant => variant.key = ⟨"B", ""⟩) ∧
      sections (twoPasses ++ '\n' :: nameless) = sections twoPasses ++
        [⟨.vertex, ⟨"B", ""⟩, "x", true⟩, ⟨.fragment, ⟨"B", ""⟩, "y", true⟩] := by
  have closed : ∀ part ∈ sections twoPasses, part.balanced = true := by decide +kernel
  have read : sectionsFrom (contextAfter .initial (lines twoPasses)) (lines nameless) =
      [⟨.vertex, ⟨"B", ""⟩, "x", true⟩, ⟨.fragment, ⟨"B", ""⟩, "y", true⟩] := by decide +kernel
  obtain ⟨whole, kept, under⟩ := appending_keeps_sections closed nameless
  have second := under ⟨"B", ""⟩
  rw [variants_two_passes] at second
  exact ⟨closed, kept, second, read ▸ whole⟩

namespace Region

theorem interior_open_rest {closer : Text} {depth : Nat} {lines : List Text}
    (unbalanced : (interior closer depth lines).1.balanced = false) :
    (interior closer depth lines).2 = [] := by
  fun_induction interior closer depth lines with
  | case1 => rfl
  | case3 line rest opens closes => simp at unbalanced
  | case2 _ _ _ _ induction | case4 _ _ _ _ _ induction | case5 _ _ _ _ _ induction =>
      exact induction unbalanced

theorem takeFrom_open_rest {closer : Text} {lines : List Text}
    (unbalanced : (takeFrom closer lines).1.balanced = false) : (takeFrom closer lines).2 = [] := by
  cases lines with
  | nil => rfl
  | cons first rest => exact interior_open_rest unbalanced

theorem interior_last {closer : Text} {depth : Nat} {lines : List Text}
    (balanced : (interior closer depth lines).1.balanced = true) :
    ∃ inner last, (interior closer depth lines).1.lines = inner ++ [last] ∧
      Text.trim last = closer := by
  fun_induction interior closer depth lines with
  | case1 => simp at balanced
  | case3 line rest opens closes => exact ⟨[], line, rfl, closes⟩
  | case2 _ line _ _ induction | case4 line _ _ _ _ induction | case5 _ line _ _ _ induction =>
      obtain ⟨inner, last, spelled, closes⟩ := induction balanced
      exact ⟨line :: inner, last, by simp only [push, spelled, List.cons_append], closes⟩

theorem takeFrom_last {closer first : Text} {following : List Text}
    (balanced : (takeFrom closer (first :: following)).1.balanced = true) :
    ∃ inner last, (takeFrom closer (first :: following)).1.lines = first :: (inner ++ [last]) ∧
      Text.trim last = closer := by
  obtain ⟨inner, last, spelled, closes⟩ := interior_last balanced
  exact ⟨inner, last, by simp only [takeFrom, push, spelled], closes⟩

end Region

/-- Whether regions are closed is the same behind a closed region as from its marker line on. -/
theorem closed_region {line : Text} {stage : Stage} {rest : List Text}
    (marked : Stage.ofMarker? (Text.trim line) = some stage)
    (balanced : (Region.takeFrom endMarker (line :: rest)).1.balanced = true) {context : Context}
    {following : List Text} (closed : Closed context following) :
    Closed context ((Region.takeFrom endMarker (line :: rest)).1.lines ++ following) := by
  have again := Region.takeFrom_again balanced following
  obtain ⟨inner, last, spelled, _⟩ := Region.takeFrom_last balanced
  rw [spelled, List.cons_append] at again ⊢
  rw [closed_marked marked, again]
  exact ⟨balanced, closed⟩

namespace Scan

theorem captured_cases {lines : List Text} {scan next : Scan} {stage : Stage} {start stop : Nat}
    (step : step? lines scan = some (.captured stage start stop, next)) :
    start = scan.cursor ∧ start < lines.length ∧ markerAt? lines start = some stage ∧
      stop = regionEnd lines start := by
  rcases step_cases step with ⟨_, _, _, observed, _⟩ | ⟨found, inside, marked, same, _⟩
  · simp at observed
  · obtain ⟨rfl, rfl, rfl⟩ := Event.captured.inj same
    exact ⟨rfl, inside, marked, rfl⟩

/-- Where a run captures a region, a marker stands at or behind the cursor. -/
theorem run_captured {lines : List Text} {scan final : Scan} {events : List Event}
    (run : Run lines scan events final) {stage : Stage} {start stop : Nat}
    (captured : .captured stage start stop ∈ events) :
    scan.cursor ≤ start ∧ start < lines.length ∧ markerAt? lines start = some stage ∧
      stop = regionEnd lines start := by
  induction run with
  | stop nothing => simp at captured
  | @round scan next final event events step rest induction =>
      rcases List.mem_cons.mp captured with rfl | later
      · obtain ⟨rfl, known⟩ := captured_cases step
        exact ⟨Nat.le_refl _, known⟩
      · obtain ⟨behind, known⟩ := induction later
        exact ⟨Nat.le_trans (Nat.le_of_lt (step_advances step).1) behind, known⟩

/-- The lines from a marker up to a place behind its region are the region and what is between. -/
theorem take_drop_region {lines : List Text} {cursor start : Nat}
    (behind : regionEnd lines cursor ≤ start) :
    (lines.take start).drop cursor = (Region.capture lines cursor endMarker).lines ++
      (lines.take start).drop (regionEnd lines cursor) := by
  have split := Region.takeFrom_split endMarker (lines.drop cursor)
  rw [Region.capture_rest] at split
  have size : regionEnd lines cursor =
      cursor + (Region.capture lines cursor endMarker).lines.length := rfl
  have whole : (Region.capture lines cursor endMarker).lines.length ≤ start - cursor := by omega
  have left : start - cursor - (Region.capture lines cursor endMarker).lines.length =
      start - regionEnd lines cursor := by omega
  calc (lines.take start).drop cursor
      = (lines.drop cursor).take (start - cursor) := List.drop_take
    _ = ((Region.capture lines cursor endMarker).lines ++
          lines.drop (regionEnd lines cursor)).take (start - cursor) :=
        congrArg (List.take (start - cursor)) split.symm
    _ = (Region.capture lines cursor endMarker).lines ++
          (lines.drop (regionEnd lines cursor)).take (start - regionEnd lines cursor) := by
        rw [List.take_append, List.take_of_length_le whole, left]
    _ = (Region.capture lines cursor endMarker).lines ++
          (lines.take start).drop (regionEnd lines cursor) := by rw [List.drop_take]

/-- Before a region that a run captures, every region is closed. -/
theorem run_closed_before {lines : List Text} {scan final : Scan} {events : List Event}
    (run : Run lines scan events final) {stage : Stage} {start stop : Nat}
    (captured : .captured stage start stop ∈ events) :
    Closed scan.context ((lines.take start).drop scan.cursor) := by
  induction run with
  | stop nothing => simp at captured
  | @round scan next final event events step rest induction =>
      rcases List.mem_cons.mp captured with rfl | later
      · obtain ⟨rfl, _⟩ := captured_cases step
        rw [List.drop_eq_nil_of_le (List.length_take_le _ _)]
        exact closed_nil scan.context
      · obtain ⟨behind, before, _⟩ := run_captured rest later
        have closed := induction later
        rcases step_cases step with ⟨line, here, plain, _, rfl⟩ | ⟨found, inside, marked, _, rfl⟩
        · obtain ⟨inside, this⟩ := List.getElem?_eq_some_iff.mp here
          simp only [markerAt?, here, Option.bind_some] at plain
          have reached : scan.cursor < (lines.take start).length := by
            rw [List.length_take]
            exact Nat.lt_min.mpr ⟨behind, inside⟩
          rw [List.drop_eq_getElem_cons reached, List.getElem_take, this, closed_plain plain]
          exact closed
        · rw [record_context] at closed
          have balanced : (Region.capture lines scan.cursor endMarker).balanced = true := by
            rw [← Bool.not_eq_false]
            intro unbalanced
            have nothing := Region.takeFrom_open_rest unbalanced
            rw [Region.capture_rest, List.drop_eq_nil_iff] at nothing
            exact absurd (Nat.lt_of_lt_of_le before nothing) (Nat.not_lt.mpr behind)
          simp only [markerAt?, List.getElem?_eq_getElem inside, Option.bind_some] at marked
          rw [take_drop_region behind]
          rw [Region.capture, List.drop_eq_getElem_cons inside] at balanced ⊢
          exact closed_region marked balanced closed

end Scan

/-- Lines with other lines in the interior of the region that starts and stops where it does. -/
def replaceInterior (lines : List Text) (start stop : Nat) (body : List Text) : List Text :=
  lines.take (start + 1) ++ body ++ lines.drop (stop - 1)

/-- The lines around a region that is closed: a marker line, an interior and an end marker. -/
theorem region_parts {lines : List Text} {start : Nat} (inside : start < lines.length)
    (balanced : (Region.capture lines start endMarker).balanced = true) :
    ∃ last ∈ lines, Text.trim last = endMarker ∧
      ∀ body, replaceInterior lines start (regionEnd lines start) body =
        lines.take start ++
          lines[start] :: (body ++ last :: lines.drop (regionEnd lines start)) := by
  have here := List.drop_eq_getElem_cons inside
  have split := Region.takeFrom_split endMarker (lines.drop start)
  rw [Region.capture_rest, ← Region.capture] at split
  have closed := balanced
  rw [Region.capture, here] at closed
  obtain ⟨inner, last, spelled, closes⟩ := Region.takeFrom_last closed
  rw [← here, ← Region.capture] at spelled
  rw [spelled, List.cons_append, List.append_assoc, List.singleton_append] at split
  have size : regionEnd lines start - 1 = start + (lines[start] :: inner).length := by
    rw [regionEnd, Region.nextIndex, spelled, List.length_cons, List.length_append]
    rfl
  have behind : lines.drop (regionEnd lines start - 1) =
      last :: lines.drop (regionEnd lines start) := by
    rw [size, ← List.drop_drop, ← split, ← List.cons_append, List.drop_left]
    rfl
  refine ⟨last, ?_, closes, ?_⟩
  · apply List.mem_of_mem_drop
    rw [behind]
    exact List.mem_cons_self
  · intro body
    rw [replaceInterior, behind, ← List.take_append_getElem inside, List.append_assoc,
      List.append_assoc, List.singleton_append]

/-- What is read when the interior of a region is replaced. -/
theorem lines_replaced {text : Text} {start : Nat} (inside : start < (lines text).length)
    (balanced : (Region.capture (lines text) start endMarker).balanced = true) :
    ∃ last, Text.trim last = endMarker ∧ ∀ body : Body,
      lines (Text.joinLines
          (replaceInterior (lines text) start (regionEnd (lines text) start) body.lines)) =
        (lines text).take start ++ (lines text)[start] ::
          ((body.lines.filter fun line => !line.isEmpty) ++
            last :: (lines text).drop (regionEnd (lines text) start)) := by
  obtain ⟨last, present, closes, around⟩ := region_parts inside balanced
  refine ⟨last, closes, ?_⟩
  intro body
  have unbroken : ∀ line ∈ replaceInterior (lines text) start (regionEnd (lines text) start)
      body.lines, Unbroken line := by
    intro line member
    rw [replaceInterior, List.mem_append, List.mem_append] at member
    rcases member with (before | inner) | behind
    · exact lines_unbroken text line (List.mem_of_mem_take before)
    · exact body.unbroken line inner
    · exact lines_unbroken text line (List.mem_of_mem_drop behind)
  have filled := lines_filled text
  have before : ((lines text).take start).filter (fun line => !line.isEmpty) =
      (lines text).take start :=
    List.filter_eq_self.mpr fun line member => filled line (List.mem_of_mem_take member)
  have behind : ((lines text).drop (regionEnd (lines text) start)).filter
      (fun line => !line.isEmpty) = (lines text).drop (regionEnd (lines text) start) :=
    List.filter_eq_self.mpr fun line member => filled line (List.mem_of_mem_drop member)
  have marker := filled (lines text)[start] (List.getElem_mem inside)
  have closer := filled last present
  rw [lines_join_lines unbroken, around, List.filter_append, before, List.filter_cons,
    if_pos marker, List.filter_append, List.filter_cons, if_pos closer, behind]

/-- The sections of a dump in which the interior of one region is replaced. -/
theorem sections_replaced {text : Text} {events : List Event} {final : Scan}
    (run : Scan.Run (lines text) .initial events final) {stage : Stage} {start stop : Nat}
    (captured : .captured stage start stop ∈ events)
    (balanced : (Region.capture (lines text) start endMarker).balanced = true) :
    ∃ part after, part.stage = stage ∧
      part.source = normalizeVersion (Region.capture (lines text) start endMarker).source ∧
      sections text = sectionsFrom .initial ((lines text).take start) ++ part :: after ∧
      ∀ (body : Body) (changed : Text), lines changed =
          lines (Text.joinLines (replaceInterior (lines text) start stop body.lines)) →
        sections changed = sectionsFrom .initial ((lines text).take start) ++
          { part with source := body.source } :: after := by
  obtain ⟨_, inside, marked, rfl⟩ := Scan.run_captured run captured
  obtain ⟨last, closes, around⟩ := lines_replaced inside balanced
  have closed : Closed .initial ((lines text).take start) := Scan.run_closed_before run captured
  have onward := sections_append closed
  refine ⟨sectionAt (contextAfter .initial ((lines text).take start)) stage
      ((lines text).drop start), sectionsFrom (contextAfter .initial ((lines text).take start))
      ((lines text).drop (regionEnd (lines text) start)), rfl, rfl, ?_, ?_⟩
  · have whole := onward ((lines text).drop start)
    rw [List.take_append_drop, sections_at_marker inside marked] at whole
    exact whole
  · intro body changed replaced
    simp only [markerAt?, List.getElem?_eq_getElem inside, Option.bind_some] at marked
    have whole := onward ((lines text)[start] :: ((body.lines.filter fun line => !line.isEmpty) ++
      last :: (lines text).drop (regionEnd (lines text) start)))
    rw [← around, ← replaced, sections_marked marked, section_at_body _ closes,
      Region.takeFrom_nested _ (well_nested_filled body.nested) closes] at whole
    rw [Region.capture] at balanced
    rw [sections, whole]
    simp only [sectionAt, balanced]

/-- Another source in one section takes its place among the sources of its stage and key. -/
theorem sources_of_replaced (before after : List StageSection) (part : StageSection)
    (source : Text) (stage : Stage) (key : VariantKey) :
    sourcesOf (before ++ { part with source } :: after) stage key =
      if part.stage = stage ∧ part.key = key then
        (sourcesOf (before ++ part :: after) stage key).set
          (sourcesOf before stage key).length source
      else sourcesOf (before ++ part :: after) stage key := by
  rw [sources_of_append, sources_of_append, Scan.sources_of_cons, Scan.sources_of_cons]
  by_cases own : part.stage = stage ∧ part.key = key
  · rw [if_pos own, if_pos own, if_pos own, List.set_append_right _ _ (Nat.le_refl _), Nat.sub_self]
    rfl
  · rw [if_neg own, if_neg own, if_neg own]

namespace Variant

def source (variant : Variant) : Stage → Text
  | .vertex => variant.vertexSource
  | .fragment => variant.fragmentSource

end Variant

/-- A variant has the sources that stand at its place under its key. -/
theorem pair_under_source {found : List StageSection} {key : VariantKey} {index : Nat}
    {variant : Variant} (listed : (pairUnder found key)[index]? = some variant) (stage : Stage) :
    (sourcesOf found stage key)[index]? = some (variant.source stage) := by
  rw [pairUnder, List.getElem?_zipWith] at listed
  split at listed
  · rename_i vertex fragment first second
    obtain rfl := Option.some.inj listed
    cases stage
    · exact first
    · exact second
  · simp at listed

/-- Another source in one section changes one source of one variant at most. -/
theorem pair_under_replaced (before after : List StageSection) (part : StageSection)
    (source : Text) (key : VariantKey) :
    (pairUnder (before ++ { part with source } :: after) key).length =
        (pairUnder (before ++ part :: after) key).length ∧
      ∀ index old new, (pairUnder (before ++ part :: after) key)[index]? = some old →
        (pairUnder (before ++ { part with source } :: after) key)[index]? = some new →
        ∀ stage, new.source stage =
          if part.stage = stage ∧ part.key = key ∧
              index = (sourcesOf before stage key).length then source
          else old.source stage := by
  have replaced := fun stage => sources_of_replaced before after part source stage key
  have sizes : ∀ stage, (sourcesOf (before ++ { part with source } :: after) stage key).length =
      (sourcesOf (before ++ part :: after) stage key).length := by
    intro stage
    rw [replaced]
    split
    · exact List.length_set
    · rfl
  constructor
  · rw [pairUnder, pairUnder, List.length_zipWith, List.length_zipWith, sizes, sizes]
  · intro index old new oldListed newListed stage
    have was := pair_under_source oldListed stage
    have becomes := pair_under_source newListed stage
    rw [replaced] at becomes
    by_cases own : part.stage = stage ∧ part.key = key
    · rw [if_pos own, List.getElem?_set] at becomes
      by_cases here : index = (sourcesOf before stage key).length
      · rw [if_pos here.symm] at becomes
        rw [if_pos ⟨own.1, own.2, here⟩]
        split at becomes
        · exact (Option.some.inj becomes).symm
        · simp at becomes
      · rw [if_neg (Ne.symm here), was] at becomes
        rw [if_neg fun all => here all.2.2]
        exact (Option.some.inj becomes).symm
    · rw [if_neg own, was] at becomes
      rw [if_neg fun all => own ⟨all.1, all.2.1⟩]
      exact (Option.some.inj becomes).symm

/-- Whatever well nested lines take the place of the interior of a region that is captured and
closed: the sections of the dump are what they were, but for the source of this one. Under each
key there are as many variants as before, with the same sources, but for this one. -/
theorem interior_opaque {text : Text} {events : List Event} {final : Scan}
    (run : Scan.Run (lines text) .initial events final) {stage : Stage} {start stop : Nat}
    (captured : .captured stage start stop ∈ events)
    (balanced : (Region.capture (lines text) start endMarker).balanced = true) (body : Body)
    {changed : Text} (replaced : lines changed =
      lines (Text.joinLines (replaceInterior (lines text) start stop body.lines))) :
    ∃ before part after, before = sectionsFrom .initial ((lines text).take start) ∧
      part.stage = stage ∧
      part.source = normalizeVersion (Region.capture (lines text) start endMarker).source ∧
      sections text = before ++ part :: after ∧
      sections changed = before ++ { part with source := body.source } :: after ∧
      ∀ key,
        ((variants changed).filter fun variant => variant.key = key).length =
          ((variants text).filter fun variant => variant.key = key).length ∧
        ∀ index old new,
          ((variants text).filter fun variant => variant.key = key)[index]? = some old →
          ((variants changed).filter fun variant => variant.key = key)[index]? = some new →
          ∀ wanted, new.source wanted =
            if part.stage = wanted ∧ part.key = key ∧
                index = (sourcesOf before wanted key).length then body.source
            else old.source wanted := by
  obtain ⟨part, after, own, source, original, others⟩ := sections_replaced run captured balanced
  have altered := others body changed replaced
  refine ⟨_, part, after, rfl, own, source, original, altered, ?_⟩
  intro key
  rw [variants_under, variants_under, original, altered]
  exact pair_under_replaced _ after part body.source key

/-- Lines that look like another pass with a section of its own. -/
def misleading : Body where
  lines := ["Pass: C", "#ifdef FRAGMENT", "x", "#endif"]
  nested := by decide
  unbroken := by decide

/-- The vertex section of the first pass may hold such lines. -/
def misleadingPasses : Text :=
  Text.joinLines (replaceInterior (lines twoPasses) 1 4 misleading.lines)

theorem interior_opaque_two_passes :
    ∃ events final, Scan.Run (lines twoPasses) .initial events final ∧
      .captured .vertex 1 4 ∈ events ∧
      (Region.capture (lines twoPasses) 1 endMarker).balanced = true ∧
      (sections misleadingPasses).map (fun part => (part.stage, part.key)) =
        (sections twoPasses).map (fun part => (part.stage, part.key)) ∧
      (variants misleadingPasses).filter (fun variant => variant.key = ⟨"C", ""⟩) = [] := by
  obtain ⟨events, final, run⟩ := Scan.run_exists (lines twoPasses) .initial
  have captured : .captured .vertex 1 4 ∈ events := by
    rw [Scan.run_events run]
    decide +kernel
  have balanced : (Region.capture (lines twoPasses) 1 endMarker).balanced = true := by
    decide +kernel
  have same : lines misleadingPasses =
      lines (Text.joinLines (replaceInterior (lines twoPasses) 1 4 misleading.lines)) := rfl
  obtain ⟨before, part, after, _, _, _, original, altered, counts⟩ :=
    interior_opaque run captured balanced misleading same
  refine ⟨events, final, run, captured, balanced, ?_, ?_⟩
  · rw [original, altered]
    simp only [List.map_append, List.map_cons]
  · have none := (counts ⟨"C", ""⟩).1
    rw [variants_two_passes] at none
    exact List.length_eq_zero_iff.mp none

end ShaderCost.Dump
