import ShaderCost.Dump.Variant
import ShaderCost.Proofs.Dump.Nesting

/-!
The scan of a dump as a machine: a cursor that goes over the lines and jumps behind every region,
the metadata in effect, and for each stage a map from keys to sources. What the machine does is
compared with what holds of each line on its own: whether an earlier region holds it, and which
metadata the lines before it give.
-/

namespace ShaderCost.Dump

/-- The sources of one stage by their keys, every key once. -/
structure Buckets where
  entries : List (VariantKey × List Text)
  distinct : (entries.map Prod.fst).Nodup

/-- Puts a source behind those of its key. -/
def addEntry (key : VariantKey) (source : Text) :
    List (VariantKey × List Text) → List (VariantKey × List Text)
  | [] => [(key, [source])]
  | (other, sources) :: rest =>
      if other = key then (other, sources ++ [source]) :: rest
      else (other, sources) :: addEntry key source rest

theorem add_entry_keys (key : VariantKey) (source : Text) (entries : List (VariantKey × List Text)) :
    (addEntry key source entries).map Prod.fst =
      if key ∈ entries.map Prod.fst then entries.map Prod.fst
      else entries.map Prod.fst ++ [key] := by
  induction entries with
  | nil => rfl
  | cons entry rest induction =>
      obtain ⟨other, sources⟩ := entry
      by_cases same : other = key
      · simp [addEntry, same]
      · have different : key ≠ other := fun equal => same equal.symm
        simp only [addEntry, if_neg same, List.map_cons, induction, List.mem_cons, different,
          false_or]
        split <;> rfl

theorem add_entry_lookup (key : VariantKey) (source : Text)
    (entries : List (VariantKey × List Text)) (wanted : VariantKey) :
    ((addEntry key source entries).lookup wanted).getD [] =
      (entries.lookup wanted).getD [] ++ if key = wanted then [source] else [] := by
  induction entries with
  | nil =>
      by_cases same : key = wanted
      · simp [addEntry, same]
      · have different : (wanted == key) = false := by simpa using fun equal => same equal.symm
        simp [addEntry, List.lookup_cons, same, different]
  | cons entry rest induction =>
      obtain ⟨other, sources⟩ := entry
      by_cases found : wanted = other
      · subst found
        by_cases same : wanted = key
        · simp [addEntry, same]
        · have different : key ≠ wanted := fun equal => same equal.symm
          simp [addEntry, same, different]
      · have different : (wanted == other) = false := by simpa using found
        by_cases same : other = key
        · subst same
          have apart : other ≠ wanted := fun equal => found equal.symm
          simp [addEntry, List.lookup_cons, different, apart]
        · simp only [addEntry, if_neg same, List.lookup_cons, different, induction]

namespace Buckets

def empty : Buckets := ⟨[], .nil⟩

def add (buckets : Buckets) (key : VariantKey) (source : Text) : Buckets where
  entries := addEntry key source buckets.entries
  distinct := by
    rw [add_entry_keys]
    split
    · exact buckets.distinct
    · rename_i absent
      rw [List.nodup_append]
      refine ⟨buckets.distinct, by simp, ?_⟩
      intro present member other single
      rw [List.mem_singleton] at single
      rw [single]
      exact fun equal => absent (equal ▸ member)

/-- The sources under a key, in the order in which they were added. -/
def sourcesAt (buckets : Buckets) (key : VariantKey) : List Text :=
  (buckets.entries.lookup key).getD []

theorem sources_at_add (buckets : Buckets) (key : VariantKey) (source : Text)
    (wanted : VariantKey) :
    (buckets.add key source).sourcesAt wanted =
      buckets.sourcesAt wanted ++ if key = wanted then [source] else [] :=
  add_entry_lookup key source buckets.entries wanted

end Buckets

/-- Where the scan of some lines stands. -/
structure Scan where
  cursor : Nat
  context : Context
  vertex : Buckets
  fragment : Buckets

/-- What one round of the scan does with the lines that it goes over. -/
inductive Event where
  | observed (index : Nat)
  | captured (stage : Stage) (start stop : Nat)
  deriving DecidableEq

namespace Event

def observes (index : Nat) : Event → Bool
  | observed place => place = index
  | captured _ _ _ => false

def captures (index : Nat) : Event → Bool
  | observed _ => false
  | captured _ start stop => start ≤ index && index < stop

end Event

namespace Scan

def initial : Scan := ⟨0, .initial, .empty, .empty⟩

def bucketsOf (scan : Scan) : Stage → Buckets
  | .vertex => scan.vertex
  | .fragment => scan.fragment

/-- Adds a source of a stage under the key of the metadata in effect. -/
def record (scan : Scan) (stage : Stage) (source : Text) : Scan :=
  match stage with
  | .vertex => { scan with vertex := scan.vertex.add scan.context.key source }
  | .fragment => { scan with fragment := scan.fragment.add scan.context.key source }

/-- One round of the scan: the line at the cursor is observed, or the region that it opens is
captured. There is none when the cursor is behind the last line. -/
def step? (lines : List Text) (scan : Scan) : Option (Event × Scan) :=
  match lines[scan.cursor]? with
  | none => none
  | some line =>
      match Stage.ofMarker? (Text.trim line) with
      | none =>
          some (.observed scan.cursor,
            { scan with context := scan.context.observe line, cursor := scan.cursor + 1 })
      | some stage =>
          let region := Region.capture lines scan.cursor endMarker
          let stop := Region.nextIndex scan.cursor region
          some (.captured stage scan.cursor stop,
            { scan.record stage (normalizeVersion region.source) with cursor := stop })

/-- Rounds of the scan up to the one after which there is none. -/
inductive Run (lines : List Text) : Scan → List Event → Scan → Prop
  | stop {scan : Scan} (none : step? lines scan = none) : Run lines scan [] scan
  | round {scan next final : Scan} {event : Event} {events : List Event}
      (step : step? lines scan = some (event, next)) (rest : Run lines next events final) :
      Run lines scan (event :: events) final

end Scan

/-- The stage whose marker stands in the line at an index. -/
def markerAt? (lines : List Text) (index : Nat) : Option Stage :=
  lines[index]?.bind fun line => Stage.ofMarker? (Text.trim line)

/-- The index behind the region that a line opens. -/
def regionEnd (lines : List Text) (start : Nat) : Nat :=
  Region.nextIndex start (Region.capture lines start endMarker)

/-- Whether a line lies in no region that an earlier visited marker line opens. -/
def visited (lines : List Text) (index : Nat) : Bool :=
  (List.finRange index).all fun earlier =>
    !(visited lines earlier && (markerAt? lines earlier).isSome && index < regionEnd lines earlier)
termination_by index
decreasing_by exact earlier.isLt

/-- The visited lines before an index that open no region. -/
def observedBefore (lines : List Text) (index : Nat) : List Text :=
  (List.range index).filterMap fun earlier =>
    if visited lines earlier && (markerAt? lines earlier).isNone then lines[earlier]? else none

/-- The metadata in effect at an index. -/
def contextBefore (lines : List Text) (index : Nat) : Context :=
  (observedBefore lines index).foldl Context.observe .initial

/-- The source of the section that a line opens, when it is one of this stage and key. -/
def sourceAt? (lines : List Text) (stage : Stage) (key : VariantKey) (index : Nat) : Option Text :=
  if visited lines index && markerAt? lines index = some stage &&
      (contextBefore lines index).key = key then
    some (normalizeVersion (Region.capture lines index endMarker).source)
  else none

/-- The sources of a stage and key whose sections start before an index. -/
def sourcesBefore (lines : List Text) (stage : Stage) (key : VariantKey) (index : Nat) :
    List Text :=
  (List.range index).filterMap (sourceAt? lines stage key)

/-- What the scan does at an index, if it comes to it. -/
def eventAt? (lines : List Text) (index : Nat) : Option Event :=
  if visited lines index then
    match markerAt? lines index with
    | none => some (.observed index)
    | some stage => some (.captured stage index (regionEnd lines index))
  else none

theorem visited_iff (lines : List Text) (index : Nat) :
    visited lines index = true ↔ ∀ earlier < index, visited lines earlier = true →
      (markerAt? lines earlier).isSome = true → regionEnd lines earlier ≤ index := by
  rw [visited]
  simp only [List.all_eq_true, List.mem_finRange, forall_const, Bool.not_eq_true',
    Bool.and_eq_false_iff, decide_eq_false_iff_not]
  constructor
  · intro all earlier before seen marked
    simpa [seen, marked] using all ⟨earlier, before⟩
  · intro all earlier
    have bound := all earlier.1 earlier.2
    by_cases seen : visited lines earlier.1 = true
    · by_cases marked : (markerAt? lines earlier.1).isSome = true
      · exact .inr (Nat.not_lt.mpr (bound seen marked))
      · exact .inl (.inr (by simpa using marked))
    · exact .inl (.inl (by simpa using seen))

theorem not_visited_inside {lines : List Text} {start index : Nat}
    (seen : visited lines start = true) (marked : (markerAt? lines start).isSome = true)
    (after : start < index) (inside : index < regionEnd lines start) :
    visited lines index = false := by
  rw [Bool.eq_false_iff]
  intro visits
  have bound := (visited_iff lines index).mp visits start after seen marked
  omega

theorem range_filterMap_succ {Item : Type} (f : Nat → Option Item) (index : Nat) :
    (List.range (index + 1)).filterMap f = (List.range index).filterMap f ++ (f index).toList := by
  rw [List.range_succ, List.filterMap_append]
  cases found : f index <;> simp [List.filterMap, found]

theorem range_filterMap_skip {Item : Type} (f : Nat → Option Item) {low high : Nat}
    (order : low ≤ high) (nothing : ∀ index, low ≤ index → index < high → f index = none) :
    (List.range high).filterMap f = (List.range low).filterMap f := by
  induction order with
  | refl => rfl
  | @step high order induction =>
      rw [range_filterMap_succ, nothing high order (Nat.lt_succ_self high),
        induction fun index lower upper => nothing index lower (Nat.lt_succ_of_lt upper)]
      simp

/-- Nothing that is looked up at visited lines alone is found inside a region. -/
theorem range_filterMap_region {Item : Type} (f : Nat → Option Item) {lines : List Text}
    {start : Nat} (seen : visited lines start = true)
    (marked : (markerAt? lines start).isSome = true) (order : start < regionEnd lines start)
    (hidden : ∀ index, visited lines index = false → f index = none) :
    (List.range (regionEnd lines start)).filterMap f =
      (List.range start).filterMap f ++ (f start).toList := by
  rw [range_filterMap_skip f order, range_filterMap_succ]
  intro index after inside
  exact hidden index (not_visited_inside seen marked after inside)

theorem visited_succ {lines : List Text} {index : Nat} (seen : visited lines index = true)
    (plain : markerAt? lines index = none) : visited lines (index + 1) = true := by
  rw [visited_iff] at seen ⊢
  intro earlier before visits marked
  by_cases last : earlier = index
  · subst last
    simp [plain] at marked
  · exact Nat.le_succ_of_le (seen earlier (by omega) visits marked)

theorem visited_region_end {lines : List Text} {start : Nat} (seen : visited lines start = true)
    (marked : (markerAt? lines start).isSome = true) (order : start < regionEnd lines start) :
    visited lines (regionEnd lines start) = true := by
  rw [visited_iff]
  intro earlier before visits opens
  by_cases same : earlier = start
  · exact Nat.le_of_eq (congrArg (regionEnd lines) same)
  · by_cases after : start < earlier
    · rw [not_visited_inside seen marked after before] at visits
      simp at visits
    · have bound := (visited_iff lines start).mp seen earlier (by omega) visits opens
      omega

theorem context_succ {lines : List Text} {index : Nat} {line : Text}
    (seen : visited lines index = true) (plain : markerAt? lines index = none)
    (here : lines[index]? = some line) :
    contextBefore lines (index + 1) = (contextBefore lines index).observe line := by
  simp [contextBefore, observedBefore, range_filterMap_succ, seen, plain, here]

theorem context_region_end {lines : List Text} {start : Nat} (seen : visited lines start = true)
    (marked : (markerAt? lines start).isSome = true) (order : start < regionEnd lines start) :
    contextBefore lines (regionEnd lines start) = contextBefore lines start := by
  have opens : (markerAt? lines start).isNone = false := by
    rw [Option.isNone_eq_false_iff]
    exact marked
  rw [contextBefore, observedBefore, range_filterMap_region _ seen marked order]
  · simp [contextBefore, observedBefore, opens]
  · intro index unseen
    simp [unseen]

/-- The section that a marker line opens. -/
def sectionAt (context : Context) (stage : Stage) (lines : List Text) : StageSection where
  stage
  key := context.key
  source := normalizeVersion (Region.takeFrom endMarker lines).1.source
  balanced := (Region.takeFrom endMarker lines).1.balanced

theorem sections_nil (context : Context) : sectionsFrom context [] = [] := by
  rw [sectionsFrom]

theorem sections_plain {line : Text} (plain : Stage.ofMarker? (Text.trim line) = none)
    (context : Context) (following : List Text) :
    sectionsFrom context (line :: following) = sectionsFrom (context.observe line) following := by
  rw [sectionsFrom]
  simp only [plain]

theorem sections_marked {line : Text} {stage : Stage}
    (marked : Stage.ofMarker? (Text.trim line) = some stage) (context : Context)
    (following : List Text) :
    sectionsFrom context (line :: following) =
      sectionAt context stage (line :: following) ::
        sectionsFrom context (Region.takeFrom endMarker (line :: following)).2 := by
  rw [sectionsFrom]
  simp only [marked, sectionAt]

theorem sections_at_plain {lines : List Text} {index : Nat} {line : Text}
    (here : lines[index]? = some line) (plain : markerAt? lines index = none) (context : Context) :
    sectionsFrom context (lines.drop index) =
      sectionsFrom (context.observe line) (lines.drop (index + 1)) := by
  obtain ⟨inside, this⟩ := List.getElem?_eq_some_iff.mp here
  simp only [markerAt?, here, Option.bind_some] at plain
  rw [List.drop_eq_getElem_cons inside, this, sections_plain plain]

/-- The sections from a marker line on are its own and those from the end of its region on. -/
theorem sections_at_marker {lines : List Text} {index : Nat} {stage : Stage}
    (inside : index < lines.length) (marked : markerAt? lines index = some stage)
    (context : Context) :
    sectionsFrom context (lines.drop index) = sectionAt context stage (lines.drop index) ::
      sectionsFrom context (lines.drop (regionEnd lines index)) := by
  have rest := Region.capture_rest endMarker lines index
  simp only [markerAt?, List.getElem?_eq_getElem inside, Option.bind_some] at marked
  rw [List.drop_eq_getElem_cons inside] at rest ⊢
  rw [sections_marked marked, rest]
  rfl

namespace Scan

/-- All that one round can do. -/
theorem step_cases {lines : List Text} {scan next : Scan} {event : Event}
    (step : step? lines scan = some (event, next)) :
    (∃ line, lines[scan.cursor]? = some line ∧ markerAt? lines scan.cursor = none ∧
      event = .observed scan.cursor ∧
      next = { scan with context := scan.context.observe line, cursor := scan.cursor + 1 }) ∨
    (∃ stage, scan.cursor < lines.length ∧ markerAt? lines scan.cursor = some stage ∧
      event = .captured stage scan.cursor (regionEnd lines scan.cursor) ∧
      next = { scan.record stage (normalizeVersion
        (Region.capture lines scan.cursor endMarker).source) with
          cursor := regionEnd lines scan.cursor }) := by
  rw [step?] at step
  split at step
  · simp at step
  · rename_i line here
    split at step
    · rename_i plain
      simp only [Option.some.injEq, Prod.mk.injEq] at step
      exact .inl ⟨line, here, by simp [markerAt?, here, plain], step.1.symm, step.2.symm⟩
    · rename_i stage marked
      simp only [Option.some.injEq, Prod.mk.injEq] at step
      obtain ⟨inside, _⟩ := List.getElem?_eq_some_iff.mp here
      exact .inr ⟨stage, inside, by simp [markerAt?, here, marked], step.1.symm, step.2.symm⟩

theorem step_none_iff {lines : List Text} {scan : Scan} :
    step? lines scan = none ↔ lines.length ≤ scan.cursor := by
  rw [← List.getElem?_eq_none_iff, step?]
  constructor
  · intro stops
    split at stops
    · assumption
    · split at stops <;> simp at stops
  · intro behind
    rw [behind]

theorem step_advances {lines : List Text} {scan next : Scan} {event : Event}
    (step : step? lines scan = some (event, next)) :
    scan.cursor < next.cursor ∧ scan.cursor < lines.length := by
  rcases step_cases step with ⟨line, here, _, _, rfl⟩ | ⟨stage, inside, _, _, rfl⟩
  · exact ⟨Nat.lt_succ_self _, (List.getElem?_eq_some_iff.mp here).1⟩
  · exact ⟨Region.lt_nextIndex endMarker lines scan.cursor inside, inside⟩

/-- The scan ends, because every round moves the cursor on. -/
theorem run_exists (lines : List Text) (scan : Scan) :
    ∃ events final, Run lines scan events final := by
  induction left : lines.length - scan.cursor using Nat.strongRecOn generalizing scan with
  | ind left induction =>
      cases taken : step? lines scan with
      | none => exact ⟨[], scan, .stop taken⟩
      | some result =>
          obtain ⟨event, next⟩ := result
          have forward := step_advances taken
          obtain ⟨events, final, rest⟩ :=
            induction (lines.length - next.cursor) (by omega) next rfl
          exact ⟨event :: events, final, .round taken rest⟩

theorem run_unique {lines : List Text} {scan left right : Scan} {leftEvents rightEvents : List Event}
    (leftRun : Run lines scan leftEvents left) (rightRun : Run lines scan rightEvents right) :
    leftEvents = rightEvents ∧ left = right := by
  induction leftRun generalizing rightEvents right with
  | stop nothing =>
      cases rightRun with
      | stop _ => exact ⟨rfl, rfl⟩
      | round step _ => simp [nothing] at step
  | round step _ induction =>
      cases rightRun with
      | stop nothing => simp [nothing] at step
      | round other rest =>
          rw [step, Option.some.injEq, Prod.mk.injEq] at other
          obtain ⟨rfl, rfl⟩ := other
          obtain ⟨rfl, rfl⟩ := induction rest
          exact ⟨rfl, rfl⟩

theorem record_sources (scan : Scan) (stage : Stage) (source : Text) (cursor : Nat)
    (wanted : Stage) (key : VariantKey) :
    ((({ scan.record stage source with cursor } : Scan).bucketsOf wanted).sourcesAt key) =
      (scan.bucketsOf wanted).sourcesAt key ++
        if stage = wanted ∧ scan.context.key = key then [source] else [] := by
  cases stage <;> cases wanted <;> simp [record, bucketsOf, Buckets.sources_at_add]

theorem record_context (scan : Scan) (stage : Stage) (source : Text) :
    (scan.record stage source).context = scan.context := by
  cases stage <;> rfl

/-- What holds between rounds: the cursor stands at a line that no region holds, and metadata and
sources are those that the lines before the cursor give. -/
structure Agrees (lines : List Text) (scan : Scan) : Prop where
  inside : scan.cursor ≤ lines.length
  reached : visited lines scan.cursor = true
  context : scan.context = contextBefore lines scan.cursor
  sources : ∀ stage key, (scan.bucketsOf stage).sourcesAt key =
    sourcesBefore lines stage key scan.cursor

theorem agrees_initial (lines : List Text) : Agrees lines initial where
  inside := Nat.zero_le _
  reached := by
    rw [visited_iff]
    intro earlier before
    exact absurd before (Nat.not_lt_zero earlier)
  context := rfl
  sources := by
    intro stage key
    cases stage <;> rfl

theorem agrees_observed {lines : List Text} {scan : Scan} {line : Text}
    (agrees : Agrees lines scan) (here : lines[scan.cursor]? = some line)
    (plain : markerAt? lines scan.cursor = none) :
    Agrees lines { scan with context := scan.context.observe line, cursor := scan.cursor + 1 } where
  inside := (List.getElem?_eq_some_iff.mp here).1
  reached := visited_succ agrees.reached plain
  context := by
    rw [context_succ agrees.reached plain here, ← agrees.context]
  sources := by
    intro stage key
    have nothing : sourceAt? lines stage key scan.cursor = none := by simp [sourceAt?, plain]
    rw [sourcesBefore, range_filterMap_succ, nothing, Option.toList_none, List.append_nil]
    cases stage
    · exact agrees.sources .vertex key
    · exact agrees.sources .fragment key

theorem agrees_captured {lines : List Text} {scan : Scan} {stage : Stage}
    (agrees : Agrees lines scan) (inside : scan.cursor < lines.length)
    (marked : markerAt? lines scan.cursor = some stage) :
    Agrees lines { scan.record stage (normalizeVersion
      (Region.capture lines scan.cursor endMarker).source) with
        cursor := regionEnd lines scan.cursor } := by
  have opens : (markerAt? lines scan.cursor).isSome = true := by rw [marked]; rfl
  have order : scan.cursor < regionEnd lines scan.cursor :=
    Region.lt_nextIndex endMarker lines scan.cursor inside
  constructor
  · exact Region.nextIndex_le endMarker lines scan.cursor agrees.inside
  · exact visited_region_end agrees.reached opens order
  · rw [context_region_end agrees.reached opens order, ← agrees.context]
    exact record_context _ _ _
  · intro wanted key
    rw [record_sources, agrees.sources, sourcesBefore, sourcesBefore,
      range_filterMap_region _ agrees.reached opens order]
    · simp only [sourceAt?, agrees.reached, marked, agrees.context, Option.some.injEq,
        Bool.true_and, Bool.and_eq_true, decide_eq_true_eq]
      split <;> rfl
    · intro index unseen
      simp [sourceAt?, unseen]

theorem agrees_step {lines : List Text} {scan next : Scan} {event : Event}
    (agrees : Agrees lines scan) (step : step? lines scan = some (event, next)) :
    Agrees lines next := by
  rcases step_cases step with ⟨line, here, plain, _, rfl⟩ | ⟨stage, inside, marked, _, rfl⟩
  · exact agrees_observed agrees here plain
  · exact agrees_captured agrees inside marked

theorem event_step {lines : List Text} {scan next : Scan} {event : Event}
    (agrees : Agrees lines scan) (step : step? lines scan = some (event, next)) :
    (List.range next.cursor).filterMap (eventAt? lines) =
      (List.range scan.cursor).filterMap (eventAt? lines) ++ [event] := by
  rcases step_cases step with ⟨line, here, plain, rfl, rfl⟩ | ⟨stage, inside, marked, rfl, rfl⟩
  · simp [range_filterMap_succ, eventAt?, agrees.reached, plain]
  · have opens : (markerAt? lines scan.cursor).isSome = true := by rw [marked]; rfl
    rw [range_filterMap_region _ agrees.reached opens
      (Region.lt_nextIndex endMarker lines scan.cursor inside)]
    · simp [eventAt?, agrees.reached, marked]
    · intro index unseen
      simp [eventAt?, unseen]

/-- A run goes over all lines, does at each what holds there on its own, and leaves the sources
that all lines give. -/
theorem run_agrees {lines : List Text} {scan final : Scan} {events : List Event}
    (agrees : Agrees lines scan) (run : Run lines scan events final) :
    Agrees lines final ∧ final.cursor = lines.length ∧
      (List.range lines.length).filterMap (eventAt? lines) =
        (List.range scan.cursor).filterMap (eventAt? lines) ++ events := by
  induction run with
  | stop nothing =>
      have all := Nat.le_antisymm agrees.inside (step_none_iff.mp nothing)
      exact ⟨agrees, all, by rw [all, List.append_nil]⟩
  | round step _ induction =>
      obtain ⟨final, all, events⟩ := induction (agrees_step agrees step)
      refine ⟨final, all, ?_⟩
      rw [events, event_step agrees step, List.append_assoc, List.singleton_append]

theorem run_events {lines : List Text} {final : Scan} {events : List Event}
    (run : Run lines initial events final) :
    events = (List.range lines.length).filterMap (eventAt? lines) := by
  obtain ⟨_, _, trace⟩ := run_agrees (agrees_initial lines) run
  exact trace.symm

theorem run_onward {lines : List Text} {scan final : Scan} {events : List Event}
    (run : Run lines scan events final) : scan.cursor ≤ final.cursor := by
  induction run with
  | stop _ => exact Nat.le_refl _
  | round step _ induction =>
      exact Nat.le_trans (Nat.le_of_lt (step_advances step).1) induction

/-- One round holds the lines between the cursor before it and the cursor after it, each once. -/
theorem step_covers {lines : List Text} {scan next : Scan} {event : Event}
    (step : step? lines scan = some (event, next)) (index : Nat) :
    (if event.observes index = true then 1 else 0) + (if event.captures index = true then 1 else 0) =
      if scan.cursor ≤ index ∧ index < next.cursor then 1 else 0 := by
  rcases step_cases step with ⟨line, _, _, rfl, rfl⟩ | ⟨stage, _, _, rfl, rfl⟩
  · have single : scan.cursor = index ↔ scan.cursor ≤ index ∧ index < scan.cursor + 1 := by omega
    simp [Event.observes, Event.captures, single]
  · simp [Event.observes, Event.captures]

/-- Each line is observed once, or captured once, from the cursor on. -/
theorem run_covers {lines : List Text} {scan final : Scan} {events : List Event}
    (run : Run lines scan events final) (index : Nat) :
    events.countP (Event.observes index) + events.countP (Event.captures index) =
      if scan.cursor ≤ index ∧ index < final.cursor then 1 else 0 := by
  induction run with
  | stop _ =>
      rw [if_neg (by omega)]
      rfl
  | @round scan next final event events step rest induction =>
      have forward := (step_advances step).1
      have onward := run_onward rest
      have first := step_covers step index
      have whole : (if scan.cursor ≤ index ∧ index < final.cursor then 1 else 0) =
          (if scan.cursor ≤ index ∧ index < next.cursor then 1 else 0) +
            if next.cursor ≤ index ∧ index < final.cursor then 1 else 0 := by
        split <;> split <;> split <;> omega
      rw [List.countP_cons, List.countP_cons, whole, ← first, ← induction]
      omega

theorem sources_of_cons (part : StageSection) (found : List StageSection) (stage : Stage)
    (key : VariantKey) : sourcesOf (part :: found) stage key =
      (if part.stage = stage ∧ part.key = key then [part.source] else []) ++
        sourcesOf found stage key := by
  by_cases wanted : part.stage = stage ∧ part.key = key <;> simp [sourcesOf, wanted]

/-- The machine leaves behind what the recursion over the lines finds. -/
theorem run_sources {lines : List Text} {scan final : Scan} {events : List Event}
    (run : Run lines scan events final) (stage : Stage) (key : VariantKey) :
    (final.bucketsOf stage).sourcesAt key = (scan.bucketsOf stage).sourcesAt key ++
      sourcesOf (sectionsFrom scan.context (lines.drop scan.cursor)) stage key := by
  induction run with
  | stop nothing =>
      rw [List.drop_eq_nil_of_le (step_none_iff.mp nothing), sections_nil]
      simp [sourcesOf]
  | @round scan next final event events step rest induction =>
      rw [induction]
      rcases step_cases step with ⟨line, here, plain, _, rfl⟩ | ⟨found, inside, marked, _, rfl⟩
      · rw [sections_at_plain here plain]
        cases stage <;> rfl
      · rw [record_sources, record_context, sections_at_marker inside marked, sources_of_cons,
          List.append_assoc]
        rfl

end Scan

end ShaderCost.Dump
