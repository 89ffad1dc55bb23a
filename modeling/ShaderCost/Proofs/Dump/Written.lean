import ShaderCost.Proofs.Dump.Lines
import ShaderCost.Proofs.Dump.Selection

/-!
Reading back a dump that was written line by line. Each entry names its pass and both keyword
lists and then gives a section for each stage. Whatever the sections hold, and whatever the entry
before it said, an entry is read as the one variant that it describes.
-/

namespace ShaderCost.Dump

theorem open_after_filled (depth : Nat) (body : List Text) :
    openAfter depth (body.filter fun line => !line.isEmpty) = openAfter depth body := by
  induction body generalizing depth with
  | nil => rfl
  | cons line body induction =>
      cases line with
      | nil =>
          rw [List.filter_cons_of_neg (by simp), induction]
          exact (open_after_plain (by rfl) (by decide) depth body).symm
      | cons c line =>
          rw [List.filter_cons_of_pos (by simp)]
          cases depth <;> simp only [openAfter, induction]

theorem well_nested_filled {body : List Text} (nested : WellNested body) :
    WellNested (body.filter fun line => !line.isEmpty) := by
  rw [well_nested_iff, open_after_filled, ← well_nested_iff]
  exact nested

/-- The lines of a section: well nested lines, none of which is broken. -/
structure Body where
  lines : List Text
  nested : WellNested lines
  unbroken : ∀ line ∈ lines, Unbroken line

namespace Body

/-- What a section is read as: its lines without the blank ones, with the version put right. -/
def source (body : Body) : Text :=
  normalizeVersion (Text.joinLines (body.lines.filter fun line => !Text.isAllBlank line))

/-- The lines of a dump that give a body for a stage. -/
def written (body : Body) (stage : Stage) : List Text :=
  stage.marker :: (body.lines ++ [endMarker])

end Body

/-- A pass, its keyword lists and its sources. -/
structure Entry where
  passName : Text
  globalKeywords : Text
  localKeywords : Text
  vertex : Body
  fragment : Body
  passTrimmed : Text.Trimmed passName
  passUnbroken : Unbroken passName
  globalTrimmed : Text.Trimmed globalKeywords
  globalUnbroken : Unbroken globalKeywords
  localTrimmed : Text.Trimmed localKeywords
  localUnbroken : Unbroken localKeywords

namespace Entry

def context (entry : Entry) : Context :=
  ⟨entry.passName, entry.globalKeywords, entry.localKeywords⟩

def bodyOf (entry : Entry) : Stage → Body
  | .vertex => entry.vertex
  | .fragment => entry.fragment

/-- The variant that an entry describes. -/
def variant (entry : Entry) : Variant where
  key := .compose entry.passName entry.globalKeywords entry.localKeywords
  vertexSource := entry.vertex.source
  fragmentSource := entry.fragment.source

def header (entry : Entry) : List Text :=
  ["Pass: " ++ entry.passName, "Keywords: " ++ entry.globalKeywords,
    "Local Keywords: " ++ entry.localKeywords]

def written (entry : Entry) : List Text :=
  entry.header ++ entry.vertex.written .vertex ++ entry.fragment.written .fragment

end Entry

/-- The dump of some entries, one after the other. -/
def dumpOf (entries : List Entry) : Text := Text.joinLines (entries.flatMap Entry.written)

theorem filter_blank_filled (body : List Text) :
    (body.filter fun line => !line.isEmpty).filter (fun line => !Text.isAllBlank line) =
      body.filter fun line => !Text.isAllBlank line := by
  rw [List.filter_filter]
  apply List.filter_congr
  intro line _
  cases line <;> simp [Text.isAllBlank]

/-- The source in a region: the lines between its first and its last that are not blank. -/
theorem region_source_inner (first last : Text) {inner : List Text}
    (unbroken : ∀ line ∈ inner, Unbroken line) (balanced : Bool) :
    Region.source ⟨first :: (inner ++ [last]), balanced⟩ =
      Text.joinLines (inner.filter fun line => !Text.isAllBlank line) := by
  rw [Region.source, if_neg (by simp)]
  simp only [List.tail_cons, List.dropLast_concat]
  rw [join_lines_stripped]
  · intro line member
    exact unbroken line (List.mem_filter.mp member).1
  · rintro line member rfl
    simp [Text.isAllBlank] at member

theorem region_source_body (body : Body) (first last : Text) :
    normalizeVersion (Region.source ⟨first ::
      ((body.lines.filter fun line => !line.isEmpty) ++ [last]), true⟩) = body.source := by
  rw [region_source_inner, filter_blank_filled, Body.source]
  intro line member
  exact body.unbroken line (List.mem_filter.mp member).1

theorem section_at_body {context : Context} {stage : Stage} {last : Text} (first : Text)
    (closes : Text.trim last = endMarker) (body : Body) (following : List Text) :
    sectionAt context stage
        (first :: ((body.lines.filter fun line => !line.isEmpty) ++ last :: following)) =
      ⟨stage, context.key, body.source, true⟩ := by
  rw [sectionAt, Region.takeFrom_nested first (well_nested_filled body.nested) closes following,
    region_source_body]

/-- A line whose first character is no blank and no number sign opens no section. -/
theorem marker_none {phrase : Text} {c : Char} (first : phrase.head? = some c)
    (solid : Text.isBlank c = false) (other : c ≠ '#') (rest : Text) :
    Stage.ofMarker? (Text.trim (phrase ++ rest)) = none := by
  obtain ⟨phrase, rfl⟩ := List.head?_eq_some_iff.mp first
  obtain ⟨behind, trimmed⟩ := Text.trim_keeps_first solid (phrase ++ rest)
  have marked : ∀ stage : Stage, stage.marker.head? = some '#' := by
    intro stage
    cases stage <;> rfl
  have apart : ∀ stage : Stage, Text.trim (c :: (phrase ++ rest)) ≠ stage.marker := by
    intro stage equal
    have heads := marked stage
    rw [← equal, trimmed, List.head?_cons, Option.some.injEq] at heads
    exact other heads
  rw [List.cons_append, Stage.ofMarker?, if_neg (apart .vertex), if_neg (apart .fragment)]

theorem not_mem_unbroken {text : Text} (unbroken : Unbroken text) : '\n' ∉ text := by
  intro member
  have ends := unbroken '\n' member
  simp [isLineEnd] at ends

namespace Metadata

theorem of_pass_line {name : Text} (trimmed : Text.Trimmed name) (unbroken : Unbroken name) :
    ofLine? ("Pass: " ++ name) = some (.pass name) := by
  have inline : inlinePassName? ("Pass: " ++ name) = none := rfl
  have named : nameLine? ("Pass: " ++ name) = none := rfl
  have read : passLine? ("Pass: " ++ name) = some (.pass name) := by
    have shape : passLine? ("Pass: " ++ name) = if '\n' ∈ Text.trim (' ' :: name) then none
        else some (.pass (Text.trim (' ' :: name))) := rfl
    rw [shape, Text.trim_space trimmed, if_neg (not_mem_unbroken unbroken)]
  simp only [ofLine?, shapes, List.findSome?_cons, inline, named, read]

theorem keyword_list_read {keywords : Text} (trimmed : Text.Trimmed keywords)
    (unbroken : Unbroken keywords) : keywordList? ("Keywords: " ++ keywords) = some keywords := by
  have shape : keywordList? ("Keywords: " ++ keywords) = if '\n' ∈ ' ' :: keywords then none
      else some (Text.trim (' ' :: keywords)) := rfl
  have absent : '\n' ∉ ' ' :: keywords := by simpa using not_mem_unbroken unbroken
  rw [shape, if_neg absent, Text.trim_space trimmed]

theorem of_keywords_line {keywords : Text} (trimmed : Text.Trimmed keywords)
    (unbroken : Unbroken keywords) :
    ofLine? ("Keywords: " ++ keywords) = some (.globalKeywords keywords) := by
  have inline : inlinePassName? ("Keywords: " ++ keywords) = none := rfl
  have named : nameLine? ("Keywords: " ++ keywords) = none := rfl
  have pass : passLine? ("Keywords: " ++ keywords) = none := rfl
  have numbered : subshaderPass? ("Keywords: " ++ keywords) = none := rfl
  have locals : localKeywords? ("Keywords: " ++ keywords) = none := rfl
  have read : globalKeywords? ("Keywords: " ++ keywords) = some (.globalKeywords keywords) := by
    have shape : globalKeywords? ("Keywords: " ++ keywords) =
        (keywordList? ("Keywords: " ++ keywords)).bind (some ∘ .globalKeywords) := rfl
    rw [shape, keyword_list_read trimmed unbroken]
    rfl
  simp only [ofLine?, shapes, List.findSome?_cons, inline, named, pass, numbered, locals, read]

theorem of_local_keywords_line {keywords : Text} (trimmed : Text.Trimmed keywords)
    (unbroken : Unbroken keywords) :
    ofLine? ("Local Keywords: " ++ keywords) = some (.localKeywords keywords) := by
  have inline : inlinePassName? ("Local Keywords: " ++ keywords) = none := rfl
  have named : nameLine? ("Local Keywords: " ++ keywords) = none := rfl
  have pass : passLine? ("Local Keywords: " ++ keywords) = none := rfl
  have numbered : subshaderPass? ("Local Keywords: " ++ keywords) = none := rfl
  have read : localKeywords? ("Local Keywords: " ++ keywords) = some (.localKeywords keywords) := by
    have shape : localKeywords? ("Local Keywords: " ++ keywords) =
        (keywordList? ("Keywords: " ++ keywords)).bind (some ∘ .localKeywords) := rfl
    rw [shape, keyword_list_read trimmed unbroken]
    rfl
  simp only [ofLine?, shapes, List.findSome?_cons, inline, named, pass, numbered, read]

end Metadata

theorem sections_observed {context : Context} {line : Text} {metadata : Metadata}
    (plain : Stage.ofMarker? (Text.trim line) = none)
    (read : Metadata.ofLine? line = some metadata) (following : List Text) :
    sectionsFrom context (line :: following) =
      sectionsFrom (context.apply metadata) following := by
  rw [sections_plain plain, Context.observe, read]

/-- The header of an entry puts its own metadata in the place of whatever was in effect. -/
theorem sections_header (entry : Entry) (context : Context) (following : List Text) :
    sectionsFrom context (entry.header ++ following) = sectionsFrom entry.context following := by
  have pass := Metadata.of_pass_line entry.passTrimmed entry.passUnbroken
  have globals := Metadata.of_keywords_line entry.globalTrimmed entry.globalUnbroken
  have locals := Metadata.of_local_keywords_line entry.localTrimmed entry.localUnbroken
  simp only [Entry.header, List.cons_append, List.nil_append]
  rw [sections_observed (marker_none (by rfl) (by decide) (by decide) _) pass,
    sections_observed (marker_none (by rfl) (by decide) (by decide) _) globals,
    sections_observed (marker_none (by rfl) (by decide) (by decide) _) locals]
  rfl

/-- A section that is written is captured whole, whatever follows it. -/
theorem sections_body (body : Body) (stage : Stage) (context : Context) (following : List Text) :
    sectionsFrom context ((body.written stage).filter (fun line => !line.isEmpty) ++ following) =
      ⟨stage, context.key, body.source, true⟩ :: sectionsFrom context following := by
  have marked : Stage.ofMarker? (Text.trim stage.marker) = some stage := by
    cases stage <;> rfl
  have kept : (body.written stage).filter (fun line => !line.isEmpty) =
      stage.marker :: ((body.lines.filter fun line => !line.isEmpty) ++ [endMarker]) := by
    rw [Body.written, List.filter_cons, List.filter_append]
    cases stage <;> rfl
  rw [kept, List.cons_append, List.append_assoc, List.singleton_append, sections_marked marked,
    section_at_body stage.marker (by rfl),
    Region.takeFrom_nested stage.marker (well_nested_filled body.nested) (by rfl)]

namespace Entry

def sectionOf (entry : Entry) (stage : Stage) : StageSection :=
  ⟨stage, entry.context.key, (entry.bodyOf stage).source, true⟩

def sections (entry : Entry) : List StageSection :=
  [entry.sectionOf .vertex, entry.sectionOf .fragment]

theorem header_filled (entry : Entry) :
    entry.header.filter (fun line => !line.isEmpty) = entry.header := by
  rw [List.filter_eq_self]
  simp [header]

end Entry

/-- An entry is read as its two sections, under its own metadata. -/
theorem sections_entry (entry : Entry) (context : Context) (following : List Text) :
    sectionsFrom context (entry.written.filter (fun line => !line.isEmpty) ++ following) =
      entry.sections ++ sectionsFrom entry.context following := by
  rw [Entry.written, List.filter_append, List.filter_append, entry.header_filled,
    List.append_assoc, List.append_assoc, sections_header, sections_body, sections_body]
  rfl

theorem sections_entries (entries : List Entry) (context : Context) :
    sectionsFrom context ((entries.flatMap Entry.written).filter fun line => !line.isEmpty) =
      entries.flatMap Entry.sections := by
  induction entries generalizing context with
  | nil => rw [List.flatMap_nil, List.filter_nil, sectionsFrom, List.flatMap_nil]
  | cons entry entries induction =>
      rw [List.flatMap_cons, List.filter_append, sections_entry, induction, List.flatMap_cons]

theorem unbroken_append {left right : Text} (first : Unbroken left) (second : Unbroken right) :
    Unbroken (left ++ right) := by
  intro c member
  rcases List.mem_append.mp member with before | behind
  · exact first c before
  · exact second c behind

theorem Body.written_unbroken (body : Body) (stage : Stage) :
    ∀ line ∈ body.written stage, Unbroken line := by
  intro line member
  rw [written, List.mem_cons, List.mem_append, List.mem_singleton] at member
  rcases member with rfl | inside | rfl
  · cases stage <;> decide
  · exact body.unbroken line inside
  · decide

theorem Entry.written_unbroken (entry : Entry) : ∀ line ∈ entry.written, Unbroken line := by
  intro line member
  rw [written, List.mem_append, List.mem_append] at member
  rcases member with (header | vertex) | fragment
  · simp only [Entry.header, List.mem_cons, List.not_mem_nil, or_false] at header
    rcases header with rfl | rfl | rfl
    · exact unbroken_append (by decide) entry.passUnbroken
    · exact unbroken_append (by decide) entry.globalUnbroken
    · exact unbroken_append (by decide) entry.localUnbroken
  · exact entry.vertex.written_unbroken .vertex line vertex
  · exact entry.fragment.written_unbroken .fragment line fragment

theorem sections_dump (entries : List Entry) :
    sections (dumpOf entries) = entries.flatMap Entry.sections := by
  rw [sections, dumpOf, lines_join_lines, sections_entries]
  intro line member
  obtain ⟨entry, _, inside⟩ := List.mem_flatMap.mp member
  exact entry.written_unbroken line inside

theorem sources_of_entries (entries : List Entry) (stage : Stage) (key : VariantKey) :
    sourcesOf (entries.flatMap Entry.sections) stage key =
      (entries.filter fun entry => entry.variant.key = key).map
        fun entry => (entry.bodyOf stage).source := by
  induction entries with
  | nil => rfl
  | cons entry entries induction =>
      have same : entry.context.key = entry.variant.key := rfl
      rw [List.flatMap_cons, Entry.sections, List.cons_append, List.singleton_append,
        Scan.sources_of_cons, Scan.sources_of_cons, induction]
      by_cases found : entry.variant.key = key <;>
        cases stage <;> simp [Entry.sectionOf, same, found]

/-- Under a key there is one variant for each entry with that key, in the order of the entries. -/
theorem variants_dump_under (entries : List Entry) (key : VariantKey) :
    (variants (dumpOf entries)).filter (fun variant => variant.key = key) =
      (entries.map Entry.variant).filter fun variant => variant.key = key := by
  rw [variants_under, pairUnder, sections_dump, sources_of_entries, sources_of_entries,
    List.zipWith_map, List.zipWith_self, List.filter_map]
  apply List.map_congr_left
  intro entry member
  have found := (List.mem_filter.mp member).2
  rw [decide_eq_true_eq] at found
  rw [← found]
  rfl

/-- A dump that is written entry by entry is read back as the variants of its entries, in the
order of their keys, and for one key in the order of the entries. -/
theorem select_dump (entries : List Entry) :
    select (variants (dumpOf entries)) true =
      (entries.map Entry.variant).mergeSort fun left right => left.key.le right.key :=
  select_unique (variants_dump_under entries) true

/-- An entry with a section inside a section, and lines that only look like metadata. -/
def nestedEntry : Entry where
  passName := "Base"
  globalKeywords := "FOG"
  localKeywords := "LIT"
  vertex := ⟨["#ifdef VERTEX", "Pass: Inner", "#endif", " "], by decide, by decide⟩
  fragment := ⟨["f"], by decide, by decide⟩
  passTrimmed := by decide
  passUnbroken := by decide
  globalTrimmed := by decide
  globalUnbroken := by decide
  localTrimmed := by decide
  localUnbroken := by decide

/-- An entry whose keywords come out as those of `nestedEntry`. -/
def joinedEntry : Entry where
  passName := "Base"
  globalKeywords := "FOG LIT"
  localKeywords := []
  vertex := ⟨["v"], by decide, by decide⟩
  fragment := ⟨[], by decide, by decide⟩
  passTrimmed := by decide
  passUnbroken := by decide
  globalTrimmed := by decide
  globalUnbroken := by decide
  localTrimmed := by decide
  localUnbroken := by decide

example : variants (dumpOf [nestedEntry, joinedEntry]) =
    [⟨⟨"Base", "FOG LIT"⟩, "#ifdef VERTEX\nPass: Inner\n#endif", "f"⟩,
      ⟨⟨"Base", "FOG LIT"⟩, "v", ""⟩] := by
  decide +kernel

end ShaderCost.Dump
