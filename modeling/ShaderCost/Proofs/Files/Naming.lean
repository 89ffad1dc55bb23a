import Mathlib.Data.List.DropRight
import Mathlib.Data.Set.Image
import ShaderCost.Dump.Variant
import ShaderCost.Files.Saved
import ShaderCost.Proofs.Calendar
import ShaderCost.Proofs.Files.Filing
import ShaderCost.Proofs.Files.Path
import ShaderCost.Proofs.Text.Search

/-!
Safe stems, and the names that files get from them. Every name becomes a safe stem, and a safe stem
stays what it is, so a stem that is made safe again is the same. Joining keeps underscores apart
from one another, and what is cut off at the ends leaves a part of the joined text, in which they
are still apart. A name that begins with a safe stem leads nowhere but into its directory.
-/

namespace ShaderCost

/-- A stem that is safe on every file system: ASCII letters, digits, hyphens, dots and underscores,
with neither an underscore nor a dot at its ends and no two underscores side by side. -/
structure IsStem (stem : Text) : Prop where
  filled : stem ≠ []
  letters : ∀ c ∈ stem, c.isAlphanum = true ∨ c = '-' ∨ c = '.' ∨ c = '_'
  start : ∀ c ∈ stem.head?, c ≠ '_' ∧ c ≠ '.'
  ending : ∀ c ∈ stem.getLast?, c ≠ '_' ∧ c ≠ '.'
  apart : ¬ ['_', '_'] <:+: stem

theorem stem_char_iff {c : Char} : isStemChar c = true ∨ c = '_' ↔
    c.isAlphanum = true ∨ c = '-' ∨ c = '.' ∨ c = '_' := by
  simp [isStemChar, or_assoc]

theorem stem_edge_iff {c : Char} : isStemEdge c = false ↔ c ≠ '_' ∧ c ≠ '.' := by
  simp [isStemEdge]

theorem stem_char_no_underscore {c : Char} (keeps : isStemChar c = true) : c ≠ '_' := by
  rintro rfl
  exact absurd keeps (by decide)

theorem is_stem_iff (stem : Text) : IsStem stem ↔
    (!stem.isEmpty && (stem.all fun c => isStemChar c || c == '_') &&
      (stem.head?.all fun c => !isStemEdge c) && (stem.getLast?.all fun c => !isStemEdge c) &&
      !Text.contains ['_', '_'] stem) = true := by
  have double : Text.contains ['_', '_'] stem = false ↔ ¬ ['_', '_'] <:+: stem := by
    rw [← Text.contains_iff, Bool.not_eq_true]
  simp only [Bool.and_eq_true, Bool.not_eq_true', List.isEmpty_eq_false_iff, List.all_eq_true,
    Bool.or_eq_true, beq_iff_eq, Option.all_eq_true, ← Option.mem_def, stem_char_iff, stem_edge_iff,
    double]
  constructor
  · exact fun safe => ⟨⟨⟨⟨safe.filled, safe.letters⟩, safe.start⟩, safe.ending⟩, safe.apart⟩
  · rintro ⟨⟨⟨⟨filled, letters⟩, start⟩, ending⟩, apart⟩
    exact ⟨filled, letters, start, ending, apart⟩

instance (stem : Text) : Decidable (IsStem stem) := decidable_of_iff' _ (is_stem_iff stem)

/-- Two underscores stand side by side at the start of a text or further on. -/
theorem apart_cons {c : Char} {text : Text} : ¬ ['_', '_'] <:+: c :: text ↔
    (c = '_' → text.head? ≠ some '_') ∧ ¬ ['_', '_'] <:+: text := by
  rw [List.infix_cons_iff, not_or, List.cons_prefix_cons, not_and]
  apply and_congr_left
  intro _
  cases text with
  | nil => simp
  | cons d text => simp [List.cons_prefix_cons, eq_comm]

theorem mem_join_unsafe {afterUnderscore : Bool} {text : Text} {c : Char}
    (member : c ∈ joinUnsafe afterUnderscore text) : isStemChar c = true ∨ c = '_' := by
  fun_induction joinUnsafe afterUnderscore text with
  | case1 flag => simp at member
  | case2 flag d text keeps induction =>
      rcases List.mem_cons.mp member with rfl | later
      · exact .inl keeps
      · exact induction later
  | case3 d text outside induction => exact induction member
  | case4 flag d text outside fresh induction =>
      rcases List.mem_cons.mp member with rfl | later
      · exact .inr rfl
      · exact induction later

/-- No two underscores come out side by side, and none behind the one that went before. -/
theorem join_unsafe_apart (afterUnderscore : Bool) (text : Text) :
    ¬ ['_', '_'] <:+: joinUnsafe afterUnderscore text ∧
      (afterUnderscore = true → (joinUnsafe afterUnderscore text).head? ≠ some '_') := by
  fun_induction joinUnsafe afterUnderscore text with
  | case1 flag => simp
  | case2 flag c text keeps induction =>
      have other := stem_char_no_underscore keeps
      exact ⟨apart_cons.mpr ⟨fun same => absurd same other, induction.1⟩, by simp [other]⟩
  | case3 c text outside induction => exact induction
  | case4 flag c text outside fresh induction =>
      exact ⟨apart_cons.mpr ⟨fun _ => induction.2 rfl, induction.1⟩, fun after => absurd after fresh⟩

/-- A text that is already joined stays as it is. -/
theorem join_unsafe_joined {afterUnderscore : Bool} {text : Text}
    (letters : ∀ c ∈ text, isStemChar c = true ∨ c = '_') (apart : ¬ ['_', '_'] <:+: text)
    (start : afterUnderscore = true → text.head? ≠ some '_') :
    joinUnsafe afterUnderscore text = text := by
  induction text generalizing afterUnderscore with
  | nil => rfl
  | cons c text induction =>
      obtain ⟨next, later⟩ := apart_cons.mp apart
      have rest : ∀ d ∈ text, isStemChar d = true ∨ d = '_' :=
        fun d member => letters d (List.mem_cons_of_mem c member)
      rcases letters c List.mem_cons_self with keeps | rfl
      · rw [joinUnsafe, if_pos keeps, induction rest later (by simp)]
      · have fresh : ¬ afterUnderscore = true := fun after => start after rfl
        rw [joinUnsafe, if_neg (by decide), if_neg fresh, induction rest later fun _ => next rfl]

/-- A text without underscores and dots at its ends. -/
def withoutEdges (text : Text) : Text := (text.dropWhile isStemEdge).rdropWhile isStemEdge

theorem safe_stem_eq (name : Text) : safeStem name =
    if (withoutEdges (joinUnsafe false (Text.trim name))).isEmpty then "shader".toList
    else withoutEdges (joinUnsafe false (Text.trim name)) :=
  rfl

theorem without_edges_part (text : Text) : withoutEdges text <:+: text := by
  have front := List.rdropWhile_prefix isStemEdge (text.dropWhile isStemEdge)
  have behind := List.dropWhile_suffix (l := text) isStemEdge
  exact front.isInfix.trans behind.isInfix

theorem without_edges_start (text : Text) :
    ∀ c ∈ (withoutEdges text).head?, isStemEdge c = false := by
  intro c first
  obtain ⟨cut, whole⟩ := List.rdropWhile_prefix isStemEdge (text.dropWhile isStemEdge)
  rw [withoutEdges, Option.mem_def] at first
  have begins : (text.dropWhile isStemEdge).head? = some c := by
    rw [← whole, List.head?_append, first, Option.some_or]
  have stops := List.head?_dropWhile_not isStemEdge text
  rw [begins] at stops
  exact stops

theorem without_edges_ending (text : Text) :
    ∀ c ∈ (withoutEdges text).getLast?, isStemEdge c = false := by
  intro c last
  obtain ⟨filled, rfl⟩ := List.mem_getLast?_eq_getLast last
  exact Bool.eq_false_iff.mpr (List.rdropWhile_last_not _ _ filled)

theorem edgeless_start {text : Text} (start : ∀ c ∈ text.head?, isStemEdge c = false) :
    text.dropWhile isStemEdge = text := by
  cases text with
  | nil => rfl
  | cons c text => rw [List.dropWhile_cons_of_neg (by simp [start c rfl])]

theorem edgeless_ending {text : Text} (ending : ∀ c ∈ text.getLast?, isStemEdge c = false) :
    text.rdropWhile isStemEdge = text := by
  rw [List.rdropWhile_eq_self_iff]
  intro filled
  rw [ending _ (List.getLast?_eq_some_getLast filled)]
  exact Bool.false_ne_true

/-- What is left of a joined text is a safe stem: as a part of that it has the same characters, and
what was not side by side in the whole is not so in a part. -/
theorem stem_of_joined {joined : Text} (letters : ∀ c ∈ joined, isStemChar c = true ∨ c = '_')
    (apart : ¬ ['_', '_'] <:+: joined) (filled : withoutEdges joined ≠ []) :
    IsStem (withoutEdges joined) where
  filled := filled
  letters := fun c member =>
    stem_char_iff.mp (letters c ((without_edges_part joined).subset member))
  start := fun c first => stem_edge_iff.mp (without_edges_start joined c first)
  ending := fun c last => stem_edge_iff.mp (without_edges_ending joined c last)
  apart := fun double => apart (double.trans (without_edges_part joined))

theorem safe_stem_safe (name : Text) : IsStem (safeStem name) := by
  rw [safe_stem_eq]
  split
  · decide
  · rename_i filled
    exact stem_of_joined (fun _ => mem_join_unsafe) (join_unsafe_apart false _).1
      (by simpa using filled)

theorem IsStem.trimmed {stem : Text} (safe : IsStem stem) : Text.Trimmed stem := by
  have solid : ∀ c ∈ stem, Text.isBlank c = false := by
    intro c member
    rw [← Bool.not_eq_true]
    intro blank
    have none : ∀ point ∈ Text.blankPoints, isStemChar (Char.ofNat point) = false ∧
        Char.ofNat point ≠ '_' := by decide
    have outside := none c.toNat (Text.blank_point blank)
    rw [Char.ofNat_toNat] at outside
    rcases stem_char_iff.mpr (safe.letters c member) with keeps | under
    · exact absurd keeps (by simp [outside.1])
    · exact outside.2 under
  exact ⟨fun c first => solid c (List.mem_of_head? first),
    fun c last => solid c (List.mem_of_getLast? last)⟩

theorem safe_stem_of_stem {stem : Text} (safe : IsStem stem) : safeStem stem = stem := by
  have joined : joinUnsafe false (Text.trim stem) = stem := by
    rw [Text.trim_trimmed safe.trimmed]
    exact join_unsafe_joined (fun c member => stem_char_iff.mpr (safe.letters c member)) safe.apart
      (by simp)
  have edgeless : withoutEdges stem = stem := by
    rw [withoutEdges, edgeless_start fun c first => stem_edge_iff.mpr (safe.start c first),
      edgeless_ending fun c last => stem_edge_iff.mpr (safe.ending c last)]
  rw [safe_stem_eq, joined, edgeless, if_neg (by simpa using safe.filled)]

theorem safe_stem_again (name : Text) : safeStem (safeStem name) = safeStem name :=
  safe_stem_of_stem (safe_stem_safe name)

-- Underscores with a dot between them both stay; dots are cut off at the ends alone.
example : safeStem "._Lit (Forward/._Base)_." = "Lit_Forward_._Base" := by decide

/-- A safe stem with anything but a slash behind it is one name. It does not begin with a dot, so it
is none of the names that lead elsewhere. -/
theorem IsStem.single {stem ending : Text} (safe : IsStem stem) (slashless : '/' ∉ ending) :
    Path.Single (stem ++ ending) := by
  have start : (stem ++ ending).head? ≠ some '.' := by
    obtain ⟨c, rest, spelled⟩ := List.exists_cons_of_ne_nil safe.filled
    intro dot
    rw [spelled, List.cons_append, List.head?_cons, Option.some.injEq] at dot
    exact (safe.start c (by simp [spelled])).2 dot
  refine ⟨by simp [safe.filled], ?_, ?_, ?_⟩
  · intro member
    rcases List.mem_append.mp member with inside | behind
    · exact absurd (safe.letters _ inside) (by decide)
    · exact slashless behind
  · exact fun here => start (by rw [here]; rfl)
  · exact fun above => start (by rw [above]; rfl)

/-- A stem with safe characters behind it is a name. -/
theorem stem_name_plain (name : Text) {ending : Text}
    (safe : ∀ c ∈ ending, isStemChar c = true ∨ c = '_') : Path.Plain (safeStem name ++ ending) := by
  have absent : ∀ c : Char, isStemChar c = false → c ≠ '_' → c ∉ ending := by
    intro c outside other member
    rcases safe c member with keeps | under
    · exact absurd keeps (by simp [outside])
    · exact other under
  have stem := safe_stem_safe name
  have single := stem.single (absent '/' (by decide) (by decide))
  refine ⟨single.filled, single.slashless, ?_, single.notHere, single.notAbove⟩
  intro member
  rcases List.mem_append.mp member with inside | behind
  · exact absurd (stem.letters _ inside) (by decide)
  · exact absent '\x00' (by decide) (by decide) behind

theorem stage_name_plain (name : Text) (stage : Stage) :
    Path.Plain (safeStem name ++ "." ++ stage.fileExtension) := by
  rw [List.append_assoc]
  cases stage <;> exact stem_name_plain name (Text.every (by decide))

theorem report_name_single (shader : Text) (moment : Calendar.Moment) :
    Path.Single (reportName shader moment) := by
  rw [reportName, List.append_assoc, List.append_assoc]
  apply (safe_stem_safe shader).single
  intro member
  simp only [List.mem_append] at member
  rcases member with under | stamp | ending
  · exact absurd under (by decide)
  · exact absurd (Calendar.mem_file_stamp stamp) (by decide)
  · exact absurd ending (by decide)

/-- A safe stem is not made safe once more under another name. -/
theorem stage_path_of_stem {stem : Text} (safe : IsStem stem) (directory : Text) (stage : Stage) :
    stagePath directory stem stage = Path.join directory (stem ++ "." ++ stage.fileExtension) := by
  rw [stagePath, safe_stem_of_stem safe]

theorem save_stage_pair_paths {directory stem vertexSource fragmentSource : Text}
    {tree after : FileTree} {paths : StagePaths}
    (saved : saveStagePair directory stem vertexSource fragmentSource tree = (.ok paths, after)) :
    paths = ⟨stagePath directory stem .vertex, stagePath directory stem .fragment⟩ := by
  rw [saveStagePair] at saved
  obtain ⟨_, _, _, written⟩ := filing_bind_ok saved
  obtain ⟨_, _, _, first⟩ := filing_bind_ok written
  obtain ⟨_, _, _, second⟩ := filing_bind_ok first
  exact (Except.ok.inj (Prod.mk.inj second).1).symm

/-- Making a name safe is a retraction onto the safe stems: every name becomes one, each of them is
left as it is, and they are all there are. So the stem of a variant is not renamed when its stage
files are saved, and a path that is made of a stem and anything but a slash behind it, as those of
stage files and reports are, is that of an entry of its directory. -/
theorem safe_stem_retraction :
    (∀ name, IsStem (safeStem name)) ∧
    (∀ stem, IsStem stem → safeStem stem = stem) ∧
    (∀ name, safeStem (safeStem name) = safeStem name) ∧
    Set.range safeStem = {stem | IsStem stem} ∧
    (∀ (variant : Dump.Variant) (index : Nat) directory vertexSource fragmentSource tree paths after,
      saveStagePair directory (variant.fileStem index) vertexSource fragmentSource tree =
        (.ok paths, after) →
      paths = ⟨Path.join directory (variant.fileStem index ++ ".vert"),
        Path.join directory (variant.fileStem index ++ ".frag")⟩) ∧
    (∀ directory name ending : Text, '/' ∉ ending →
      Path.Entry directory (safeStem name ++ ending)
        (Path.join directory (safeStem name ++ ending))) ∧
    ∀ directory name,
      (∀ stage, Path.Entry directory (safeStem name ++ "." ++ stage.fileExtension)
        (stagePath directory name stage)) ∧
      ∀ moment, Path.Entry directory (reportName name moment)
        (Path.join directory (reportName name moment)) := by
  refine ⟨safe_stem_safe, fun _ => safe_stem_of_stem, safe_stem_again, ?_, ?_, ?_, ?_⟩
  · ext stem
    constructor
    · rintro ⟨name, rfl⟩
      exact safe_stem_safe name
    · exact fun safe => ⟨stem, safe_stem_of_stem safe⟩
  · intro variant index directory vertexSource fragmentSource tree paths after saved
    have safe : IsStem (variant.fileStem index) := safe_stem_safe _
    rw [save_stage_pair_paths saved, stage_path_of_stem safe, stage_path_of_stem safe,
      List.append_assoc, List.append_assoc]
    rfl
  · intro directory name ending slashless
    exact Path.entry_join directory ((safe_stem_safe name).single slashless)
  · intro directory name
    exact ⟨fun stage => Path.entry_join directory (stage_name_plain name stage).single,
      fun moment => Path.entry_join directory (report_name_single name moment)⟩

/-- The unnamed pass at the third place, and a stem with dots and hyphens below a directory that is
written with a dot. -/
theorem safe_stem_retraction_unnamed_pass :
    safeStem "Water-2.Surface_1" = "Water-2.Surface_1" ∧
    Path.Entry "out/." "Water_Surface.vert" "out/./Water_Surface.vert" ∧
    ∃ after, saveStagePair "work" (Dump.Variant.fileStem ⟨⟨"(unnamed)", ""⟩, "v", "f"⟩ 2) "v" "f"
      ⟨[], []⟩ = (.ok ⟨"work/unnamed_2.vert", "work/unnamed_2.frag"⟩, after) := by
  obtain ⟨_, unchanged, _, _, kept, entry, _⟩ := safe_stem_retraction
  refine ⟨unchanged _ (by decide), entry "out/." "Water/Surface" ".vert" (by decide), ?_⟩
  obtain ⟨paths, after, saved⟩ : ∃ paths after, saveStagePair "work"
      (Dump.Variant.fileStem ⟨⟨"(unnamed)", ""⟩, "v", "f"⟩ 2) "v" "f" ⟨[], []⟩ =
        (.ok paths, after) := by
    apply filing_passed
    decide +kernel
  have same := kept _ _ _ _ _ _ _ _ saved
  exact ⟨after, by rw [saved, same]; rfl⟩

end ShaderCost
