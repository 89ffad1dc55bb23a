import ShaderCost.Proofs.Dump.Extraction
import ShaderCost.Proofs.Dump.Layout

/-!
The bodies of sections by their grammar. A body is nothing, a body with a plain line behind it, or a
body with a conditional behind it that has a body of its own. These are the unbroken lines that are
well nested, and from a text in which a body stands between the delimiters of a stage they are taken
as they are, the blank ones left out.
-/

namespace ShaderCost.Dump

/-- Bodies of sections: every conditional that is opened in one is closed in it, and no line of one
is broken. -/
inductive BlockBody : List Text → Prop
  | empty : BlockBody []
  | plain {body : List Text} {line : Text} (front : BlockBody body) (unbroken : Unbroken line)
      (continues : opensBlock line = false) (stays : Text.trim line ≠ endMarker) :
      BlockBody (body ++ [line])
  | block {body inner : List Text} {opener closer : Text} (front : BlockBody body)
      (openerUnbroken : Unbroken opener) (opens : opensBlock opener = true)
      (inside : BlockBody inner) (closerUnbroken : Unbroken closer)
      (closes : Text.trim closer = endMarker) : BlockBody (body ++ opener :: (inner ++ [closer]))

namespace BlockBody

theorem nested {body : List Text} (grammar : BlockBody body) : WellNested body := by
  induction grammar with
  | empty => exact .nil
  | plain _ _ continues stays induction =>
      exact well_nested_append induction (.plain continues stays .nil)
  | block _ _ opens _ _ closes frontInduction insideInduction =>
      exact well_nested_append frontInduction (.block opens insideInduction closes .nil)

theorem unbroken {body : List Text} (grammar : BlockBody body) :
    ∀ line ∈ body, Unbroken line := by
  induction grammar with
  | empty => simp
  | plain _ here _ _ induction =>
      intro line member
      rcases List.mem_append.mp member with before | last
      · exact induction line before
      · rw [List.mem_singleton.mp last]
        exact here
  | block _ openerUnbroken _ _ closerUnbroken _ frontInduction insideInduction =>
      intro line member
      simp only [List.mem_append, List.mem_cons, List.not_mem_nil, or_false] at member
      rcases member with before | rfl | inner | rfl
      · exact frontInduction line before
      · exact openerUnbroken
      · exact insideInduction line inner
      · exact closerUnbroken

theorem append {front behind : List Text} (first : BlockBody front) (second : BlockBody behind) :
    BlockBody (front ++ behind) := by
  induction second with
  | empty => rwa [List.append_nil]
  | plain _ unbroken continues stays induction =>
      rw [← List.append_assoc]
      exact .plain induction unbroken continues stays
  | block _ openerUnbroken opens inside closerUnbroken closes induction _ =>
      rw [← List.append_assoc]
      exact .block induction openerUnbroken opens inside closerUnbroken closes

end BlockBody

/-- The grammar goes from the last line of a body to the first, and nesting from the first to the
last. Both describe the same lines. -/
theorem block_body_iff {body : List Text} :
    BlockBody body ↔ WellNested body ∧ ∀ line ∈ body, Unbroken line := by
  constructor
  · intro grammar
    exact ⟨grammar.nested, grammar.unbroken⟩
  · rintro ⟨nested, unbroken⟩
    induction nested with
    | nil => exact .empty
    | @plain line body continues stays _ induction =>
        obtain ⟨here, later⟩ := List.forall_mem_cons.mp unbroken
        have single : BlockBody [line] := .plain .empty here continues stays
        exact single.append (induction later)
    | @block opener closer inner body opens _ closes _ insideInduction induction =>
        simp only [List.mem_cons, List.mem_append] at unbroken
        have inside : BlockBody inner :=
          insideInduction fun line member => unbroken line (.inr (.inl member))
        have first : BlockBody (opener :: (inner ++ [closer])) :=
          .block .empty (unbroken opener (.inl rfl)) opens inside
            (unbroken closer (.inr (.inr (.inl rfl)))) closes
        have whole : opener :: (inner ++ closer :: body) =
            (opener :: (inner ++ [closer])) ++ body := by
          rw [List.cons_append, List.append_assoc, List.singleton_append]
        rw [whole]
        exact first.append (induction fun line member => unbroken line (.inr (.inr (.inr member))))

instance (body : List Text) : Decidable (BlockBody body) := decidable_of_iff' _ block_body_iff

/-- The first marker of a stage opens a region that a body does not close, so that the region ends
at the end marker behind the body. -/
theorem extract_stage_between {text : Text} {stage : Stage} {before body after : List Text}
    {opener closer : Text} (spelled : lines text = before ++ opener :: (body ++ closer :: after))
    (other : ∀ line ∈ before, Text.trim line ≠ stage.marker)
    (opens : Text.trim opener = stage.marker) (nested : WellNested body)
    (closes : Text.trim closer = endMarker) :
    extractStage text stage = Text.joinLines (body.filter isSolid) := by
  have unbroken : ∀ line ∈ body, Unbroken line := by
    intro line member
    apply lines_unbroken text
    rw [spelled]
    simp [member]
  have found : fromMarker stage (lines text) = opener :: (body ++ closer :: after) := by
    rw [fromMarker, spelled, List.dropWhile_append_of_pos, List.dropWhile_cons_of_neg]
    · simp [opens]
    · intro line member
      rw [bne_iff_ne]
      exact other line member
  rw [extract_stage_eq, found, Region.takeFrom_nested opener nested closes]
  exact region_source_inner opener closer unbroken true

/-- From a text in which a body stands between a marker and an end marker, each with blanks around
it, the body is taken as it is but for its blank lines. Its nested conditionals are kept, among them
sections of either stage, and neither do the lines before and behind it matter, as long as the
marker is the first one of its stage. -/
theorem extract_body {body : List Text} (grammar : BlockBody body) {stage : Stage}
    {before : List Text} (unbroken : ∀ line ∈ before, Unbroken line)
    (other : ∀ line ∈ before, Text.trim line ≠ stage.marker) {opener closer : Text}
    (openerUnbroken : Unbroken opener) (opens : Text.trim opener = stage.marker)
    (closerUnbroken : Unbroken closer) (closes : Text.trim closer = endMarker)
    (after : List Text) :
    extractStage (Text.joinLines (before ++ opener :: (body ++ closer :: after))) stage =
      Text.joinLines (body.filter fun line => !Text.isAllBlank line) := by
  have frame : before ++ opener :: (body ++ closer :: after) =
      (before ++ opener :: (body ++ [closer])) ++ after := by
    simp only [List.append_assoc, List.cons_append, List.nil_append]
  have whole : ∀ line ∈ before ++ opener :: (body ++ [closer]), Unbroken line := by
    intro line member
    simp only [List.mem_append, List.mem_cons, List.not_mem_nil, or_false] at member
    rcases member with front | rfl | inner | rfl
    · exact unbroken line front
    · exact openerUnbroken
    · exact grammar.unbroken line inner
    · exact closerUnbroken
  have marked : Text.trim opener ≠ [] := by
    rw [opens]
    cases stage <;> decide
  have openerFilled : (!opener.isEmpty) = true := by
    simpa using filled_of_solid (solid_of_trim marked)
  have closerFilled : (!closer.isEmpty) = true := by
    simpa using filled_of_solid (solid_of_closer closes)
  have spelled : lines (Text.joinLines (before ++ opener :: (body ++ closer :: after))) =
      before.filter (fun line => !line.isEmpty) ++ opener ::
        (body.filter (fun line => !line.isEmpty) ++ closer :: lines (Text.joinLines after)) := by
    rw [frame, lines_join_append, lines_join_lines whole]
    simp only [List.filter_append, List.filter_cons, openerFilled, closerFilled, if_true,
      List.filter_nil, List.append_assoc, List.cons_append, List.nil_append]
  have first : ∀ line ∈ before.filter fun line => !line.isEmpty,
      Text.trim line ≠ stage.marker :=
    fun line member => other line (List.mem_filter.mp member).1
  have taken := extract_stage_between spelled first opens (well_nested_filled grammar.nested) closes
  rw [taken]
  exact congrArg Text.joinLines (filter_blank_filled body)

/-- A body with blank lines and with sections of both stages in it. -/
def bodyWithSections : List Text :=
  ["\tuniform vec4 a;", "", " #ifdef FRAGMENT", "#ifdef VERTEX", "\u00a0", "  v", "#endif ",
    "\t#endif", "void main() {}", "  "]

/-- A section of the other stage. -/
def otherSection : List Text := ["#ifdef FRAGMENT", "f", "#endif"]

/-- An end marker too many, and a section that is never closed. -/
def openSection : List Text := ["#endif", "#ifdef VERTEX", "w"]

theorem extract_body_with_sections :
    BlockBody bodyWithSections ∧
      (∀ line ∈ otherSection, Unbroken line ∧ Text.trim line ≠ Stage.marker .vertex) ∧
      Text.trim " #ifdef VERTEX\t" = Stage.marker .vertex ∧ Text.trim "\u3000#endif" = endMarker ∧
      extractStage (Text.joinLines (otherSection ++ " #ifdef VERTEX\t".toList ::
        (bodyWithSections ++ "\u3000#endif".toList :: openSection))) .vertex =
        ("\tuniform vec4 a;\n #ifdef FRAGMENT\n#ifdef VERTEX\n  v\n#endif \n\t#endif\n" ++
          "void main() {}").toList := by
  have grammar : BlockBody bodyWithSections := by decide +kernel
  have front : ∀ line ∈ otherSection, Unbroken line ∧
      Text.trim line ≠ Stage.marker .vertex := by decide +kernel
  have opens : Text.trim " #ifdef VERTEX\t" = Stage.marker .vertex := by decide +kernel
  have closes : Text.trim "\u3000#endif" = endMarker := by decide +kernel
  refine ⟨grammar, front, opens, closes, ?_⟩
  rw [extract_body grammar (fun line member => (front line member).1)
    (fun line member => (front line member).2) (by decide +kernel) opens (by decide +kernel) closes]
  decide +kernel

end ShaderCost.Dump
