import ShaderCost.Dump.Region
import ShaderCost.Proofs.Text.Words

/-!
The lines of a text. A text can be cut wherever a line ends, and the lines of the parts are the
lines of the whole. Each line stands in the text as it is, with nothing but line ends before it.
-/

namespace ShaderCost.Dump

/-- A text in which no line ends. -/
def Unbroken (text : Text) : Prop := ∀ c ∈ text, isLineEnd c = false

instance (text : Text) : Decidable (Unbroken text) :=
  List.decidableBAll (fun c => isLineEnd c = false) text

theorem pieces_unbroken (text : Text) : ∀ piece ∈ text.splitOnP isLineEnd, Unbroken piece := by
  induction text with
  | nil => simp [Unbroken]
  | cons c text induction =>
      rw [List.splitOnP_cons_eq_if_modifyHead]
      by_cases ends : isLineEnd c = true
      · rw [if_pos ends, List.forall_mem_cons]
        exact ⟨by simp [Unbroken], induction⟩
      · obtain ⟨first, rest, split⟩ := List.exists_cons_of_ne_nil (List.splitOnP_ne_nil isLineEnd text)
        rw [split, List.forall_mem_cons] at induction
        rw [if_neg ends, split, List.modifyHead_cons, List.forall_mem_cons]
        exact ⟨List.forall_mem_cons.mpr ⟨Bool.not_eq_true _ ▸ ends, induction.1⟩, induction.2⟩

theorem lines_unbroken (text : Text) : ∀ line ∈ lines text, Unbroken line := by
  intro line member
  exact pieces_unbroken text line (List.mem_filter.mp member).1

theorem lines_filled (text : Text) : ∀ line ∈ lines text, (!line.isEmpty) = true := by
  intro line member
  exact (List.mem_filter.mp member).2

/-- A line end divides the lines before it from those behind it. -/
theorem lines_divided (text : Text) {c : Char} (ends : isLineEnd c = true) (behind : Text) :
    lines (text ++ c :: behind) = lines text ++ lines behind := by
  rw [lines, List.splitOnP_append_cons _ _ ends, List.filter_append]
  rfl

theorem lines_append (text appended : Text) :
    lines (text ++ '\n' :: appended) = lines text ++ lines appended :=
  lines_divided text (by rfl) appended

theorem lines_of_line {line : Text} (unbroken : Unbroken line) :
    lines line = [line].filter fun piece => !piece.isEmpty := by
  rw [lines, List.splitOnP_eq_singleton unbroken]

theorem lines_join_flat (parts : List Text) :
    lines (Text.joinLines parts) = parts.flatMap lines := by
  induction parts with
  | nil => rfl
  | cons line following induction =>
      cases following with
      | nil => rw [Text.join_lines_single, List.flatMap_singleton]
      | cons next following =>
          rw [Text.join_lines_cons, lines_append, induction, ← List.flatMap_cons]

theorem lines_join_append (front behind : List Text) :
    lines (Text.joinLines (front ++ behind)) =
      lines (Text.joinLines front) ++ lines (Text.joinLines behind) := by
  rw [lines_join_flat, lines_join_flat, lines_join_flat, List.flatMap_append]

/-- Lines joined by line feeds are read as these lines, except for the empty ones. -/
theorem lines_join_lines {parts : List Text} (unbroken : ∀ line ∈ parts, Unbroken line) :
    lines (Text.joinLines parts) = parts.filter fun line => !line.isEmpty := by
  rw [lines_join_flat]
  induction parts with
  | nil => rfl
  | cons line following induction =>
      obtain ⟨here, later⟩ := List.forall_mem_cons.mp unbroken
      rw [List.flatMap_cons, lines_of_line here, induction later, ← List.filter_append,
        List.singleton_append]

theorem lines_behind_ends {ending : Text} (ends : ∀ c ∈ ending, isLineEnd c = true)
    (text : Text) : lines (ending ++ text) = lines text := by
  induction ending with
  | nil => rfl
  | cons c ending induction =>
      rw [List.forall_mem_cons] at ends
      rw [List.cons_append, ← List.nil_append (c :: (ending ++ text)), lines_divided [] ends.1,
        induction ends.2]
      rfl

theorem mem_join_lines {parts : List Text} {c : Char} (member : c ∈ Text.joinLines parts) :
    c = '\n' ∨ ∃ line ∈ parts, c ∈ line := by
  induction parts with
  | nil => simp [Text.joinLines] at member
  | cons line following induction =>
      cases following with
      | nil =>
          rw [Text.join_lines_single] at member
          exact .inr ⟨line, List.mem_cons_self, member⟩
      | cons next following =>
          rw [Text.join_lines_cons, List.mem_append, List.mem_cons] at member
          rcases member with here | feed | later
          · exact .inr ⟨line, List.mem_cons_self, here⟩
          · exact .inl feed
          · rcases induction later with feed | ⟨other, present, inside⟩
            · exact .inl feed
            · exact .inr ⟨other, List.mem_cons_of_mem _ present, inside⟩

theorem join_lines_beginning {parts : List Text} (unbroken : ∀ line ∈ parts, Unbroken line)
    (filled : ∀ line ∈ parts, line ≠ []) {c : Char}
    (first : (Text.joinLines parts).head? = some c) : isLineEnd c = false := by
  cases parts with
  | nil => simp [Text.joinLines] at first
  | cons line following =>
      obtain ⟨d, line, rfl⟩ := List.exists_cons_of_ne_nil (filled line List.mem_cons_self)
      have head : (Text.joinLines ((d :: line) :: following)).head? = some d := by
        cases following with
        | nil => rw [Text.join_lines_single, List.head?_cons]
        | cons next following => rw [Text.join_lines_cons, List.cons_append, List.head?_cons]
      rw [head, Option.some.injEq] at first
      rw [← first]
      exact unbroken _ List.mem_cons_self d List.mem_cons_self

theorem join_lines_ending {parts : List Text} (unbroken : ∀ line ∈ parts, Unbroken line)
    (filled : ∀ line ∈ parts, line ≠ []) {c : Char}
    (last : (Text.joinLines parts).getLast? = some c) : isLineEnd c = false := by
  induction parts with
  | nil => simp [Text.joinLines] at last
  | cons line following induction =>
      cases following with
      | nil =>
          rw [Text.join_lines_single] at last
          exact unbroken line List.mem_cons_self c (List.mem_of_getLast? last)
      | cons next following =>
          have inner : Text.joinLines (next :: following) ≠ [] := by
            have present := filled next (by simp)
            cases following with
            | nil =>
                rw [Text.join_lines_single]
                exact present
            | cons other following => simp [Text.join_lines_cons]
          obtain ⟨d, joined, spelled⟩ := List.exists_cons_of_ne_nil inner
          rw [Text.join_lines_cons, spelled, List.getLast?_append, List.getLast?_cons_cons,
            Option.or_of_isSome (by simp), ← spelled] at last
          exact induction (fun other member => unbroken other (List.mem_cons_of_mem _ member))
            (fun other member => filled other (List.mem_cons_of_mem _ member)) last

theorem join_lines_stripped {parts : List Text} (unbroken : ∀ line ∈ parts, Unbroken line)
    (filled : ∀ line ∈ parts, line ≠ []) :
    ((Text.joinLines parts).reverse.dropWhile isLineEnd).reverse = Text.joinLines parts := by
  cases reversed : (Text.joinLines parts).reverse with
  | nil => simpa using reversed.symm
  | cons c rest =>
      have last : (Text.joinLines parts).getLast? = some c := by
        rw [List.getLast?_eq_head?_reverse, reversed, List.head?_cons]
      have solid := join_lines_ending unbroken filled last
      rw [List.dropWhile_cons_of_neg (by simp [solid]), ← reversed, List.reverse_reverse]

theorem line_end_blank {c : Char} (ends : isLineEnd c = true) : Text.isBlank c = true := by
  simp only [isLineEnd, Bool.or_eq_true, beq_iff_eq] at ends
  rcases ends with rfl | rfl <;> decide

/-- A text that is empty or begins with a line end, so that what comes before it is a line of its
own. -/
def Bounded (text : Text) : Prop := ∀ c ∈ text.head?, isLineEnd c = true

theorem bounded_front {front behind : Text} (bounded : Bounded (front ++ behind)) :
    Bounded front := by
  cases front with
  | nil => simp [Bounded]
  | cons c front => exact bounded

theorem bounded_append {front behind : Text} (first : Bounded front) (second : Bounded behind) :
    Bounded (front ++ behind) := by
  cases front with
  | nil => exact second
  | cons c front => exact first

theorem lines_bounded (front : Text) {behind : Text} (bounded : Bounded behind) :
    lines (front ++ behind) = lines front ++ lines behind := by
  cases behind with
  | nil =>
      rw [List.append_nil]
      exact (List.append_nil _).symm
  | cons c behind =>
      have ends : isLineEnd c = true := bounded c rfl
      have single : ∀ d ∈ [c], isLineEnd d = true := by simpa using ends
      have rest : lines (c :: behind) = lines behind := lines_behind_ends single behind
      rw [lines_divided front ends, rest]

theorem lines_line {line : Text} (unbroken : Unbroken line) (filled : line ≠ []) {behind : Text}
    (bounded : Bounded behind) : lines (line ++ behind) = line :: lines behind := by
  rw [lines_bounded line bounded, lines_of_line unbroken,
    List.filter_cons_of_pos (by simpa using filled)]
  rfl

/-- The first line stands behind line ends, and the other lines are those of what follows it. -/
theorem lines_cases (text : Text) : ∃ ends rest, (∀ c ∈ ends, isLineEnd c = true) ∧
    text = ends ++ rest ∧ (rest = [] ∨ ∃ line behind, Unbroken line ∧ line ≠ [] ∧
      Bounded behind ∧ rest = line ++ behind) := by
  refine ⟨text.takeWhile isLineEnd, text.dropWhile isLineEnd,
    List.all_eq_true.mp List.all_takeWhile, List.takeWhile_append_dropWhile.symm, ?_⟩
  have first := List.head?_dropWhile_not isLineEnd text
  cases spelled : text.dropWhile isLineEnd with
  | nil => exact .inl rfl
  | cons c rest =>
      rw [spelled] at first
      have solid : isLineEnd c = false := by simpa using first
      refine .inr ⟨(c :: rest).takeWhile fun d => !isLineEnd d,
        (c :: rest).dropWhile fun d => !isLineEnd d, ?_, ?_, ?_,
        List.takeWhile_append_dropWhile.symm⟩
      · intro d member
        simpa using List.all_eq_true.mp List.all_takeWhile d member
      · rw [List.takeWhile_cons_of_pos (by simp [solid])]
        simp
      · intro d found
        have ends := List.head?_dropWhile_not (fun d => !isLineEnd d) (c :: rest)
        rw [Option.mem_def.mp found] at ends
        simpa using ends

theorem lines_nil {text : Text} (none : lines text = []) : ∀ c ∈ text, isLineEnd c = true := by
  obtain ⟨ends, rest, all, rfl, rfl | ⟨line, behind, unbroken, filled, bounded, rfl⟩⟩ :=
    lines_cases text
  · rwa [List.append_nil]
  · rw [lines_behind_ends all, lines_line unbroken filled bounded] at none
    simp at none

theorem lines_cons {text line : Text} {following : List Text}
    (spelled : lines text = line :: following) : ∃ ends behind, text = ends ++ (line ++ behind) ∧
      (∀ c ∈ ends, isLineEnd c = true) ∧ Bounded behind ∧ lines behind = following := by
  obtain ⟨ends, rest, all, rfl, rfl | ⟨first, behind, unbroken, filled, bounded, rfl⟩⟩ :=
    lines_cases text
  · rw [lines_behind_ends all] at spelled
    simp [lines] at spelled
  · rw [lines_behind_ends all, lines_line unbroken filled bounded, List.cons.injEq] at spelled
    obtain ⟨rfl, same⟩ := spelled
    exact ⟨ends, behind, rfl, all, bounded, same⟩

/-- A text can be cut between any two of its lines. -/
theorem lines_cut {text : Text} (bounded : Bounded text) {front behind : List Text}
    (spelled : lines text = front ++ behind) : ∃ first second, text = first ++ second ∧
      lines first = front ∧ lines second = behind ∧ Bounded second := by
  induction front generalizing text with
  | nil => exact ⟨[], text, rfl, rfl, spelled, bounded⟩
  | cons line front induction =>
      have member : line ∈ lines text := by
        rw [spelled]
        exact List.mem_cons_self
      obtain ⟨ends, rest, rfl, all, bounded, same⟩ := lines_cons spelled
      obtain ⟨first, second, rfl, before, after, later⟩ := induction bounded same
      refine ⟨ends ++ (line ++ first), second, by simp only [List.append_assoc], ?_, after, later⟩
      rw [lines_behind_ends all, lines_line (lines_unbroken _ line member)
        (by simpa using lines_filled _ line member) (bounded_front bounded), before]

/-- A change of characters that keeps line ends changes the lines and not where they end. -/
theorem lines_map {change : Char → Char} (keeps : ∀ c, isLineEnd (change c) = isLineEnd c)
    (text : Text) : lines (text.map change) = (lines text).map (List.map change) := by
  have pieces : (text.map change).splitOnP isLineEnd =
      (text.splitOnP isLineEnd).map (List.map change) := by
    induction text with
    | nil => rfl
    | cons c text induction =>
        rw [List.map_cons, List.splitOnP_cons_eq_if_modifyHead,
          List.splitOnP_cons_eq_if_modifyHead, keeps, induction]
        split
        · rfl
        · cases text.splitOnP isLineEnd <;> rfl
  rw [lines, pieces, List.filter_map]
  congr 1
  apply List.filter_congr
  intro piece _
  cases piece <;> rfl

/-- What stands between blanks is what stands between them in each line. -/
theorem spaced_lines (text : Text) :
    Text.spaced false text = (lines text).flatMap (Text.spaced false) := by
  generalize spelled : lines text = found
  induction found generalizing text with
  | nil =>
      apply Text.spaced_all_blank
      rw [Text.isAllBlank, List.all_eq_true]
      exact fun c member => line_end_blank (lines_nil spelled c member)
  | cons line following induction =>
      obtain ⟨ends, behind, rfl, all, bounded, same⟩ := lines_cons spelled
      have divided : Text.spaced false (line ++ behind) =
          Text.spaced false line ++ Text.spaced false behind := by
        cases behind with
        | nil => simp [Text.spaced]
        | cons c behind =>
            have blank := line_end_blank (bounded c rfl)
            rw [Text.spaced_divided false line blank, Text.spaced_blank blank]
      rw [Text.spaced_behind fun c member => line_end_blank (all c member), divided,
        induction behind same, List.flatMap_cons]

end ShaderCost.Dump
