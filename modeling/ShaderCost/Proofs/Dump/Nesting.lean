import ShaderCost.Dump.Region

/-!
What a region takes from the lines of a dump: a front part of them, up to the end marker that
closes it. Lines that are well nested among themselves belong to the region as a whole, whatever
they say.
-/

namespace ShaderCost.Dump

namespace Region

theorem interior_split (closer : Text) (depth : Nat) (following : List Text) :
    (interior closer depth following).1.lines ++ (interior closer depth following).2 =
      following := by
  fun_induction interior closer depth following with
  | case1 => rfl
  | case2 depth line following opens induction =>
      simp only [push, List.cons_append, induction]
  | case3 line following opens closes => rfl
  | case4 line following opens closes depth induction =>
      simp only [push, List.cons_append, induction]
  | case5 depth line following opens continues induction =>
      simp only [push, List.cons_append, induction]

theorem takeFrom_split (closer : Text) (following : List Text) :
    (takeFrom closer following).1.lines ++ (takeFrom closer following).2 = following := by
  cases following with
  | nil => rfl
  | cons first following =>
      simp only [takeFrom, push, List.cons_append, interior_split]

theorem capture_rest (closer : Text) (lines : List Text) (start : Nat) :
    (takeFrom closer (lines.drop start)).2 =
      lines.drop (nextIndex start (capture lines start closer)) := by
  have split := takeFrom_split closer (lines.drop start)
  have dropped := congrArg (List.drop (capture lines start closer).lines.length) split
  rw [capture, List.drop_left] at dropped
  rw [dropped, List.drop_drop, nextIndex, capture]

theorem nextIndex_le (closer : Text) (lines : List Text) (start : Nat) (inside : start ≤ lines.length) :
    nextIndex start (capture lines start closer) ≤ lines.length := by
  have split := congrArg List.length (takeFrom_split closer (lines.drop start))
  rw [List.length_append, List.length_drop] at split
  rw [nextIndex, capture]
  omega

theorem lt_nextIndex (closer : Text) (lines : List Text) (start : Nat) (inside : start < lines.length) :
    start < nextIndex start (capture lines start closer) := by
  rw [nextIndex, capture, List.drop_eq_getElem_cons inside]
  simp only [takeFrom, push, List.length_cons]
  omega

end Region

/-- Lines in which every conditional is closed by an end marker of its own. -/
inductive WellNested : List Text → Prop
  | nil : WellNested []
  | plain {line : Text} {body : List Text} (continues : opensBlock line = false)
      (stays : Text.trim line ≠ endMarker) (nested : WellNested body) : WellNested (line :: body)
  | block {opener closer : Text} {inner body : List Text} (opens : opensBlock opener = true)
      (inside : WellNested inner) (closes : Text.trim closer = endMarker)
      (nested : WellNested body) : WellNested (opener :: (inner ++ closer :: body))

theorem well_nested_append {front behind : List Text} (first : WellNested front)
    (second : WellNested behind) : WellNested (front ++ behind) := by
  induction first with
  | nil => exact second
  | plain continues stays _ induction => exact .plain continues stays induction
  | block opens inside closes _ _ induction =>
      rw [List.cons_append, List.append_assoc, List.cons_append]
      exact .block opens inside closes induction

theorem end_marker_continues {line : Text} (closes : Text.trim line = endMarker) :
    opensBlock line = false := by
  rw [opensBlock, closes]
  decide

namespace Region

theorem interior_opener {line : Text} (opens : opensBlock line = true) (depth : Nat)
    (following : List Text) : interior endMarker depth (line :: following) =
      push line (interior endMarker (depth + 1) following) := by
  cases depth <;> simp [interior, opens]

theorem interior_plain {line : Text} (continues : opensBlock line = false)
    (stays : Text.trim line ≠ endMarker) (depth : Nat) (following : List Text) :
    interior endMarker depth (line :: following) =
      push line (interior endMarker depth following) := by
  cases depth <;> simp [interior, continues, stays]

theorem interior_closer {line : Text} (closes : Text.trim line = endMarker)
    (following : List Text) :
    interior endMarker 0 (line :: following) = (⟨[line], true⟩, following) := by
  simp [interior, end_marker_continues closes, closes]

theorem interior_inner_closer {line : Text} (closes : Text.trim line = endMarker) (depth : Nat)
    (following : List Text) : interior endMarker (depth + 1) (line :: following) =
      push line (interior endMarker depth following) := by
  simp [interior, end_marker_continues closes, closes]

/-- Well nested lines are taken whole, and the count of open conditionals is afterwards what it
was before. -/
theorem interior_nested {body : List Text} (nested : WellNested body) (depth : Nat)
    (following : List Text) :
    interior endMarker depth (body ++ following) =
      (⟨body ++ (interior endMarker depth following).1.lines,
        (interior endMarker depth following).1.balanced⟩,
        (interior endMarker depth following).2) := by
  induction nested generalizing depth following with
  | nil => rfl
  | @plain line body continues stays nested induction =>
      rw [List.cons_append, interior_plain continues stays, induction depth following]
      rfl
  | @block opener closer inner body opens inside closes nested insideInduction induction =>
      rw [List.cons_append, List.append_assoc, List.cons_append, interior_opener opens,
        insideInduction (depth + 1), interior_inner_closer closes, induction depth following]
      simp only [push, List.cons_append, List.append_assoc]

/-- A marker line, well nested lines and an end marker are a region of their own. -/
theorem takeFrom_nested (first : Text) {body : List Text} (nested : WellNested body)
    {closer : Text} (closes : Text.trim closer = endMarker) (following : List Text) :
    takeFrom endMarker (first :: (body ++ closer :: following)) =
      (⟨first :: (body ++ [closer]), true⟩, following) := by
  rw [takeFrom, interior_nested nested, interior_closer closes]
  rfl

end Region

/-- How many conditionals are open after some lines, when `depth` were open before; nothing when
an end marker closes none. -/
def openAfter : (depth : Nat) → List Text → Option Nat
  | depth, [] => some depth
  | depth, line :: following =>
      if opensBlock line then openAfter (depth + 1) following
      else if Text.trim line = endMarker then
        match depth with
        | 0 => none
        | depth + 1 => openAfter depth following
      else openAfter depth following

theorem open_after_opener {line : Text} (opens : opensBlock line = true) (depth : Nat)
    (following : List Text) :
    openAfter depth (line :: following) = openAfter (depth + 1) following := by
  cases depth <;> simp [openAfter, opens]

theorem open_after_plain {line : Text} (continues : opensBlock line = false)
    (stays : Text.trim line ≠ endMarker) (depth : Nat) (following : List Text) :
    openAfter depth (line :: following) = openAfter depth following := by
  cases depth <;> simp [openAfter, continues, stays]

theorem open_after_closer {line : Text} (closes : Text.trim line = endMarker) (depth : Nat)
    (following : List Text) :
    openAfter (depth + 1) (line :: following) = openAfter depth following := by
  simp [openAfter, end_marker_continues closes, closes]

theorem open_after_nested {body : List Text} (nested : WellNested body) (depth : Nat)
    (following : List Text) : openAfter depth (body ++ following) = openAfter depth following := by
  induction nested generalizing depth following with
  | nil => rfl
  | @plain line body continues stays nested induction =>
      rw [List.cons_append, open_after_plain continues stays, induction]
  | @block opener closer inner body opens inside closes nested insideInduction induction =>
      rw [List.cons_append, List.append_assoc, List.cons_append, open_after_opener opens,
        insideInduction, open_after_closer closes, induction]

/-- Lines that close `depth` conditionals which are open before them, and all of their own. -/
def Closing : (depth : Nat) → List Text → Prop
  | 0, lines => WellNested lines
  | depth + 1, lines => ∃ inner closer following, lines = inner ++ closer :: following ∧
      WellNested inner ∧ Text.trim closer = endMarker ∧ Closing depth following

theorem closing_plain {line : Text} (continues : opensBlock line = false)
    (stays : Text.trim line ≠ endMarker) {depth : Nat} {lines : List Text}
    (closing : Closing depth lines) : Closing depth (line :: lines) := by
  cases depth with
  | zero => exact .plain continues stays closing
  | succ depth =>
      obtain ⟨inner, closer, following, rfl, nested, closes, after⟩ := closing
      exact ⟨line :: inner, closer, following, rfl, .plain continues stays nested, closes, after⟩

theorem closing_block {opener : Text} (opens : opensBlock opener = true) {depth : Nat}
    {lines : List Text} (closing : Closing (depth + 1) lines) : Closing depth (opener :: lines) := by
  obtain ⟨inner, closer, following, rfl, nested, closes, after⟩ := closing
  cases depth with
  | zero => exact .block opens nested closes after
  | succ depth =>
      obtain ⟨between, outer, rest, rfl, betweenNested, outerCloses, restClosing⟩ := after
      refine ⟨opener :: (inner ++ closer :: between), outer, rest, ?_,
        .block opens nested closes betweenNested, outerCloses, restClosing⟩
      simp only [List.cons_append, List.append_assoc]

theorem closing_of_open_after (depth : Nat) (lines : List Text)
    (closed : openAfter depth lines = some 0) : Closing depth lines := by
  fun_induction openAfter depth lines with
  | case1 depth =>
      obtain rfl : depth = 0 := Option.some.inj closed
      exact .nil
  | case2 depth line following opens induction => exact closing_block opens (induction closed)
  | case3 line following opens closes => simp at closed
  | case4 line following opens closes depth induction =>
      exact ⟨[], line, following, rfl, .nil, closes, induction closed⟩
  | case5 depth line following opens continues induction =>
      exact closing_plain (by simpa using opens) continues (induction closed)

theorem well_nested_iff {lines : List Text} : WellNested lines ↔ openAfter 0 lines = some 0 := by
  constructor
  · intro nested
    have counted := open_after_nested nested 0 []
    rwa [List.append_nil, openAfter] at counted
  · exact closing_of_open_after 0 lines

instance (lines : List Text) : Decidable (WellNested lines) := decidable_of_iff' _ well_nested_iff

end ShaderCost.Dump
