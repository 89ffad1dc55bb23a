import ShaderCost.Proofs.Dump.Opacity

/-!
How far a region goes. Behind its first line one conditional is open; from there on every line that
opens a conditional adds one, and every end marker takes one away. A region is the shortest run of
lines behind which none is open any more, and all of the lines where there is no such run.
-/

namespace ShaderCost.Dump

namespace Region

/-- Whether a line is an end marker. A line that opens a conditional is none, whatever ends are
marked by. -/
def closesBlock (closer line : Text) : Bool := !opensBlock line && Text.trim line == closer

/-- How many more conditionals some lines open than they close. -/
def surplus (closer : Text) (lines : List Text) : Int :=
  lines.countP opensBlock - lines.countP (closesBlock closer)

/-- How many conditionals are open behind the line at an index, for a region that starts at
`start`. -/
def openBehind (closer : Text) (lines : List Text) (start index : Nat) : Int :=
  1 + surplus closer ((lines.drop (start + 1)).take (index - start))

/-- Puts lines in front of a region. -/
def extend (front : List Text) (result : Region × List Text) : Region × List Text :=
  (⟨front ++ result.1.lines, result.1.balanced⟩, result.2)

theorem surplus_append (closer : Text) (front behind : List Text) :
    surplus closer (front ++ behind) = surplus closer front + surplus closer behind := by
  simp only [surplus, List.countP_append]
  omega

theorem surplus_cons (closer line : Text) (lines : List Text) :
    surplus closer (line :: lines) = surplus closer [line] + surplus closer lines :=
  surplus_append closer [line] lines

/-- A line opens a conditional, closes one, or does neither, and counts for one more, one less or
nothing. -/
theorem surplus_cases (closer line : Text) :
    (opensBlock line = true ∧ surplus closer [line] = 1) ∨
      (opensBlock line = false ∧ Text.trim line = closer ∧ surplus closer [line] = -1) ∨
      (opensBlock line = false ∧ Text.trim line ≠ closer ∧ surplus closer [line] = 0) := by
  cases opens : opensBlock line with
  | true => exact .inl ⟨rfl, by simp [surplus, closesBlock, opens]⟩
  | false =>
      by_cases closes : Text.trim line = closer
      · exact .inr (.inl ⟨rfl, closes, by simp [surplus, closesBlock, opens, closes]⟩)
      · exact .inr (.inr ⟨rfl, closes, by simp [surplus, closesBlock, opens, closes]⟩)

/-- A line either closes the region, and then nothing else was open, or it is taken into the region
and the rest follows under the count that the line leaves. -/
theorem interior_cases (closer : Text) (depth : Nat) (line : Text) (following : List Text) :
    (depth + surplus closer [line] = -1 ∧
        interior closer depth (line :: following) = (⟨[line], true⟩, following)) ∨
      ∃ inner : Nat, (inner : Int) = depth + surplus closer [line] ∧
        interior closer depth (line :: following) =
          push line (interior closer inner following) := by
  rcases surplus_cases closer line with
    ⟨opens, one⟩ | ⟨continues, closes, one⟩ | ⟨continues, stays, none⟩
  · refine .inr ⟨depth + 1, by omega, ?_⟩
    cases depth <;> simp [interior, opens]
  · cases depth with
    | zero => exact .inl ⟨by omega, by simp [interior, continues, closes]⟩
    | succ depth => exact .inr ⟨depth, by omega, by simp [interior, continues, closes]⟩
  · refine .inr ⟨depth, by omega, ?_⟩
    cases depth <;> simp [interior, continues, stays]

/-- Wherever a region goes on behind some lines, its rest is taken under the count that these lines
leave. -/
theorem interior_resumes {closer : Text} {depth count : Nat} {lines : List Text}
    (inside : count < (interior closer depth lines).1.lines.length ∨
      (interior closer depth lines).1.balanced = false ∧ count ≤ lines.length) :
    ∃ inner : Nat, (inner : Int) = depth + surplus closer (lines.take count) ∧
      interior closer depth lines =
        extend (lines.take count) (interior closer inner (lines.drop count)) := by
  induction lines generalizing depth count with
  | nil =>
      rw [List.take_nil, List.drop_nil]
      exact ⟨depth, by simp [surplus], rfl⟩
  | cons line following induction =>
      cases count with
      | zero => exact ⟨depth, by simp [surplus], rfl⟩
      | succ count =>
          rcases interior_cases closer depth line following with ⟨_, taken⟩ | ⟨next, same, taken⟩
          · rw [taken] at inside
            simp at inside
          · rw [taken] at inside ⊢
            simp only [push, List.length_cons, Nat.add_lt_add_iff_right,
              Nat.add_le_add_iff_right] at inside
            obtain ⟨inner, counted, rest⟩ := induction inside
            refine ⟨inner, ?_, ?_⟩
            · rw [List.take_succ_cons, surplus_cons]
              omega
            · rw [rest]
              rfl

/-- Behind a region that is closed nothing is open. -/
theorem interior_surplus {closer : Text} {depth : Nat} {lines : List Text}
    (balanced : (interior closer depth lines).1.balanced = true) :
    depth + 1 + surplus closer (interior closer depth lines).1.lines = 0 := by
  induction lines generalizing depth with
  | nil => simp [interior] at balanced
  | cons line following induction =>
      rcases interior_cases closer depth line following with ⟨last, taken⟩ | ⟨next, same, taken⟩
      · rw [taken]
        dsimp only
        omega
      · rw [taken] at balanced ⊢
        have rest := induction balanced
        rw [push, surplus_cons]
        omega

/-- The shortest run of lines that leaves nothing open is the region, and the region is closed. -/
theorem interior_shortest {closer : Text} {count : Nat} {lines : List Text}
    (fits : count ≤ lines.length) (none : 1 + surplus closer (lines.take count) = 0) :
    (interior closer 0 lines).1.balanced = true ∧
      (interior closer 0 lines).1.lines.length ≤ count := by
  have nowhere : ¬ (count < (interior closer 0 lines).1.lines.length ∨
      (interior closer 0 lines).1.balanced = false ∧ count ≤ lines.length) := by
    intro inside
    obtain ⟨inner, counted, _⟩ := interior_resumes inside
    omega
  rw [not_or, Nat.not_lt] at nowhere
  refine ⟨?_, nowhere.1⟩
  rw [← Bool.not_eq_false]
  exact fun unbalanced => nowhere.2 ⟨unbalanced, fits⟩

theorem interior_take (closer : Text) (depth : Nat) (lines : List Text) :
    lines.take (interior closer depth lines).1.lines.length =
      (interior closer depth lines).1.lines :=
  (List.prefix_iff_eq_take.mp ⟨_, interior_split closer depth lines⟩).symm

/-- Behind the line that closes a region nothing is open. -/
theorem interior_closed {closer : Text} {lines : List Text}
    (balanced : (interior closer 0 lines).1.balanced = true) :
    0 < (interior closer 0 lines).1.lines.length ∧
      1 + surplus closer (lines.take (interior closer 0 lines).1.lines.length) = 0 := by
  have none := interior_surplus balanced
  rw [interior_take]
  refine ⟨?_, by omega⟩
  rw [List.length_pos_iff]
  intro empty
  rw [empty] at none
  simp [surplus] at none

theorem interior_open {closer : Text} {depth : Nat} {lines : List Text}
    (unbalanced : (interior closer depth lines).1.balanced = false) :
    (interior closer depth lines).1.lines = lines := by
  have split := interior_split closer depth lines
  rwa [interior_open_rest unbalanced, List.append_nil] at split

section Captured

variable {lines : List Text} {closer : Text} {start : Nat} (inside : start < lines.length)

include inside

theorem takeFrom_inside : takeFrom closer (lines.drop start) =
    push lines[start] (interior closer 0 (lines.drop (start + 1))) := by
  rw [List.drop_eq_getElem_cons inside, takeFrom]

theorem nextIndex_inside : nextIndex start (capture lines start closer) =
    start + 1 + (interior closer 0 (lines.drop (start + 1))).1.lines.length := by
  rw [nextIndex, capture, takeFrom_inside inside, push, List.length_cons]
  omega

theorem balanced_inside : (capture lines start closer).balanced =
    (interior closer 0 (lines.drop (start + 1))).1.balanced := by
  rw [capture, takeFrom_inside inside, push]

theorem front_inside {index : Nat} (behind : start ≤ index) :
    (lines.take (index + 1)).drop start =
      lines[start] :: (lines.drop (start + 1)).take (index - start) := by
  rw [List.drop_take, List.drop_eq_getElem_cons inside, Nat.succ_sub behind, List.take_succ_cons]

/-- Behind any line but the last of a region, its rest is taken under one less than the count of
the conditionals that are open there. -/
theorem capture_resumes {index : Nat} (behind : start ≤ index)
    (goesOn : index + 1 < nextIndex start (capture lines start closer) ∨
      (capture lines start closer).balanced = false ∧
        index < nextIndex start (capture lines start closer)) :
    ∃ depth : Nat, openBehind closer lines start index = depth + 1 ∧
      takeFrom closer (lines.drop start) =
        extend ((lines.take (index + 1)).drop start)
          (interior closer depth (lines.drop (index + 1))) := by
  have bounded := nextIndex_le closer lines start (Nat.le_of_lt inside)
  rw [nextIndex_inside inside] at goesOn bounded
  rw [balanced_inside inside] at goesOn
  have within : index - start < (interior closer 0 (lines.drop (start + 1))).1.lines.length ∨
      (interior closer 0 (lines.drop (start + 1))).1.balanced = false ∧
        index - start ≤ (lines.drop (start + 1)).length := by
    rw [List.length_drop]
    rcases goesOn with short | ⟨unbalanced, short⟩
    · exact .inl (by omega)
    · exact .inr ⟨unbalanced, by omega⟩
  obtain ⟨depth, counted, rest⟩ := interior_resumes within
  refine ⟨depth, by rw [openBehind]; omega, ?_⟩
  have later : (lines.drop (start + 1)).drop (index - start) = lines.drop (index + 1) := by
    rw [List.drop_drop]
    congr 1
    omega
  rw [takeFrom_inside inside, rest, front_inside inside behind, later]
  rfl

/-- The last line of a region that is closed is behind the first one, and leaves nothing open. -/
theorem capture_closed (balanced : (capture lines start closer).balanced = true) :
    start < nextIndex start (capture lines start closer) - 1 ∧
      openBehind closer lines start (nextIndex start (capture lines start closer) - 1) = 0 := by
  rw [balanced_inside inside] at balanced
  obtain ⟨filled, closed⟩ := interior_closed balanced
  rw [nextIndex_inside inside]
  refine ⟨by omega, ?_⟩
  have count : start + 1 + (interior closer 0 (lines.drop (start + 1))).1.lines.length - 1 - start =
      (interior closer 0 (lines.drop (start + 1))).1.lines.length := by omega
  rw [openBehind, count, closed]

theorem open_nonneg {index : Nat} (behind : start ≤ index)
    (before : index < nextIndex start (capture lines start closer)) :
    0 ≤ openBehind closer lines start index := by
  by_cases last : (capture lines start closer).balanced = true ∧
      index + 1 = nextIndex start (capture lines start closer)
  · have here : index = nextIndex start (capture lines start closer) - 1 := by omega
    have closed := (capture_closed inside last.1).2
    rw [here]
    omega
  · have goesOn : index + 1 < nextIndex start (capture lines start closer) ∨
        (capture lines start closer).balanced = false ∧
          index < nextIndex start (capture lines start closer) := by
      cases balanced : (capture lines start closer).balanced with
      | false => exact .inr ⟨rfl, before⟩
      | true =>
          have other : index + 1 ≠ nextIndex start (capture lines start closer) :=
            fun same => last ⟨balanced, same⟩
          exact .inl (by omega)
    obtain ⟨depth, counted, _⟩ := capture_resumes inside behind goesOn
    omega

/-- A region ends no later than at the first line that leaves nothing open. -/
theorem capture_ends {index : Nat} (behind : start < index) (before : index < lines.length)
    (closed : openBehind closer lines start index = 0) :
    (capture lines start closer).balanced = true ∧
      nextIndex start (capture lines start closer) - 1 ≤ index := by
  have fits : index - start ≤ (lines.drop (start + 1)).length := by
    rw [List.length_drop]
    omega
  obtain ⟨balanced, short⟩ := interior_shortest fits closed
  rw [balanced_inside inside, nextIndex_inside inside]
  exact ⟨balanced, by omega⟩

theorem capture_open (unbalanced : (capture lines start closer).balanced = false) :
    nextIndex start (capture lines start closer) = lines.length := by
  rw [balanced_inside inside] at unbalanced
  rw [nextIndex_inside inside, interior_open unbalanced, List.length_drop]
  omega

theorem capture_lines : (capture lines start closer).lines =
    (lines.take (nextIndex start (capture lines start closer))).drop start := by
  have later : start ≤ nextIndex start (capture lines start closer) - 1 := by
    have behind := lt_nextIndex closer lines start inside
    omega
  have front := front_inside inside later
  rw [nextIndex_inside inside] at front ⊢
  rw [Nat.add_right_comm, Nat.add_sub_cancel, Nat.add_sub_cancel_left, interior_take] at front
  rw [Nat.add_right_comm, front, capture, takeFrom_inside inside, push]

theorem capture_append (balanced : (capture lines start closer).balanced = true)
    (appended : List Text) :
    capture (lines ++ appended) start closer = capture lines start closer := by
  rw [capture, List.drop_append_of_le_length (Nat.le_of_lt inside), takeFrom_append balanced,
    capture]

end Captured

end Region

open Region in
/-- The region at a line is the shortest run of lines from there on behind which no conditional is
open, and all of the lines if there is none. On the way the rest of a region is taken under one less
than the count behind the lines before it, so that the count is never below zero. A region that is
closed does not depend on what follows it. -/
theorem capture_shortest (lines : List Text) (closer : Text) {start : Nat}
    (inside : start < lines.length) :
    let region := capture lines start closer
    let next := nextIndex start region
    (region.lines = (lines.take next).drop start ∧
      (takeFrom closer (lines.drop start)).2 = lines.drop next) ∧
    (∀ index, start ≤ index → index < next → 0 ≤ openBehind closer lines start index) ∧
    (∀ index, start ≤ index → index + 1 < next ∨ region.balanced = false ∧ index < next →
      ∃ depth : Nat, openBehind closer lines start index = depth + 1 ∧
        takeFrom closer (lines.drop start) =
          extend ((lines.take (index + 1)).drop start)
            (interior closer depth (lines.drop (index + 1)))) ∧
    (∀ index, start < index → index < lines.length → openBehind closer lines start index = 0 →
      region.balanced = true ∧ start < next - 1 ∧
        openBehind closer lines start (next - 1) = 0 ∧ next - 1 ≤ index) ∧
    ((∀ index, start < index → index < lines.length →
        openBehind closer lines start index ≠ 0) →
      region.balanced = false ∧ next = lines.length) ∧
    (region.balanced = true → ∀ appended,
      capture (lines ++ appended) start closer = region) := by
  intro region next
  refine ⟨⟨capture_lines inside, capture_rest closer lines start⟩,
    fun _ => open_nonneg inside, fun _ => capture_resumes inside, ?_, ?_,
    capture_append inside⟩
  · intro index behind before closed
    obtain ⟨balanced, least⟩ := capture_ends inside behind before closed
    obtain ⟨last, here⟩ := capture_closed inside balanced
    exact ⟨balanced, last, here, least⟩
  · intro nowhere
    have unbalanced : region.balanced = false := by
      rw [← Bool.not_eq_true]
      intro balanced
      obtain ⟨last, here⟩ := capture_closed inside balanced
      have bounded := nextIndex_le closer lines start (Nat.le_of_lt inside)
      have behind := lt_nextIndex closer lines start inside
      exact nowhere _ last (by omega) here
    exact ⟨unbalanced, capture_open inside unbalanced⟩

/-- A region that starts at an end marker and holds a conditional of its own. -/
def startsWithEnd : List Text := ["#endif", "#ifndef A", "\t#endif", "#endif ", "#endif"]

open Region in
theorem capture_shortest_starts_with_end :
    0 < startsWithEnd.length ∧ (capture startsWithEnd 0 endMarker).balanced = true ∧
      nextIndex 0 (capture startsWithEnd 0 endMarker) = 4 := by
  have inside : 0 < startsWithEnd.length := by decide
  obtain ⟨_, _, _, ends, _, _⟩ := capture_shortest startsWithEnd endMarker inside
  have closed : openBehind endMarker startsWithEnd 0 3 = 0 := by decide +kernel
  have earlier : ∀ index < 3, openBehind endMarker startsWithEnd 0 index ≠ 0 := by decide +kernel
  obtain ⟨balanced, behind, last, least⟩ := ends 3 (by decide) (by decide) closed
  refine ⟨inside, balanced, ?_⟩
  rcases Nat.lt_or_ge (nextIndex 0 (capture startsWithEnd 0 endMarker) - 1) 3 with early | late
  · exact absurd last (earlier _ early)
  · omega

end ShaderCost.Dump
