import ShaderCost.Text.Character
import ShaderCost.Text.Word

/-!
Blank characters and what lies between them. A text without blanks at its ends is what trimming
leaves of it, and a first character that is no blank stays the first. No blank belongs to a word,
and nothing is left of a blank text when it is trimmed. Two texts with the same characters between
the same blanks are compared by writing each with one space in front of every piece.
-/

namespace ShaderCost.Text

/-- What holds of every character of a text is decided one character after another. -/
theorem every {text : Text} {holds : Char → Prop} [DecidablePred holds]
    (all : (text.all fun c => decide (holds c)) = true) : ∀ c ∈ text, holds c :=
  fun c member => of_decide_eq_true (List.all_eq_true.mp all c member)

/-- A text that neither starts nor ends with a blank. -/
structure Trimmed (text : Text) : Prop where
  start : ∀ c ∈ text.head?, isBlank c = false
  ending : ∀ c ∈ text.getLast?, isBlank c = false

theorem trimmed_iff (text : Text) : Trimmed text ↔
    (text.head?.all fun c => !isBlank c) = true ∧ (text.getLast?.all fun c => !isBlank c) = true := by
  rw [Option.all_eq_true, Option.all_eq_true]
  simp only [Bool.not_eq_true', ← Option.mem_def]
  exact ⟨fun trimmed => ⟨trimmed.start, trimmed.ending⟩, fun solid => ⟨solid.1, solid.2⟩⟩

instance (text : Text) : Decidable (Trimmed text) := decidable_of_iff' _ (trimmed_iff text)

theorem trimEnd_of_ending {text : Text}
    (ending : ∀ c ∈ text.getLast?, isBlank c = false) : trimEnd text = text := by
  induction text with
  | nil => rfl
  | cons c rest induction =>
      cases rest with
      | nil => simp [trimEnd, ending c rfl]
      | cons d rest =>
          have kept : trimEnd (d :: rest) = d :: rest := by
            apply induction
            intro last found
            apply ending
            rw [List.getLast?_cons_cons]
            exact found
          rw [trimEnd, kept]

theorem trimStart_of_start {text : Text}
    (start : ∀ c ∈ text.head?, isBlank c = false) : trimStart text = text := by
  cases text with
  | nil => rfl
  | cons c rest => rw [trimStart, List.dropWhile_cons_of_neg (by simp [start c rfl])]

theorem trim_trimmed {text : Text} (trimmed : Trimmed text) : trim text = text := by
  rw [trim, trimStart_of_start trimmed.start, trimEnd_of_ending trimmed.ending]

theorem trim_space {text : Text} (trimmed : Trimmed text) : trim (' ' :: text) = text := by
  have skipped : trim (' ' :: text) = trim text := rfl
  rw [skipped, trim_trimmed trimmed]

theorem trimEnd_blank {gap : Text} (blank : ∀ c ∈ gap, isBlank c = true) : trimEnd gap = [] := by
  induction gap with
  | nil => rfl
  | cons c gap induction =>
      obtain ⟨here, later⟩ := List.forall_mem_cons.mp blank
      rw [trimEnd, induction later]
      exact if_pos here

theorem trimEnd_append {gap : Text} (blank : ∀ c ∈ gap, isBlank c = true) (text : Text) :
    trimEnd (text ++ gap) = trimEnd text := by
  induction text with
  | nil => exact trimEnd_blank blank
  | cons c rest induction => rw [List.cons_append, trimEnd, trimEnd, induction]

/-- A text is what trimming leaves of it between blanks. -/
theorem trim_parts (text : Text) : ∃ front behind, text = front ++ (trim text ++ behind) ∧
    (∀ c ∈ front, isBlank c = true) ∧ ∀ c ∈ behind, isBlank c = true := by
  have ending : ∀ text, ∃ behind, text = trimEnd text ++ behind ∧
      ∀ c ∈ behind, isBlank c = true := by
    intro text
    induction text with
    | nil => exact ⟨[], rfl, by simp⟩
    | cons c rest induction =>
        obtain ⟨behind, spelled, blank⟩ := induction
        rw [trimEnd]
        split
        · rename_i nothing
          rw [nothing, List.nil_append] at spelled
          split
          · rename_i first
            exact ⟨c :: rest, rfl, List.forall_mem_cons.mpr ⟨first, spelled ▸ blank⟩⟩
          · exact ⟨rest, rfl, spelled ▸ blank⟩
        · exact ⟨behind, congrArg (c :: ·) spelled, blank⟩
  obtain ⟨behind, spelled, blank⟩ := ending (trimStart text)
  refine ⟨text.takeWhile isBlank, behind, ?_, List.all_eq_true.mp List.all_takeWhile, blank⟩
  rw [trim, ← spelled, trimStart, List.takeWhile_append_dropWhile]

theorem trimEnd_ends (text : Text) : ∀ c ∈ (trimEnd text).getLast?, isBlank c = false := by
  induction text with
  | nil => simp [trimEnd]
  | cons c rest induction =>
      rw [trimEnd]
      split
      · split
        · simp
        · simp_all
      · rename_i filled
        cases kept : trimEnd rest with
        | nil => exact absurd kept filled
        | cons d behind =>
            rw [List.getLast?_cons_cons, ← kept]
            exact induction

theorem trim_keeps_first {c : Char} (solid : isBlank c = false) (rest : Text) :
    ∃ behind, trim (c :: rest) = c :: behind := by
  rw [trim, trimStart, List.dropWhile_cons_of_neg (by simp [solid]), trimEnd]
  split
  · rw [if_neg (by simp [solid])]
    exact ⟨[], rfl⟩
  · exact ⟨_, rfl⟩

theorem trimmed_trim (text : Text) : Trimmed (trim text) := by
  refine ⟨?_, trimEnd_ends _⟩
  cases left : trimStart text with
  | nil => simp [trim, left, trimEnd]
  | cons c rest =>
      have solid : isBlank c = false := by
        have first := List.head?_dropWhile_not isBlank text
        rw [trimStart] at left
        simpa [left] using first
      have same : trimStart (c :: rest) = c :: rest :=
        trimStart_of_start (by simpa using solid)
      obtain ⟨behind, kept⟩ := trim_keeps_first solid rest
      rw [trim, same] at kept
      rw [trim, left, kept]
      simpa using solid

theorem join_lines_single (line : Text) : joinLines [line] = line := List.intercalate_singleton

theorem join_lines_cons (line next : Text) (following : List Text) :
    joinLines (line :: next :: following) = line ++ '\n' :: joinLines (next :: following) := by
  rw [joinLines, List.intercalate_cons_cons]
  simp [joinLines]

end ShaderCost.Text

namespace ShaderCost.Text

/-- The code points of the blank characters. -/
def blankPoints : List Nat :=
  [9, 10, 11, 12, 13, 0x20, 0x85, 0xa0, 0x1680, 0x2000, 0x2001, 0x2002, 0x2003, 0x2004, 0x2005,
    0x2006, 0x2007, 0x2008, 0x2009, 0x200a, 0x2028, 0x2029, 0x202f, 0x205f, 0x3000]

theorem blank_point {c : Char} (blank : isBlank c = true) : c.toNat ∈ blankPoints := by
  simp only [isBlank, Bool.or_eq_true, Bool.and_eq_true, decide_eq_true_eq, beq_iff_eq] at blank
  simp only [blankPoints, List.mem_cons, List.not_mem_nil, or_false]
  rcases blank with ((((((((((range | same) | same) | same) | same) | range) | same) | same) | same) |
    same) | same) <;> omega

theorem blank_no_word {c : Char} (blank : isBlank c = true) : isWord c = false := by
  have none : ∀ point ∈ blankPoints, isWord (Char.ofNat point) = false := by decide +kernel
  have here := none c.toNat (blank_point blank)
  rwa [Char.ofNat_toNat] at here

theorem trimStart_blank {text : Text} (blank : isAllBlank text = true) : trimStart text = [] := by
  rw [isAllBlank, List.all_eq_true] at blank
  rw [trimStart, ← List.append_nil text, List.dropWhile_append_of_pos blank, List.dropWhile_nil]

theorem trim_blank {text : Text} (blank : isAllBlank text = true) : trim text = [] := by
  rw [trim, trimStart_blank blank]
  rfl

/-- The characters of a text that are no blanks. -/
def solids (text : Text) : Text := text.filter fun c => !isBlank c

/-- A text with a single space in front of every piece between blanks, and no other blanks.
`inside` tells whether a piece has begun before the text. -/
def spaced : (inside : Bool) → Text → Text
  | _, [] => []
  | inside, c :: rest =>
      if isBlank c then spaced false rest
      else if inside then c :: spaced true rest
      else ' ' :: c :: spaced true rest

theorem spaced_blank {c : Char} (blank : isBlank c = true) (inside : Bool) (rest : Text) :
    spaced inside (c :: rest) = spaced false rest := by rw [spaced, if_pos blank]

theorem spaced_inside {c : Char} (solid : isBlank c = false) (rest : Text) :
    spaced true (c :: rest) = c :: spaced true rest := by simp [spaced, solid]

theorem spaced_begin {c : Char} (solid : isBlank c = false) (rest : Text) :
    spaced false (c :: rest) = ' ' :: spaced true (c :: rest) := by simp [spaced, solid]

/-- Behind a blank nothing comes first but the space before a piece. -/
theorem spaced_head {c : Char} (text : Text) (first : (spaced false text).head? = some c) :
    c = ' ' := by
  induction text with
  | nil => simp [spaced] at first
  | cons d rest induction =>
      by_cases blank : isBlank d = true
      · rw [spaced_blank blank] at first
        exact induction first
      · rw [spaced_begin (by simpa using blank), List.head?_cons, Option.some.injEq] at first
        exact first.symm

/-- What is written does not depend on how many blanks divide two pieces. -/
theorem spaced_divided (inside : Bool) (front : Text) {c : Char} (blank : isBlank c = true)
    (behind : Text) :
    spaced inside (front ++ c :: behind) = spaced inside front ++ spaced false behind := by
  induction front generalizing inside with
  | nil => rw [List.nil_append, spaced_blank blank, spaced, List.nil_append]
  | cons d front induction =>
      rw [List.cons_append, spaced, spaced, induction, induction]
      split
      · rfl
      · split <;> rfl

theorem spaced_all_blank {text : Text} (blank : isAllBlank text = true) (inside : Bool) :
    spaced inside text = [] := by
  induction text generalizing inside with
  | nil => rfl
  | cons c rest induction =>
      rw [isAllBlank, List.all_cons, Bool.and_eq_true] at blank
      rw [spaced_blank blank.1, induction blank.2]

theorem spaced_behind {gap : Text} (blank : ∀ c ∈ gap, isBlank c = true) (text : Text) :
    spaced false (gap ++ text) = spaced false text := by
  induction gap with
  | nil => rfl
  | cons c gap induction =>
      rw [List.forall_mem_cons] at blank
      rw [List.cons_append, spaced_blank blank.1, induction blank.2]

theorem solids_spaced (inside : Bool) (text : Text) :
    solids (spaced inside text) = solids text := by
  induction text generalizing inside with
  | nil => rfl
  | cons c rest induction =>
      by_cases blank : isBlank c = true
      · rw [spaced_blank blank, induction]
        exact (List.filter_cons_of_neg (by simp [blank])).symm
      · rw [Bool.not_eq_true] at blank
        have inner : solids (spaced true (c :: rest)) = solids (c :: rest) := by
          rw [spaced_inside blank, solids, List.filter_cons_of_pos (by simp [blank])]
          exact (congrArg (c :: ·) (induction true)).trans
            (List.filter_cons_of_pos (by simp [blank])).symm
        cases inside with
        | true => exact inner
        | false =>
            rw [spaced_begin blank, ← inner]
            exact List.filter_cons_of_neg (by decide)

theorem spaced_join_lines (parts : List Text) :
    spaced false (joinLines parts) = parts.flatMap (spaced false) := by
  induction parts with
  | nil => rfl
  | cons line following induction =>
      cases following with
      | nil => rw [join_lines_single, List.flatMap_singleton]
      | cons next following =>
          rw [join_lines_cons, spaced_divided false line (by decide), induction]
          rfl

end ShaderCost.Text
