import ShaderCost.Dump.Version
import ShaderCost.Proofs.Text.Search

/-!
What becomes of version declarations when the text around them changes. A declaration begins with a
number sign and holds no other one. It is therefore found again where blanks are written
differently, where a text follows that begins with a number sign, and where the versions behind it
are put right first.
-/

namespace ShaderCost.Dump

open Text

/-- A character that can stand in a word of a declaration behind the number sign. -/
def isPlain (c : Char) : Bool := !isBlank c && c != '#'

theorem plain_iff {c : Char} : isPlain c = true ↔ isBlank c = false ∧ c ≠ '#' := by
  simp [isPlain]

/-- At least one blank, and nothing else. -/
structure Gap (gap : Text) : Prop where
  filled : gap ≠ []
  blank : ∀ c ∈ gap, isBlank c = true

/-- What follows blanks and then a word. -/
def afterGap? (word text : Text) : Option Text := (afterBlanks? text).bind (after? word)

theorem after_gap_solid {c : Char} (solid : isBlank c = false) (word rest : Text) :
    afterGap? word (c :: rest) = none := by
  rw [afterGap?, afterBlanks?, if_neg (by simp [solid]), Option.bind_none]

theorem after_gap_spelled {gap : Text} (blank : Gap gap) {c : Char} (solid : isBlank c = false)
    (word rest : Text) : afterGap? word (gap ++ c :: rest) = after? word (c :: rest) := by
  obtain ⟨d, gap, rfl⟩ := List.exists_cons_of_ne_nil blank.filled
  obtain ⟨first, others⟩ := List.forall_mem_cons.mp blank.blank
  rw [List.cons_append, afterGap?, afterBlanks?, if_pos first, Option.bind_some,
    trimStart_gap others solid]

theorem after_none {word text : Text} {c : Char} (first : word.head? = some c)
    (other : text.head? ≠ some c) : after? word text = none := by
  obtain ⟨word, rfl⟩ := List.head?_eq_some_iff.mp first
  cases text with
  | nil => rfl
  | cons d text =>
      rw [after?, if_neg]
      rintro rfl
      exact other rfl

theorem after_gap_none {word text : Text} {c : Char} (first : word.head? = some c)
    (other : (trimStart text).head? ≠ some c) : afterGap? word text = none := by
  cases text with
  | nil => rfl
  | cons d text =>
      by_cases blank : isBlank d = true
      · rw [trimStart, List.dropWhile_cons_of_pos blank] at other
        rw [afterGap?, afterBlanks?, if_pos blank, Option.bind_some]
        exact after_none first other
      · exact after_gap_solid (by simpa using blank) word text

/-- A text is blanks, or begins with a character that is none, or does so behind blanks. -/
theorem gap_cases (text : Text) : (∀ c ∈ text, isBlank c = true) ∨
    (∃ c rest, isBlank c = false ∧ text = c :: rest) ∨
    ∃ gap c rest, Gap gap ∧ isBlank c = false ∧ text = gap ++ c :: rest := by
  have whole : text.takeWhile isBlank ++ text.dropWhile isBlank = text :=
    List.takeWhile_append_dropWhile
  have blank : ∀ c ∈ text.takeWhile isBlank, isBlank c = true :=
    List.all_eq_true.mp List.all_takeWhile
  have solid := List.head?_dropWhile_not isBlank text
  cases behind : text.dropWhile isBlank with
  | nil =>
      rw [behind, List.append_nil] at whole
      rw [whole] at blank
      exact .inl blank
  | cons c rest =>
      rw [behind] at whole solid
      have first : isBlank c = false := by simpa using solid
      by_cases gap : text.takeWhile isBlank = []
      · rw [gap, List.nil_append] at whole
        exact .inr (.inl ⟨c, rest, first, whole.symm⟩)
      · exact .inr (.inr ⟨_, c, rest, ⟨gap, blank⟩, first, whole.symm⟩)

theorem version_directive_eq (text : Text) : versionDirective? text =
    (after? "#version" text).bind fun behind => (afterGap? "300" behind).bind fun rest =>
      (afterGap? "es" rest).bind fun ending =>
        if endsWord ending then some (behind.takeWhile isBlank, rest) else none := by
  simp only [versionDirective?, afterGap?, Option.bind_eq_bind, Option.bind_assoc]

theorem no_directive {text : Text} (other : text.head? ≠ some '#') :
    versionDirective? text = none := by
  rw [version_directive_eq, after_none (by rfl) other, Option.bind_none]

theorem number_sign_of_directive {text : Text} {found : Text × Text}
    (directive : versionDirective? text = some found) : ∃ rest, text = '#' :: rest := by
  by_cases first : text.head? = some '#'
  · exact List.head?_eq_some_iff.mp first
  · rw [no_directive first] at directive
    simp at directive

/-- Changes of a text that keep words and blanks in place up to some place and change the text
behind it in the same way. `gapped` tells how blanks between words are written. -/
structure Transparent (change gapped : Text → Text) : Prop where
  word : ∀ {word : Text}, (∀ c ∈ word, isPlain c = true) → ∀ text,
    after? word (change text) = (after? word text).map change
  gap : ∀ {gap : Text}, Gap gap → ∀ {c : Char}, isBlank c = false → ∀ rest,
    Gap (gapped gap) ∧ change (gap ++ c :: rest) = gapped gap ++ change (c :: rest)
  first : ∀ {c : Char}, isBlank c = false → ∀ rest, (change (c :: rest)).head? = some c
  nothing : ∀ {word : Text}, word ≠ [] → (∀ c ∈ word, isPlain c = true) →
    ∀ {gap : Text}, (∀ c ∈ gap, isBlank c = true) → afterGap? word (change gap) = none
  ending : ∀ text, endsWord (change text) = endsWord text

namespace Transparent

variable {change gapped : Text → Text}

theorem after_gap (transparent : Transparent change gapped) (word : Text) (filled : word ≠ [])
    (plain : ∀ c ∈ word, isPlain c = true) (text : Text) :
    afterGap? word (change text) = (afterGap? word text).map change ∧
      ((afterGap? word text).isSome = true →
        (change text).takeWhile isBlank = gapped (text.takeWhile isBlank)) := by
  rcases gap_cases text with blank | ⟨c, rest, solid, rfl⟩ | ⟨gap, c, rest, blank, solid, rfl⟩
  · obtain ⟨d, word, rfl⟩ := List.exists_cons_of_ne_nil filled
    have none : afterGap? (d :: word) text = none := by
      apply after_gap_none (by rfl)
      rw [trimStart_blank (List.all_eq_true.mpr blank)]
      simp
    rw [transparent.nothing filled plain blank, none]
    exact ⟨rfl, by simp⟩
  · obtain ⟨changed, spelled⟩ := List.head?_eq_some_iff.mp (transparent.first solid rest)
    rw [spelled, after_gap_solid solid, after_gap_solid solid]
    exact ⟨rfl, by simp⟩
  · obtain ⟨changed, spelled⟩ := List.head?_eq_some_iff.mp (transparent.first solid rest)
    obtain ⟨between, moved⟩ := transparent.gap blank solid rest
    rw [after_gap_spelled blank solid, ← transparent.word plain, moved, spelled,
      after_gap_spelled between solid, List.takeWhile_append_of_pos between.blank,
      List.takeWhile_append_of_pos blank.blank, List.takeWhile_cons_of_neg (by simp [solid]),
      List.takeWhile_cons_of_neg (by simp [solid]), List.append_nil, List.append_nil]
    exact ⟨rfl, fun _ => rfl⟩

/-- Behind the number sign such a change neither makes nor hides a declaration. -/
theorem directive (transparent : Transparent change gapped) (text : Text) :
    versionDirective? ('#' :: change text) = (versionDirective? ('#' :: text)).map
      fun found => (gapped found.1, change found.2) := by
  have first : ∀ text, after? "#version" ('#' :: text) = after? "version" text := fun _ => rfl
  rw [version_directive_eq, version_directive_eq, first, first, transparent.word (every (by decide))]
  cases after? "version" text with
  | none => rfl
  | some behind =>
      have number := transparent.after_gap "300" (by decide) (every (by decide)) behind
      simp only [Option.map_some, Option.bind_some, number.1]
      cases found : afterGap? "300" behind with
      | none => rfl
      | some rest =>
          have blanks := number.2 (by rw [found]; rfl)
          have language := (transparent.after_gap "es" (by decide) (every (by decide)) rest).1
          simp only [Option.map_some, Option.bind_some, language, blanks]
          cases afterGap? "es" rest with
          | none => rfl
          | some ending =>
              simp only [Option.map_some, Option.bind_some, transparent.ending]
              split <;> rfl

theorem nowhere (transparent : Transparent change gapped) {c : Char} {text : Text}
    (absent : versionDirective? (c :: text) = none) :
    versionDirective? (c :: change text) = none := by
  by_cases first : c = '#'
  · rw [first] at absent ⊢
    rw [transparent.directive, absent, Option.map_none]
  · exact no_directive fun same => first (Option.some.inj same)

end Transparent

theorem after_gap_found {c : Char} {word text rest : Text}
    (found : afterGap? (c :: word) text = some rest) :
    Gap (text.takeWhile isBlank) ∧ text = text.takeWhile isBlank ++ c :: (word ++ rest) := by
  rcases gap_cases text with blank | ⟨d, text, solid, rfl⟩ | ⟨gap, d, text, blank, solid, rfl⟩
  · have nothing : trimStart text = [] := trimStart_blank (List.all_eq_true.mpr blank)
    rw [after_gap_none (by rfl) (by simp [nothing])] at found
    simp at found
  · rw [after_gap_solid solid] at found
    simp at found
  · rw [after_gap_spelled blank solid] at found
    have behind := after_spelled found
    rw [List.takeWhile_append_of_pos blank.blank, List.takeWhile_cons_of_neg (by simp [solid]),
      List.append_nil, behind]
    exact ⟨blank, rfl⟩

theorem directive_spelled {text gap rest : Text}
    (found : versionDirective? text = some (gap, rest)) :
    Gap gap ∧ text = "#version" ++ gap ++ "300" ++ rest := by
  rw [version_directive_eq] at found
  simp only [Option.bind_eq_some_iff] at found
  obtain ⟨behind, word, number, digits, ending, _, result⟩ := found
  split at result
  · obtain ⟨rfl, rfl⟩ := Prod.mk.inj (Option.some.inj result)
    obtain ⟨gap, spelled⟩ := after_gap_found digits
    refine ⟨gap, ?_⟩
    rw [after_spelled word, List.append_assoc, List.append_assoc]
    exact congrArg _ spelled
  · simp at result

theorem normalize_nil : normalizeVersion [] = [] := by
  rw [normalizeVersion]
  rfl

theorem normalize_directive {text gap rest : Text}
    (found : versionDirective? text = some (gap, rest)) :
    normalizeVersion text = "#version" ++ gap ++ "310" ++ normalizeVersion rest := by
  rw [normalizeVersion]
  split
  · rename_i other behind same
    rw [found, Option.some.injEq, Prod.mk.injEq] at same
    rw [same.1, same.2]
  · rename_i none
    rw [found] at none
    simp at none

theorem normalize_step {c : Char} {rest : Text} (none : versionDirective? (c :: rest) = none) :
    normalizeVersion (c :: rest) = c :: normalizeVersion rest := by
  rw [normalizeVersion]
  split
  · rename_i found
    rw [none] at found
    simp at found
  · rfl

/-- Characters at which no declaration begins stay as they are. -/
theorem normalize_skip {front behind : Text}
    (nowhere : ∀ place < front.length, versionDirective? ((front ++ behind).drop place) = none) :
    normalizeVersion (front ++ behind) = front ++ normalizeVersion behind := by
  induction front with
  | nil => rfl
  | cons c front induction =>
      have here : versionDirective? (c :: (front ++ behind)) = none :=
        nowhere 0 (Nat.zero_lt_succ _)
      have later : ∀ place < front.length,
          versionDirective? ((front ++ behind).drop place) = none :=
        fun place inside => nowhere (place + 1) (Nat.succ_lt_succ inside)
      rw [List.cons_append, normalize_step here, induction later]
      rfl

theorem normalize_free {front : Text} (free : '#' ∉ front) (behind : Text) :
    normalizeVersion (front ++ behind) = front ++ normalizeVersion behind := by
  apply normalize_skip
  intro place inside
  apply no_directive
  intro first
  rw [List.head?_drop, List.getElem?_append_left inside] at first
  exact free (List.mem_of_getElem? first)

theorem normalize_head (text : Text) : (normalizeVersion text).head? = text.head? := by
  cases found : versionDirective? text with
  | none =>
      cases text with
      | nil => rw [normalize_nil]
      | cons c rest => rw [normalize_step found, List.head?_cons, List.head?_cons]
  | some result =>
      obtain ⟨rest, rfl⟩ := number_sign_of_directive found
      rw [normalize_directive found]
      rfl

theorem ends_word_of_head {left right : Text} (same : left.head? = right.head?) :
    endsWord left = endsWord right := by
  cases left <;> cases right <;> simp_all [endsWord]

theorem gap_free {gap : Text} (blank : ∀ c ∈ gap, isBlank c = true) : '#' ∉ gap :=
  fun member => absurd (blank '#' member) (by decide)

/-- A text without versions to put right in front of its first number sign, which comes before
anything else that is not blank. -/
def Fresh (text : Text) : Prop := ∀ c ∈ (trimStart text).head?, c = '#'

theorem transparent_append {behind : Text} (fresh : Fresh behind) :
    Transparent (· ++ behind) id where
  word := by
    intro word plain text
    induction word generalizing text with
    | nil => rfl
    | cons c word induction =>
        obtain ⟨here, later⟩ := List.forall_mem_cons.mp plain
        cases text with
        | nil =>
            rw [List.nil_append]
            apply after_none (by rfl)
            intro first
            obtain ⟨behind, rfl⟩ := List.head?_eq_some_iff.mp first
            have solid := plain_iff.mp here
            have kept : trimStart (c :: behind) = c :: behind :=
              List.dropWhile_cons_of_neg (by simp [solid.1])
            exact solid.2 (fresh c (by rw [kept]; rfl))
        | cons d text =>
            rw [List.cons_append, after?, after?, induction later]
            split <;> rfl
  gap := by
    intro gap blank c _ rest
    exact ⟨blank, List.append_assoc _ _ _⟩
  first := by
    intro c _ rest
    rfl
  nothing := by
    intro word filled plain gap blank
    obtain ⟨c, word, rfl⟩ := List.exists_cons_of_ne_nil filled
    apply after_gap_none (by rfl)
    intro first
    rw [trimStart, List.dropWhile_append_of_pos blank] at first
    exact (plain_iff.mp (plain c List.mem_cons_self)).2 (fresh c first)
  ending := by
    intro text
    cases text with
    | cons c text => rfl
    | nil =>
        cases behind with
        | nil => rfl
        | cons c behind =>
            rw [List.nil_append, endsWord, endsWord, Bool.not_eq_true']
            by_cases blank : isBlank c = true
            · exact blank_no_word blank
            · have kept : trimStart (c :: behind) = c :: behind :=
                List.dropWhile_cons_of_neg blank
              rw [fresh c (by rw [kept]; rfl)]
              decide

theorem transparent_spaced : Transparent (spaced true) fun _ => " " where
  word := by
    intro word plain text
    induction word generalizing text with
    | nil => rfl
    | cons c word induction =>
        obtain ⟨here, later⟩ := List.forall_mem_cons.mp plain
        have solid := (plain_iff.mp here).1
        cases text with
        | nil => rfl
        | cons d text =>
            by_cases blank : isBlank d = true
            · have other : (d :: text).head? ≠ some c := by
                rintro ⟨⟩
                simp [blank] at solid
              rw [after_none (by rfl) other, spaced_blank blank]
              apply after_none (by rfl)
              intro first
              rw [spaced_head text first] at solid
              exact absurd solid (by decide)
            · rw [spaced_inside (by simpa using blank), after?, after?, induction later]
              split <;> rfl
  gap := by
    intro gap blank c solid rest
    refine ⟨⟨by decide, every (by decide)⟩, ?_⟩
    obtain ⟨d, gap, rfl⟩ := List.exists_cons_of_ne_nil blank.filled
    obtain ⟨first, others⟩ := List.forall_mem_cons.mp blank.blank
    rw [List.cons_append, spaced_blank first, spaced_behind others, spaced_begin solid]
    rfl
  first := by
    intro c solid rest
    rw [spaced_inside solid]
    rfl
  nothing := by
    intro word _ _ gap blank
    rw [spaced_all_blank (List.all_eq_true.mpr blank)]
    rfl
  ending := by
    intro text
    cases text with
    | nil => rfl
    | cons c text =>
        by_cases blank : isBlank c = true
        · rw [spaced_blank blank, endsWord, blank_no_word blank]
          cases written : spaced false text with
          | nil => rfl
          | cons d rest =>
              obtain rfl := spaced_head text (by rw [written]; rfl)
              rfl
        · rw [spaced_inside (by simpa using blank)]
          rfl

/-- What is put right in a text does not depend on what follows, if that begins with a number
sign. -/
theorem normalize_append {behind : Text} (fresh : Fresh behind) (front : Text) :
    normalizeVersion (front ++ behind) = normalizeVersion front ++ normalizeVersion behind := by
  have through := transparent_append fresh
  fun_induction normalizeVersion front with
  | case1 text gap rest found induction =>
      obtain ⟨text, rfl⟩ := number_sign_of_directive found
      have same := through.directive text
      rw [found] at same
      rw [List.cons_append, normalize_directive same, induction]
      simp only [List.append_assoc, id]
  | case2 => rw [List.nil_append, List.nil_append]
  | case3 c rest nowhere induction =>
      rw [List.cons_append, normalize_step (through.nowhere nowhere), induction]
      rfl

theorem spaced_word (word : Text) (plain : ∀ c ∈ word, isBlank c = false) (rest : Text) :
    spaced true (word ++ rest) = word ++ spaced true rest := by
  induction word with
  | nil => rfl
  | cons c word induction =>
      obtain ⟨here, later⟩ := List.forall_mem_cons.mp plain
      rw [List.cons_append, spaced_inside here, induction later]
      rfl

/-- Versions are put right alike however words are divided. -/
theorem normalize_spaced (inside : Bool) (text : Text) :
    normalizeVersion (spaced inside text) = spaced inside (normalizeVersion text) := by
  have begun : ∀ {c : Char} {rest : Text}, isBlank c = false →
      normalizeVersion (spaced true (c :: rest)) = spaced true (normalizeVersion (c :: rest)) →
      ∀ inside, normalizeVersion (spaced inside (c :: rest)) =
        spaced inside (normalizeVersion (c :: rest)) := by
    intro c rest solid same inside
    cases inside with
    | true => exact same
    | false =>
        obtain ⟨behind, spelled⟩ := List.head?_eq_some_iff.mp (normalize_head (c :: rest))
        have gap : normalizeVersion (' ' :: spaced true (c :: rest)) =
            ' ' :: normalizeVersion (spaced true (c :: rest)) :=
          normalize_step (no_directive fun first => absurd (Option.some.inj first) (by decide))
        rw [spaced_begin solid, gap, same, spelled, spaced_begin solid]
  fun_induction normalizeVersion text generalizing inside with
  | case1 text gap rest found induction =>
      have same := normalize_directive found
      obtain ⟨text, rfl⟩ := number_sign_of_directive found
      rw [← same]
      apply begun (by decide)
      have through := transparent_spaced.directive text
      rw [found] at through
      have number := spaced_word "310" (every (by decide)) (normalizeVersion rest)
      have solid : isBlank '3' = false := by decide
      obtain ⟨_, divided⟩ := transparent_spaced.gap (directive_spelled found).1 solid
        ('1' :: '0' :: normalizeVersion rest)
      calc normalizeVersion (spaced true ('#' :: text))
          = "#version" ++ " " ++ "310" ++ normalizeVersion (spaced true rest) := by
            rw [spaced_inside (by decide), normalize_directive through]
        _ = "#version" ++ (" " ++ spaced true ("310" ++ normalizeVersion rest)) := by
            rw [induction, number, List.append_assoc, List.append_assoc]
        _ = "#version" ++ spaced true (gap ++ ("310" ++ normalizeVersion rest)) :=
            congrArg _ divided.symm
        _ = spaced true (normalizeVersion ('#' :: text)) := by
            rw [same, List.append_assoc, List.append_assoc, spaced_word "#version" (every (by decide))]
  | case2 => rw [spaced, normalize_nil]
  | case3 c rest absent induction =>
      by_cases blank : isBlank c = true
      · rw [spaced_blank blank, induction, spaced_blank blank]
      · have solid : isBlank c = false := by simpa using blank
        rw [← normalize_step absent]
        apply begun solid
        rw [spaced_inside solid, normalize_step (transparent_spaced.nowhere absent), induction,
          normalize_step absent, spaced_inside solid]

theorem transparent_normalize : Transparent normalizeVersion id where
  word := by
    intro word plain text
    induction word generalizing text with
    | nil => rfl
    | cons c word induction =>
        obtain ⟨here, later⟩ := List.forall_mem_cons.mp plain
        by_cases first : text.head? = some c
        · obtain ⟨rest, rfl⟩ := List.head?_eq_some_iff.mp first
          have other : (c :: rest).head? ≠ some '#' := by
            rintro ⟨⟩
            exact (plain_iff.mp here).2 rfl
          rw [normalize_step (no_directive other), after?, after?, if_pos rfl, if_pos rfl,
            induction later]
        · rw [after_none (by rfl) first, after_none (by rfl) (by rwa [normalize_head])]
          rfl
  gap := by
    intro gap blank c _ rest
    exact ⟨blank, normalize_free (gap_free blank.blank) (c :: rest)⟩
  first := by
    intro c _ rest
    rw [normalize_head]
    rfl
  nothing := by
    intro word filled plain gap blank
    obtain ⟨c, word, rfl⟩ := List.exists_cons_of_ne_nil filled
    rw [← List.append_nil gap, normalize_free (gap_free blank), normalize_nil, List.append_nil]
    apply after_gap_none (by rfl)
    rw [trimStart_blank (List.all_eq_true.mpr blank)]
    simp
  ending := fun text => ends_word_of_head (normalize_head text)

/-- A declaration that was put right is no longer one that has to be. -/
theorem no_directive_behind {gap : Text} (blank : Gap gap) (rest : Text) :
    versionDirective? ("#version" ++ gap ++ "310" ++ rest) = none := by
  have word : after? "#version" ("#version" ++ gap ++ "310" ++ rest) =
      some (gap ++ "310" ++ rest) := rfl
  have number : afterGap? "300" (gap ++ '3' :: '1' :: '0' :: rest) =
      after? "300" ('3' :: '1' :: '0' :: rest) := after_gap_spelled blank (by decide) _ _
  have other : afterGap? "300" (gap ++ "310" ++ rest) = none := by
    rw [List.append_assoc]
    exact number
  rw [version_directive_eq, word, Option.bind_some, other, Option.bind_none]

theorem normalize_again (text : Text) :
    normalizeVersion (normalizeVersion text) = normalizeVersion text := by
  fun_induction normalizeVersion text with
  | case1 text gap rest found induction =>
      have spelled : "#version" ++ gap ++ "310" ++ normalizeVersion rest =
          ('#' :: ("version" ++ gap ++ "310" ++ normalizeVersion rest) : Text) := rfl
      have here := no_directive_behind (directive_spelled found).1 (normalizeVersion rest)
      rw [spelled] at here ⊢
      rw [normalize_step here, normalize_free, induction]
      · simp only [List.mem_append, not_or]
        exact ⟨⟨by decide, gap_free (directive_spelled found).1.blank⟩, by decide⟩
  | case2 => rw [normalize_nil]
  | case3 c rest absent induction =>
      rw [normalize_step (transparent_normalize.nowhere absent), induction]

end ShaderCost.Dump
