import Mathlib.Data.List.TakeWhile
import Mathlib.Data.Option.Basic
import ShaderCost.Dump.Metadata
import ShaderCost.Proofs.Dump.Lines
import ShaderCost.Proofs.Text.Letters
import ShaderCost.Proofs.Text.Search

/-!
Blanks at the ends of metadata lines. Every shape of such a line takes what comes before its first
word away, and what it makes of a text is the same when blanks follow on the same line: a search
that the end of the text stops is stopped by the blanks, and a name or a list that goes up to the
end is trimmed.
-/

namespace ShaderCost.Dump

open Text Metadata

/-- Blanks on one line. -/
def Indent (gap : Text) : Prop := ∀ c ∈ gap, isBlank c = true ∧ isLineEnd c = false

instance (gap : Text) : Decidable (Indent gap) :=
  List.decidableBAll (fun c => isBlank c = true ∧ isLineEnd c = false) gap

/-- The same text with blanks behind it on the same line. -/
def Trails (text longer : Text) : Prop := ∃ gap, longer = text ++ gap ∧ Indent gap

theorem trails_refl (text : Text) : Trails text text :=
  ⟨[], (List.append_nil text).symm, fun _ member => nomatch member⟩

theorem rel_bind {First Second Third Fourth : Type} {relates : First → Second → Prop}
    {follows : Third → Fourth → Prop} {left : Option First} {right : Option Second}
    (same : Option.Rel relates left right) {f : First → Option Third} {g : Second → Option Fourth}
    (each : ∀ first second, relates first second → Option.Rel follows (f first) (g second)) :
    Option.Rel follows (left.bind f) (right.bind g) := by
  cases same with
  | none => exact .none
  | some related => exact each _ _ related

theorem eq_of_rel {Item : Type} {left right : Option Item} (same : Option.Rel Eq left right) :
    left = right := by
  cases same with
  | none => rfl
  | some equal => rw [equal]

theorem none_of_rel {First Second : Type} {relates : First → Second → Prop} {right : Option Second}
    (same : Option.Rel relates none right) : right = none := by
  cases same
  rfl

theorem rel_of_eq {Item : Type} {left right : Option Item} (same : left = right) :
    Option.Rel Eq left right := by
  rw [same]
  cases right with
  | none => exact .none
  | some item => exact .some rfl

section Searches

variable {text longer : Text}

theorem dropWhile_trails {class? : Char → Bool} (passes : ∀ c, isBlank c = true → class? c = true)
    (trails : Trails text longer) : Trails (text.dropWhile class?) (longer.dropWhile class?) := by
  obtain ⟨gap, rfl, indent⟩ := trails
  rw [List.dropWhile_append]
  split
  · rename_i nothing
    have blank : gap.dropWhile class? = [] :=
      List.dropWhile_eq_nil_iff.mpr fun c member => passes c (indent c member).1
    rw [List.isEmpty_iff.mp nothing, blank]
    exact trails_refl []
  · exact ⟨gap, rfl, indent⟩

theorem trimStart_trails (trails : Trails text longer) :
    Trails (trimStart text) (trimStart longer) :=
  dropWhile_trails (fun _ blank => blank) trails

theorem decoration_trails (trails : Trails text longer) :
    Trails (dropDecoration text) (dropDecoration longer) :=
  dropWhile_trails (fun c blank => by rw [blank_no_word blank]; rfl) trails

theorem after_trails {start : Text} (solid : ∀ c ∈ start, isBlank c = false)
    (trails : Trails text longer) : Option.Rel Trails (after? start text) (after? start longer) := by
  obtain ⟨gap, rfl, indent⟩ := trails
  rw [after_append]
  · cases after? start text with
    | none => exact .none
    | some rest => exact .some ⟨gap, rfl, indent⟩
  · intro d first member
    have blank := (indent d (List.mem_of_head? first)).1
    rw [solid d member] at blank
    cases blank

theorem folded_trails {phrase : Text} (letters : ∀ c ∈ phrase, isFoldedLetter c = true)
    (trails : Trails text longer) :
    Option.Rel Trails (afterFolded? phrase text) (afterFolded? phrase longer) := by
  obtain ⟨gap, rfl, indent⟩ := trails
  rw [folded_append]
  · cases afterFolded? phrase text with
    | none => exact .none
    | some rest => exact .some ⟨gap, rfl, indent⟩
  · intro d first c member same
    have letter := letters c member
    have blank := blank_no_letter (indent d (List.mem_of_head? first)).1
    rw [isFoldedLetter, same, ← isFoldedLetter, blank] at letter
    cases letter

/-- Blanks that are asked for may be those behind the text, and then nothing is left to be read. -/
theorem blanks_cases (trails : Trails text longer) :
    Option.Rel Trails (afterBlanks? text) (afterBlanks? longer) ∨
      afterBlanks? text = none ∧ afterBlanks? longer = some [] := by
  obtain ⟨gap, rfl, indent⟩ := trails
  cases text with
  | nil =>
      cases gap with
      | nil => exact .inl .none
      | cons c gap =>
          obtain ⟨here, later⟩ := List.forall_mem_cons.mp indent
          have nothing : trimStart gap = [] :=
            List.dropWhile_eq_nil_iff.mpr fun d member => (later d member).1
          refine .inr ⟨rfl, ?_⟩
          rw [List.nil_append, afterBlanks?, if_pos here.1, nothing]
  | cons c rest =>
      rw [List.cons_append, afterBlanks?, afterBlanks?]
      split
      · exact .inl (.some (trimStart_trails ⟨gap, rfl, indent⟩))
      · exact .inl .none

theorem blanks_then {Item : Type} {follows : Item → Item → Prop} {f : Text → Option Item}
    (each : ∀ rest further, Trails rest further → Option.Rel follows (f rest) (f further))
    (stops : f [] = none) (trails : Trails text longer) :
    Option.Rel follows ((afterBlanks? text).bind f) ((afterBlanks? longer).bind f) := by
  rcases blanks_cases trails with same | ⟨missing, nothing⟩
  · exact rel_bind same each
  · rw [missing, nothing, Option.bind_none, Option.bind_some, stops]
    exact .none

theorem split_trails {stop : Char} (solid : isBlank stop = false) (trails : Trails text longer) :
    Option.Rel (fun part further => part.1 = further.1) (splitAt? stop text)
      (splitAt? stop longer) := by
  obtain ⟨gap, rfl, indent⟩ := trails
  induction text with
  | nil =>
      have absent : splitAt? stop gap = none := by
        induction gap with
        | nil => rfl
        | cons c gap induction =>
            obtain ⟨here, later⟩ := List.forall_mem_cons.mp indent
            have other : c ≠ stop := by
              rintro rfl
              rw [solid] at here
              cases here.1
            rw [splitAt?, if_neg other, induction later]
            rfl
      rw [List.nil_append, absent]
      exact .none
  | cons c rest induction =>
      rw [List.cons_append, splitAt?, splitAt?]
      split
      · exact .some rfl
      · rw [Option.map_eq_bind, Option.map_eq_bind]
        exact rel_bind induction fun _ _ same => .some (congrArg (c :: ·) same)

theorem trim_trails (trails : Trails text longer) : trim text = trim longer := by
  obtain ⟨gap, same, indent⟩ := trimStart_trails trails
  rw [trim, trim, same, trimEnd_append fun c member => (indent c member).1]

theorem feed_trails (trails : Trails text longer) : '\n' ∈ longer ↔ '\n' ∈ text := by
  obtain ⟨gap, rfl, indent⟩ := trails
  have absent : '\n' ∉ gap := fun member => absurd (indent '\n' member).2 (by decide)
  rw [List.mem_append, or_iff_left absent]

end Searches

section Shapes

variable {text longer : Text}

theorem number_trails (trails : Trails text longer) :
    Option.Rel Trails (afterNumber? text) (afterNumber? longer) := by
  obtain ⟨gap, rfl, indent⟩ := trails
  cases gap with
  | nil =>
      rw [List.append_nil]
      cases afterNumber? text with
      | none => exact .none
      | some rest => exact .some (trails_refl rest)
  | cons c gap =>
      have blank := (indent c List.mem_cons_self).1
      obtain ⟨digits, rest⟩ := class_divided (blank_no_digit blank) text gap
      have ends : endsWord (text.dropWhile isDecimalDigit ++ c :: gap) =
          endsWord (text.dropWhile isDecimalDigit) := by
        cases text.dropWhile isDecimalDigit with
        | nil => simp [endsWord, blank_no_word blank]
        | cons d rest => rfl
      simp only [afterNumber?, digits, rest, ends]
      split
      · exact .none
      · exact .some ⟨c :: gap, rfl, indent⟩

theorem numbered_trails {word : Text} (letters : ∀ c ∈ word, isFoldedLetter c = true)
    (trails : Trails text longer) :
    Option.Rel Trails (afterNumbered? word text) (afterNumbered? word longer) :=
  rel_bind (folded_trails letters trails) fun _ _ behind =>
    blanks_then (fun _ _ => number_trails) rfl behind

theorem pass_number_indent {gap : Text} (indent : Indent gap) (inWord : Bool) :
    afterPassNumber? inWord gap = none := by
  induction gap generalizing inWord with
  | nil => rfl
  | cons c gap induction =>
      have same : Option.Rel Trails (afterNumbered? "pass" []) (afterNumbered? "pass" (c :: gap)) :=
        numbered_trails (every (by decide)) ⟨c :: gap, rfl, indent⟩
      rw [afterPassNumber?, none_of_rel same, ite_self,
        induction (List.forall_mem_cons.mp indent).2]
      exact ite_self none

theorem pass_number_trails (trails : Trails text longer) (inWord : Bool) :
    Option.Rel Trails (afterPassNumber? inWord text) (afterPassNumber? inWord longer) := by
  obtain ⟨gap, rfl, indent⟩ := trails
  induction text generalizing inWord with
  | nil =>
      rw [List.nil_append, pass_number_indent indent]
      exact .none
  | cons c rest induction =>
      have onward : Option.Rel Trails (if c = '\n' then none else afterPassNumber? (isWord c) rest)
          (if c = '\n' then none else afterPassNumber? (isWord c) (rest ++ gap)) := by
        split
        · exact .none
        · exact induction (isWord c)
      rw [List.cons_append, afterPassNumber?, afterPassNumber?]
      cases inWord with
      | true => exact onward
      | false =>
          have here : Option.Rel Trails (afterNumbered? "pass" (c :: rest))
              (afterNumbered? "pass" (c :: (rest ++ gap))) :=
            numbered_trails (every (by decide)) ⟨gap, rfl, indent⟩
          generalize afterNumbered? "pass" (c :: rest) = left at here ⊢
          generalize afterNumbered? "pass" (c :: (rest ++ gap)) = right at here ⊢
          cases here with
          | none => exact onward
          | some behind => exact .some behind

theorem apostrophed_trails (trails : Trails text longer) :
    Option.Rel Eq (apostrophedName? text) (apostrophedName? longer) :=
  rel_bind (after_trails (every (by decide)) (trimStart_trails trails)) fun _ _ inside =>
    rel_bind (split_trails (by decide) inside) fun _ _ same => .some same

theorem quoted_trails (trails : Trails text longer) :
    Option.Rel Eq (quotedName? text) (quotedName? longer) :=
  rel_bind (after_trails (every (by decide)) trails) fun _ _ inside =>
    rel_bind (split_trails (by decide) inside) fun _ _ same => .some same

theorem name_clause_trails (trails : Trails text longer) :
    Option.Rel Eq (nameClause? text) (nameClause? longer) :=
  rel_bind (folded_trails (every (by decide)) trails) fun _ _ behind =>
    blanks_then (fun _ _ => quoted_trails) rfl behind

theorem keyword_list_trails (trails : Trails text longer) :
    Option.Rel Eq (keywordList? text) (keywordList? longer) :=
  rel_bind (folded_trails (every (by decide)) trails) fun _ _ word =>
    rel_bind (after_trails (every (by decide)) (trimStart_trails word)) fun _ _ list => by
      simp only [feed_trails list, trim_trails list]
      exact rel_of_eq rfl

theorem inline_trails (trails : Trails text longer) :
    Option.Rel Eq (inlinePassName? text) (inlinePassName? longer) :=
  rel_bind (folded_trails (every (by decide)) (trimStart_trails trails)) fun _ _ word =>
    rel_bind (after_trails (every (by decide)) (trimStart_trails word)) fun _ _ inside =>
      rel_bind (name_clause_trails (trimStart_trails inside)) fun _ _ same =>
        .some (congrArg Metadata.pass same)

theorem name_trails (trails : Trails text longer) :
    Option.Rel Eq (nameLine? text) (nameLine? longer) :=
  rel_bind (name_clause_trails (trimStart_trails trails)) fun _ _ same =>
    .some (congrArg Metadata.pass same)

theorem pass_trails (trails : Trails text longer) :
    Option.Rel Eq (passLine? text) (passLine? longer) :=
  rel_bind (folded_trails (every (by decide)) (trimStart_trails trails)) fun _ _ word =>
    rel_bind (after_trails (every (by decide)) (trimStart_trails word)) fun _ _ value => by
      rw [trim_trails value]
      exact rel_of_eq rfl

theorem subshader_trails (trails : Trails text longer) :
    Option.Rel Eq (subshaderPass? text) (subshaderPass? longer) :=
  rel_bind (numbered_trails (every (by decide)) (decoration_trails trails)) fun _ _ number =>
    rel_bind (pass_number_trails number true) fun _ _ behind => by
      rw [eq_of_rel (apostrophed_trails behind)]
      exact .some rfl

theorem local_trails (trails : Trails text longer) :
    Option.Rel Eq (localKeywords? text) (localKeywords? longer) :=
  rel_bind (folded_trails (every (by decide)) (decoration_trails trails)) fun _ _ word =>
    blanks_then (fun _ _ list => rel_bind (keyword_list_trails list) fun _ _ same =>
      .some (congrArg Metadata.localKeywords same)) rfl word

/-- The word `Global` is not the word that begins a list. -/
theorem keyword_list_global {rest : Text} (word : afterFolded? "global" text = some rest) :
    keywordList? text = none := by
  have missing : afterFolded? "keywords" text = none := by
    rw [Option.eq_none_iff_forall_ne_some]
    intro behind found
    have first := folded_first (c := 'k') (by decide) found
    rw [folded_first (c := 'g') (by decide) word] at first
    exact absurd (Option.some.inj first) (by decide)
  rw [keywordList?, missing]
  rfl

theorem global_keywords_eq (line : Text) : globalKeywords? line =
    (keywordList? (((afterFolded? "global" (dropDecoration line)).bind afterBlanks?).getD
      (dropDecoration line))).map Metadata.globalKeywords := by
  rw [globalKeywords?, Option.map_eq_bind]
  cases (afterFolded? "global" (dropDecoration line)).bind afterBlanks? <;> rfl

theorem global_trails (trails : Trails text longer) :
    Option.Rel Eq (globalKeywords? text) (globalKeywords? longer) := by
  rw [global_keywords_eq, global_keywords_eq]
  have content := decoration_trails trails
  have word : Option.Rel Trails (afterFolded? "global" (dropDecoration text))
      (afterFolded? "global" (dropDecoration longer)) := folded_trails (every (by decide)) content
  have whole := keyword_list_trails content
  apply rel_of_eq
  apply congrArg
  cases found : afterFolded? "global" (dropDecoration text) with
  | none =>
      rw [found] at word
      rw [none_of_rel word]
      exact eq_of_rel whole
  | some rest =>
      have nothing := keyword_list_global found
      rw [found] at word
      generalize afterFolded? "global" (dropDecoration longer) = right at word ⊢
      cases word with
      | some behind =>
          rw [Option.bind_some, Option.bind_some]
          rcases blanks_cases behind with same | ⟨missing, ended⟩
          · generalize afterBlanks? rest = left at same ⊢
            generalize afterBlanks? _ = right at same ⊢
            cases same with
            | none => exact eq_of_rel whole
            | some list => exact eq_of_rel (keyword_list_trails list)
          · rw [missing, ended]
            exact nothing

end Shapes

/-- Blanks behind a line change nothing of what it says. -/
theorem metadata_trails {text longer : Text} (trails : Trails text longer) :
    ofLine? longer = ofLine? text := by
  simp only [ofLine?, shapes, List.findSome?_cons, eq_of_rel (inline_trails trails),
    eq_of_rel (name_trails trails), eq_of_rel (pass_trails trails),
    eq_of_rel (subshader_trails trails), eq_of_rel (local_trails trails),
    eq_of_rel (global_trails trails), List.findSome?_nil]

theorem metadata_behind {front : Text} (blank : ∀ c ∈ front, isBlank c = true) (line : Text) :
    ofLine? (front ++ line) = ofLine? line := by
  have start : trimStart (front ++ line) = trimStart line := List.dropWhile_append_of_pos blank
  have decoration : dropDecoration (front ++ line) = dropDecoration line :=
    List.dropWhile_append_of_pos fun c member => by rw [blank_no_word (blank c member)]; rfl
  simp only [ofLine?, shapes, List.findSome?_cons, inlinePassName?, nameLine?, passLine?,
    subshaderPass?, localKeywords?, global_keywords_eq, start, decoration, List.findSome?_nil]

theorem metadata_between {front behind : Text} (before : Indent front) (after : Indent behind)
    (line : Text) : ofLine? (front ++ (line ++ behind)) = ofLine? line := by
  rw [metadata_behind fun c member => (before c member).1]
  exact metadata_trails ⟨behind, rfl, after⟩

/-- What a line says is said by what stands between the blanks at its ends. -/
theorem metadata_of_trim {line other : Text} (unbroken : Unbroken line) (still : Unbroken other)
    (same : trim other = trim line) : ofLine? other = ofLine? line := by
  have core : ∀ text, Unbroken text → ofLine? text = ofLine? (trim text) := by
    intro text whole
    obtain ⟨front, behind, spelled, before, after⟩ := trim_parts text
    have ends : ∀ gap, (∀ c ∈ gap, isBlank c = true) → (∀ c ∈ gap, c ∈ text) → Indent gap :=
      fun gap blank within c member => ⟨blank c member, whole c (within c member)⟩
    calc ofLine? text = ofLine? (front ++ (trim text ++ behind)) := by rw [← spelled]
      _ = ofLine? (trim text) := by
        apply metadata_between
        · apply ends front before
          intro c member
          rw [spelled]
          exact List.mem_append_left _ member
        · apply ends behind after
          intro c member
          rw [spelled]
          exact List.mem_append_right _ (List.mem_append_right _ member)
  rw [core other still, same, ← core line unbroken]

theorem observe_of_trim {line other : Text} (unbroken : Unbroken line) (still : Unbroken other)
    (same : trim other = trim line) (context : Context) :
    context.observe other = context.observe line := by
  rw [Context.observe, Context.observe, metadata_of_trim unbroken still same]

end ShaderCost.Dump
