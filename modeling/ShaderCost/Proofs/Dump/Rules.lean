import ShaderCost.Dump.Metadata
import ShaderCost.Proofs.Dump.Version
import ShaderCost.Proofs.Text.Letters

/-!
The shapes of metadata lines exclude each other. Nothing but decoration stands before the first word
of such a line, and its first letter, or what follows the word `pass`, tells the shape. It therefore
does not matter in which order shapes are tried, and a line changes no more of the metadata than the
one part that its shape is about.
-/

namespace ShaderCost.Dump

open Text Metadata

/-- The parts of the metadata in effect. -/
inductive Slot where
  | passName
  | globalKeywords
  | localKeywords
  deriving DecidableEq

def Context.get (context : Context) : Slot → Text
  | .passName => context.passName
  | .globalKeywords => context.globalKeywords
  | .localKeywords => context.localKeywords

/-- What a piece of metadata is about. -/
def Metadata.slot : Metadata → Slot
  | .pass _ | .samePass => .passName
  | .globalKeywords _ => .globalKeywords
  | .localKeywords _ => .localKeywords

theorem Context.apply_other {metadata : Metadata} {slot : Slot} (other : slot ≠ metadata.slot)
    (context : Context) : (context.apply metadata).get slot = context.get slot := by
  cases metadata <;> cases slot <;> first | rfl | exact absurd rfl other

/-- A shape of lines, what lines of this shape are about, and the character that tells them. -/
structure Rule where
  shape : Text → Option Metadata
  slot : Slot
  sign : Char

/-- The rules that are tried on a line, in this order. -/
def rules : List Rule :=
  [⟨inlinePassName?, .passName, '\x7b'⟩, ⟨nameLine?, .passName, 'n'⟩, ⟨passLine?, .passName, ':'⟩,
    ⟨subshaderPass?, .passName, 's'⟩, ⟨localKeywords?, .localKeywords, 'l'⟩,
    ⟨globalKeywords?, .globalKeywords, 'k'⟩]

/-- The context after a line on which rules are tried one after the other, and whether one of them
matches. -/
def observeBy : List Rule → Context → Text → Context × Bool
  | [], context, _ => (context, false)
  | rule :: others, context, line =>
      match rule.shape line with
      | some metadata => (context.apply metadata, true)
      | none => observeBy others context line

/-- The character that tells a line: the first letter of its first word, and for the word `pass`
what follows it. `Global` and `Keywords` begin lines of one shape. -/
def sign? (line : Text) : Option Char :=
  match (dropDecoration line).head?.map fold with
  | some 'p' => (afterFolded? "pass" (dropDecoration line)).bind fun behind =>
      (trimStart behind).head?
  | some 'g' => some 'k'
  | first => first

/-- A word at the start of a line, blanks aside, has no decoration before it. -/
theorem decoration_of_word {line phrase rest : Text}
    (starts : ((phrase.head?.map fold).any Char.isLower) = true)
    (found : afterFolded? phrase (trimStart line) = some rest) :
    dropDecoration line = trimStart line := by
  obtain ⟨c, first, lower⟩ := (Option.any_eq_true _ _).mp starts
  obtain ⟨d, head, same⟩ := Option.map_eq_some_iff.mp (folded_first first found)
  obtain ⟨behind, spelled⟩ := List.head?_eq_some_iff.mp head
  have word : isWord d = true := word_of_fold (by rw [same]; exact lower)
  have blanks : ∀ b ∈ line.takeWhile isBlank, (!isWord b) = true := by
    intro b member
    have blank : isBlank b = true := List.all_eq_true.mp List.all_takeWhile b member
    simp [blank_no_word blank]
  calc dropDecoration line
      = dropDecoration (line.takeWhile isBlank ++ trimStart line) := by
        rw [trimStart, List.takeWhile_append_dropWhile]
    _ = trimStart line := by
        rw [spelled, dropDecoration, List.dropWhile_append_of_pos blanks,
          List.dropWhile_cons_of_neg (by simp [word])]

theorem sign_of_pass {line behind : Text}
    (word : afterFolded? "pass" (dropDecoration line) = some behind) :
    sign? line = (trimStart behind).head? := by
  have first : (dropDecoration line).head?.map fold = some 'p' := folded_first (by decide) word
  rw [sign?, first, word]
  rfl

theorem sign_of_word {line phrase rest : Text} {c : Char}
    (first : phrase.head?.map fold = some c) (pass : c ≠ 'p') (global : c ≠ 'g')
    (word : afterFolded? phrase (dropDecoration line) = some rest) : sign? line = some c := by
  rw [sign?, folded_first first word]
  split
  · rename_i equal
    exact absurd (Option.some.inj equal) pass
  · rename_i equal
    exact absurd (Option.some.inj equal) global
  · rfl

theorem sign_of_global {line rest : Text}
    (word : afterFolded? "global" (dropDecoration line) = some rest) : sign? line = some 'k' := by
  have first : (dropDecoration line).head?.map fold = some 'g' := folded_first (by decide) word
  rw [sign?, first]
  rfl

theorem inline_told {line : Text} {metadata : Metadata}
    (found : inlinePassName? line = some metadata) :
    sign? line = some '\x7b' ∧ metadata.slot = .passName := by
  simp only [inlinePassName?, Option.bind_eq_bind, Option.bind_eq_some_iff] at found
  obtain ⟨afterWord, word, inside, brace, name, _, result⟩ := found
  obtain rfl := Option.some.inj result
  have same := decoration_of_word (by decide) word
  rw [← same] at word
  rw [sign_of_pass word, after_spelled brace]
  exact ⟨rfl, rfl⟩

theorem name_told {line : Text} {metadata : Metadata} (found : nameLine? line = some metadata) :
    sign? line = some 'n' ∧ metadata.slot = .passName := by
  simp only [nameLine?, nameClause?, Option.bind_eq_bind, Option.bind_eq_some_iff] at found
  obtain ⟨name, ⟨afterWord, word, _⟩, result⟩ := found
  obtain rfl := Option.some.inj result
  have same := decoration_of_word (by decide) word
  rw [← same] at word
  exact ⟨sign_of_word (by decide) (by decide) (by decide) word, rfl⟩

theorem pass_told {line : Text} {metadata : Metadata} (found : passLine? line = some metadata) :
    sign? line = some ':' ∧ metadata.slot = .passName := by
  simp only [passLine?, Option.bind_eq_bind, Option.bind_eq_some_iff] at found
  obtain ⟨afterWord, word, value, colon, result⟩ := found
  have same := decoration_of_word (by decide) word
  rw [← same] at word
  rw [sign_of_pass word, after_spelled colon]
  refine ⟨rfl, ?_⟩
  split at result
  · simp at result
  · obtain rfl := Option.some.inj result
    rfl

theorem subshader_told {line : Text} {metadata : Metadata}
    (found : subshaderPass? line = some metadata) :
    sign? line = some 's' ∧ metadata.slot = .passName := by
  simp only [subshaderPass?, afterNumbered?, Option.bind_eq_bind, Option.bind_eq_some_iff] at found
  obtain ⟨afterSubshader, ⟨afterWord, word, _⟩, behind, _, result⟩ := found
  refine ⟨sign_of_word (by decide) (by decide) (by decide) word, ?_⟩
  obtain rfl := Option.some.inj result
  split <;> rfl

theorem local_told {line : Text} {metadata : Metadata}
    (found : localKeywords? line = some metadata) :
    sign? line = some 'l' ∧ metadata.slot = .localKeywords := by
  simp only [localKeywords?, Option.bind_eq_bind, Option.bind_eq_some_iff] at found
  obtain ⟨afterLocal, word, list, _, keywords, _, result⟩ := found
  obtain rfl := Option.some.inj result
  exact ⟨sign_of_word (by decide) (by decide) (by decide) word, rfl⟩

theorem global_told {line : Text} {metadata : Metadata}
    (found : globalKeywords? line = some metadata) :
    sign? line = some 'k' ∧ metadata.slot = .globalKeywords := by
  simp only [globalKeywords?, Option.bind_eq_bind, Option.bind_eq_some_iff] at found
  obtain ⟨keywords, listed, result⟩ := found
  obtain rfl := Option.some.inj result
  refine ⟨?_, rfl⟩
  split at listed
  · rename_i list behind
    obtain ⟨afterGlobal, word, _⟩ := Option.bind_eq_some_iff.mp behind
    exact sign_of_global word
  · simp only [keywordList?, Option.bind_eq_bind, Option.bind_eq_some_iff] at listed
    obtain ⟨afterWord, word, _⟩ := listed
    exact sign_of_word (by decide) (by decide) (by decide) word

/-- A rule matches only lines with its own sign, and reads from them what it is about. -/
theorem rule_told {rule : Rule} (member : rule ∈ rules) {line : Text} {metadata : Metadata}
    (found : rule.shape line = some metadata) :
    sign? line = some rule.sign ∧ metadata.slot = rule.slot := by
  simp only [rules, List.mem_cons, List.not_mem_nil, or_false] at member
  rcases member with rfl | rfl | rfl | rfl | rfl | rfl
  · exact inline_told found
  · exact name_told found
  · exact pass_told found
  · exact subshader_told found
  · exact local_told found
  · exact global_told found

/-- Of two different rules at least one does not match a line. -/
def Exclusive (line : Text) (order : List Rule) : Prop :=
  order.Pairwise fun rule other => rule.shape line = none ∨ other.shape line = none

theorem rules_exclude (line : Text) : Exclusive line rules := by
  have apart : rules.Pairwise fun rule other => rule.sign ≠ other.sign := by
    have distinct : (rules.map Rule.sign).Nodup := by decide
    exact List.pairwise_map.mp distinct
  apply apart.imp_of_mem
  intro rule other first second differ
  cases found : rule.shape line with
  | none => exact .inl rfl
  | some metadata =>
      cases also : other.shape line with
      | none => exact .inr rfl
      | some otherMetadata =>
          have told := (rule_told first found).1
          rw [(rule_told second also).1, Option.some.injEq] at told
          exact absurd told.symm differ

theorem exclusive_perm {line : Text} {order others : List Rule} (same : order.Perm others)
    (exclusive : Exclusive line others) : Exclusive line order := by
  have symmetric : ∀ {rule other : Rule}, (rule.shape line = none ∨ other.shape line = none) →
      other.shape line = none ∨ rule.shape line = none := Or.symm
  exact (same.pairwise_iff symmetric).mpr exclusive

theorem observe_by_none {order : List Rule} {line : Text}
    (none : ∀ rule ∈ order, rule.shape line = none) (context : Context) :
    observeBy order context line = (context, false) := by
  induction order with
  | nil => rfl
  | cons rule others induction =>
      obtain ⟨here, later⟩ := List.forall_mem_cons.mp none
      rw [observeBy, here]
      exact induction later

/-- Where rules exclude each other the one that matches decides, wherever it is tried. -/
theorem observe_by_matching {order : List Rule} {line : Text} (exclusive : Exclusive line order)
    {rule : Rule} (member : rule ∈ order) {metadata : Metadata}
    (found : rule.shape line = some metadata) (context : Context) :
    observeBy order context line = (context.apply metadata, true) := by
  induction order with
  | nil => simp at member
  | cons first others induction =>
      obtain ⟨apart, later⟩ := List.pairwise_cons.mp exclusive
      rcases List.mem_cons.mp member with rfl | behind
      · rw [observeBy, found]
      · have skipped : first.shape line = none := by
          rcases apart rule behind with none | absent
          · exact none
          · rw [found] at absent
            simp at absent
        rw [observeBy, skipped]
        exact induction later behind

theorem observe_by_eq (order : List Rule) (context : Context) (line : Text) :
    observeBy order context line =
      match (order.map Rule.shape).findSome? fun shape => shape line with
      | some metadata => (context.apply metadata, true)
      | none => (context, false) := by
  induction order with
  | nil => rfl
  | cons rule others induction =>
      rw [observeBy, List.map_cons, List.findSome?_cons]
      cases rule.shape line with
      | none => exact induction
      | some metadata => rfl

theorem observe_by_rules (context : Context) (line : Text) :
    observeBy rules context line = (context.observe line, (ofLine? line).isSome) := by
  have shaped : rules.map Rule.shape = shapes := rfl
  rw [observe_by_eq, shaped, Context.observe, ← ofLine?]
  cases ofLine? line <;> rfl

/-- At most one of the rules matches a line. Trying them in any order gives the same context, and
the same answer to whether one matches; a rule that matches changes nothing but what it is about,
and without one everything stays. -/
theorem observing_ignores_rule_order (context : Context) (line : Text) :
    rules.map Rule.shape = shapes ∧
      (rules.Pairwise fun rule other => rule.shape line = none ∨ other.shape line = none) ∧
      (∀ order : List Rule, order.Perm rules →
        observeBy order context line = (context.observe line, (ofLine? line).isSome)) ∧
      (∀ rule ∈ rules, (rule.shape line).isSome = true → (ofLine? line).isSome = true ∧
        ∀ slot, slot ≠ rule.slot → (context.observe line).get slot = context.get slot) ∧
      ((ofLine? line).isSome = false ↔ ∀ rule ∈ rules, rule.shape line = none) ∧
      ((ofLine? line).isSome = false → context.observe line = context) := by
  have exclusive := rules_exclude line
  have inOrder := observe_by_rules context line
  have matching : ∀ rule ∈ rules, ∀ metadata, rule.shape line = some metadata →
      context.observe line = context.apply metadata ∧ (ofLine? line).isSome = true := by
    intro rule member metadata found
    rw [observe_by_matching exclusive member found] at inOrder
    obtain ⟨applied, matched⟩ := Prod.mk.inj inOrder
    exact ⟨applied.symm, matched.symm⟩
  have silent : (∀ rule ∈ rules, rule.shape line = none) →
      context.observe line = context ∧ (ofLine? line).isSome = false := by
    intro none
    rw [observe_by_none none] at inOrder
    obtain ⟨kept, unmatched⟩ := Prod.mk.inj inOrder
    exact ⟨kept.symm, unmatched.symm⟩
  have nothing : (ofLine? line).isSome = false ↔ ∀ rule ∈ rules, rule.shape line = none := by
    refine ⟨?_, fun none => (silent none).2⟩
    intro unmatched rule member
    rw [Option.eq_none_iff_forall_ne_some]
    intro metadata found
    rw [(matching rule member metadata found).2] at unmatched
    simp at unmatched
  refine ⟨rfl, exclusive, ?_, ?_, nothing, fun unmatched => (silent (nothing.mp unmatched)).1⟩
  · intro order same
    by_cases none : ∀ rule ∈ rules, rule.shape line = none
    · rw [observe_by_none fun rule member => none rule (same.mem_iff.mp member), (silent none).1,
        (silent none).2]
    · simp only [Classical.not_forall] at none
      obtain ⟨rule, member, found⟩ := none
      obtain ⟨metadata, found⟩ := Option.ne_none_iff_exists'.mp found
      rw [observe_by_matching (exclusive_perm same exclusive) (same.mem_iff.mpr member) found,
        (matching rule member metadata found).1, (matching rule member metadata found).2]
  · intro rule member some
    obtain ⟨metadata, found⟩ := Option.isSome_iff_exists.mp some
    refine ⟨(matching rule member metadata found).2, ?_⟩
    intro slot other
    rw [← (rule_told member found).2] at other
    rw [(matching rule member metadata found).1, context.apply_other other]

end ShaderCost.Dump
