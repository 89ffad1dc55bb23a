import ShaderCost.Proofs.Dump.Scan
import ShaderCost.Proofs.Keys
import ShaderCost.Proofs.Text.Order

/-!
Variants by their keys. The variants of a dump under one key are its vertex and fragment sources
under that key, paired by position; no other key has a part in it. The keys of a map of buckets are
distinct and the variants are sorted by them, with the variants of one key kept in order, so that
all orders in which the map may give its entries lead to the same list.
-/

namespace ShaderCost.Dump

theorem nodup_eraseDups : (keys : List VariantKey) → keys.eraseDups.Nodup
  | [] => .nil
  | key :: keys => by
      rw [List.eraseDups_cons, List.nodup_cons]
      refine ⟨?_, nodup_eraseDups _⟩
      rw [List.mem_eraseDups, List.mem_filter]
      simp
termination_by keys => keys.length
decreasing_by
  have bound := List.length_filter_le (fun other => !other == key) keys
  rw [List.length_cons]
  omega

/-- Of blocks of variants, each under a key of its own, the one under a key is what has it. -/
theorem filter_blocks {keys : List VariantKey} (distinct : keys.Nodup)
    {block : VariantKey → List Variant}
    (own : ∀ key, ∀ variant ∈ block key, variant.key = key) {wanted : VariantKey}
    (complete : wanted ∉ keys → block wanted = []) :
    (keys.flatMap block).filter (fun variant => variant.key = wanted) = block wanted := by
  induction keys with
  | nil => simp [complete]
  | cons key keys induction =>
      rw [List.nodup_cons] at distinct
      rw [List.flatMap_cons, List.filter_append]
      by_cases same : key = wanted
      · subst same
        have whole : (block key).filter (fun variant => variant.key = key) = block key := by
          rw [List.filter_eq_self]
          intro variant member
          simpa using own key variant member
        have others : (keys.flatMap block).filter (fun variant => variant.key = key) = [] := by
          rw [List.filter_eq_nil_iff]
          intro variant member
          obtain ⟨other, present, inside⟩ := List.mem_flatMap.mp member
          rw [own other variant inside, decide_eq_true_eq]
          rintro rfl
          exact distinct.1 present
        rw [whole, others, List.append_nil]
      · have none : (block key).filter (fun variant => variant.key = wanted) = [] := by
          rw [List.filter_eq_nil_iff]
          intro variant member
          rw [own key variant member, decide_eq_true_eq]
          exact same
        rw [none, List.nil_append]
        apply induction distinct.2
        intro absent
        apply complete
        rw [List.mem_cons, not_or]
        exact ⟨fun equal => same equal.symm, absent⟩

theorem zip_under_key {key : VariantKey} {vertexSources fragmentSources : List Text}
    {variant : Variant}
    (member : variant ∈ List.zipWith (Variant.mk key) vertexSources fragmentSources) :
    variant.key = key := by
  induction vertexSources generalizing fragmentSources with
  | nil => simp at member
  | cons source vertexSources induction =>
      cases fragmentSources with
      | nil => simp at member
      | cons other fragmentSources =>
          rw [List.zipWith_cons_cons, List.mem_cons] at member
          rcases member with rfl | later
          · rfl
          · exact induction later

theorem sources_of_absent {found : List StageSection} {stage : Stage} {key : VariantKey}
    (absent : key ∉ found.map StageSection.key) : sourcesOf found stage key = [] := by
  rw [sourcesOf, List.map_eq_nil_iff, List.filter_eq_nil_iff]
  intro part member equal
  rw [Bool.and_eq_true, decide_eq_true_eq, decide_eq_true_eq] at equal
  exact absent (equal.2 ▸ List.mem_map_of_mem member)

/-- The variants of a dump under one key are the pairs of the sections under it. -/
theorem variants_under (text : Text) (key : VariantKey) :
    (variants text).filter (fun variant => variant.key = key) = pairUnder (sections text) key := by
  apply filter_blocks (nodup_eraseDups _)
  · intro key variant member
    exact zip_under_key member
  · intro absent
    rw [List.mem_eraseDups] at absent
    rw [pairUnder, sources_of_absent absent, List.zipWith_nil_left]

theorem run_initial_sources {text : Text} {events : List Event} {final : Scan}
    (run : Scan.Run (lines text) .initial events final) (stage : Stage) (key : VariantKey) :
    (final.bucketsOf stage).sourcesAt key = sourcesOf (sections text) stage key := by
  rw [Scan.run_sources run]
  cases stage <;> rfl

/-- The sections of a dump under a stage and key are those of its visited marker lines. -/
theorem sources_of_sections (text : Text) (stage : Stage) (key : VariantKey) :
    sourcesOf (sections text) stage key =
      sourcesBefore (lines text) stage key (lines text).length := by
  obtain ⟨events, final, run⟩ := Scan.run_exists (lines text) .initial
  obtain ⟨agrees, all, _⟩ := Scan.run_agrees (Scan.agrees_initial (lines text)) run
  rw [← run_initial_sources run, agrees.sources, all]

/-- The scan of a dump ends, goes over each line once, by itself or in one region, does at each
what the lines before it call for, and fills its buckets with the sections of the dump. The
variants under a key are the vertex and the fragment sources of the visited marker lines under
that key, paired by position. -/
theorem scan_pairs_sources_by_key (text : Text) (key : VariantKey) :
    ∃ events final, Scan.Run (lines text) .initial events final ∧
      final.cursor = (lines text).length ∧
      events = (List.range (lines text).length).filterMap (eventAt? (lines text)) ∧
      (∀ index, events.countP (Event.observes index) + events.countP (Event.captures index) =
        if index < (lines text).length then 1 else 0) ∧
      (∀ stage, (final.bucketsOf stage).sourcesAt key = sourcesOf (sections text) stage key) ∧
      (variants text).filter (fun variant => variant.key = key) =
        List.zipWith (Variant.mk key)
          (sourcesBefore (lines text) .vertex key (lines text).length)
          (sourcesBefore (lines text) .fragment key (lines text).length) ∧
      ((variants text).filter fun variant => variant.key = key).length =
        min (sourcesBefore (lines text) .vertex key (lines text).length).length
          (sourcesBefore (lines text) .fragment key (lines text).length).length := by
  obtain ⟨events, final, run⟩ := Scan.run_exists (lines text) .initial
  obtain ⟨_, all, trace⟩ := Scan.run_agrees (Scan.agrees_initial (lines text)) run
  have pairs : (variants text).filter (fun variant => variant.key = key) =
      List.zipWith (Variant.mk key)
        (sourcesBefore (lines text) .vertex key (lines text).length)
        (sourcesBefore (lines text) .fragment key (lines text).length) := by
    rw [variants_under, pairUnder, sources_of_sections, sources_of_sections]
  refine ⟨events, final, run, all, trace.symm, ?_, ?_, pairs, ?_⟩
  · intro index
    rw [Scan.run_covers run, all]
    simp [Scan.initial]
  · intro stage
    exact run_initial_sources run stage key
  · rw [pairs, List.length_zipWith]

namespace VariantKey

theorem le_total (left right : VariantKey) : (left.le right || right.le left) = true := by
  by_cases same : left.passName = right.passName
  · rw [le, le, if_pos same, if_pos same.symm]
    exact Text.at_most_total _ _
  · rw [le, le, if_neg same, if_neg (Ne.symm same)]
    exact Text.at_most_total _ _

theorem le_antisymm {left right : VariantKey} (lower : left.le right = true)
    (upper : right.le left = true) : left = right := by
  obtain ⟨leftPass, leftKeywords⟩ := left
  obtain ⟨rightPass, rightKeywords⟩ := right
  simp only [le] at lower upper
  by_cases same : leftPass = rightPass
  · subst same
    simp only [if_true] at lower upper
    rw [Text.at_most_antisymm lower upper]
  · rw [if_neg same] at lower
    rw [if_neg (Ne.symm same)] at upper
    exact absurd (Text.at_most_antisymm lower upper) same

theorem le_trans {first second third : VariantKey} (lower : first.le second = true)
    (upper : second.le third = true) : first.le third = true := by
  obtain ⟨firstPass, firstKeywords⟩ := first
  obtain ⟨secondPass, secondKeywords⟩ := second
  obtain ⟨thirdPass, thirdKeywords⟩ := third
  simp only [le] at lower upper ⊢
  by_cases before : firstPass = secondPass
  · subst before
    rw [if_pos rfl] at lower
    by_cases after : firstPass = thirdPass
    · rw [if_pos after] at upper ⊢
      exact Text.at_most_trans lower upper
    · rw [if_neg after] at upper ⊢
      exact upper
  · rw [if_neg before] at lower
    by_cases after : secondPass = thirdPass
    · subst after
      rw [if_neg before]
      exact lower
    · rw [if_neg after] at upper
      have apart : firstPass ≠ thirdPass := by
        rintro rfl
        exact before (Text.at_most_antisymm lower upper)
      rw [if_neg apart]
      exact Text.at_most_trans lower upper

theorem le_order : KeyOrder le := ⟨le_total, le_antisymm, le_trans⟩

/-- By the octets of the pass, then by those of the keywords. -/
def Precedes (left right : VariantKey) : Prop :=
  List.Lex (· < ·) (Text.octetNumbers left.passName) (Text.octetNumbers right.passName) ∨
    left.passName = right.passName ∧
      List.Lex (· < ·) (Text.octetNumbers left.keywords) (Text.octetNumbers right.keywords)

theorem precedes_iff (left right : VariantKey) : Precedes left right ↔ right.le left = false := by
  rw [← Bool.not_eq_true, le, Precedes]
  by_cases same : left.passName = right.passName
  · rw [if_pos same.symm, Text.at_most_iff_octets, Classical.not_not, same]
    simp [List.lex_irrefl Nat.lt_irrefl]
  · rw [if_neg (Ne.symm same), Text.at_most_iff_octets, Classical.not_not]
    simp [same]

end VariantKey

/-- Whether a list of variants is in the order of the keys. -/
def KeySorted (variants : List Variant) : Prop :=
  variants.Pairwise fun left right => left.key.le right.key = true

theorem select_all_sorted (candidates : List Variant) : KeySorted (select candidates true) :=
  sort_sorted VariantKey.le_order Variant.key candidates

theorem select_all_under (candidates : List Variant) (key : VariantKey) :
    (select candidates true).filter (fun variant => variant.key = key) =
      candidates.filter fun variant => variant.key = key :=
  sort_under VariantKey.le_order Variant.key candidates key

theorem select_unique {left right : List Variant}
    (same : ∀ key, left.filter (fun variant => variant.key = key) =
      right.filter fun variant => variant.key = key) (includeAll : Bool) :
    select left includeAll = select right includeAll := by
  have sorted : select left true = select right true := by
    apply sorted_by_unique VariantKey.le_order (select_all_sorted left) (select_all_sorted right)
    intro key
    rw [select_all_under, select_all_under, same]
  cases includeAll with
  | true => exact sorted
  | false => exact congrArg (List.take 1) sorted

/-- Goes through the entries of the vertex sources, takes the fragment sources of the same key out
of theirs, and pairs both by position; an entry whose key has no fragment sources is left out. -/
def pairEntries : (vertex fragment : List (VariantKey × List Text)) → List Variant
  | [], _ => []
  | (key, vertexSources) :: rest, fragment =>
      match fragment.lookup key with
      | none => pairEntries rest fragment
      | some fragmentSources =>
          List.zipWith (Variant.mk key) vertexSources fragmentSources ++
            pairEntries rest (fragment.filter fun entry => entry.1 != key)

/-- Whatever the order of the entries, the variants under a key are the pairs of its sources. -/
theorem pair_entries_under {vertex : List (VariantKey × List Text)}
    (distinct : (vertex.map Prod.fst).Nodup) (fragment : List (VariantKey × List Text))
    (key : VariantKey) :
    (pairEntries vertex fragment).filter (fun variant => variant.key = key) =
      List.zipWith (Variant.mk key) ((vertex.lookup key).getD [])
        ((fragment.lookup key).getD []) := by
  induction vertex generalizing fragment with
  | nil => rfl
  | cons entry rest induction =>
      obtain ⟨other, vertexSources⟩ := entry
      rw [List.map_cons, List.nodup_cons] at distinct
      by_cases found : key = other
      · subst found
        have later : rest.lookup key = none := by
          rw [List.lookup_eq_none_iff]
          intro entry member
          rw [bne_iff_ne]
          rintro rfl
          exact distinct.1 (List.mem_map.mpr ⟨entry, member, rfl⟩)
        rw [List.lookup_cons_self, pairEntries]
        split
        · rename_i absent
          rw [induction distinct.2, later, absent]
          simp
        · rename_i fragmentSources present
          rw [List.filter_append, induction distinct.2, later, present]
          simp only [Option.getD_some, Option.getD_none, List.zipWith_nil_left, List.append_nil]
          rw [List.filter_eq_self]
          intro variant member
          simpa using zip_under_key member
      · have skipped : (key == other) = false := by simpa using found
        rw [List.lookup_cons, skipped, pairEntries]
        split
        · exact induction distinct.2 fragment
        · rename_i fragmentSources present
          rw [List.filter_append, induction distinct.2, lookup_filter_other found]
          have none : (List.zipWith (Variant.mk other) vertexSources fragmentSources).filter
              (fun variant => variant.key = key) = [] := by
            rw [List.filter_eq_nil_iff]
            intro variant member
            rw [zip_under_key member, decide_eq_true_eq]
            exact fun equal => found equal.symm
          rw [none, List.nil_append]

/-- The keys under which a dump has variants, in ascending order. -/
def selectedKeys (text : Text) : List VariantKey :=
  (((sections text).map StageSection.key).eraseDups.filter fun key =>
    !(pairUnder (sections text) key).isEmpty).mergeSort VariantKey.le

theorem mem_selected_keys {text : Text} {key : VariantKey} :
    key ∈ selectedKeys text ↔ pairUnder (sections text) key ≠ [] := by
  simp only [selectedKeys, List.mem_mergeSort, List.mem_filter, List.mem_eraseDups,
    Bool.not_eq_true', List.isEmpty_eq_false_iff]
  constructor
  · exact fun both => both.2
  · intro present
    refine ⟨?_, present⟩
    apply Classical.byContradiction
    intro absent
    apply present
    rw [pairUnder, sources_of_absent absent, List.zipWith_nil_left]

theorem nodup_selected_keys (text : Text) : (selectedKeys text).Nodup := by
  rw [selectedKeys, (List.mergeSort_perm _ _).nodup_iff]
  exact (nodup_eraseDups _).filter _

theorem selected_keys_sorted (text : Text) :
    (selectedKeys text).Pairwise fun left right => left.le right = true := by
  apply List.pairwise_mergeSort
  · intro first second third lower upper
    exact VariantKey.le_trans lower upper
  · exact VariantKey.le_total

theorem selected_keys_ascend (text : Text) : (selectedKeys text).Pairwise VariantKey.Precedes := by
  apply List.Pairwise.imp₂ _ (selected_keys_sorted text) (nodup_selected_keys text)
  intro left right order apart
  rw [VariantKey.precedes_iff, ← Bool.not_eq_true]
  exact fun reverse => apart (VariantKey.le_antisymm order reverse)

/-- All variants of a dump in the order of their keys are those of each key in turn. -/
theorem select_all_blocks (text : Text) :
    select (variants text) true = (selectedKeys text).flatMap (pairUnder (sections text)) := by
  apply sorted_by_unique VariantKey.le_order (select_all_sorted _)
  · rw [SortedBy, List.pairwise_flatMap]
    constructor
    · intro key _
      apply List.pairwise_of_forall_mem_list
      intro left leftMember right rightMember
      rw [zip_under_key leftMember, zip_under_key rightMember]
      exact VariantKey.le_order.refl key
    · apply (selected_keys_sorted text).imp
      intro first second order left leftMember right rightMember
      rw [zip_under_key leftMember, zip_under_key rightMember]
      exact order
  · intro key
    rw [select_all_under, variants_under, filter_blocks (nodup_selected_keys text)]
    · intro key variant member
      exact zip_under_key member
    · intro absent
      rw [mem_selected_keys, ne_eq, Classical.not_not] at absent
      exact absent

/-- Buckets that a scan fills give the variants of the dump under each key, in whatever order
their entries come. -/
theorem pair_entries_variants {text : Text} {events : List Event} {final : Scan}
    (run : Scan.Run (lines text) .initial events final)
    {vertex fragment : List (VariantKey × List Text)} (vertexOrder : vertex.Perm final.vertex.entries)
    (fragmentOrder : fragment.Perm final.fragment.entries) (key : VariantKey) :
    (pairEntries vertex fragment).filter (fun variant => variant.key = key) =
      (variants text).filter fun variant => variant.key = key := by
  have vertexDistinct : (vertex.map Prod.fst).Nodup :=
    (vertexOrder.map Prod.fst).nodup_iff.mpr final.vertex.distinct
  have fragmentDistinct : (fragment.map Prod.fst).Nodup :=
    (fragmentOrder.map Prod.fst).nodup_iff.mpr final.fragment.distinct
  rw [pair_entries_under vertexDistinct, lookup_perm vertexOrder vertexDistinct,
    lookup_perm fragmentOrder fragmentDistinct, variants_under, pairUnder,
    ← run_initial_sources run .vertex key, ← run_initial_sources run .fragment key]
  rfl

/-- Whatever the order in which the filled buckets give their entries, the selection is the same.
It goes through the keys in ascending order of their octets, and through the variants of each key
in the order of the dump. -/
theorem selection_ignores_entry_order {text : Text} {events : List Event} {final : Scan}
    (run : Scan.Run (lines text) .initial events final)
    {vertex otherVertex fragment otherFragment : List (VariantKey × List Text)}
    (vertexOrder : vertex.Perm final.vertex.entries)
    (otherVertexOrder : otherVertex.Perm final.vertex.entries)
    (fragmentOrder : fragment.Perm final.fragment.entries)
    (otherFragmentOrder : otherFragment.Perm final.fragment.entries) (includeAll : Bool) :
    select (pairEntries vertex fragment) includeAll =
        select (pairEntries otherVertex otherFragment) includeAll ∧
      select (pairEntries vertex fragment) includeAll = select (variants text) includeAll ∧
      (selectedKeys text).Pairwise VariantKey.Precedes ∧
      (∀ key, key ∈ selectedKeys text ↔ pairUnder (sections text) key ≠ []) ∧
      select (pairEntries vertex fragment) includeAll =
        let all := (selectedKeys text).flatMap (pairUnder (sections text))
        if includeAll then all else all.take 1 := by
  have here := select_unique (pair_entries_variants run vertexOrder fragmentOrder) includeAll
  have there :=
    select_unique (pair_entries_variants run otherVertexOrder otherFragmentOrder) includeAll
  refine ⟨here.trans there.symm, here, selected_keys_ascend text, fun key => mem_selected_keys, ?_⟩
  rw [here, ← select_all_blocks]
  cases includeAll <;> rfl

/-- Two passes with a variant each. -/
def twoPasses : Text :=
  "Pass: A\n#ifdef VERTEX\nv\n#endif\n#ifdef FRAGMENT\nf\n#endif\n" ++
    "Pass: B\n#ifdef VERTEX\nw\n#endif\n#ifdef FRAGMENT\ng\n#endif"

theorem variants_two_passes :
    variants twoPasses = [⟨⟨"A", ""⟩, "v", "f"⟩, ⟨⟨"B", ""⟩, "w", "g"⟩] := by
  decide +kernel

theorem selection_ignores_entry_order_two_passes :
    ∃ events final, Scan.Run (lines twoPasses) .initial events final ∧
      select (pairEntries final.vertex.entries.reverse final.fragment.entries) true =
        select (pairEntries final.vertex.entries final.fragment.entries) true ∧
      select (pairEntries final.vertex.entries.reverse final.fragment.entries) true =
        [⟨⟨"A", ""⟩, "v", "f"⟩, ⟨⟨"B", ""⟩, "w", "g"⟩] := by
  obtain ⟨events, final, run⟩ := Scan.run_exists (lines twoPasses) .initial
  have same := selection_ignores_entry_order run (List.reverse_perm _) (.refl _) (.refl _)
    (.refl _) true
  refine ⟨events, final, run, same.1, ?_⟩
  rw [same.2.1, variants_two_passes]
  apply List.mergeSort_of_pairwise
  decide +kernel
end ShaderCost.Dump
