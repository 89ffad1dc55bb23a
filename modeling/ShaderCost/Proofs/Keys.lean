/-!
Lists whose items have keys. What is found under a key does not depend on entries with other keys,
and where keys are distinct it does not depend on the order of the entries. Stable sorting puts items
in the order of their keys and keeps those of one key in the order in which they came, and no other
list does both.
-/

namespace ShaderCost

section Lookup

variable {Key Value : Type} [BEq Key] [LawfulBEq Key]

theorem lookup_filter (keeps : Key → Bool) {key : Key} (kept : keeps key = true)
    (entries : List (Key × Value)) :
    (entries.filter fun entry => keeps entry.1).lookup key = entries.lookup key := by
  induction entries with
  | nil => rfl
  | cons entry rest induction =>
      obtain ⟨other, value⟩ := entry
      rw [List.filter_cons]
      by_cases found : key = other
      · subst found
        rw [if_pos kept, List.lookup_cons_self, List.lookup_cons_self]
      · have skipped : (key == other) = false := by simpa using found
        split
        · rw [List.lookup_cons, List.lookup_cons, skipped, induction]
        · rw [List.lookup_cons, skipped, induction]

theorem lookup_filter_other {key wanted : Key} (apart : wanted ≠ key)
    (entries : List (Key × Value)) :
    (entries.filter fun entry => entry.1 != key).lookup wanted = entries.lookup wanted :=
  lookup_filter (· != key) (bne_iff_ne.mpr apart) entries

theorem lookup_absent {key : Key} {entries : List (Key × Value)}
    (absent : key ∉ entries.map Prod.fst) : entries.lookup key = none := by
  rw [List.lookup_eq_none_iff]
  intro entry member
  rw [bne_iff_ne]
  rintro rfl
  exact absent (List.mem_map_of_mem member)

theorem lookup_perm {left right : List (Key × Value)} (same : left.Perm right)
    (distinct : (left.map Prod.fst).Nodup) (key : Key) : left.lookup key = right.lookup key := by
  induction same with
  | nil => rfl
  | cons entry _ induction =>
      obtain ⟨other, value⟩ := entry
      rw [List.map_cons, List.nodup_cons] at distinct
      rw [List.lookup_cons, List.lookup_cons, induction distinct.2]
  | swap first second rest =>
      obtain ⟨firstKey, firstValue⟩ := first
      obtain ⟨secondKey, secondValue⟩ := second
      have apart : secondKey ≠ firstKey := by
        rw [List.map_cons, List.map_cons, List.nodup_cons, List.mem_cons, not_or] at distinct
        exact distinct.1.1
      by_cases found : key = secondKey
      · subst found
        have skipped : (key == firstKey) = false := by simpa using apart
        simp [List.lookup_cons, skipped]
      · have skipped : (key == secondKey) = false := by simpa using found
        simp [List.lookup_cons, skipped]
  | trans first _ firstInduction secondInduction =>
      rw [firstInduction distinct, secondInduction ((first.map Prod.fst).nodup_iff.mp distinct)]

end Lookup

section Sorting

/-- An order of keys in which any two can be compared and no two are tied. -/
structure KeyOrder {Key : Type} (le : Key → Key → Bool) : Prop where
  total : ∀ left right, (le left right || le right left) = true
  antisymm : ∀ {left right}, le left right = true → le right left = true → left = right
  trans : ∀ {first second third}, le first second = true → le second third = true →
    le first third = true

variable {Item Key : Type} {le : Key → Key → Bool} {key : Item → Key}

theorem KeyOrder.refl (order : KeyOrder le) (key : Key) : le key key = true := by
  simpa using order.total key key

/-- Whether items are in the order of their keys. -/
def SortedBy (le : Key → Key → Bool) (key : Item → Key) (items : List Item) : Prop :=
  items.Pairwise fun left right => le (key left) (key right) = true

theorem sort_sorted (order : KeyOrder le) (key : Item → Key) (items : List Item) :
    SortedBy le key (items.mergeSort fun left right => le (key left) (key right)) := by
  apply List.pairwise_mergeSort
  · intro first second third lower upper
    exact order.trans lower upper
  · intro left right
    exact order.total (key left) (key right)

variable [DecidableEq Key]

/-- Sorting keeps the items of one key in the order in which they came. -/
theorem sort_under (order : KeyOrder le) (key : Item → Key) (items : List Item) (wanted : Key) :
    (items.mergeSort fun left right => le (key left) (key right)).filter
        (fun item => key item = wanted) =
      items.filter fun item => key item = wanted := by
  have tied : SortedBy le key (items.filter fun item => key item = wanted) := by
    rw [SortedBy, List.pairwise_filter]
    apply List.pairwise_of_forall
    intro left right leftKey rightKey
    rw [of_decide_eq_true leftKey, of_decide_eq_true rightKey]
    exact order.refl wanted
  have inside : (items.filter fun item => key item = wanted).Sublist
      (items.mergeSort fun left right => le (key left) (key right)) := by
    apply List.sublist_mergeSort _ _ tied List.filter_sublist
    · intro first second third lower upper
      exact order.trans lower upper
    · intro left right
      exact order.total (key left) (key right)
  have kept := inside.filter fun item => key item = wanted
  rw [List.filter_filter] at kept
  simp only [Bool.and_self] at kept
  have lengths := ((List.mergeSort_perm items fun left right => le (key left) (key right)).filter
    fun item => key item = wanted).length_eq
  exact (kept.eq_of_length lengths.symm).symm

/-- A list in the order of the keys is determined by what it holds under each key. -/
theorem sorted_by_unique (order : KeyOrder le) {left right : List Item}
    (leftSorted : SortedBy le key left) (rightSorted : SortedBy le key right)
    (same : ∀ wanted, left.filter (fun item => key item = wanted) =
      right.filter fun item => key item = wanted) : left = right := by
  induction left generalizing right with
  | nil =>
      cases right with
      | nil => rfl
      | cons head right =>
          have empty := same (key head)
          simp at empty
  | cons first left induction =>
      cases right with
      | nil =>
          have empty := same (key first)
          simp at empty
      | cons head right =>
          have present : ∀ item, item ∈ first :: left ↔ item ∈ head :: right := by
            intro item
            have equal := same (key item)
            have member := congrArg (item ∈ ·) equal
            simpa [List.mem_filter] using member
          rw [SortedBy, List.pairwise_cons] at leftSorted rightSorted
          have lower : le (key first) (key head) = true := by
            rcases List.mem_cons.mp ((present head).mpr List.mem_cons_self) with rfl | later
            · exact order.refl _
            · exact leftSorted.1 head later
          have upper : le (key head) (key first) = true := by
            rcases List.mem_cons.mp ((present first).mp List.mem_cons_self) with rfl | later
            · exact order.refl _
            · exact rightSorted.1 first later
          have keys := order.antisymm lower upper
          have heads := same (key first)
          rw [List.filter_cons_of_pos (by simp), List.filter_cons_of_pos (by simp [keys]),
            List.cons.injEq] at heads
          obtain ⟨rfl, _⟩ := heads
          rw [induction leftSorted.2 rightSorted.2]
          intro wanted
          have equal := same wanted
          by_cases found : key first = wanted
          · rw [List.filter_cons_of_pos (by simpa), List.filter_cons_of_pos (by simpa)] at equal
            exact (List.cons.inj equal).2
          · rw [List.filter_cons_of_neg (by simpa), List.filter_cons_of_neg (by simpa)] at equal
            exact equal

end Sorting

end ShaderCost
