import Mathlib.Data.List.Nodup
import ShaderCost.Proofs.Keys
import ShaderCost.Suggestion

/-!
Suggestions and their ranking. More registers, more properties and a smaller share of 16-bit
arithmetic add suggestions and take none away as long as the fragment stage has the same bottleneck.
Of the vertex stage the rules see no more than whether it is over the register budget and whether it
spills. No category is suggested twice, at most one unit is blamed, and spilling alone is critical.
Ranking puts what is more urgent first and otherwise keeps the order, which one list alone does.
-/

namespace ShaderCost

/-- Whether no register count and no yes-or-no figure is above that of another stage. -/
structure Metrics.AtMost (left right : Metrics) : Prop where
  workRegisters : left.workRegisters ≤ right.workRegisters
  uniformRegisters : left.uniformRegisters ≤ right.uniformRegisters
  stackSpilling : left.stackSpilling ≤ right.stackSpilling
  has : ∀ property, left.has property ≤ right.has property

theorem Binary64.lt_of_not_above {value other bound : Binary64} (number : value.isNaN = false)
    (atMost : other.lt value = false) (below : other.lt bound = true) : value.lt bound = true := by
  simp only [lt, Bool.and_eq_true, Bool.not_eq_true', decide_eq_true_eq] at below ⊢
  obtain ⟨⟨known, bounded⟩, order⟩ := below
  simp only [lt, known, number, Bool.not_false, Bool.true_and, decide_eq_false_iff_not] at atMost
  exact ⟨⟨number, bounded⟩, by omega⟩

namespace Rule

theorem applies_all : Rule.all.map applies =
    [overRegisterBudget, lowPrecisionShare, spills, boundBy "A", boundBy "T", boundBy "LS",
      lateDepth, hasSideEffects] := rfl

theorem forall_applies {holds : (Metrics → Metrics → Bool) → Prop} :
    (∀ rule ∈ Rule.all, holds rule.applies) ↔
      holds overRegisterBudget ∧ holds lowPrecisionShare ∧ holds spills ∧ holds (boundBy "A") ∧
        holds (boundBy "T") ∧ holds (boundBy "LS") ∧ holds lateDepth ∧ holds hasSideEffects := by
  rw [← List.forall_mem_map (P := holds) (f := applies), applies_all]
  simp only [List.forall_mem_cons, List.not_mem_nil, false_imp_iff, implies_true, and_true]

theorem applies_mono {vertex fragment vertex' fragment' : Metrics}
    (vertexMore : vertex.AtMost vertex') (fragmentMore : fragment.AtMost fragment')
    (unit : fragment.bottleneckUnit = fragment'.bottleneckUnit)
    (number : fragment'.sixteenBitArithmetic.isNaN = false)
    (share : fragment.sixteenBitArithmetic.lt fragment'.sixteenBitArithmetic = false) :
    ∀ rule ∈ Rule.all, rule.applies vertex fragment = true →
      rule.applies vertex' fragment' = true := by
  have bound (code : Text) (bound : boundBy code vertex fragment = true) :
      boundBy code vertex' fragment' = true := by
    rwa [boundBy, ← unit]
  rw [@forall_applies fun applies => applies vertex fragment = true →
    applies vertex' fragment' = true]
  refine ⟨?_, ?_, ?_, bound "A", bound "T", bound "LS", ?_, fragmentMore.has .sideEffects⟩
  · simp only [overRegisterBudget, Bool.or_eq_true, decide_eq_true_eq]
    exact Or.imp (Nat.lt_of_lt_of_le · vertexMore.workRegisters)
      (Nat.lt_of_lt_of_le · fragmentMore.workRegisters)
  · exact Binary64.lt_of_not_above number share
  · simp only [spills, Bool.or_eq_true]
    exact Or.imp vertexMore.stackSpilling fragmentMore.stackSpilling
  · simp only [lateDepth, Bool.or_eq_true]
    exact Or.imp (fragmentMore.has .lateDepthTest) (fragmentMore.has .lateDepthUpdate)

theorem applies_vertex {vertex vertex' : Metrics}
    (budget : registerBudget < vertex.workRegisters ↔ registerBudget < vertex'.workRegisters)
    (spilling : vertex.stackSpilling = vertex'.stackSpilling) (fragment : Metrics) :
    ∀ rule ∈ Rule.all, rule.applies vertex fragment = rule.applies vertex' fragment := by
  rw [@forall_applies fun applies => applies vertex fragment = applies vertex' fragment]
  refine ⟨?_, rfl, ?_, rfl, rfl, rfl, rfl, rfl⟩
  · simp only [overRegisterBudget, budget]
  · rw [spills, spills, spilling]

theorem categories_distinct : (Rule.all.map fun rule => rule.category).Nodup := by
  decide

/-- The units that a rule may blame, each with the category of its suggestion. -/
def blamed : List (Text × Text) :=
  [("A", "Arithmetic optimization"), ("T", "Texture optimization"),
    ("LS", "Memory-access optimization")]

theorem blamed_unit : ∀ rule ∈ Rule.all, rule.category ∈ blamed.map Prod.snd →
    ∃ unit, blamed.lookup unit = some rule.category ∧ rule.applies = boundBy unit := by
  simp only [Rule.all, List.forall_mem_cons]
  refine ⟨?_, ?_, ?_, fun _ => ⟨"A", by decide, rfl⟩, fun _ => ⟨"T", by decide, rfl⟩,
    fun _ => ⟨"LS", by decide, rfl⟩, ?_, ?_, List.forall_mem_nil _⟩
  all_goals
    intro member
    exact absurd member (by decide)

end Rule

namespace Suggestion

theorem for_metrics_filter (vertex fragment : Metrics) (keeps : Suggestion → Bool) :
    (forMetrics vertex fragment).filter keeps =
      ((Rule.all.filter fun rule => keeps rule.toSuggestion).filter fun rule =>
        rule.applies vertex fragment).map Rule.toSuggestion := by
  rw [forMetrics, List.filter_map, List.filter_comm]
  rfl

theorem for_metrics_sublist {vertex fragment vertex' fragment' : Metrics}
    (more : ∀ rule ∈ Rule.all, rule.applies vertex fragment = true →
      rule.applies vertex' fragment' = true) :
    (forMetrics vertex fragment).Sublist (forMetrics vertex' fragment') := by
  -- the rules that applied before are what is left when those that apply now are filtered again
  have kept : Rule.all.filter (fun rule => rule.applies vertex fragment) =
      (Rule.all.filter fun rule => rule.applies vertex' fragment').filter fun rule =>
        rule.applies vertex fragment := by
    rw [List.filter_filter]
    apply List.filter_congr
    intro rule member
    cases applied : rule.applies vertex fragment with
    | false => rfl
    | true => rw [more rule member applied, Bool.and_self]
  rw [forMetrics, forMetrics, kept]
  exact List.filter_sublist.map _

theorem for_metrics_categories (vertex fragment : Metrics) :
    ((forMetrics vertex fragment).map category).Nodup := by
  rw [forMetrics, List.map_map]
  exact Rule.categories_distinct.sublist (List.filter_sublist.map _)

/-- Whether a suggestion is one of those that blame the arithmetic, the texture or the load/store
unit. -/
def blames (suggestion : Suggestion) : Bool := suggestion.category ∈ Rule.blamed.map Prod.snd

/-- Suggestions that blame a unit have one category, that of the unit of the fragment stage. -/
theorem blamed_category {vertex fragment : Metrics} {suggestion : Suggestion}
    (suggested : suggestion ∈ forMetrics vertex fragment) (blaming : suggestion.blames = true) :
    Rule.blamed.lookup fragment.bottleneckUnit = some suggestion.category := by
  obtain ⟨rule, applied, rfl⟩ := List.mem_map.mp suggested
  obtain ⟨known, applies⟩ := List.mem_filter.mp applied
  obtain ⟨unit, category, condition⟩ := Rule.blamed_unit rule known (of_decide_eq_true blaming)
  rw [condition, Rule.boundBy, beq_iff_eq] at applies
  rw [applies, category]

theorem blamed_once (vertex fragment : Metrics) :
    ((forMetrics vertex fragment).filter blames).length ≤ 1 := by
  have inside : ((forMetrics vertex fragment).filter blames).Sublist
      (forMetrics vertex fragment) := List.filter_sublist
  have distinct := (for_metrics_categories vertex fragment).sublist (inside.map category)
  have same : ∀ suggestion ∈ (forMetrics vertex fragment).filter blames,
      Rule.blamed.lookup fragment.bottleneckUnit = some suggestion.category := fun _ member =>
    blamed_category (inside.mem member) (List.mem_filter.mp member).2
  generalize (forMetrics vertex fragment).filter blames = suggestions at distinct same ⊢
  match suggestions with
  | [] => exact Nat.zero_le 1
  | [_] => exact Nat.le_refl 1
  | first :: second :: others =>
      simp only [List.forall_mem_cons] at same
      have equal := Option.some.inj (same.1.symm.trans same.2.1)
      simp [equal] at distinct

theorem critical_spills (vertex fragment : Metrics) :
    ((forMetrics vertex fragment).filter fun suggestion => suggestion.priority = .critical).length =
      if vertex.stackSpilling || fragment.stackSpilling then 1 else 0 := by
  have critical : (Rule.all.filter fun rule => rule.priority = .critical).map Rule.applies =
    [Rule.spills] := rfl
  have counted (rules : List Rule) : (rules.filter fun rule => rule.applies vertex fragment).length =
      ((rules.map Rule.applies).filter fun applies => applies vertex fragment).length := by
    rw [List.filter_map, List.length_map]
    rfl
  rw [for_metrics_filter, List.length_map, counted, critical, List.filter_cons, Rule.spills]
  split <;> rfl

/-- What the suggestions depend on, and what they never hold twice. Figures that get no better keep
the suggestions there are, in their order, as long as the bottleneck of the fragment stage stays.
-/
theorem suggestions_follow_metrics :
    (∀ vertex fragment vertex' fragment' : Metrics, vertex.AtMost vertex' →
      fragment.AtMost fragment' → fragment.bottleneckUnit = fragment'.bottleneckUnit →
      fragment'.sixteenBitArithmetic.isNaN = false →
      fragment.sixteenBitArithmetic.lt fragment'.sixteenBitArithmetic = false →
        (forMetrics vertex fragment).Sublist (forMetrics vertex' fragment')) ∧
    (∀ vertex vertex' fragment : Metrics,
      (32 < vertex.workRegisters ↔ 32 < vertex'.workRegisters) →
      vertex.stackSpilling = vertex'.stackSpilling →
        forMetrics vertex fragment = forMetrics vertex' fragment) ∧
    ∀ vertex fragment : Metrics,
      ((forMetrics vertex fragment).map category).Nodup ∧
      ((forMetrics vertex fragment).filter blames).length ≤ 1 ∧
      ((forMetrics vertex fragment).filter fun suggestion =>
        suggestion.priority = .critical).length =
          if vertex.stackSpilling || fragment.stackSpilling then 1 else 0 := by
  refine ⟨?_, ?_, fun vertex fragment => ⟨for_metrics_categories vertex fragment,
    blamed_once vertex fragment, critical_spills vertex fragment⟩⟩
  · intro vertex fragment vertex' fragment' vertexMore fragmentMore unit number share
    exact for_metrics_sublist (Rule.applies_mono vertexMore fragmentMore unit number share)
  · intro vertex vertex' fragment budget spilling
    rw [forMetrics, forMetrics,
      List.filter_congr (Rule.applies_vertex budget spilling fragment)]

/-- A stage that samples textures, and one that spills on top of that. -/
def sampling : Metrics :=
  { workRegisters := 16, sixteenBitArithmetic := Binary64.ofNat 60, bottleneckUnit := "T" }

def spillingToo : Metrics :=
  { workRegisters := 40, sixteenBitArithmetic := Binary64.ofNat 40, bottleneckUnit := "T",
    stackSpilling := true }

theorem suggestions_follow_metrics_spilling :
    (forMetrics sampling sampling).Sublist (forMetrics spillingToo spillingToo) ∧
      forMetrics sampling sampling = forMetrics {} sampling ∧
      (forMetrics spillingToo spillingToo).map category =
        ["Register optimization".toList, "Precision optimization".toList,
          "Memory optimization".toList, "Texture optimization".toList] := by
  have more : sampling.AtMost spillingToo := by
    refine ⟨by decide, by decide, by decide, fun property => ?_⟩
    cases property <;> decide
  obtain ⟨monotone, hidden, _⟩ := suggestions_follow_metrics
  refine ⟨?_, hidden _ _ _ (by decide) (by decide), by decide +kernel⟩
  exact monotone _ _ _ _ more more (by decide) (by decide) (by decide)

end Suggestion

namespace Suggestion

theorem mem_rank {suggestion : Suggestion} {suggestions : List Suggestion} :
    suggestion ∈ rank suggestions ↔ suggestion ∈ suggestions := List.mem_mergeSort

theorem rank_eq_nil {suggestions : List Suggestion} : rank suggestions = [] ↔ suggestions = [] := by
  have same : (rank suggestions).length = suggestions.length :=
    (List.mergeSort_perm suggestions _).length_eq
  rw [← List.length_eq_zero_iff, same, List.length_eq_zero_iff]

/-- The suggestions of a list, none left out and none repeated, with the more urgent ones first and
those of one priority in the order of the list. -/
structure Ranked (suggestions ranked : List Suggestion) : Prop where
  same : ranked.Perm suggestions
  descending : ranked.Pairwise fun first second => second.priority.level ≤ first.priority.level
  stable : ∀ priority, ranked.filter (fun suggestion => suggestion.priority = priority) =
    suggestions.filter fun suggestion => suggestion.priority = priority

theorem Ranked.sorted {suggestions ranked : List Suggestion} (order : Ranked suggestions ranked) :
    SortedBy (fun first second : Priority => decide (second.level ≤ first.level)) priority ranked :=
  order.descending.imp decide_eq_true

end Suggestion

end ShaderCost
